import Mathlib.Data.String.Basic
import Stencil.Proofs.Document.Search
import Stencil.Proofs.MarkerId.Spelling
import Stencil.Proofs.Text.Ascending

/-!
# The printed form of identifiers

The printed form is the hexadecimal numeral of the value, filled up with zeros to 32 digits
(`toList_toText_eq_leftpad`). All printed forms are of one length, so they compare as texts in the
way the values compare as numbers (`compare_toText`), and different identifiers print differently.
A search that compares marker attributes with a printed form therefore finds markers of that one
identifier only (`Document.isMarkerOf_iff_of_findMarker?`).
-/

namespace Stencil

namespace MarkerId

open Json (hexDigit)

/-! ## Numerals of fixed width -/

theorem hexDigit_mod (n : Nat) : hexDigit (n % 16) = Nat.digitChar (n % 16) := by
  have hall : ∀ m < 16, hexDigit m = Nat.digitChar m := by decide
  exact hall _ (Nat.mod_lt _ (by decide))

theorem leftpad_concat {α : Type} (count : Nat) (x y : α) (xs : List α) :
    (xs ++ [y]).leftpad (count + 1) x = xs.leftpad count x ++ [y] := by
  rw [List.leftpad, List.leftpad, List.length_append, List.length_singleton,
    Nat.add_sub_add_right, List.append_assoc]

/-- Digits of a fixed number are the numeral with zeros in front. -/
theorem hexDigits_eq_leftpad {count n : Nat} (h : n < 16 ^ (count + 1)) :
    hexDigits (count + 1) n = (Nat.toDigits 16 n).leftpad (count + 1) '0' := by
  induction count generalizing n with
  | zero =>
    have hn : n < 16 := h
    rw [hexDigits, hexDigits, hexDigit_mod, Nat.mod_eq_of_lt hn, Nat.toDigits_of_lt_base hn]
    rfl
  | succ count ih =>
    have hfront : n / 16 < 16 ^ (count + 1) := by rw [Nat.pow_succ] at h; omega
    rw [hexDigits, ih hfront, hexDigit_mod, ← leftpad_concat]
    by_cases hn : n < 16
    · -- The numeral in front is that of zero, which is one of the zeros.
      rw [Nat.div_eq_of_lt hn, Nat.mod_eq_of_lt hn, Nat.toDigits_of_lt_base hn,
        Nat.toDigits_zero, List.leftpad, List.leftpad]
      simp [List.replicate_succ']
    · rw [← Nat.toDigits_of_base_le (by decide) (Nat.le_of_not_lt hn)]

/-- The numeral of a value, filled up with zeros in front. -/
theorem toList_toText_eq_leftpad (id : MarkerId) :
    id.toText.toList = (Nat.toDigits 16 id.value).leftpad 32 '0' := by
  rw [toList_toText, digits, hexDigits_eq_leftpad id.value_lt_pow]

/-! ## Order -/

theorem hexDigit_lt_iff {m n : Nat} (hm : m < 16) (hn : n < 16) :
    hexDigit m < hexDigit n ↔ m < n := by
  have hall : ∀ m < 16, ∀ n < 16, hexDigit m < hexDigit n ↔ m < n := by decide
  exact hall m hm n hn

/-- Of texts of one length, what stands last decides only if all before it is the same. -/
theorem concat_lt_concat_iff {xs ys : List Char} (h : xs.length = ys.length) {c d : Char} :
    xs ++ [c] < ys ++ [d] ↔ xs < ys ∨ xs = ys ∧ c < d := by
  induction xs generalizing ys with
  | nil =>
    obtain rfl := List.length_eq_zero_iff.1 h.symm
    simp [List.cons_lt_cons_iff]
  | cons x xs ih =>
    obtain ⟨y, ys, rfl⟩ := List.exists_cons_of_length_eq_add_one h.symm
    rw [List.cons_append, List.cons_append, List.cons_lt_cons_iff, List.cons_lt_cons_iff,
      ih (Nat.succ.inj h), List.cons.injEq]
    tauto

theorem hexDigits_inj {count m n : Nat} (hm : m < 16 ^ count) (hn : n < 16 ^ count) :
    hexDigits count m = hexDigits count n ↔ m = n := by
  refine ⟨fun h => ?_, congrArg _⟩
  have hread := readHex?_hexDigits hm
  rw [h, readHex?_hexDigits hn] at hread
  exact (Option.some.inj hread).symm

/-- Digits in front count more than all digits behind them. -/
theorem hexDigits_lt_iff {count m n : Nat} (hm : m < 16 ^ count) (hn : n < 16 ^ count) :
    hexDigits count m < hexDigits count n ↔ m < n := by
  induction count generalizing m n with
  | zero =>
    rw [Nat.lt_one_iff.1 hm, Nat.lt_one_iff.1 hn]
    simp [hexDigits]
  | succ count ih =>
    have hm' : m / 16 < 16 ^ count := by rw [Nat.pow_succ] at hm; omega
    have hn' : n / 16 < 16 ^ count := by rw [Nat.pow_succ] at hn; omega
    have hlength : (hexDigits count (m / 16)).length = (hexDigits count (n / 16)).length := by
      rw [length_hexDigits, length_hexDigits]
    rw [hexDigits, hexDigits, concat_lt_concat_iff hlength, ih hm' hn', hexDigits_inj hm' hn',
      hexDigit_lt_iff (Nat.mod_lt _ (by decide)) (Nat.mod_lt _ (by decide))]
    omega

theorem toText_lt_iff {a b : MarkerId} : a.toText < b.toText ↔ a.value < b.value := by
  rw [String.lt_iff_toList_lt, toList_toText, toList_toText]
  exact hexDigits_lt_iff a.value_lt_pow b.value_lt_pow

theorem value_inj {a b : MarkerId} : a.value = b.value ↔ a = b := by
  cases a
  cases b
  simp

/-- Identifiers are in the order of their printed forms. -/
theorem compare_toText (a b : MarkerId) :
    compare a.toText b.toText = compare a.value b.value := by
  rcases lt_trichotomy a.value b.value with hlt | heq | hgt
  · rw [compare_lt_iff_lt.2 hlt, compare_lt_iff_lt.2 (toText_lt_iff.2 hlt)]
  · rw [compare_eq_iff_eq.2 heq, compare_eq_iff_eq.2 (toText_inj.2 (value_inj.1 heq))]
  · rw [compare_gt_iff_gt.2 hgt, compare_gt_iff_gt.2 (toText_lt_iff.2 hgt)]

theorem toText_le_iff {a b : MarkerId} : a.toText ≤ b.toText ↔ a.value ≤ b.value :=
  not_lt.symm.trans ((not_congr toText_lt_iff).trans not_lt)

/-- Identifiers in ascending order print as texts in ascending order. -/
theorem map_toText_ascending (ids : List MarkerId) :
    (ascending ids).map toText = Stencil.ascending (ids.map toText) := by
  have hequal : ∀ a b : MarkerId, (a.toText == b.toText) = (a == b) := fun a b => by
    rw [Bool.eq_iff_iff, beq_iff_eq, beq_iff_eq, toText_inj]
  have horder : ∀ a b : MarkerId,
      decide (a.value ≤ b.value) = decide (a.toText ≤ b.toText) := fun _ _ =>
    decide_eq_decide.2 toText_le_iff.symm
  calc (ascending ids).map toText
      = ((ids.mergeSort fun a b => a.value ≤ b.value).map toText).eraseReps :=
        map_eraseReps hequal _
    _ = Stencil.ascending (ids.map toText) :=
        congrArg List.eraseReps (List.map_mergeSort fun a _ b _ => horder a b)

end MarkerId

/-! ## Searching for markers -/

namespace Document

/-- Whether the node at a position is a marker whose attribute is the printed form of an
identifier. -/
def IsMarkerOf (d : Document) (q : Path) (id : MarkerId) : Prop :=
  ∃ tag children, d.node? q = some (.element tag (some id.toText) children)

/-- A node is the marker of at most one identifier. -/
theorem IsMarkerOf.eq {d : Document} {q : Path} {a b : MarkerId} (ha : d.IsMarkerOf q a)
    (hb : d.IsMarkerOf q b) : a = b := by
  obtain ⟨tag, children, ha⟩ := ha
  obtain ⟨tag', children', hb⟩ := hb
  rw [ha, Option.some.injEq, Node.element.injEq, Option.some.injEq] at hb
  exact MarkerId.toText_inj.1 hb.2.1

/-- The marker that is found for an identifier is that of no other. -/
theorem isMarkerOf_iff_of_findMarker? {d : Document} {id : MarkerId} {q : Path}
    (h : d.findMarker? id = some q) (other : MarkerId) : d.IsMarkerOf q other ↔ other = id := by
  have hfound : d.IsMarkerOf q id := node?_of_findMarker? h
  constructor
  · intro hother
    exact hother.eq hfound
  · rintro rfl
    exact hfound

theorem findMarker?_eq_none_iff_isMarkerOf {d : Document} {id : MarkerId} :
    d.findMarker? id = none ↔ ∀ q, ¬ d.IsMarkerOf q id := by
  simp only [findMarker?_eq_none_iff, IsMarkerOf, not_exists]

end Document

namespace MarkerId

/-- **Identifiers have one printed form.** Every number of 128 bits is an identifier that prints as
its hexadecimal numeral, filled up with zeros to 32 digits, and is read back from it. A text is read
as an identifier exactly if it lays out the digits of the printed form, in any case, in one of the
four ways, and every text that does not lay out 32 hexadecimal digits is refused. Printed forms
differ if the values do and compare as they do, so that sorting identifiers sorts their printed
forms. The search for a marker, which compares texts, finds the marker of the identifier it looks
for and of no other, and it finds none only where there is none. -/
theorem identifiers_have_one_printed_form :
    (∀ v : Nat, v < 2 ^ 128 → ∃ id, ofNat? v = some id ∧ id.value = v ∧
      id.toText.toList = (Nat.toDigits 16 v).leftpad 32 '0' ∧ parse? id.toText = some id) ∧
    (∀ (s : String) (id : MarkerId), parse? s = some id ↔ Spells s id) ∧
    (∀ s : String, (parse? s).isSome = true ↔ ∃ ds : List Char,
      ds.length = 32 ∧ (∀ c ∈ ds, Json.IsHexDigit c) ∧ Layout ds s.toList) ∧
    (∀ a b : MarkerId, (a.toText = b.toText ↔ a.value = b.value) ∧
      compare a.toText b.toText = compare a.value b.value) ∧
    (∀ ids : List MarkerId, (ascending ids).map toText = Stencil.ascending (ids.map toText)) ∧
    ∀ (d : Document) (id : MarkerId),
      (∀ q, d.findMarker? id = some q → ∀ other, d.IsMarkerOf q other ↔ other = id) ∧
      (d.findMarker? id = none ↔ ∀ q, ¬ d.IsMarkerOf q id) := by
  refine ⟨fun v hv => ?_, fun _ _ => parse?_eq_some_iff, fun _ => isSome_parse?_iff,
    fun a b => ⟨toText_inj.trans value_inj.symm, compare_toText a b⟩, map_toText_ascending,
    fun d id => ⟨?_, ?_⟩⟩
  · have hid : ofNat? v = some ⟨v, hv⟩ := dif_pos hv
    exact ⟨⟨v, hv⟩, hid, rfl, toList_toText_eq_leftpad _, parse?_toText _⟩
  · exact fun q hq => Document.isMarkerOf_iff_of_findMarker? hq
  · exact Document.findMarker?_eq_none_iff_isMarkerOf

/-- A spelling in braces and in both cases is read as the identifier. An attribute with the same
digits in upper case is no printed form, so the marker in it is the one that is found. -/
theorem identifiers_have_one_printed_form_braced :
    let v := 0xabc
    let id := MarkerId.ofNat v
    let d : Document := ⟨[.element "p" (some "00000000000000000000000000000ABC")
      [.element "b" (some id.toText) []]]⟩
    v < 2 ^ 128 ∧ (∃ id', ofNat? v = some id' ∧ id'.value = v ∧
      id'.toText.toList = (Nat.toDigits 16 v).leftpad 32 '0' ∧ parse? id'.toText = some id') ∧
    Spells "\x7b00000000-0000-0000-0000-000000000AbC\x7d" id ∧
    d.findMarker? id = some [0, 0] ∧ ∀ other, d.IsMarkerOf [0, 0] other ↔ other = id := by
  intro v id d
  obtain ⟨hvalues, hspellings, -, -, -, hsearch⟩ := identifiers_have_one_printed_form
  have hv : v < 2 ^ 128 := by decide
  have hparse : parse? "\x7b00000000-0000-0000-0000-000000000AbC\x7d" = some id := by
    decide +kernel
  have hfound : d.findMarker? id = some [0, 0] := by decide +kernel
  exact ⟨hv, hvalues v hv, (hspellings _ _).1 hparse, hfound, (hsearch d id).1 _ hfound⟩

end MarkerId

end Stencil
