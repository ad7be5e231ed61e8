import Mathlib.Algebra.Group.Nat.Defs
import Mathlib.Data.List.Induction
import Stencil.MarkerId
import Stencil.Proofs.Json.Reading

/-!
# The spellings of identifiers

An identifier is spelled by 32 hexadecimal digits in either case, laid out in one of four ways
(`Layout`). Reading digits undoes printing them, whatever their case (`readHex?_eq_some_iff`), and a
layout is told from the others by its length and its first character, so that its digits are found
again (`spelledDigits?_of_layout`). Hence a text is read as an identifier exactly if it spells that
identifier (`parse?_eq_some_iff`), and it is read as one at all exactly if it lays out 32 digits
(`isSome_parse?_iff`).
-/

namespace Stencil

/-! ## Hexadecimal digits -/

namespace Json

/-- A hexadecimal digit in either case. -/
def IsHexDigit (c : Char) : Prop := c ∈ "0123456789abcdefABCDEF".toList

instance : DecidablePred IsHexDigit := fun _ => inferInstanceAs (Decidable (_ ∈ _))

/-- What is checked of the digits one by one holds of a digit. -/
theorem IsHexDigit.of_all {c : Char} (h : IsHexDigit c) (p : Char → Bool)
    (hall : "0123456789abcdefABCDEF".toList.all p = true) : p c = true :=
  List.all_eq_true.1 hall c h

theorem hexDigit_of_isHexDigit {c : Char} (h : IsHexDigit c) :
    ∃ v < 16, hexValue? c = some v ∧ hexDigit v = c.toLower := by
  have hany := h.of_all (fun c => (hexValue? c).any fun v => v < 16 && hexDigit v == c.toLower)
    (by decide)
  obtain ⟨v, hvalue, hdigit⟩ := (Option.any_eq_true _ _).1 hany
  rw [Bool.and_eq_true, decide_eq_true_iff, beq_iff_eq] at hdigit
  exact ⟨v, hdigit.1, hvalue, hdigit.2⟩

/-- Only the digits have a value. -/
theorem isHexDigit_of_hexValue? {c : Char} {v : Nat} (h : hexValue? c = some v) :
    IsHexDigit c := by
  have hall : ∀ n < 103, (hexValue? (Char.ofNat n)).isSome → IsHexDigit (Char.ofNat n) := by decide
  have hlt : c.toNat < 103 := by
    by_contra hge
    simp only [hexValue?] at h
    split_ifs at h
    all_goals omega
  have hc := hall c.toNat hlt
  rw [Char.ofNat_toNat] at hc
  exact hc (Option.isSome_of_eq_some h)

/-- What is a digit in lower case is one. -/
theorem isHexDigit_of_toLower {c : Char} (h : IsHexDigit c.toLower) : IsHexDigit c := by
  have hall : ∀ n < 91, IsHexDigit (Char.ofNat n).toLower → IsHexDigit (Char.ofNat n) := by decide
  by_cases hupper : c.val ≥ 'A'.val ∧ c.val ≤ 'Z'.val
  · have hlt : c.toNat < 91 := Nat.lt_succ_of_le (UInt32.le_iff_toNat_le.1 hupper.2)
    have hc := hall c.toNat hlt
    rw [Char.ofNat_toNat] at hc
    exact hc h
  · have hsame : c.toLower = c := dif_neg hupper
    rwa [hsame] at h

theorem hexValue?_eq_some_iff {c : Char} {v : Nat} :
    hexValue? c = some v ↔ v < 16 ∧ hexDigit v = c.toLower := by
  constructor
  · intro h
    obtain ⟨w, hw, hvalue, hdigit⟩ := hexDigit_of_isHexDigit (isHexDigit_of_hexValue? h)
    rw [h] at hvalue
    cases hvalue
    exact ⟨hw, hdigit⟩
  · rintro ⟨hv, hdigit⟩
    have hlower : ∀ v < 16, IsHexDigit (hexDigit v) := by decide
    obtain ⟨w, hw, hvalue, hdigit'⟩ :=
      hexDigit_of_isHexDigit (isHexDigit_of_toLower (hdigit ▸ hlower v hv))
    -- A digit in lower case tells its value.
    have hvw := hexValue?_hexDigit hv
    rw [hdigit, ← hdigit', hexValue?_hexDigit hw] at hvw
    rw [hvalue, hvw]

theorem isHexDigit_iff_isSome {c : Char} : IsHexDigit c ↔ (hexValue? c).isSome = true := by
  rw [Option.isSome_iff_exists]
  constructor
  · intro h
    obtain ⟨v, _, hv, _⟩ := hexDigit_of_isHexDigit h
    exact ⟨v, hv⟩
  · rintro ⟨v, hv⟩
    exact isHexDigit_of_hexValue? hv

end Json

namespace MarkerId

open Json (IsHexDigit hexDigit hexValue?)

theorem length_hexDigits (count n : Nat) : (hexDigits count n).length = count := by
  induction count generalizing n with
  | zero => rfl
  | succ count ih => rw [hexDigits, List.length_append, ih]; rfl

theorem length_digits (id : MarkerId) : id.digits.length = 32 := length_hexDigits 32 id.value

/-- Digits are printed in lower case. -/
theorem map_toLower_hexDigits (count n : Nat) :
    (hexDigits count n).map Char.toLower = hexDigits count n := by
  have hdigit : ∀ n < 16, (hexDigit n).toLower = hexDigit n := by decide
  induction count generalizing n with
  | zero => rfl
  | succ count ih =>
    rw [hexDigits, List.map_append, ih, List.map_singleton, hdigit _ (Nat.mod_lt _ (by decide))]

theorem readHex?_concat (ds : List Char) (c : Char) :
    readHex? (ds ++ [c]) = (readHex? ds).bind fun n => (hexValue? c).map (n * 16 + ·) := by
  rw [readHex?, List.foldlM_append]
  refine congrArg (Option.bind _) (funext fun n => ?_)
  rw [List.foldlM_cons]
  exact Option.bind_fun_some _

/-- **Digits are read as the number that prints as them**, up to case. -/
theorem readHex?_eq_some_iff {ds : List Char} {n : Nat} :
    readHex? ds = some n ↔
      n < 16 ^ ds.length ∧ hexDigits ds.length n = ds.map Char.toLower := by
  induction ds using List.reverseRecOn generalizing n with
  | nil =>
    rw [List.length_nil, Nat.pow_zero, Nat.lt_one_iff, hexDigits, List.map_nil, and_iff_left rfl]
    exact ⟨fun h => (Option.some.inj h).symm, fun h => congrArg some h.symm⟩
  | append_singleton ds c ih =>
    rw [readHex?_concat, Option.bind_eq_some_iff, List.length_append, List.length_singleton,
      hexDigits, List.map_append, List.map_singleton, Nat.pow_succ]
    constructor
    · rintro ⟨m, hm, h⟩
      obtain ⟨v, hv, rfl⟩ := Option.map_eq_some_iff.1 h
      obtain ⟨hlt, hfront⟩ := ih.1 hm
      obtain ⟨hv, hlast⟩ := Json.hexValue?_eq_some_iff.1 hv
      have hdiv : (m * 16 + v) / 16 = m := by omega
      have hmod : (m * 16 + v) % 16 = v := by omega
      rw [hdiv, hmod, hfront, hlast]
      exact ⟨by omega, rfl⟩
    · rintro ⟨hlt, h⟩
      obtain ⟨hfront, hlast⟩ := List.append_inj' h rfl
      refine ⟨n / 16, ih.2 ⟨Nat.div_lt_of_lt_mul (by omega), hfront⟩, ?_⟩
      have hvalue : hexValue? c = some (n % 16) :=
        Json.hexValue?_eq_some_iff.2 ⟨Nat.mod_lt _ (by decide), List.singleton_inj.1 hlast⟩
      rw [hvalue, Option.map_some, Nat.div_add_mod']

/-- Whatever digits there are, they are a number. -/
theorem isSome_readHex?_iff {ds : List Char} :
    (readHex? ds).isSome = true ↔ ∀ c ∈ ds, IsHexDigit c := by
  induction ds using List.reverseRecOn with
  | nil => exact ⟨fun _ => List.forall_mem_nil _, fun _ => rfl⟩
  | append_singleton ds c ih =>
    rw [readHex?_concat, List.forall_mem_append, ← ih, List.forall_mem_singleton,
      Json.isHexDigit_iff_isSome]
    cases readHex? ds with
    | none => simp
    | some n => simp

theorem readHex?_hexDigits {count n : Nat} (h : n < 16 ^ count) :
    readHex? (hexDigits count n) = some n := by
  rw [readHex?_eq_some_iff, length_hexDigits]
  exact ⟨h, (map_toLower_hexDigits count n).symm⟩

/-! ## Layouts -/

/-- Digits with hyphens between groups of 8, 4, 4, 4 and 12. -/
def Hyphenates (ds cs : List Char) : Prop :=
  ∃ groups : List (List Char), groups.map List.length = [8, 4, 4, 4, 12] ∧ groups.flatten = ds ∧
    ['-'].intercalate groups = cs

/-- The four ways to lay out digits: as they are, with hyphens, with hyphens and in braces, and with
hyphens after `urn:uuid:` in any case. -/
inductive Layout (ds : List Char) : List Char → Prop where
  | plain : Layout ds ds
  | hyphenated {cs : List Char} (h : Hyphenates ds cs) : Layout ds cs
  | braced {cs : List Char} (h : Hyphenates ds cs) : Layout ds ('\x7b' :: (cs ++ ['\x7d']))
  | prefixed {front cs : List Char} (hfront : front.map Char.toLower = "urn:uuid:".toList)
    (h : Hyphenates ds cs) : Layout ds (front ++ cs)

/-- A text that lays out the digits an identifier prints as, in either case. -/
def Spells (s : String) (id : MarkerId) : Prop :=
  ∃ ds, ds.map Char.toLower = id.toText.toList ∧ Layout ds s.toList

/-- Groups are put together again when their sizes are known. -/
theorem ungroup?_intercalate {groups : List (List Char)} (hne : groups ≠ []) :
    ungroup? (groups.map List.length) (['-'].intercalate groups) = some groups.flatten := by
  induction groups with
  | nil => exact absurd rfl hne
  | cons g groups ih =>
    cases groups with
    | nil => simp [ungroup?]
    | cons g' groups =>
      have htake : (g ++ ['-'] ++ ['-'].intercalate (g' :: groups)).take g.length = g := by
        rw [List.append_assoc, List.take_left]
      have hdrop : (g ++ ['-'] ++ ['-'].intercalate (g' :: groups)).drop g.length =
          '-' :: ['-'].intercalate (g' :: groups) := by
        rw [List.append_assoc, List.drop_left]
        rfl
      have hrest := ih (List.cons_ne_nil g' groups)
      rw [List.map_cons] at hrest
      rw [List.intercalate_cons_cons, List.map_cons, List.map_cons, ungroup?, htake, if_pos rfl,
        hdrop]
      show (ungroup? _ (['-'].intercalate (g' :: groups))).map (g ++ ·) = _
      rw [hrest, Option.map_some, ← List.flatten_cons]

/-- What is put together has groups of the given sizes. -/
theorem exists_groups_of_ungroup? {sizes : List Nat} {cs ds : List Char}
    (h : ungroup? sizes cs = some ds) :
    ∃ groups : List (List Char), groups.map List.length = sizes ∧ groups.flatten = ds ∧
      ['-'].intercalate groups = cs := by
  fun_induction ungroup? sizes cs generalizing ds with
  | case1 | case3 | case5 | case6 => cases h
  | case2 cs =>
    cases h
    exact ⟨[cs], rfl, List.append_nil cs, List.intercalate_singleton⟩
  | case4 n m sizes cs hfront rest hrest ih =>
    obtain ⟨ds', hds', rfl⟩ := Option.map_eq_some_iff.1 h
    obtain ⟨groups, hsizes, rfl, rfl⟩ := ih hds'
    refine ⟨cs.take n :: groups, ?_, rfl, ?_⟩
    · rw [List.map_cons, hfront, hsizes]
    · obtain ⟨g, groups, rfl, -⟩ := List.map_eq_cons_iff.1 hsizes
      rw [List.intercalate_cons_cons, List.append_assoc, List.singleton_append, ← hrest,
        List.take_append_drop]

theorem ungroup?_groupSizes_eq_some_iff {cs ds : List Char} :
    ungroup? groupSizes cs = some ds ↔ Hyphenates ds cs := by
  constructor
  · exact exists_groups_of_ungroup?
  · rintro ⟨groups, hsizes, rfl, rfl⟩
    have hne : groups ≠ [] := by
      rintro rfl
      cases hsizes
    rw [groupSizes, ← hsizes, ungroup?_intercalate hne]

/-- Of 32 digits and four hyphens, the first is a digit. -/
theorem Hyphenates.shape {ds cs : List Char} (h : Hyphenates ds cs) :
    ds.length = 32 ∧ cs.length = 36 ∧ ∃ c ∈ ds, cs.head? = some c := by
  obtain ⟨groups, hsizes, rfl, rfl⟩ := h
  simp only [List.map_eq_cons_iff, List.map_eq_nil_iff] at hsizes
  obtain ⟨a, _, rfl, ha, b, _, rfl, hb, c, _, rfl, hc, d, _, rfl, hd, e, _, rfl, he, rfl⟩ := hsizes
  obtain ⟨x, a, rfl⟩ := List.exists_cons_of_length_eq_add_one ha
  simp only [List.length_cons] at ha
  refine ⟨?_, ?_, x, by simp, by simp⟩
  · simp only [List.flatten_cons, List.flatten_nil, List.length_append, List.length_cons,
      List.length_nil]
    omega
  · simp only [List.intercalate_cons_cons, List.intercalate_singleton, List.length_append,
      List.length_cons, List.length_nil]
    omega

theorem unwrap_braced (cs : List Char) : unwrap ('\x7b' :: (cs ++ ['\x7d'])) = cs := by
  have hlast : ('\x7b' :: (cs ++ ['\x7d'])).getLast? = some '\x7d' := by
    rw [← List.cons_append, List.getLast?_concat]
  rw [unwrap, if_pos ⟨rfl, hlast⟩, List.drop_one, List.tail_cons, List.dropLast_concat]

/-- The prefix is taken off, in any case. -/
theorem unwrap_prefixed {front : List Char} (hfront : front.map Char.toLower = urnPrefix)
    (cs : List Char) : unwrap (front ++ cs) = cs := by
  have hlength : front.length = urnPrefix.length := by rw [← hfront, List.length_map]
  have hbrace : ¬ ((front ++ cs).head? = some '\x7b' ∧ (front ++ cs).getLast? = some '\x7d') := by
    obtain ⟨c, front, rfl, hc, -⟩ := List.map_eq_cons_iff.1 hfront
    rintro ⟨hhead, -⟩
    cases hhead
    exact absurd hc (by decide)
  rw [unwrap, if_neg hbrace, ← hlength, List.take_left, List.drop_left, if_pos hfront]

/-- A text that starts with a digit has nothing around it. -/
theorem unwrap_of_isHexDigit {cs : List Char} {c : Char} (hhead : cs.head? = some c)
    (hc : IsHexDigit c) : unwrap cs = cs := by
  have hplain := hc.of_all (fun c => c != '\x7b' && c.toLower != 'u') (by decide)
  rw [Bool.and_eq_true, bne_iff_ne, bne_iff_ne] at hplain
  obtain ⟨hbrace, hu⟩ := hplain
  obtain ⟨cs, rfl⟩ := List.head?_eq_some_iff.1 hhead
  have hnot : ((c :: cs).take urnPrefix.length).map Char.toLower ≠ urnPrefix := fun h =>
    hu (List.cons.inj h).1
  rw [unwrap, if_neg fun h => hbrace (Option.some.inj h.1), if_neg hnot]

/-- What is around digits with hyphens is one of the layouts. -/
theorem layout_of_unwrap {ds cs : List Char} (h : Hyphenates ds (unwrap cs)) : Layout ds cs := by
  rw [unwrap] at h
  split_ifs at h with hbraces hprefix
  · obtain ⟨inner, hlast⟩ := List.getLast?_eq_some_iff.1 hbraces.2
    cases inner with
    | nil => simp [hlast] at hbraces
    | cons c inner =>
      rw [hlast] at h hbraces ⊢
      rw [List.cons_append, List.drop_one, List.tail_cons, List.dropLast_concat] at h
      cases Option.some.inj hbraces.1
      exact .braced h
  · have hlayout := Layout.prefixed hprefix h
    rwa [List.take_append_drop] at hlayout
  · exact .hyphenated h

/-- Digits are found in every layout of them. -/
theorem spelledDigits?_of_layout {ds cs : List Char} (hlength : ds.length = 32)
    (hdigits : ∀ c ∈ ds, IsHexDigit c) (h : Layout ds cs) : spelledDigits? cs = some ds := by
  cases h with
  | plain => rw [spelledDigits?, if_pos hlength]
  | hyphenated h =>
    obtain ⟨-, hcs, c, hc, hhead⟩ := h.shape
    rw [spelledDigits?, if_neg (by omega), unwrap_of_isHexDigit hhead (hdigits c hc),
      ungroup?_groupSizes_eq_some_iff]
    exact h
  | braced h =>
    obtain ⟨-, hcs, -⟩ := h.shape
    rw [spelledDigits?, if_neg, unwrap_braced, ungroup?_groupSizes_eq_some_iff]
    · exact h
    · simp only [List.length_cons, List.length_append, List.length_nil]
      omega
  | prefixed hfront h =>
    obtain ⟨-, hcs, -⟩ := h.shape
    rw [spelledDigits?, if_neg, unwrap_prefixed hfront, ungroup?_groupSizes_eq_some_iff]
    · exact h
    · rw [List.length_append, hcs]
      omega

/-- What is found in a text is laid out there. -/
theorem layout_of_spelledDigits? {ds cs : List Char} (h : spelledDigits? cs = some ds) :
    ds.length = 32 ∧ Layout ds cs := by
  rw [spelledDigits?] at h
  split at h
  · next hlength =>
    cases h
    exact ⟨hlength, .plain⟩
  · have hyphens := ungroup?_groupSizes_eq_some_iff.1 h
    exact ⟨hyphens.shape.1, layout_of_unwrap hyphens⟩

/-! ## Reading -/

theorem ofNat?_eq_some_iff {n : Nat} {id : MarkerId} : ofNat? n = some id ↔ n = id.value := by
  obtain ⟨value, hlt⟩ := id
  rw [ofNat?]
  split
  · simp
  · next h =>
    refine ⟨nofun, fun hn => ?_⟩
    rw [hn] at h
    exact absurd hlt h

theorem parse?_eq_some_iff_readHex? {s : String} {id : MarkerId} :
    parse? s = some id ↔ ∃ ds, spelledDigits? s.toList = some ds ∧ readHex? ds = some id.value := by
  simp only [parse?, Option.bind_eq_some_iff, ofNat?_eq_some_iff]
  constructor
  · rintro ⟨n, ⟨ds, hds, hn⟩, rfl⟩
    exact ⟨ds, hds, hn⟩
  · rintro ⟨ds, hds, hn⟩
    exact ⟨_, ⟨ds, hds, hn⟩, rfl⟩

theorem toList_toText (id : MarkerId) : id.toText.toList = id.digits := String.toList_ofList

theorem value_lt_pow (id : MarkerId) : id.value < 16 ^ 32 := Nat.lt_of_lt_of_eq id.value_lt rfl

/-- Digits that print as an identifier in lower case are read as its value. -/
theorem readHex?_eq_value_iff {ds : List Char} (hlength : ds.length = 32) {id : MarkerId} :
    readHex? ds = some id.value ↔ ds.map Char.toLower = id.toText.toList := by
  rw [readHex?_eq_some_iff, hlength, and_iff_right id.value_lt_pow, toList_toText, digits, eq_comm]

/-- **A text is read as an identifier exactly if it spells it.** -/
theorem parse?_eq_some_iff {s : String} {id : MarkerId} : parse? s = some id ↔ Spells s id := by
  rw [parse?_eq_some_iff_readHex?]
  constructor
  · rintro ⟨ds, hds, hvalue⟩
    obtain ⟨hlength, hlayout⟩ := layout_of_spelledDigits? hds
    exact ⟨ds, (readHex?_eq_value_iff hlength).1 hvalue, hlayout⟩
  · rintro ⟨ds, hds, hlayout⟩
    have hlength : ds.length = 32 := by
      rw [← List.length_map Char.toLower, hds, toList_toText, length_digits]
    have hvalue := (readHex?_eq_value_iff hlength).2 hds
    have hdigits := isSome_readHex?_iff.1 (Option.isSome_of_eq_some hvalue)
    exact ⟨ds, spelledDigits?_of_layout hlength hdigits hlayout, hvalue⟩

/-- **A text is an identifier exactly if it lays out 32 digits.** -/
theorem isSome_parse?_iff {s : String} :
    (parse? s).isSome = true ↔
      ∃ ds : List Char, ds.length = 32 ∧ (∀ c ∈ ds, IsHexDigit c) ∧ Layout ds s.toList := by
  rw [Option.isSome_iff_exists]
  simp only [parse?_eq_some_iff_readHex?]
  constructor
  · rintro ⟨id, ds, hds, hvalue⟩
    obtain ⟨hlength, hlayout⟩ := layout_of_spelledDigits? hds
    exact ⟨ds, hlength, isSome_readHex?_iff.1 (Option.isSome_of_eq_some hvalue), hlayout⟩
  · rintro ⟨ds, hlength, hdigits, hlayout⟩
    obtain ⟨n, hn⟩ := Option.isSome_iff_exists.1 (isSome_readHex?_iff.2 hdigits)
    have hlt := (readHex?_eq_some_iff.1 hn).1
    rw [hlength] at hlt
    exact ⟨⟨n, hlt⟩, ds, spelledDigits?_of_layout hlength hdigits hlayout, hn⟩

/-- An identifier is read back from its printed form. -/
theorem parse?_toText (id : MarkerId) : parse? id.toText = some id := by
  refine parse?_eq_some_iff.2 ⟨id.toText.toList, ?_, .plain⟩
  rw [toList_toText, digits, map_toLower_hexDigits]

theorem toText_inj {a b : MarkerId} : a.toText = b.toText ↔ a = b := by
  refine ⟨fun h => ?_, congrArg toText⟩
  have hparse := parse?_toText a
  rw [h, parse?_toText] at hparse
  exact (Option.some.inj hparse).symm

end MarkerId

end Stencil
