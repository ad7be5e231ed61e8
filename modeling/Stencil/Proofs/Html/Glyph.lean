import Mathlib.Data.List.Infix
import Mathlib.Logic.Equiv.Defs
import Stencil.Html.Reference
import Stencil.Proofs.Blueprint.Codec
import Stencil.Sample

/-!
# Texts with identifiers left open

A marked sample is the same text for every supply of identifiers, but for the digits of the
identifiers. So it is told as a list of glyphs: characters as they stand and places of digits, which
`Glyph.read` fills in from a supply. What a lexer asks of single characters has the same answer for
all digits (`Blind`), so a reading is cut where the glyphs are (`takeWhile_read`, `dropWhile_read`).

A text is `Regular` if its identifiers stand between quotation marks, outside the names of tags, and
if what stands between them spells none. Each end of a regular text is regular again, and the parts
of a `Whole` one, which does not start inside an identifier, are whole when no identifier is cut
(`Whole.front`, `Whole.back`).
-/

namespace Stencil.Html

open MarkerId (hexDigits length_digits)

/-! ## Digits -/

/-- The digits that identifiers are printed with. -/
def idDigits : List Char :=
  ['0', '1', '2', '3', '4', '5', '6', '7', '8', '9', 'a', 'b', 'c', 'd', 'e', 'f']

theorem mem_idDigits_of_mem_digits {id : MarkerId} {c : Char} (h : c ∈ id.digits) :
    c ∈ idDigits := by
  have hdigit : ∀ n < 16, Json.hexDigit n ∈ idDigits := by decide
  have hall (count : Nat) : ∀ n, ∀ c ∈ hexDigits count n, c ∈ idDigits := by
    induction count with
    | zero => exact fun n c hc => by cases hc
    | succ count ih =>
      intro n c hc
      rw [hexDigits, List.mem_append, List.mem_singleton] at hc
      rcases hc with hc | rfl
      · exact ih _ c hc
      · exact hdigit _ (Nat.mod_lt _ (by decide))
  exact hall 32 id.value c h

theorem notMem_idDigits_of_all {k : List Char} (h : k.all (fun c => !idDigits.contains c) = true) :
    ∀ c ∈ k, c ∉ idDigits := by
  intro c hc hmem
  have hnot := List.all_eq_true.1 h c hc
  rw [List.contains_iff_mem.2 hmem] at hnot
  cases hnot

/-- A function that keeps the digits of identifiers keeps each of them. -/
theorem eq_of_mem_idDigits {f : Char → Char} (hf : idDigits.all (fun c => f c == c) = true)
    {c : Char} (hc : c ∈ idDigits) : f c = c :=
  beq_iff_eq.1 (List.all_eq_true.1 hf c hc)

/-- A property of characters that all digits of identifiers share or all lack. -/
def Blind (p : Char → Bool) : Prop := idDigits.all (fun c => p c == p '0') = true

instance (p : Char → Bool) : Decidable (Blind p) := inferInstanceAs (Decidable (_ = true))

theorem Blind.eq {p : Char → Bool} (h : Blind p) {c : Char} (hc : c ∈ idDigits) : p c = p '0' :=
  beq_iff_eq.1 (List.all_eq_true.1 h c hc)

theorem blind_ne {x : Char} (h : x ∉ idDigits) : Blind fun c => decide (c ≠ x) := by
  have hne {c : Char} (hc : c ∈ idDigits) : decide (c ≠ x) = true :=
    decide_eq_true fun he => h (he ▸ hc)
  refine List.all_eq_true.2 fun c hc => ?_
  exact beq_iff_eq.2 ((hne hc).trans (hne (List.mem_cons_self ..)).symm)

/-! ## Glyphs -/

/-- A character of a text in which identifiers are left open: a character as it stands, or a digit
of the identifier with a place in the list of tokens. -/
inductive Glyph where
  | char (c : Char)
  | digit (place index : Nat)
  deriving DecidableEq

namespace Glyph

/-- The character that stands for a glyph once the identifiers are known. -/
def read (ids : IdSupply) : Glyph → Char
  | char c => c
  | digit n i => (ids n).digits.getD i '0'

/-- Whether a glyph is a digit of an identifier. -/
def isDigit : Glyph → Bool
  | char _ => false
  | digit _ _ => true

/-- The character of a glyph, as far as it is known without the identifiers. -/
def face : Glyph → Char
  | char c => c
  | digit _ _ => '0'

section
variable {ids : IdSupply} {g : Glyph}

theorem read_mem_idDigits (h : g.isDigit = true) : g.read ids ∈ idDigits := by
  cases g with
  | char c => cases h
  | digit n i =>
    rw [read, List.getD_eq_getElem?_getD]
    cases hi : (ids n).digits[i]? with
    | none => exact by decide
    | some c => exact mem_idDigits_of_mem_digits (List.mem_of_getElem? hi)

/-- A character that is no digit is read from itself alone. -/
theorem read_eq_iff {c : Char} (h : c ∉ idDigits) : g.read ids = c ↔ g = char c := by
  cases g with
  | char d => rw [read, char.injEq]
  | digit n i =>
    refine ⟨fun hread => absurd ?_ h, fun hg => by cases hg⟩
    rw [← hread]
    exact read_mem_idDigits rfl

theorem read_of_blind {p : Char → Bool} (h : Blind p) (g : Glyph) : p (g.read ids) = p g.face := by
  cases g with
  | char c => rfl
  | digit n i => exact h.eq (read_mem_idDigits rfl)

theorem face_eq_iff {c : Char} (h : c ∉ idDigits) : g.face = c ↔ g = char c := by
  cases g with
  | char d => rw [face, char.injEq]
  | digit n i =>
    refine ⟨fun hface => absurd ?_ h, fun hg => by cases hg⟩
    rw [← hface]
    exact List.mem_cons_self ..

end

theorem exists_char_of_isDigit_eq_false {g : Glyph} (h : g.isDigit = false) :
    ∃ c, g = char c := by
  cases g with
  | char c => exact ⟨c, rfl⟩
  | digit n i => cases h

theorem exists_digit_of_isDigit_eq_true {g : Glyph} (h : g.isDigit = true) :
    ∃ n i, g = digit n i := by
  cases g with
  | char c => cases h
  | digit n i => exact ⟨n, i, rfl⟩

/-- Glyphs that are no digits are the characters of a text. -/
theorem exists_map_char {t : List Glyph} (h : ∀ g ∈ t, g.isDigit = false) :
    ∃ u : List Char, t = u.map char := by
  induction t with
  | nil => exact ⟨[], rfl⟩
  | cons g t ih =>
    obtain ⟨c, rfl⟩ := exists_char_of_isDigit_eq_false (h g (List.mem_cons_self ..))
    obtain ⟨u, rfl⟩ := ih fun g hg => h g (List.mem_cons_of_mem _ hg)
    exact ⟨c :: u, rfl⟩

theorem isDigit_eq_false_of_mem_map_char {u : List Char} {g : Glyph} (h : g ∈ u.map char) :
    g.isDigit = false := by
  obtain ⟨c, _, rfl⟩ := List.mem_map.1 h
  rfl

@[simp] theorem map_read_char (ids : IdSupply) (u : List Char) :
    (u.map char).map (read ids) = u := by
  rw [List.map_map]
  exact List.map_id u

/-- The digits of the identifier with a place. -/
def run (n : Nat) : List Glyph := (List.range 32).map (digit n)

theorem map_read_run (ids : IdSupply) (n : Nat) : (run n).map (read ids) = (ids n).digits := by
  rw [run, List.map_map]
  refine List.ext_getElem ?_ fun i hi hi' => ?_
  · rw [List.length_map, List.length_range, length_digits]
  · rw [List.getElem_map, List.getElem_range, Function.comp_apply, read,
      List.getD_eq_getElem?_getD, List.getElem?_eq_getElem hi', Option.getD_some]

section
variable {ids : IdSupply} {p : Char → Bool} (h : Blind p) (t : List Glyph)
include h

theorem takeWhile_read :
    (t.map (read ids)).takeWhile p = (t.takeWhile (p ·.face)).map (read ids) := by
  rw [List.takeWhile_map]
  exact congrArg (fun q => (t.takeWhile q).map (read ids)) (funext fun g => read_of_blind h g)

theorem dropWhile_read :
    (t.map (read ids)).dropWhile p = (t.dropWhile (p ·.face)).map (read ids) := by
  rw [List.dropWhile_map]
  exact congrArg (fun q => (t.dropWhile q).map (read ids)) (funext fun g => read_of_blind h g)

end

/-- From the first element that was looked for on, a list is empty or starts with it. -/
theorem dropWhile_eq_nil_or_cons {α : Type} {p : α → Bool} {x : α} (hp : ∀ y, p y = false → y = x)
    (l : List α) : l.dropWhile p = [] ∨ ∃ r, l.dropWhile p = x :: r := by
  have hnot := List.head?_dropWhile_not p l
  cases h : l.dropWhile p with
  | nil => exact .inl rfl
  | cons y r =>
    rw [h] at hnot
    exact .inr ⟨r, congrArg (· :: r) (hp y hnot)⟩

theorem dropWhile_face_ne {q : Char} (hq : q ∉ idDigits) (t : List Glyph) :
    (t.dropWhile fun g => decide (g.face ≠ q)) = [] ∨
      ∃ b, (t.dropWhile fun g => decide (g.face ≠ q)) = char q :: b :=
  dropWhile_eq_nil_or_cons
    (fun _ hg => (face_eq_iff hq).1 (Decidable.of_not_not (of_decide_eq_false hg))) t

theorem head?_read {ids : IdSupply} {c : Char} (hc : c ∉ idDigits) (t : List Glyph) :
    (t.map (read ids)).head? = some c ↔ t.head? = some (char c) := by
  cases t with
  | nil => rw [List.map_nil, List.head?_nil, List.head?_nil, eq_comm, eq_comm (a := none)]; simp
  | cons g t =>
    rw [List.map_cons, List.head?_cons, List.head?_cons, Option.some.injEq, Option.some.injEq,
      read_eq_iff hc]

/-! ## Neighbours -/

/-- What may stand next to what: the digits of an identifier come in their order, with quotation
marks around them. -/
def Joins : Glyph → Glyph → Prop
  | char _, char _ => True
  | char c, digit _ i => c = '"' ∧ i = 0
  | digit _ i, char c => c = '"' ∧ i = 31
  | digit n i, digit m j => n = m ∧ j = i + 1 ∧ i < 31

end Glyph

open Glyph

/-- A text spells an identifier: in either case of letters, or through character references. -/
def Spells (id : MarkerId) (u : List Char) : Prop :=
  id.digits <:+: u.map Char.toLower ∨ id.digits <:+: expand true u

/-- What is asked of a text with open identifiers, so that its two readings are lexed alike. The
renaming `π` takes the identifiers of the one reading to those of the other. -/
structure Regular (π : Equiv.Perm MarkerId) (ids ids' : IdSupply) (t : List Glyph) : Prop where
  joined : t.IsChain Joins
  /-- The last identifier is complete. -/
  ends : ∀ n i, t.getLast? = some (digit n i) → i = 31
  /-- No identifier belongs to the name of a tag. -/
  spaced : ∀ a b n i c, t = a ++ char '<' :: (b ++ digit n i :: c) → char ' ' ∈ b
  named : ∀ n i, digit n i ∈ t → π (ids n) = ids' n
  /-- What stands between identifiers spells none. -/
  fresh : ∀ u : List Char, u.map char <:+: t → ∀ id, π id ≠ id → ¬ Spells id u

/-- A regular text that does not start inside an identifier. -/
structure Whole (π : Equiv.Perm MarkerId) (ids ids' : IdSupply) (t : List Glyph) : Prop
    extends Regular π ids ids' t where
  starts : ∀ n i, t.head? = some (digit n i) → i = 0

section
variable {π : Equiv.Perm MarkerId} {ids ids' : IdSupply} {t a b : List Glyph}

theorem Regular.nil : Regular π ids ids' [] where
  joined := .nil
  ends _ _ h := by cases h
  spaced a b n i c h := by simp at h
  named _ _ h := by cases h
  fresh u hu id hid hs := by
    rw [List.infix_nil, List.map_eq_nil_iff] at hu
    rw [hu] at hs
    have hlength : id.digits.length ≤ 0 := hs.elim List.IsInfix.length_le List.IsInfix.length_le
    rw [length_digits] at hlength
    omega

theorem Regular.back (h : Regular π ids ids' (a ++ b)) : Regular π ids ids' b where
  joined := (List.isChain_append.1 h.joined).2.1
  ends n i hb := by
    refine h.ends n i ?_
    rw [List.getLast?_append, hb]
    rfl
  spaced a' b' n i c hb := by
    refine h.spaced (a ++ a') b' n i c ?_
    rw [hb, List.append_assoc]
  named n i hb := h.named n i (List.mem_append_right a hb)
  fresh u hu := h.fresh u (hu.trans ⟨a, [], by rw [List.append_nil]⟩)

/-- A text may be cut anywhere but inside an identifier. -/
theorem Regular.front (h : Regular π ids ids' (a ++ b))
    (hcut : ∀ x ∈ a.getLast?, ∀ y ∈ b.head?, x.isDigit = true → y.isDigit = false) :
    Regular π ids ids' a where
  joined := (List.isChain_append.1 h.joined).1
  ends n i ha := by
    cases b with
    | nil =>
      rw [List.append_nil] at h
      exact h.ends n i ha
    | cons y b =>
      have hjoin := (List.isChain_append.1 h.joined).2.2 _ ha y rfl
      obtain ⟨c, rfl⟩ := exists_char_of_isDigit_eq_false (hcut _ ha y rfl rfl)
      exact hjoin.2
  spaced a' b' n i c ha := by
    refine h.spaced a' b' n i (c ++ b) ?_
    rw [ha, List.append_assoc, List.cons_append, List.append_assoc, List.cons_append]
  named n i ha := h.named n i (List.mem_append_left b ha)
  fresh u hu := h.fresh u (hu.trans ⟨[], b, rfl⟩)

theorem Whole.front (h : Whole π ids ids' (a ++ b))
    (hcut : ∀ x ∈ a.getLast?, ∀ y ∈ b.head?, x.isDigit = true → y.isDigit = false) :
    Whole π ids ids' a where
  toRegular := h.toRegular.front hcut
  starts n i ha := by
    refine h.starts n i ?_
    rw [List.head?_append, ha]
    rfl

theorem Whole.back (h : Whole π ids ids' (a ++ b))
    (hcut : ∀ x ∈ a.getLast?, ∀ y ∈ b.head?, x.isDigit = true → y.isDigit = false) :
    Whole π ids ids' b where
  toRegular := h.toRegular.back
  starts n i hb := by
    cases ha : a.getLast? with
    | none =>
      rw [List.getLast?_eq_none_iff] at ha
      rw [ha] at h
      exact h.starts n i hb
    | some x =>
      have hjoin := (List.isChain_append.1 h.joined).2.2 x ha _ hb
      cases x with
      | char c => exact hjoin.2
      | digit m j => cases hcut _ ha _ hb rfl

theorem Whole.front_char {u : List Char} (h : Whole π ids ids' (u.map char ++ b)) :
    Whole π ids ids' (u.map char) :=
  h.front fun _ hx _ _ hd => absurd
    (hd.symm.trans (isDigit_eq_false_of_mem_map_char (List.mem_of_getLast? hx))) (by decide)

theorem Whole.back_char {u : List Char} (h : Whole π ids ids' (u.map char ++ b)) :
    Whole π ids ids' b :=
  h.back fun _ hx _ _ hd => absurd
    (hd.symm.trans (isDigit_eq_false_of_mem_map_char (List.mem_of_getLast? hx))) (by decide)

/-- The text after a character starts no identifier in the middle. -/
theorem Regular.tail {c : Char} (h : Regular π ids ids' (char c :: t)) : Whole π ids ids' t where
  toRegular := Regular.back (a := [char c]) h
  starts n i ht := by
    have hjoined : ([char c] ++ t).IsChain Joins := h.joined
    exact ((List.isChain_append.1 hjoined).2.2 (char c) rfl _ ht).2

theorem Whole.nil : Whole π ids ids' [] where
  toRegular := .nil
  starts _ _ h := by cases h

section
variable {p : Char → Bool}

/-- Where a property that digits share ends, no identifier is cut. -/
theorem not_isDigit_of_takeWhile {x y : Glyph}
    (hx : x ∈ (t.takeWhile (p ·.face)).getLast?) (hy : y ∈ (t.dropWhile (p ·.face)).head?)
    (hd : x.isDigit = true) : y.isDigit = false := by
  have hpx : p x.face = true :=
    List.all_eq_true.1 List.all_takeWhile x (List.mem_of_getLast? hx)
  have hpy : p y.face = false := by
    have := List.head?_dropWhile_not (p ·.face) t
    rw [hy] at this
    exact this
  cases hdy : y.isDigit with
  | false => rfl
  | true =>
    obtain ⟨n, i, rfl⟩ := exists_digit_of_isDigit_eq_true hd
    obtain ⟨m, j, rfl⟩ := exists_digit_of_isDigit_eq_true hdy
    rw [face] at hpx hpy
    rw [hpx] at hpy
    cases hpy

theorem isDigit_eq_false_of_head?_dropWhile (hp : p '0' = true) {y : Glyph}
    (hy : y ∈ (t.dropWhile (p ·.face)).head?) : y.isDigit = false := by
  have hpy := List.head?_dropWhile_not (p ·.face) t
  rw [hy] at hpy
  cases y with
  | char c => rfl
  | digit n i => exact absurd (hp.symm.trans hpy) (by decide)

theorem Whole.takeWhile (h : Whole π ids ids' t) : Whole π ids ids' (t.takeWhile (p ·.face)) :=
  Whole.front (b := t.dropWhile (p ·.face)) (by rwa [List.takeWhile_append_dropWhile])
    fun _ hx _ hy => not_isDigit_of_takeWhile hx hy

theorem Whole.dropWhile (h : Whole π ids ids' t) : Whole π ids ids' (t.dropWhile (p ·.face)) :=
  Whole.back (a := t.takeWhile (p ·.face)) (by rwa [List.takeWhile_append_dropWhile])
    fun _ hx _ hy => not_isDigit_of_takeWhile hx hy

/-- After its first glyph a text may be cut where a property ends that digits have. -/
theorem Whole.cons_takeWhile {g : Glyph} (h : Whole π ids ids' (g :: t)) (hp : p '0' = true) :
    Whole π ids ids' (g :: t.takeWhile (p ·.face)) := by
  refine Whole.front (b := t.dropWhile (p ·.face)) ?_ fun _ _ y hy _ => ?_
  · rwa [List.cons_append, List.takeWhile_append_dropWhile]
  · exact isDigit_eq_false_of_head?_dropWhile hp hy

theorem Whole.dropWhile_tail {g : Glyph} (h : Whole π ids ids' (g :: t)) (hp : p '0' = true) :
    Whole π ids ids' (t.dropWhile (p ·.face)) := by
  refine Whole.back (a := g :: t.takeWhile (p ·.face)) ?_ fun _ _ y hy _ => ?_
  · rwa [List.cons_append, List.takeWhile_append_dropWhile]
  · exact isDigit_eq_false_of_head?_dropWhile hp hy

end

end

end Stencil.Html
