import Stencil.Proofs.Html.Glyph
import Stencil.Proofs.Html.References
import Stencil.Proofs.Html.Sketch
import Stencil.Proofs.Learning.Renaming

/-!
# Words with other identifiers

The names and values of attributes are built from a text with open identifiers. An identifier in it
stands alone between quotation marks and the ends, and `renameParts` renames those. `Whole.induction`
takes a whole text apart at its quotation marks into identifiers and characters that spell none, and
from it both kinds of words follow the renaming, values after references are expanded
(`Whole.word_expand`) and names in lower case (`Whole.word_lowerName`). `Sketch.renamed` is the
sketch with this renaming. Two readings of one text differ in digits only (`SameFace`), also after
they are expanded (`Whole.sameFace_expand`).
-/

namespace Stencil.Html

open MarkerId (renameText renameText_toText renameText_of_ne)

/-! ## Parts between quotation marks -/

/-- The characters with their identifier renamed, if they are one in print. -/
def renamePart (f : MarkerId → MarkerId) (part : List Char) : List Char :=
  (renameText f (String.ofList part)).toList

/-- The characters with the identifiers renamed that stand alone, between quotation marks and the
ends. -/
def renameParts (f : MarkerId → MarkerId) (s : List Char) : List Char :=
  ['"'].intercalate ((s.splitOn '"').map (renamePart f))

/-- A text is a part without quotation marks, or such a part, a quotation mark and more text. -/
theorem parts_induction {P : List Char → Prop} (last : ∀ a, '"' ∉ a → P a)
    (quote : ∀ a b, '"' ∉ a → P b → P (a ++ '"' :: b)) (s : List Char) : P s := by
  have hparts (k : Nat) : ∀ s : List Char, s.length ≤ k → P s := by
    induction k with
    | zero =>
      intro s hs
      rw [List.eq_nil_of_length_eq_zero (Nat.le_zero.1 hs)]
      exact last [] List.not_mem_nil
    | succ k ih =>
      intro s hs
      by_cases h : '"' ∈ s
      · obtain ⟨a, b, rfl, ha⟩ := List.eq_append_cons_of_mem h
        rw [List.length_append, List.length_cons] at hs
        exact quote a b ha (ih b (by omega))
      · exact last s h
  exact hparts s.length s (Nat.le_refl _)

section
variable (f : MarkerId → MarkerId)

theorem renamePart_digits (id : MarkerId) : renamePart f id.digits = (f id).digits := by
  have h := renameText_toText f id
  rw [MarkerId.toText] at h
  rw [renamePart, h, MarkerId.toText, String.toList_ofList]

theorem renamePart_of_ne {part : List Char} (h : ∀ id, f id ≠ id → part ≠ id.digits) :
    renamePart f part = part := by
  by_cases hid : ∃ id : MarkerId, part = id.digits
  · obtain ⟨id, hid⟩ := hid
    by_cases hf : f id = id
    · rw [hid, renamePart_digits, hf]
    · exact absurd hid (h id hf)
  · rw [renamePart, renameText_of_ne, String.toList_ofList]
    intro id hprint
    refine hid ⟨id, ?_⟩
    rw [← String.toList_ofList (l := part), ← hprint, MarkerId.toText, String.toList_ofList]

theorem quote_notMem_digits (id : MarkerId) : '"' ∉ id.digits :=
  fun hmem => absurd (mem_idDigits_of_mem_digits hmem) (by decide)

theorem quote_notMem_renamePart {part : List Char} (h : '"' ∉ part) :
    '"' ∉ renamePart f part := by
  by_cases hid : ∃ id : MarkerId, part = id.digits
  · obtain ⟨id, hid⟩ := hid
    rw [hid, renamePart_digits]
    exact quote_notMem_digits (f id)
  · rwa [renamePart_of_ne f fun id _ he => hid ⟨id, he⟩]

theorem renameParts_of_notMem {a : List Char} (h : '"' ∉ a) :
    renameParts f a = renamePart f a := by
  rw [renameParts, List.splitOn_eq_singleton h, List.map_singleton, List.intercalate_singleton]

theorem renameParts_cons {a : List Char} (h : '"' ∉ a) (b : List Char) :
    renameParts f (a ++ '"' :: b) = renamePart f a ++ '"' :: renameParts f b := by
  have hsplit : (a ++ '"' :: b).splitOn '"' = a :: b.splitOn '"' :=
    List.splitOnP_append_cons_of_forall_mem
      (fun c hc => beq_eq_false_iff_ne.2 fun he : c = '"' => h (he ▸ hc)) '"' rfl b
  have hne : (b.splitOn '"').map (renamePart f) ≠ [] :=
    fun he => List.splitOnP_ne_nil _ b (List.map_eq_nil_iff.1 he)
  rw [renameParts, hsplit, List.map_cons, List.intercalate_cons_of_ne_nil hne, List.append_assoc]
  rfl

theorem renameParts_append (a b : List Char) :
    renameParts f (a ++ '"' :: b) = renameParts f a ++ '"' :: renameParts f b := by
  induction a using parts_induction with
  | last a ha => rw [renameParts_cons f ha, renameParts_of_notMem f ha]
  | quote a a' ha ih =>
    rw [List.append_assoc, List.cons_append, renameParts_cons f ha, renameParts_cons f ha, ih,
      List.append_assoc, List.cons_append]

/-- Renaming can be undone. -/
theorem renameParts_cancel {f g : MarkerId → MarkerId} (h : ∀ id, g (f id) = id) (s : List Char) :
    renameParts g (renameParts f s) = s := by
  have hpart (a : List Char) : renamePart g (renamePart f a) = a := by
    by_cases hid : ∃ id : MarkerId, a = id.digits
    · obtain ⟨id, hid⟩ := hid
      rw [hid, renamePart_digits, renamePart_digits, h]
    · have hne (id : MarkerId) : a ≠ id.digits := fun he => hid ⟨id, he⟩
      rw [renamePart_of_ne f fun id _ => hne id, renamePart_of_ne g fun id _ => hne id]
  induction s using parts_induction with
  | last a ha =>
    rw [renameParts_of_notMem f ha, renameParts_of_notMem g (quote_notMem_renamePart f ha), hpart]
  | quote a b ha ih =>
    rw [renameParts_cons f ha, renameParts_cons g (quote_notMem_renamePart f ha), hpart, ih]

/-- A text that holds no identifier that the renaming changes stays as it is. -/
theorem renameParts_eq_self {s : List Char} (h : ∀ id, f id ≠ id → ¬ id.digits <:+: s) :
    renameParts f s = s := by
  induction s using parts_induction with
  | last a ha =>
    rw [renameParts_of_notMem f ha]
    exact renamePart_of_ne f fun id hid he => h id hid (he ▸ List.infix_rfl)
  | quote a b ha ih =>
    rw [renameParts_cons f ha, ih, renamePart_of_ne]
    · intro id hid he
      exact h id hid (he ▸ (List.prefix_append a ('"' :: b)).isInfix)
    · intro id hid hin
      exact h id hid (hin.trans (List.suffix_append_of_suffix (List.suffix_cons _ _)).isInfix)

end

/-! ## The sketch of a renaming -/

/-- The text with the identifiers renamed that stand alone, between quotation marks and the ends. -/
def renameWord (f : MarkerId → MarkerId) (s : String) : String :=
  String.ofList (renameParts f s.toList)

theorem renameWord_injective (π : Equiv.Perm MarkerId) : Function.Injective (renameWord π) := by
  intro s s' h
  have hlist := congrArg (fun s => renameParts π.symm s.toList) h
  simp only [renameWord, String.toList_ofList, renameParts_cancel π.symm_apply_apply] at hlist
  exact String.toList_injective hlist

theorem renameWord_of_length_lt (f : MarkerId → MarkerId) (s : String) (h : s.length < 32) :
    renameWord f s = s := by
  rw [renameWord, renameParts_eq_self, String.ofList_toList]
  intro id _ hin
  have hlength := hin.length_le
  rw [MarkerId.length_digits, String.length_toList] at hlength
  omega

/-- The sketch in which identifiers are renamed. -/
def Sketch.renamed (π : Equiv.Perm MarkerId) : Sketch :=
  { textless with
    word := renameWord π
    injective := renameWord_injective π
    short := renameWord_of_length_lt π }

section
variable (π : Equiv.Perm MarkerId)

theorem Sketch.renamed_word (s : List Char) :
    (renamed π).word (String.ofList s) = String.ofList (renameParts π s) := by
  show renameWord π (String.ofList s) = _
  rw [renameWord, String.toList_ofList]

/-- Marker attributes follow the renaming. -/
theorem Sketch.follows_renamed : Document.Follows (renamed π).word π := by
  intro id m
  have hprint : (renamed π).word id.toText = (π id).toText := by
    rw [MarkerId.toText, renamed_word, renameParts_of_notMem _ (quote_notMem_digits id),
      renamePart_digits, MarkerId.toText]
  rw [← hprint, (renamed π).injective.eq_iff]

end

/-! ## Words of glyphs -/

section
variable {π : Equiv.Perm MarkerId} {ids ids' : IdSupply} {t a b : List Glyph}

open Glyph

/-- After a digit an identifier goes on to its end. -/
theorem Regular.run_from {n : Nat} (k : Nat) : ∀ {t : List Glyph} {i : Nat}, i + k = 31 →
    Regular π ids ids' t → t.head? = some (digit n i) →
    ∃ b, t = (List.range' i (k + 1)).map (digit n) ++ b ∧
      (b = [] ∨ ∃ b', b = char '"' :: b') := by
  induction k with
  | zero =>
    intro t i hi h ht
    obtain ⟨b, rfl⟩ := List.head?_eq_some_iff.1 ht
    refine ⟨b, rfl, ?_⟩
    cases b with
    | nil => exact .inl rfl
    | cons g b =>
      have hjoin := (List.isChain_cons_cons.1 h.joined).1
      cases g with
      | char c => exact .inr ⟨b, by rw [hjoin.1]⟩
      | digit m j =>
        have := hjoin.2.2
        omega
  | succ k ih =>
    intro t i hi h ht
    obtain ⟨b, rfl⟩ := List.head?_eq_some_iff.1 ht
    cases b with
    | nil =>
      have := h.ends n i rfl
      omega
    | cons g b =>
      have hjoin := (List.isChain_cons_cons.1 h.joined).1
      cases g with
      | char c =>
        have := hjoin.2
        omega
      | digit m j =>
        obtain ⟨rfl, rfl, _⟩ := hjoin
        obtain ⟨b', hb', hquote⟩ := ih (i := i + 1) (by omega)
          (Regular.back (a := [digit n i]) h) rfl
        refine ⟨b', ?_, hquote⟩
        have hrange : List.range' i (k + 1 + 1) = i :: List.range' (i + 1) (k + 1) :=
          List.range'_succ
        rw [hrange, List.map_cons, List.cons_append, ← hb']

/-- Before the first quotation mark there is no identifier, unless there is one at the start. -/
theorem isDigit_eq_false_of_mem_takeWhile : ∀ {t : List Glyph}, t.IsChain Joins →
    (∀ g ∈ t.head?, g.isDigit = false) → ∀ g ∈ t.takeWhile (· ≠ char '"'), g.isDigit = false := by
  intro t
  induction t with
  | nil => exact fun _ _ g hg => absurd hg List.not_mem_nil
  | cons g t ih =>
    intro h hhead x hx
    have hg := hhead g rfl
    by_cases hq : g = char '"'
    · rw [List.takeWhile_cons_of_neg (by simp [hq])] at hx
      exact absurd hx List.not_mem_nil
    · rw [List.takeWhile_cons_of_pos (by simpa using hq), List.mem_cons] at hx
      rcases hx with rfl | hx
      · exact hg
      · refine ih (List.isChain_of_isChain_cons h) (fun y hy => ?_) x hx
        have hjoin := (List.isChain_append.1 (show ([g] ++ t).IsChain Joins from h)).2.2 g rfl y hy
        obtain ⟨c, rfl⟩ := exists_char_of_isDigit_eq_false hg
        cases y with
        | char d => rfl
        | digit n i => exact absurd (congrArg char hjoin.1) hq

/-- A text without an identifier at its start is read alike up to its first quotation mark. -/
theorem Regular.exists_quote (h : Regular π ids ids' t) (hhead : ∀ g ∈ t.head?, g.isDigit = false) :
    ∃ (u : List Char) (b : List Glyph), t = u.map char ++ b ∧ '"' ∉ u ∧
      (b = [] ∨ ∃ b', b = char '"' :: b') := by
  obtain ⟨u, hu⟩ := exists_map_char (isDigit_eq_false_of_mem_takeWhile h.joined hhead)
  have hsplit := (List.takeWhile_append_dropWhile (p := (· ≠ char '"')) (l := t)).symm
  rw [hu] at hsplit
  refine ⟨u, _, hsplit, fun hmem => ?_, dropWhile_eq_nil_or_cons (fun g hg => by simpa using hg) t⟩
  have hchar : char '"' ∈ t.takeWhile (· ≠ char '"') := hu ▸ List.mem_map_of_mem hmem
  simpa using List.mem_takeWhile_imp hchar

theorem Regular.run_of_head (h : Whole π ids ids' t) {n i : Nat}
    (ht : t.head? = some (digit n i)) :
    ∃ b, t = run n ++ b ∧ (b = [] ∨ ∃ b', b = char '"' :: b') := by
  obtain rfl := h.starts n i ht
  have hrun := h.toRegular.run_from 31 rfl ht
  rwa [← List.range_eq_range'] at hrun

/-- A whole text is the digits of one identifier, or characters without quotation marks, or either
of these, a quotation mark and another whole text. -/
theorem Whole.induction {P : List Glyph → Prop}
    (literal : ∀ u : List Char, '"' ∉ u → Whole π ids ids' (u.map char) → P (u.map char))
    (identifier : ∀ n, π (ids n) = ids' n → P (run n))
    (quote : ∀ a b, char '"' ∉ a → P a → P b → P (a ++ char '"' :: b)) :
    ∀ {t}, Whole π ids ids' t → P t := by
  have hpart {t a b : List Glyph} (h : Whole π ids ids' t) (ht : t = a ++ b)
      (hb : b = [] ∨ ∃ b', b = char '"' :: b') (ha : char '"' ∉ a) (hP : P a)
      (ih : ∀ b', b'.length < t.length → Whole π ids ids' b' → P b') : P t := by
    subst ht
    rcases hb with rfl | ⟨b, rfl⟩
    · rwa [List.append_nil]
    · refine quote a b ha hP (ih b ?_ (Regular.back h.toRegular).tail)
      rw [List.length_append, List.length_cons]
      omega
  have hall (k : Nat) : ∀ t : List Glyph, t.length = k → Whole π ids ids' t → P t := by
    induction k using Nat.strongRecOn with
    | ind k ih =>
      intro t hk h
      have ih' (b' : List Glyph) (hb' : b'.length < t.length) := ih b'.length (hk ▸ hb') b' rfl
      cases hhead : t.head? with
      | none =>
        rw [List.head?_eq_none_iff] at hhead
        rw [hhead]
        exact literal [] List.not_mem_nil .nil
      | some g =>
        cases g with
        | char c =>
          obtain ⟨u, b, ht, hfree, hquote⟩ := h.exists_quote fun g hg => by
            rw [hhead] at hg
            cases hg
            rfl
          refine hpart h ht hquote (fun hmem => ?_) (literal u hfree ?_) ih'
          · obtain ⟨c, hc, hcq⟩ := List.mem_map.1 hmem
            exact hfree (char.inj hcq ▸ hc)
          · rw [ht] at h
            exact h.front_char
        | digit n i =>
          obtain ⟨b, hb, hquote⟩ := Regular.run_of_head h hhead
          refine hpart h hb hquote ?_ (identifier n (h.named n i ?_)) ih'
          · intro hmem
            obtain ⟨i, _, hi⟩ := List.mem_map.1 hmem
            cases hi
          · exact List.mem_of_mem_head? hhead
  exact fun {t} h => hall t.length t rfl h

theorem renameParts_digits (id : MarkerId) : renameParts π id.digits = (π id).digits := by
  rw [renameParts_of_notMem _ (quote_notMem_digits id), renamePart_digits]

theorem expand_digits (inAttribute : Bool) (id : MarkerId) :
    expand inAttribute id.digits = id.digits := by
  have hall : idDigits.all (fun c => c ≠ '&' ∧ c ≠ '\x00') = true := by decide
  exact expand_of_forall inAttribute fun c (hc : c ∈ id.digits) =>
    of_decide_eq_true (List.all_eq_true.1 hall c (mem_idDigits_of_mem_digits hc))

theorem lower_digits (id : MarkerId) :
    (id.digits.map fun c => withoutNull c.toLower) = id.digits := by
  exact (List.map_congr_left fun c (hc : c ∈ id.digits) =>
    eq_of_mem_idDigits (f := fun c => withoutNull c.toLower) (by decide)
      (mem_idDigits_of_mem_digits hc)).trans (List.map_id' id.digits)

/-- The value of an attribute follows the renaming. -/
theorem Whole.renameParts_expand (h : Whole π ids ids' t) :
    renameParts π (expand true (t.map (read ids))) = expand true (t.map (read ids')) := by
  refine Whole.induction (P := fun t => renameParts π (expand true (t.map (read ids))) =
    expand true (t.map (read ids'))) (fun u _ h => ?_) (fun n hn => ?_)
    (fun a b _ iha ihb => ?_) h
  · rw [map_read_char, map_read_char]
    exact renameParts_eq_self π fun id hid hin => h.fresh u List.infix_rfl id hid (.inr hin)
  · rw [map_read_run, map_read_run, expand_digits, expand_digits, renameParts_digits, hn]
  · rw [List.map_append, List.map_append, List.map_cons, List.map_cons, Glyph.read, Glyph.read,
      expand_append true (by decide), expand_append true (by decide), renameParts_append, iha, ihb]

/-- A lower-case name that holds an identifier spells it. -/
theorem spells_of_infix_lower {id : MarkerId} {u : List Char}
    (h : id.digits <:+: u.map fun c => withoutNull c.toLower) : Spells id u := by
  obtain ⟨v, hv, hdigits⟩ := List.infix_map_iff.1 h
  have hnull {c : Char} (hc : withoutNull c ∈ idDigits) : c = withoutNull c := by
    rw [withoutNull] at hc ⊢
    split at hc
    · exact absurd hc (by decide)
    · next hne => rw [if_neg hne]
  refine .inl (hdigits ▸ (?_ : (v.map fun c => withoutNull c.toLower) <:+: u.map Char.toLower))
  have hmap : (v.map fun c => withoutNull c.toLower) = v.map Char.toLower := by
    refine List.map_congr_left fun c hc => (hnull ?_).symm
    have hmem : withoutNull c.toLower ∈ id.digits := by
      rw [hdigits]
      exact List.mem_map_of_mem hc
    exact mem_idDigits_of_mem_digits hmem
  rw [hmap]
  exact hv.map _

/-- The name of an attribute follows the renaming. -/
theorem Whole.renameParts_lower (h : Whole π ids ids' t) :
    renameParts π ((t.map (read ids)).map fun c => withoutNull c.toLower) =
      (t.map (read ids')).map fun c => withoutNull c.toLower := by
  refine Whole.induction (P := fun t =>
    renameParts π ((t.map (read ids)).map fun c => withoutNull c.toLower) =
      (t.map (read ids')).map fun c => withoutNull c.toLower) (fun u _ h => ?_) (fun n hn => ?_)
    (fun a b _ iha ihb => ?_) h
  · rw [map_read_char, map_read_char]
    exact renameParts_eq_self π fun id hid hin =>
      h.fresh u List.infix_rfl id hid (spells_of_infix_lower hin)
  · rw [map_read_run, map_read_run, lower_digits, lower_digits, renameParts_digits, hn]
  · simp only [List.map_append, List.map_cons, Glyph.read] at iha ihb ⊢
    have hquote : withoutNull '"'.toLower = '"' := by decide
    rw [hquote, renameParts_append, iha, ihb]

theorem Whole.word_expand (h : Whole π ids ids' t) :
    (Sketch.renamed π).word (String.ofList (expand true (t.map (read ids)))) =
      String.ofList (expand true (t.map (read ids'))) := by
  rw [Sketch.renamed_word, h.renameParts_expand]

theorem Whole.word_lowerName (h : Whole π ids ids' t) :
    (Sketch.renamed π).word (lowerName (t.map (read ids))) = lowerName (t.map (read ids')) := by
  rw [lowerName, Sketch.renamed_word, h.renameParts_lower, lowerName]

end

/-! ## Texts that differ in digits -/

/-- Two characters are the same or both digits of identifiers. -/
def SameFace (c c' : Char) : Prop := c = c' ∨ c ∈ idDigits ∧ c' ∈ idDigits

theorem SameFace.eq_iff {c c' x : Char} (h : SameFace c c') (hx : x ∉ idDigits) :
    c = x ↔ c' = x := by
  rcases h with rfl | ⟨hc, hc'⟩
  · exact Iff.rfl
  · exact ⟨fun he => absurd (he ▸ hc) hx, fun he => absurd (he ▸ hc') hx⟩

theorem SameFace.eq_of_blind {c c' : Char} (h : SameFace c c') {p : Char → Bool} (hp : Blind p) :
    p c = p c' := by
  rcases h with rfl | ⟨hc, hc'⟩
  · rfl
  · rw [hp.eq hc, hp.eq hc']

theorem sameFace_refl (s : List Char) : List.Forall₂ SameFace s s :=
  List.forall₂_same.2 fun _ _ => .inl rfl

/-- A function that keeps digits keeps what differs in digits only so. -/
theorem sameFace_map {f : Char → Char} (hf : idDigits.all (fun c => f c == c) = true)
    {s s' : List Char} (h : List.Forall₂ SameFace s s') :
    List.Forall₂ SameFace (s.map f) (s'.map f) := by
  refine List.rel_map (fun c c' hc => ?_) h
  rcases hc with rfl | ⟨hc, hc'⟩
  · exact .inl rfl
  · rw [eq_of_mem_idDigits hf hc, eq_of_mem_idDigits hf hc']
    exact .inr ⟨hc, hc'⟩

section
variable {π : Equiv.Perm MarkerId} {ids ids' : IdSupply} {t : List Glyph}

open Glyph

theorem sameFace_read (g : Glyph) : SameFace (g.read ids) (g.read ids') := by
  cases g with
  | char c => exact .inl rfl
  | digit n i => exact .inr ⟨read_mem_idDigits rfl, read_mem_idDigits rfl⟩

theorem sameFace_map_read (t : List Glyph) :
    List.Forall₂ SameFace (t.map (read ids)) (t.map (read ids')) := by
  induction t with
  | nil => exact .nil
  | cons g t ih => exact .cons (sameFace_read g) ih

/-- Expanded texts differ in digits only, too. -/
theorem Whole.sameFace_expand (inAttribute : Bool) (h : Whole π ids ids' t) :
    List.Forall₂ SameFace (expand inAttribute (t.map (read ids)))
      (expand inAttribute (t.map (read ids'))) := by
  refine Whole.induction (P := fun t => List.Forall₂ SameFace
    (expand inAttribute (t.map (read ids))) (expand inAttribute (t.map (read ids'))))
    (fun u _ h => ?_) (fun n hn => ?_) (fun a b _ iha ihb => ?_) h
  · rw [map_read_char, map_read_char]
    exact sameFace_refl _
  · rw [map_read_run, map_read_run, expand_digits, expand_digits, ← map_read_run,
      ← map_read_run]
    exact sameFace_map_read (run n)
  · rw [List.map_append, List.map_append, List.map_cons, List.map_cons, Glyph.read, Glyph.read,
      expand_append inAttribute (by decide), expand_append inAttribute (by decide)]
    exact List.rel_append iha (.cons (.inl rfl) ihb)

end

end Stencil.Html
