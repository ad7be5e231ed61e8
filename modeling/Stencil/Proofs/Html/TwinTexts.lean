import Stencil.Html.Lexer
import Stencil.Proofs.Html.SketchParse
import Stencil.Proofs.Html.Words

/-!
# Texts read with two supplies of identifiers

Two texts are twins if they are the readings of one whole text by two supplies of identifiers. Twins
are lexed alike: each function of the lexer gives results that are alike, with rests that are twins
again (`TwinResult`). This module has the runs of characters (`readRun_twin`) and the references
(`readReference_twin`), which are read before the first quotation mark and so before any identifier.
-/

namespace Stencil.Html

open Glyph

/-- Two texts are the two readings of a whole text. -/
def Twin (π : Equiv.Perm MarkerId) (ids ids' : IdSupply) (s s' : List Char) : Prop :=
  ∃ t, Whole π ids ids' t ∧ s = t.map (read ids) ∧ s' = t.map (read ids')

/-- Two lexemes are alike, but for identifiers in attributes and for texts. -/
abbrev Like (π : Equiv.Perm MarkerId) : Lexeme → Lexeme → Prop :=
  Sketch.Alike (Sketch.renamed π) Sketch.textless

section
variable {s s' : List Char} {p : Char → Bool}

theorem takeWhile_sameFace (hp : Blind p) (h : List.Forall₂ SameFace s s') :
    List.Forall₂ SameFace (s.takeWhile p) (s'.takeWhile p) := by
  induction h with
  | nil => exact .nil
  | @cons c c' s s' hc _ ih =>
    rw [List.takeWhile_cons, List.takeWhile_cons, ← hc.eq_of_blind hp]
    split
    · exact .cons hc ih
    · exact .nil

theorem dropWhile_sameFace (hp : Blind p) (h : List.Forall₂ SameFace s s') :
    List.Forall₂ SameFace (s.dropWhile p) (s'.dropWhile p) := by
  induction h with
  | nil => exact .nil
  | @cons c c' s s' hc hs ih =>
    rw [List.dropWhile_cons, List.dropWhile_cons, ← hc.eq_of_blind hp]
    split
    · exact ih
    · exact .cons hc hs

theorem withoutNull_sameFace (h : List.Forall₂ SameFace s s') :
    List.Forall₂ SameFace (s.map withoutNull) (s'.map withoutNull) :=
  sameFace_map (by decide) h

end

section
variable {π : Equiv.Perm MarkerId} {s s' : List Char}

theorem isEmpty_ofList (s : List Char) : (String.ofList s).isEmpty = s.isEmpty := by
  rw [Bool.eq_iff_iff, String.isEmpty_iff, ← String.toList_eq_nil_iff, String.toList_ofList,
    List.isEmpty_iff]

theorem isEmpty_dropLineFeed (s : List Char) :
    (dropLineFeed (String.ofList s)).isEmpty = decide (s = [] ∨ s = ['\n']) := by
  rw [dropLineFeed, String.toList_ofList]
  split
  · next r =>
    rw [isEmpty_ofList, Bool.eq_iff_iff, decide_eq_true_iff, List.isEmpty_iff]
    simp
  · next hne =>
    rw [isEmpty_ofList, Bool.eq_iff_iff, decide_eq_true_iff, List.isEmpty_iff]
    exact ⟨.inl, fun h => h.resolve_right (hne [])⟩

/-- A text is used up by dropping a line feed at its start when its twin is. -/
theorem isEmpty_trim (h : List.Forall₂ SameFace s s') (skip : Bool) :
    (if skip then dropLineFeed (String.ofList s) else String.ofList s).isEmpty =
      (if skip then dropLineFeed (String.ofList s') else String.ofList s').isEmpty := by
  cases skip with
  | false =>
    rw [if_neg Bool.false_ne_true, if_neg Bool.false_ne_true, isEmpty_ofList, isEmpty_ofList]
    cases h <;> rfl
  | true =>
    rw [if_pos rfl, if_pos rfl, isEmpty_dropLineFeed, isEmpty_dropLineFeed]
    cases h with
    | nil => rfl
    | @cons c c' s s' hc hs =>
      have hbreak : c = '\n' ↔ c' = '\n' := hc.eq_iff (by decide)
      have hrest : s = [] ↔ s' = [] := by
        rw [← List.length_eq_zero_iff, ← List.length_eq_zero_iff, hs.length_eq]
      simp [hbreak, hrest]

theorem like_of_isEmpty {x : String → Lexeme} {σ τ : Sketch}
    (hx : ∀ s s', σ.lexeme (x s) = τ.lexeme (x s')) {s s' : String} (h : s.isEmpty = s'.isEmpty) :
    (if s.isEmpty then none else some (x s)).map σ.lexeme =
      (if s'.isEmpty then none else some (x s')).map τ.lexeme := by
  rw [h]
  split
  · rfl
  · exact congrArg some (hx s s')

theorem like_text (h : List.Forall₂ SameFace s s') :
    Like π (.text (String.ofList s)) (.text (String.ofList s')) :=
  fun skip => like_of_isEmpty (x := .text) (fun _ _ => rfl) (isEmpty_trim h skip)

theorem like_blank (h : List.Forall₂ SameFace s s') :
    Like π (.blank (String.ofList s)) (.blank (String.ofList s')) :=
  fun skip => like_of_isEmpty (x := .blank) (fun _ _ => rfl) (isEmpty_trim h skip)

theorem like_comment (text text' : String) : Like π (.comment text) (.comment text') :=
  fun _ => rfl

theorem like_endTag (name : String) : Like π (.endTag name) (.endTag name) := fun _ => rfl

theorem like_null : Like π .null .null := fun _ => rfl

theorem like_eof : Like π .eof .eof := fun _ => rfl

/-! ## Runs of characters -/

/-- The next runs of two texts that differ in digits are alike, and the rests differ in digits. -/
theorem takeRun_like (h : List.Forall₂ SameFace s s') :
    Like π (takeRun s).1 (takeRun s').1 ∧ List.Forall₂ SameFace (takeRun s).2 (takeRun s').2 := by
  cases h with
  | nil => exact ⟨like_eof, .nil⟩
  | @cons c c' s s' hc hs =>
    have hnull : c = '\x00' ↔ c' = '\x00' := hc.eq_iff (by decide)
    have hblank : isBlank c = isBlank c' := hc.eq_of_blind (by decide)
    have htext : Blind fun c => c ≠ '\x00' && !isBlank c := by decide
    rw [takeRun, takeRun, hblank]
    simp only [hnull]
    split
    · exact ⟨like_null, hs⟩
    · split
      · exact ⟨like_blank (.cons hc (takeWhile_sameFace (by decide) hs)),
          dropWhile_sameFace (by decide) hs⟩
      · exact ⟨like_text (.cons hc (takeWhile_sameFace htext hs)), dropWhile_sameFace htext hs⟩

theorem runs_like (h : List.Forall₂ SameFace s s') :
    List.Forall₂ (Like π) (runs s) (runs s') := by
  have hruns (n : Nat) : ∀ {s s' : List Char}, List.Forall₂ SameFace s s' →
      List.Forall₂ (Like π) (runsOf n s) (runsOf n s') := by
    induction n with
    | zero => exact fun _ => by rw [runsOf, runsOf]; exact .nil
    | succ n ih =>
      intro s s' h
      cases h with
      | nil => exact .nil
      | cons hc hs =>
        obtain ⟨hlike, hrest⟩ := takeRun_like (π := π) (.cons hc hs)
        rw [runsOf, runsOf]
        · exact .cons hlike (ih hrest)
        all_goals exact fun h => by cases h
  rw [runs, runs, h.length_eq]
  exact hruns _ h

theorem rawText_like (h : List.Forall₂ SameFace s s') :
    List.Forall₂ (Like π) (rawText s) (rawText s') := by
  rw [rawText, rawText]
  cases h with
  | nil => exact .nil
  | cons hc hs => exact .cons (like_text (.cons hc hs)) .nil

end

section
variable {α β γ δ : Type} {R : α → β → Prop} {S : γ → δ → Prop} {x : Option α} {y : Option β}

theorem eq_none_or_some_of_rel (h : Option.Rel R x y) :
    x = none ∧ y = none ∨ ∃ a b, x = some a ∧ y = some b ∧ R a b := by
  cases h with
  | none => exact .inl ⟨rfl, rfl⟩
  | some h => exact .inr ⟨_, _, rfl, rfl, h⟩

theorem rel_option_map {f : α → γ} {g : β → δ} (h : Option.Rel R x y)
    (hfg : ∀ a b, R a b → S (f a) (g b)) : Option.Rel S (x.map f) (y.map g) := by
  cases h with
  | none => exact .none
  | some h => exact .some (hfg _ _ h)

end

section
variable {π : Equiv.Perm MarkerId} {ids ids' : IdSupply} {t : List Glyph}

/-- The lexemes and the rests of two texts. -/
def TwinResult (π : Equiv.Perm MarkerId) (ids ids' : IdSupply)
    (x x' : List Lexeme × List Char) : Prop :=
  List.Forall₂ (Like π) x.1 x'.1 ∧ Twin π ids ids' x.2 x'.2

theorem readRun_twin {g : Glyph} (h : Whole π ids ids' (g :: t)) :
    TwinResult π ids ids' (readRun (g.read ids) (t.map (read ids)))
      (readRun (g.read ids') (t.map (read ids'))) := by
  have hface : SameFace (g.read ids) (g.read ids') := sameFace_read g
  have hs : List.Forall₂ SameFace (t.map (read ids)) (t.map (read ids')) := sameFace_map_read t
  have hnull (ids : IdSupply) : g.read ids = '\x00' ↔ g = char '\x00' := read_eq_iff (by decide)
  have hblank (ids : IdSupply) : isBlank (g.read ids) = isBlank g.face :=
    read_of_blind (by decide) g
  rw [readRun, readRun, hblank, hblank]
  simp only [hnull]
  split
  · next hg =>
    subst hg
    exact ⟨.cons like_null .nil, t, h.tail, rfl, rfl⟩
  · split
    · next hb =>
      have hg : g.isDigit = false := by
        cases g with
        | char c => rfl
        | digit n i => exact absurd hb (show ¬ isBlank '0' = true by decide)
      obtain ⟨c, rfl⟩ := exists_char_of_isDigit_eq_false hg
      refine ⟨.cons (like_blank (.cons hface (takeWhile_sameFace (by decide) hs))) .nil,
        _, h.tail.dropWhile (p := isBlank), ?_, ?_⟩
      · exact dropWhile_read (by decide) t
      · exact dropWhile_read (by decide) t
    · have htext : Blind fun c => c ≠ '\x00' && c ≠ '<' && c ≠ '&' && !isBlank c := by decide
      refine ⟨.cons (like_text (.cons hface (takeWhile_sameFace htext hs))) .nil,
        _, h.dropWhile_tail (p := fun c => c ≠ '\x00' && c ≠ '<' && c ≠ '&' && !isBlank c) rfl,
        ?_, ?_⟩
      · exact dropWhile_read htext t
      · exact dropWhile_read htext t

theorem Regular.isDigit_head?_tail {c : Char} (h : Regular π ids ids' (char c :: t))
    (hc : c ≠ '"') : ∀ g ∈ t.head?, g.isDigit = false := by
  intro g hg
  have hjoin := (List.isChain_append.1 (show ([char c] ++ t).IsChain Joins from h.joined)).2.2
    (char c) rfl g hg
  cases g with
  | char d => rfl
  | digit n i => exact absurd hjoin.1 hc

/-- A reference is read before the first quotation mark. -/
theorem readReference_twin (inAttribute : Bool) (h : Regular π ids ids' (char '&' :: t)) :
    Option.Rel (fun x x' => x.1 = x'.1 ∧ Twin π ids ids' x.2 x'.2)
      (readReference inAttribute (t.map (read ids)))
      (readReference inAttribute (t.map (read ids'))) := by
  obtain ⟨u, b, ht, _, hb⟩ := h.tail.exists_quote (h.isDigit_head?_tail (by decide))
  have hread (ids : IdSupply) : readReference inAttribute (t.map (read ids)) =
      (readReference inAttribute u).map (withRest (b.map (read ids))) := by
    rw [ht, List.map_append, map_read_char]
    rcases hb with rfl | ⟨b', rfl⟩
    · rw [List.map_nil, List.append_nil]
      cases readReference inAttribute u with
      | none => rfl
      | some x => rw [Option.map_some, withRest, List.append_nil]
    · exact readReference_append (q := '"') _ (by decide) inAttribute u
  rw [hread, hread]
  cases hu : readReference inAttribute u with
  | none => exact .none
  | some x =>
    obtain ⟨cs, rest⟩ := x
    obtain ⟨w, hw⟩ := readReference_suffix hu
    rw [Option.map_some, Option.map_some, withRest, withRest]
    refine .some ⟨rfl, rest.map char ++ b, ?_, ?_, ?_⟩
    · refine Whole.back_char (u := w) ?_
      rw [← List.append_assoc, ← List.map_append, hw, ← ht]
      exact h.tail
    · rw [List.map_append, map_read_char]
    · rw [List.map_append, map_read_char]

end

end Stencil.Html
