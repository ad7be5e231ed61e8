import Stencil.Proofs.Html.Fresh
import Stencil.Proofs.Sample.Removal

/-!
# Texts with markers for their annotations

Marking a text, stripping it and removing its annotations keep the same gaps: those of its `Cut`. A
marker stands between angle brackets and has no brace in it (`isBracketed_marker`), and no
annotation has an angle bracket in it. So an annotation in a marked text would lie in a gap, where
there is none (`not_isAnnotated_weave`).
-/

namespace Stencil

open Annotation (Written)

namespace Sample

/-! ## Markers -/

/-- Whether a sign is no line break and no opening brace. -/
def isPlain (c : Char) : Bool := c != '\r' && c != '\x7b'

/-- A text between angle brackets without line breaks and opening braces. -/
structure IsBracketed (s : List Char) : Prop where
  head : s.head? = some '<'
  last : s.getLast? = some '>'
  plain : s.all isPlain = true

theorem IsBracketed.append {s s' : List Char} (h : IsBracketed s) (h' : IsBracketed s') :
    IsBracketed (s ++ s') where
  head := by rw [List.head?_append, h.head]; rfl
  last := by rw [List.getLast?_append, h'.last]; rfl
  plain := by rw [List.all_append, h.plain, h'.plain]; rfl

theorem IsBracketed.notMem {s : List Char} (h : IsBracketed s) {c : Char} (hc : isPlain c = false) :
    c ∉ s := by
  intro hmem
  rw [List.all_eq_true.1 h.plain c hmem] at hc
  cases hc

theorem isBracketed_markerStart {tag : String} (h : tag.toList.all isPlain = true) (id : MarkerId) :
    IsBracketed (markerStart tag (some id)) := by
  have hdigits : id.digits.all isPlain = true := by
    have hall : Html.idDigits.all isPlain = true := by decide
    exact List.all_eq_true.2 fun c hc =>
      List.all_eq_true.1 hall c (Html.mem_idDigits_of_mem_digits hc)
  have hattribute : markerAttribute.toList.all isPlain = true := by decide
  refine ⟨rfl, ?_, ?_⟩
  · rw [markerStart, ← List.cons_append, List.getLast?_concat]
  · simp only [markerStart, List.all_cons, List.all_append, h, hattribute, hdigits]
    rfl

theorem isBracketed_markerEnd {tag : String} (h : tag.toList.all isPlain = true) :
    IsBracketed (markerEnd tag) := by
  refine ⟨rfl, ?_, ?_⟩
  · rw [markerEnd, ← List.cons_append, ← List.cons_append, List.getLast?_concat]
  · simp only [markerEnd, List.all_cons, List.all_append, h]
    rfl

/-- What stands for an annotation is a text between angle brackets. -/
theorem isBracketed_marker (id : MarkerId) {a : Annotation} (ha : a.kind ≠ .root) :
    IsBracketed (marker (tokenOf id a)) := by
  obtain ⟨span, kind, name⟩ := a
  cases kind with
  | root => exact absurd rfl ha
  | objectStart | listStart => exact isBracketed_markerStart (by decide) id
  | objectEnd | listEnd => exact isBracketed_markerEnd (by decide)
  | value =>
    have htag : "value".toList.all isPlain = true := by decide
    exact (isBracketed_markerStart htag id).append (isBracketed_markerEnd htag)

end Sample

/-! ## Markers and gaps -/

section
variable {s front back : List Char}

theorem isAnnotated_iff_infix : IsAnnotated s ↔ ∃ w : Written, w.text <:+: s := by
  constructor
  · rintro ⟨front, w, back, rfl⟩
    exact ⟨w, front, back, List.append_assoc ..⟩
  · rintro ⟨w, front, back, rfl⟩
    exact ⟨front, w, back, List.append_assoc ..⟩

/-- No annotation reaches over an angle bracket. -/
theorem isAnnotated_of_bracket (h : IsAnnotated (front ++ '<' :: back)) :
    IsAnnotated front ∨ IsAnnotated back := by
  obtain ⟨w, hw⟩ := isAnnotated_iff_infix.1 h
  have hnot : '<' ∉ w.text := by
    rw [Written.text, List.mem_cons, List.mem_append, not_or, not_or]
    exact ⟨by decide, fun hmem => absurd (w.spells.isSign_of_mem _ hmem) (by decide), by decide⟩
  exact (Html.infix_of_append_cons hnot hw).imp (fun h => isAnnotated_iff_infix.2 ⟨w, h⟩)
    fun h => isAnnotated_iff_infix.2 ⟨w, h⟩

end

/-- Free gaps with markers between them make no annotation. -/
theorem not_isAnnotated_weave {gaps fills : List (List Char)}
    (hgaps : ∀ gap ∈ gaps, ¬ IsAnnotated gap) (hlength : gaps.length = fills.length + 1)
    (hfills : ∀ fill ∈ fills, Sample.IsBracketed fill) : ¬ IsAnnotated (weave gaps fills) := by
  induction gaps generalizing fills with
  | nil => cases hlength
  | cons gap gaps ih =>
    obtain ⟨hgap, hgaps⟩ := List.forall_mem_cons.1 hgaps
    cases fills with
    | nil =>
      obtain rfl : gaps = [] := List.eq_nil_of_length_eq_zero (Nat.succ.inj hlength)
      rw [weave_of_nil (List.forall_mem_nil _), List.flatten_singleton]
      exact hgap
    | cons fill fills =>
      obtain ⟨hfill, hmore⟩ := List.forall_mem_cons.1 hfills
      obtain ⟨rest, rfl⟩ := List.head?_eq_some_iff.1 hfill.head
      have hbrace : '\x7b' ∉ rest := fun hmem =>
        hfill.notMem rfl (List.mem_cons_of_mem _ hmem)
      intro h
      rcases isAnnotated_of_bracket h with h | h
      · exact hgap h
      · exact ih hgaps (Nat.succ.inj hlength) hmore ((isAnnotated_append hbrace).1 h)

/-! ## Marked texts -/

theorem Cutting.length_gaps (cut : Cutting) (offset : Nat) :
    cut.gaps.length = (cut.annotations offset).length + 1 := by
  induction cut generalizing offset with
  | last gap => rfl
  | next gap w rest ih => exact congrArg (· + 1) (ih _)

theorem Cutting.kind_ne_root (cut : Cutting) (offset : Nat) :
    ∀ a ∈ cut.annotations offset, a.kind ≠ .root := by
  induction cut generalizing offset with
  | last gap => exact List.forall_mem_nil _
  | next gap w rest ih => exact List.forall_mem_cons.2 ⟨w.kind_ne_root, ih _⟩

namespace Sample

section
variable (ids : IdSupply) (n : Nat)

theorem markers_tokensFrom_cons (a : Annotation) (found : List Annotation) :
    markers (tokensFrom ids n (a :: found)) =
      (a.span, marker (tokenOf (ids n) a)) :: markers (tokensFrom ids (n + 1) found) := rfl

/-- Every token has its marker where its annotation stands. -/
theorem map_markers_tokensFrom (found : List Annotation) :
    (markers (tokensFrom ids n found)).map Prod.fst = found.map (·.span) ∧
      (markers (tokensFrom ids n found)).map Prod.snd = (tokensFrom ids n found).map marker := by
  induction found generalizing n with
  | nil => exact ⟨rfl, rfl⟩
  | cons a found ih =>
    obtain ⟨hfst, hsnd⟩ := ih (n + 1)
    rw [markers_tokensFrom_cons, tokensFrom]
    exact ⟨congrArg (a.span :: ·) hfst, congrArg (marker (tokenOf (ids n) a) :: ·) hsnd⟩

theorem length_tokensFrom (found : List Annotation) :
    (tokensFrom ids n found).length = found.length := by
  induction found generalizing n with
  | nil => rfl
  | cons a found ih => exact congrArg (· + 1) (ih _)

end

/-- The marked text: the gaps with the markers between them. -/
theorem inject_eq {s : List Char} {cut : Cutting} (h : Cut s cut) (ids : IdSupply) (n : Nat)
    (id : MarkerId) : inject (.root id :: tokensFrom ids n (cut.annotations 0)) s =
      weave cut.gaps ((tokensFrom ids n (cut.annotations 0)).map marker) := by
  have hroot : markers (.root id :: tokensFrom ids n (cut.annotations 0)) =
      markers (tokensFrom ids n (cut.annotations 0)) := rfl
  obtain ⟨hfst, hsnd⟩ := map_markers_tokensFrom ids n (cut.annotations 0)
  rw [inject, hroot, ← h.text_eq, replaceSpans_annotations cut 0 hfst, hsnd]

/-- No annotation is made where gaps and markers meet. -/
theorem not_isAnnotated_inject {s : List Char} {cut : Cutting} (h : Cut s cut) (ids : IdSupply)
    (n : Nat) :
    ¬ IsAnnotated (weave cut.gaps ((tokensFrom ids n (cut.annotations 0)).map marker)) := by
  refine not_isAnnotated_weave h.free ?_ fun fill hfill => ?_
  · rw [List.length_map, length_tokensFrom, cut.length_gaps 0]
  · obtain ⟨t, ht, rfl⟩ := List.mem_map.1 hfill
    obtain ⟨a, ha, id, rfl⟩ := exists_of_mem_tokensFrom ht
    exact isBracketed_marker id (cut.kind_ne_root 0 a ha)

end Sample

/-- **Marking, stripping and removing keep the same gaps.** A text is made of gaps with its
annotations between them, and the gaps are what their removal leaves. If the text has tokens, they
are those of the annotations, marking the text puts their markers between the gaps, and stripping it
leaves the gaps alone. There is no annotation in the marked text. -/
theorem marking_keeps_gaps (s : List Char) :
    ∃ cut : Cutting, cut.text = s ∧ (∀ a, a ∈ cut.annotations 0 ↔ a.StandsIn 0 s) ∧
      removeAnnotations s = cut.gaps.flatten ∧
      ∀ ids tokens, Sample.tokenize ids s = .ok tokens →
        tokens = .root (ids 0) :: Sample.tokensFrom ids 1 (cut.annotations 0) ∧
        Sample.inject tokens s = weave cut.gaps (tokens.tail.map Sample.marker) ∧
        Sample.strip s = .ok cut.gaps.flatten ∧
        ∀ a : Annotation, ¬ a.StandsIn 0 (Sample.inject tokens s) := by
  obtain ⟨cut, hcut⟩ := Cut.exists_cut s
  have hremove := removeAnnotations_eq hcut
  refine ⟨cut, hcut.text_eq, fun a => ?_, hremove, fun ids tokens htokens => ?_⟩
  · rw [← hcut.found 0]
    exact Scan.mem_found_iff
  · obtain ⟨plain, hstrip, _⟩ := Sample.strip_of_tokenize htokens
    rw [Sample.eq_of_strip hstrip, hremove] at hstrip
    have heq := (Sample.eq_of_tokenize htokens).2
    rw [scan, hcut.found 0] at heq
    subst heq
    have hinject := Sample.inject_eq hcut ids 1 (ids 0)
    refine ⟨rfl, hinject, hstrip, fun a ha => ?_⟩
    rw [hinject] at ha
    exact Sample.not_isAnnotated_inject hcut ids 1 ((isAnnotated_iff 0).2 ⟨a, ha⟩)

/-- Braces around no annotation stay in their gap, between a value and an object. -/
theorem marking_keeps_gaps_inert :
    let s := "A\x7b$x\x7dB \x7b inert \x7d C\x7b:o\x7dD\x7b:\x7dE".toList
    let ids : IdSupply := fun n => .ofNat n
    ∃ tokens, Sample.tokenize ids s = .ok tokens ∧
      Sample.strip s = .ok "AB \x7b inert \x7d CDE".toList ∧
      ∃ gaps : List (List Char), gaps.flatten = "AB \x7b inert \x7d CDE".toList ∧
        Sample.inject tokens s = weave gaps (tokens.tail.map Sample.marker) ∧
        ∀ a : Annotation, ¬ a.StandsIn 0 (Sample.inject tokens s) := by
  intro s ids
  have hplain : removeAnnotations s = "AB \x7b inert \x7d CDE".toList := by decide +kernel
  have hopen : (scan s).unterminated = none := by decide +kernel
  have htokens : Sample.tokenize ids s =
      .ok (.root (ids 0) :: Sample.tokensFrom ids 1 (scan s).found) := by
    rw [Sample.tokenize, hopen]
  obtain ⟨cut, _, _, hgaps, hmarked⟩ := marking_keeps_gaps s
  obtain ⟨_, hinject, hstrip, hfree⟩ := hmarked ids _ htokens
  rw [← hgaps, hplain] at hstrip
  exact ⟨_, htokens, hstrip, cut.gaps, hgaps.symm.trans hplain, hinject, hfree⟩

end Stencil
