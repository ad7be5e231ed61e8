import Stencil.Extraction.Frame
import Stencil.Proofs.Sample.Gaps
import Stencil.Proofs.Text.Trimming

/-!
# Texts without their annotations

Removing the annotations of a text passes over it once: a sign at which no annotation starts is
kept, and an annotation is left out (`removeAnnotations_keep`, `removeAnnotations_written`). Braces
that are kept close up around an annotation that is left out, so they may make a new one. `Nests`
says when they do: without the annotations in it, what they enclose is what an annotation says.
These texts, and no others, have annotations in them after the removal, and only these are changed
by a second removal or give another value once they are stripped (`removal_leaves_annotations_iff`).
-/

namespace Stencil

open Annotation (Spells Written)

/-! ## One pass -/

section
variable {s r inner back : List Char} {c : Char}

/-- What is left of a text are its gaps. -/
theorem removeAnnotations_eq {cut : Cutting} (h : Cut s cut) :
    removeAnnotations s = cut.gaps.flatten := by
  have hfirst : (((cut.annotations 0).map (·.span)).map fun span => (span, ([] : List Char))).map
      Prod.fst = (cut.annotations 0).map (·.span) := by
    rw [List.map_map]
    exact List.map_id' _
  have hsecond : ∀ fill ∈ (((cut.annotations 0).map (·.span)).map
      fun span => (span, ([] : List Char))).map Prod.snd, fill = [] := by
    rw [List.map_map]
    intro fill hfill
    obtain ⟨_, _, rfl⟩ := List.mem_map.1 hfill
    rfl
  rw [removeAnnotations, cutSpans, scan, h.found, ← h.text_eq,
    replaceSpans_annotations cut 0 hfirst, weave_of_nil hsecond]

theorem removeAnnotations_nil : removeAnnotations [] = [] := removeAnnotations_eq .nil

/-- A sign at which no annotation starts is kept. -/
theorem removeAnnotations_keep (h : ¬ StartsAnnotation (c :: r)) :
    removeAnnotations (c :: r) = c :: removeAnnotations r := by
  obtain ⟨cut, hcut⟩ := Cut.exists_cut r
  rw [removeAnnotations_eq (.keep h hcut), Cutting.flatten_gaps_push, removeAnnotations_eq hcut]

/-- An annotation is left out. -/
theorem removeAnnotations_written (w : Written) (rest : List Char) :
    removeAnnotations (w.text ++ rest) = removeAnnotations rest := by
  obtain ⟨cut, hcut⟩ := Cut.exists_cut rest
  rw [removeAnnotations_eq (.drop w hcut), removeAnnotations_eq hcut]
  rfl

/-- A text is told by what may come next in it: nothing, a sign at which no annotation starts or an
annotation. -/
@[elab_as_elim]
theorem annotation_induction {motive : List Char → Prop} (s : List Char) (nil : motive [])
    (keep : ∀ c r, ¬ StartsAnnotation (c :: r) → motive r → motive (c :: r))
    (written : ∀ (w : Written) (rest : List Char), motive rest → motive (w.text ++ rest)) :
    motive s := by
  obtain ⟨cut, hcut⟩ := Cut.exists_cut s
  induction hcut with
  | nil => exact nil
  | keep h _ ih => exact keep _ _ h ih
  | drop w _ ih => exact written w _ ih

/-- A text without annotations is kept. -/
theorem removeAnnotations_eq_self (h : ¬ IsAnnotated s) : removeAnnotations s = s := by
  induction s with
  | nil => exact removeAnnotations_nil
  | cons c r ih =>
    obtain ⟨hstart, hr⟩ := not_or.1 fun hor => h (isAnnotated_cons.2 hor)
    rw [removeAnnotations_keep hstart, ih hr]

/-- Every annotation that is removed takes an opening brace with it. -/
theorem count_brace_removeAnnotations (s : List Char) :
    (removeAnnotations s).count '\x7b' ≤ s.count '\x7b' ∧
      (IsAnnotated s → (removeAnnotations s).count '\x7b' < s.count '\x7b') := by
  induction s using annotation_induction with
  | nil =>
    rw [removeAnnotations_nil]
    exact ⟨Nat.le_refl _, fun h => absurd h not_isAnnotated_nil⟩
  | keep c r hstart ih =>
    rw [removeAnnotations_keep hstart, List.count_cons, List.count_cons]
    refine ⟨Nat.add_le_add_right ih.1 _, fun h => Nat.add_lt_add_right (ih.2 ?_) _⟩
    exact (isAnnotated_cons.1 h).resolve_left hstart
  | written w rest ih =>
    have hbrace : 0 < w.text.count '\x7b' := List.count_pos_iff.2 (List.mem_cons_self ..)
    rw [removeAnnotations_written, List.count_append]
    exact ⟨by omega, fun _ => by omega⟩

/-- A text is kept exactly when there is no annotation in it. -/
theorem removeAnnotations_eq_self_iff : removeAnnotations s = s ↔ ¬ IsAnnotated s := by
  refine ⟨fun h hannotated => ?_, removeAnnotations_eq_self⟩
  have hlt := (count_brace_removeAnnotations s).2 hannotated
  rw [h] at hlt
  exact Nat.lt_irrefl _ hlt

/-! ## Braces around annotations -/

/-- A closing brace that is left cuts the text where it stood. -/
theorem exists_of_removeAnnotations (hinner : '\x7b' ∉ inner)
    (h : removeAnnotations s = inner ++ '\x7d' :: back) :
    ∃ around after, s = around ++ '\x7d' :: after ∧ removeAnnotations around = inner := by
  induction s using annotation_induction generalizing inner with
  | nil =>
    rw [removeAnnotations_nil] at h
    simp at h
  | keep c r hstart ih =>
    rw [removeAnnotations_keep hstart] at h
    cases inner with
    | nil =>
      obtain ⟨rfl, _⟩ := List.cons.inj h
      exact ⟨[], r, rfl, removeAnnotations_nil⟩
    | cons d inner =>
      obtain ⟨rfl, hr⟩ := List.cons.inj h
      obtain ⟨around, after, rfl, hleft⟩ := ih (fun hmem => hinner (List.mem_cons_of_mem _ hmem)) hr
      refine ⟨c :: around, after, rfl, ?_⟩
      rw [removeAnnotations_keep fun hc => hinner (hc.eq_brace ▸ List.mem_cons_self ..), hleft]
  | written w rest ih =>
    rw [removeAnnotations_written] at h
    obtain ⟨around, after, rfl, hleft⟩ := ih hinner h
    refine ⟨w.text ++ around, after, (List.append_assoc ..).symm, ?_⟩
    rw [removeAnnotations_written, hleft]

/-- Where no opening brace is left the annotations are those of the part before a closing brace and
of the part after it. -/
theorem removeAnnotations_append_brace (h : '\x7b' ∉ removeAnnotations s) :
    removeAnnotations (s ++ '\x7d' :: back) =
      removeAnnotations s ++ '\x7d' :: removeAnnotations back := by
  induction s using annotation_induction with
  | nil =>
    rw [List.nil_append, removeAnnotations_keep fun hc => absurd hc.eq_brace (by decide),
      removeAnnotations_nil, List.nil_append]
  | keep c r hstart ih =>
    rw [removeAnnotations_keep hstart, List.mem_cons, not_or] at h
    rw [List.cons_append, removeAnnotations_keep fun hc => h.1 hc.eq_brace.symm, ih h.2,
      removeAnnotations_keep hstart, List.cons_append]
  | written w rest ih =>
    rw [removeAnnotations_written] at h
    rw [List.append_assoc, removeAnnotations_written, ih h, removeAnnotations_written]

end

/-- What stands before a closing brace has annotations in it, and without them it is what an
annotation says. -/
def ClosesNest (s : List Char) : Prop :=
  ∃ inner back kind name, s = inner ++ '\x7d' :: back ∧
    IsAnnotated inner ∧ Spells (removeAnnotations inner) kind name

/-- There are braces around annotations, and without these they enclose what an annotation says. -/
def Nests (s : List Char) : Prop := ∃ front back, s = front ++ '\x7b' :: back ∧ ClosesNest back

section
variable {s r : List Char} {c : Char}

theorem not_nests_nil : ¬ Nests [] := by
  rintro ⟨front, back, h, _⟩
  simp at h

/-- With one more sign in front of a text, what nests opens at that sign or further on. -/
theorem nests_cons : Nests (c :: r) ↔ (c = '\x7b' ∧ ClosesNest r) ∨ Nests r := by
  constructor
  · rintro ⟨front, back, h, hcloses⟩
    cases front with
    | nil =>
      obtain ⟨rfl, rfl⟩ := List.cons.inj h
      exact .inl ⟨rfl, hcloses⟩
    | cons d front =>
      obtain ⟨rfl, rfl⟩ := List.cons.inj h
      exact .inr ⟨front, back, rfl, hcloses⟩
  · rintro (⟨rfl, hcloses⟩ | ⟨front, back, rfl, hcloses⟩)
    · exact ⟨[], r, rfl, hcloses⟩
    · exact ⟨c :: front, back, rfl, hcloses⟩

theorem nests_append {front : List Char} (h : '\x7b' ∉ front) : Nests (front ++ s) ↔ Nests s :=
  append_iff_of_notMem (fun hc => nests_cons.trans (or_iff_right fun hopens => hc hopens.1)) h

/-- An annotation ends before anything can nest in its braces. -/
theorem not_closesNest (w : Written) (rest : List Char) :
    ¬ ClosesNest (w.inner ++ '\x7d' :: rest) := by
  have hopens : '\x7b' ∉ w.inner := fun h => (w.spells.ne_brace _ h).1 rfl
  have hfree : removeAnnotations w.inner = w.inner :=
    removeAnnotations_eq_self fun h => hopens h.brace_mem
  rintro ⟨inner, back, kind, name, h, hannotated, hspells⟩
  rw [← List.singleton_append, ← List.append_assoc] at h
  rcases List.append_eq_append_iff.1 h with ⟨a, rfl, -⟩ | ⟨a, ha, -⟩
  · -- The closing brace of the annotation would be left inside the braces.
    rw [List.append_assoc, List.singleton_append,
      removeAnnotations_append_brace (hfree.symm ▸ hopens)] at hspells
    exact (hspells.ne_brace '\x7d' (List.mem_append_right _ (List.mem_cons_self ..))).2 rfl
  · have hbrace := ha ▸ List.mem_append_left a hannotated.brace_mem
    exact (List.mem_append.1 hbrace).elim hopens (by decide)

/-- What nests does not open at an annotation or in it. -/
theorem nests_written (w : Written) (rest : List Char) : Nests (w.text ++ rest) ↔ Nests rest := by
  have hopens : '\x7b' ∉ w.inner ++ ['\x7d'] := fun h =>
    (List.mem_append.1 h).elim (fun h => (w.spells.ne_brace _ h).1 rfl) (by decide)
  rw [Written.text, List.cons_append, nests_cons, nests_append hopens, or_iff_right]
  rintro ⟨-, hcloses⟩
  rw [List.append_assoc] at hcloses
  exact not_closesNest w rest hcloses

/-- A sign starts an annotation after the removal if it is a brace that nests. -/
theorem startsAnnotation_removeAnnotations (h : ¬ StartsAnnotation (c :: r)) :
    StartsAnnotation (c :: removeAnnotations r) ↔ c = '\x7b' ∧ ClosesNest r := by
  constructor
  · rintro ⟨w, rest, heq⟩
    rw [Written.text, List.cons_append, List.append_assoc] at heq
    obtain ⟨rfl, hr⟩ := List.cons.inj heq
    obtain ⟨inner, back, rfl, hinner⟩ :=
      exists_of_removeAnnotations (fun hmem => (w.spells.ne_brace _ hmem).1 rfl) hr
    refine ⟨rfl, inner, back, w.kind, w.name, rfl, ?_, hinner ▸ w.spells⟩
    -- Without an annotation inside, the braces would enclose one before the removal too.
    by_contra hfree
    rw [removeAnnotations_eq_self hfree] at hinner
    refine h ⟨w, back, ?_⟩
    rw [Written.text, hinner, List.cons_append, List.append_assoc]
    rfl
  · rintro ⟨rfl, inner, back, kind, name, rfl, _, hspells⟩
    refine ⟨⟨_, kind, name, hspells⟩, removeAnnotations back, ?_⟩
    rw [removeAnnotations_append_brace fun hmem => (hspells.ne_brace _ hmem).1 rfl, Written.text,
      List.cons_append, List.append_assoc]
    rfl

/-- **Removal leaves annotations in the texts that nest.** -/
theorem isAnnotated_removeAnnotations (s : List Char) :
    IsAnnotated (removeAnnotations s) ↔ Nests s := by
  induction s using annotation_induction with
  | nil =>
    rw [removeAnnotations_nil]
    exact iff_of_false not_isAnnotated_nil not_nests_nil
  | keep c r hstart ih =>
    rw [removeAnnotations_keep hstart, isAnnotated_cons, nests_cons, ih,
      startsAnnotation_removeAnnotations hstart]
  | written w rest ih => rw [removeAnnotations_written, ih, nests_written]

end

/-! ## The same value -/

section
variable {s plain : List Char}

theorem Sample.eq_of_strip (h : Sample.strip s = .ok plain) : plain = removeAnnotations s := by
  rw [Sample.strip] at h
  split at h
  · cases h
  · cases h
    rfl

/-- As many opening braces are left in a value as the removal leaves. -/
theorem Extraction.count_brace_textValue (settings : ExtractionSettings) (d : Document)
    (node : Path) : (textValue settings d node).toList.count '\x7b' =
      (removeAnnotations (d.textAt node).toList).count '\x7b' := by
  rw [textValue, String.toList_ofList]
  split
  · exact Text.count_trim (by decide) _
  · rfl

end

/-- **Removal leaves annotations exactly in the texts that nest.** Only these have annotations in
them after the removal, only these are changed by a second removal, and only from these an element
gives another value once the text has been stripped. -/
theorem removal_leaves_annotations_iff (s : List Char) :
    (IsAnnotated (removeAnnotations s) ↔ Nests s) ∧
    (removeAnnotations (removeAnnotations s) = removeAnnotations s ↔ ¬ Nests s) ∧
    ∀ (settings : ExtractionSettings) (d d' : Document) (node node' : Path),
      (d.textAt node).toList = s → Sample.strip s = .ok (d'.textAt node').toList →
      (Extraction.textValue settings d node = Extraction.textValue settings d' node' ↔
        ¬ Nests s) := by
  have hleft := isAnnotated_removeAnnotations s
  have htwice : removeAnnotations (removeAnnotations s) = removeAnnotations s ↔ ¬ Nests s :=
    removeAnnotations_eq_self_iff.trans (not_congr hleft)
  refine ⟨hleft, htwice, fun settings d d' node node' htext hstrip => ⟨fun hvalue hnests => ?_,
    fun hnests => ?_⟩⟩
  · have hlt := (count_brace_removeAnnotations (removeAnnotations s)).2 (hleft.2 hnests)
    have hcount := congrArg (fun value : String => value.toList.count '\x7b') hvalue
    rw [Extraction.count_brace_textValue, Extraction.count_brace_textValue, htext,
      Sample.eq_of_strip hstrip] at hcount
    omega
  · rw [Extraction.textValue, Extraction.textValue, htext, Sample.eq_of_strip hstrip,
      htwice.2 hnests]

/-- Braces around the value `x` and a dollar sign with a name: an element with this text gives
another value than one with what is left of it. -/
theorem removal_leaves_annotations_iff_nested :
    let d : Document := ⟨[.element "p" none [.text "a\x7b\x7b$x\x7d$y\x7db"]]⟩
    let d' : Document := ⟨[.element "p" none [.text "a\x7b$y\x7db"]]⟩
    Sample.strip (d.textAt [0]).toList = .ok (d'.textAt [0]).toList ∧
      Nests (d.textAt [0]).toList ∧
      Extraction.textValue {} d [0] ≠ Extraction.textValue {} d' [0] := by
  intro d d'
  have hstrip : Sample.strip (d.textAt [0]).toList = .ok (d'.textAt [0]).toList := by
    decide +kernel
  have hnests : Nests (d.textAt [0]).toList := by
    refine ⟨['a'], "\x7b$x\x7d$y\x7db".toList, by decide +kernel,
      "\x7b$x\x7d$y".toList, ['b'], .value, some "y", by decide +kernel, by decide +kernel, ?_⟩
    exact Annotation.classify_eq_some_iff.1 (by decide +kernel)
  exact ⟨hstrip, hnests, fun hvalue =>
    ((removal_leaves_annotations_iff _).2.2 {} d d' [0] [0] rfl hstrip).1 hvalue hnests⟩

/-- The braces around an annotation and `$y` make an annotation when the removal is done. -/
theorem annotation_left_by_removal :
    let s := "\x7b\x7b$x\x7d$y\x7d".toList
    let d : Document := ⟨[.element "p" none [.text "\x7b\x7b$x\x7d$y\x7d"]]⟩
    let d' : Document := ⟨[.element "p" none [.text "\x7b$y\x7d"]]⟩
    removeAnnotations s = "\x7b$y\x7d".toList ∧ IsAnnotated (removeAnnotations s) ∧
      removeAnnotations (removeAnnotations s) ≠ removeAnnotations s ∧
      Sample.strip (d.textAt [0]).toList = .ok (d'.textAt [0]).toList ∧
      Extraction.textValue {} d [0] = "\x7b$y\x7d" ∧ Extraction.textValue {} d' [0] = "" := by
  decide +kernel

end Stencil
