import Mathlib.Data.List.Forall2
import Stencil.Proofs.Document.Standing

/-!
# Documents walked in step

Queries see the tags of elements and the order of their logical children. If a relation between the
positions of two documents keeps both (`InStep`), then a query that leads from one of two related
positions somewhere leads from the other to a related position: by one step
(`InStep.rel_resolveStep?`) and along an address (`InStep.rel_resolve?`).
-/

namespace Stencil.Document

/-! ## Lists related one by one -/

section
variable {α β : Type} {R : α → β → Prop} {l : List α} {l' : List β}

theorem rel_getElem?_of_forall₂ (h : List.Forall₂ R l l') (i : Nat) :
    Option.Rel R l[i]? l'[i]? := by
  induction h generalizing i with
  | nil => exact .none
  | cons hx _ ih =>
    cases i with
    | zero => exact .some hx
    | succ i => exact ih i

theorem rel_find?_of_forall₂ {c : α → Bool} {c' : β → Bool} (h : List.Forall₂ R l l')
    (hc : ∀ x y, R x y → c x = c' y) : Option.Rel R (l.find? c) (l'.find? c') := by
  induction h with
  | nil => exact .none
  | @cons x y _ _ hx _ ih =>
    rw [List.find?_cons, List.find?_cons, hc x y hx]
    cases c' y with
    | true => exact .some hx
    | false => exact ih

end

/-! ## Queries -/

/-- Related positions have one tag, and their logical children are related one by one. -/
structure InStep (d d' : Document) (R : Path → Path → Prop) : Prop where
  tag? {p p' : Path} (h : R p p') : d.tag? p = d'.tag? p'
  children {p p' : Path} (h : R p p') :
    List.Forall₂ R (d.logicalChildren p) (d'.logicalChildren p')

namespace InStep

section
variable {d d' : Document} {R : Path → Path → Prop} {p p' : Path} (h : InStep d d' R)
include h

/-- A step takes the same choice among the logical children of related elements: each of its three
kinds of place sees their number and tags only. -/
theorem rel_childAt? (hp : R p p') (s : Step) :
    Option.Rel R (d.childAt? p s) (d'.childAt? p' s) := by
  have hchildren := h.children hp
  obtain ⟨tag, place⟩ := s
  match place with
  | some (.at i) => exact rel_getElem?_of_forall₂ hchildren i
  | some .last =>
    show Option.Rel _ (d.logicalChildren p).getLast? (d'.logicalChildren p').getLast?
    rw [List.getLast?_eq_getElem?, List.getLast?_eq_getElem?, hchildren.length_eq]
    exact rel_getElem?_of_forall₂ hchildren _
  | none => exact rel_find?_of_forall₂ hchildren fun q q' hq => by rw [h.tag? hq]

theorem rel_resolveStep? (hp : R p p') (s : Step) :
    Option.Rel R (d.resolveStep? p s) (d'.resolveStep? p' s) := by
  have hchild := h.rel_childAt? hp s
  rw [resolveStep?, resolveStep?]
  generalize d.childAt? p s = x at hchild ⊢
  generalize d'.childAt? p' s = x' at hchild ⊢
  cases hchild with
  | none => exact .none
  | some hq =>
    dsimp only
    rw [h.tag? hq]
    split
    · exact .some hq
    · exact .none

/-- An address leads from related elements to related elements, or from neither of them anywhere. -/
theorem rel_resolve? (hp : R p p') (a : Address) :
    Option.Rel R (d.resolve? p a) (d'.resolve? p' a) := by
  obtain ⟨steps⟩ := a
  rw [resolve?, resolve?]
  induction steps generalizing p p' with
  | nil => exact .some hp
  | cons s steps ih =>
    have hstep := h.rel_resolveStep? hp s
    rw [resolveSteps?, resolveSteps?]
    generalize d.resolveStep? p s = x at hstep ⊢
    generalize d'.resolveStep? p' s = x' at hstep ⊢
    cases hstep with
    | none => exact .none
    | some hq => exact ih hq

end

end InStep

end Stencil.Document
