import Mathlib.Logic.Function.Iterate
import Stencil.Proofs.Document.Skeleton
import Stencil.Proofs.Document.Splice

/-!
# Going from sibling to sibling

A step to the next sibling computes the logical children of the logical parent anew and looks for
the element among them. Whatever markers the siblings are inside of, the steps go along one row: from
any element of the logical children of a plain element they visit the rest of them, in turn and to
the end (`stepOn?_head?`). The row is in document order (`pairwise_logicalChildren`), and what a
marker in it holds is one stretch of it (`WithinMarkers.infix_logicalChildren`).
`siblings_enumerate_children` puts this together.
-/

namespace Stencil.Document

/-- Where one is after a number of steps to the next sibling. -/
def stepOn? (d : Document) (start : Option Path) (n : Nat) : Option Path :=
  (fun q => q.bind d.nextSibling?)^[n] start

/-- There is a marker at the second position, below the first one with markers only in between. -/
inductive WithinMarkers (d : Document) (p : Path) : Path → Prop where
  | child {i : Nat} (h : d.isMarkerAt (i :: p) = true) : WithinMarkers d p (i :: p)
  | deeper {m : Path} {i : Nat} (h : WithinMarkers d p m) (hi : d.isMarkerAt (i :: m) = true) :
    WithinMarkers d p (i :: m)

section
variable {d : Document} {p q m : Path}

/-! ## What markers hold -/

/-- What a marker holds stands together among the logical children of the element around it. -/
theorem infix_logicalChildren {i : Nat} (h : d.isMarkerAt (i :: p) = true) :
    d.logicalChildren (i :: p) <:+: d.logicalChildren p := by
  obtain ⟨tag, marker, children, hn⟩ := isMarkerAt_iff.1 h
  have hmarker : standing (i :: p) (.element tag (some marker) children) =
      d.logicalChildren (i :: p) := by
    rw [standing, logicalChildren, childrenAt_of_node? hn]
    rfl
  rw [node?] at hn
  obtain ⟨hlt, hget⟩ := List.getElem?_eq_some_iff.1 hn
  have hsplit : d.childrenAt p = (d.childrenAt p).take i ++
      .element tag (some marker) children :: (d.childrenAt p).drop (i + 1) := by
    rw [← hget, ← List.drop_eq_getElem_cons hlt, List.take_append_drop]
  have hrow : d.logicalChildren p = standingAll p 0 ((d.childrenAt p).take i) ++
      (d.logicalChildren (i :: p) ++ standingAll p (i + 1) ((d.childrenAt p).drop (i + 1))) := by
    conv_lhs => rw [logicalChildren, hsplit]
    rw [standingAll_append, List.length_take_of_le hlt.le, Nat.zero_add, standingAll, hmarker]
  rw [hrow, ← List.append_assoc]
  exact ⟨_, _, rfl⟩

/-- The same of a marker inside of other ones. -/
theorem WithinMarkers.infix_logicalChildren (h : d.WithinMarkers p m) :
    d.logicalChildren m <:+: d.logicalChildren p := by
  induction h with
  | child h => exact Document.infix_logicalChildren h
  | deeper _ hi ih => exact (Document.infix_logicalChildren hi).trans ih

/-! ## Steps -/

/-- From the first element of what is left of the logical children, the steps go through what is
left. -/
theorem stepOn?_head? (hp : d.IsPlainAt p) {row : List Path} (h : row <:+ d.logicalChildren p)
    (n : Nat) : d.stepOn? row.head? n = row[n]? := by
  obtain ⟨before, hrow⟩ := h
  induction n with
  | zero => exact List.head?_eq_getElem?
  | succ n ih =>
    rw [stepOn?] at ih
    rw [stepOn?, Function.iterate_succ_apply', ih]
    cases hq : row[n]? with
    | none => exact (List.getElem?_eq_none (Nat.le_succ_of_le (List.getElem?_eq_none_iff.1 hq))).symm
    | some q =>
      have hplace (k : Nat) : (d.logicalChildren p)[before.length + k]? = row[k]? := by
        rw [← hrow, List.getElem?_append_right (Nat.le_add_right _ _), Nat.add_sub_cancel_left]
      exact (nextSibling?_of_getElem? hp ((hplace n).trans hq)).trans (hplace (n + 1))

/-- **Steps to the next sibling enumerate the children.** Starting at the first child of a plain
element, one visits its logical children, one with each step, and is nowhere after the last one. All
of them have the element as their logical parent. The logical children of any position are the
elements that stand for its child nodes, in document order and each of them once. Starting at the
first child of a marker below the element, with markers only in between, one visits the end of that
same row that begins with the logical children of the marker. -/
theorem siblings_enumerate_children (hp : d.IsPlainAt p) :
    (∀ n, d.stepOn? (d.firstChild? p) n = (d.logicalChildren p)[n]?) ∧
    (∀ q ∈ d.logicalChildren p, d.logicalParent? q = some p) ∧
    (∀ r, (∀ q, q ∈ d.logicalChildren r ↔ ∃ i, Stands d (i :: r) q) ∧
      (d.logicalChildren r).Pairwise Precedes ∧ (d.logicalChildren r).Nodup) ∧
    ∀ m q, d.WithinMarkers p m → d.firstChild? m = some q →
      ∃ row, row <:+ d.logicalChildren p ∧ d.logicalChildren m <+: row ∧
        ∀ n, d.stepOn? (some q) n = row[n]? := by
  refine ⟨stepOn?_head? hp List.suffix_rfl, fun q hq => ((mem_logicalChildren_iff hp).1 hq).2,
    fun r => ⟨fun q => mem_logicalChildren_iff_stands, pairwise_logicalChildren d r,
      nodup_logicalChildren d r⟩, fun m q hm hq => ?_⟩
  obtain ⟨before, after, hrow⟩ := hm.infix_logicalChildren
  obtain ⟨rest, hrest⟩ := List.head?_eq_some_iff.1 hq
  have hsuffix : d.logicalChildren m ++ after <:+ d.logicalChildren p :=
    ⟨before, by rw [← List.append_assoc, hrow]⟩
  refine ⟨_, hsuffix, List.prefix_append _ _, fun n => ?_⟩
  rw [← stepOn?_head? hp hsuffix, hrest]
  rfl

/-- An empty marker in a marker, with texts and a comment between: the steps from the inner marker
leave it for the siblings after the outer one. -/
theorem siblings_enumerate_children_nested :
    let d : Document := ⟨[.element "ul" none [.text "a", .element "li" none [],
      .element "list-start" (some "1") [.comment "b", .element "value" (some "2") [],
        .element "list-next" (some "3") [.element "li" none [.text "c"]], .element "li" none []],
      .text "d", .element "p" none []]]⟩
    d.IsPlainAt [0] ∧ d.WithinMarkers [0] [2, 2, 0] ∧ d.firstChild? [2, 2, 0] = some [0, 2, 2, 0] ∧
      [0, 1, 2, 3, 4].map (d.stepOn? (d.firstChild? [0])) =
        [some [1, 0], some [0, 2, 2, 0], some [3, 2, 0], some [4, 0], none] ∧
      ∃ row, row <:+ d.logicalChildren [0] ∧ [[0, 2, 2, 0]] <+: row ∧
        ∀ n, d.stepOn? (some [0, 2, 2, 0]) n = row[n]? := by
  intro d
  have hp : d.IsPlainAt [0] := ⟨_, _, rfl⟩
  have hmarker : d.WithinMarkers [0] [2, 2, 0] := .deeper (.child rfl) rfl
  have hfirst : d.firstChild? [2, 2, 0] = some [0, 2, 2, 0] := by decide +kernel
  have hchildren : d.logicalChildren [0] = [[1, 0], [0, 2, 2, 0], [3, 2, 0], [4, 0]] := by
    decide +kernel
  have hheld : d.logicalChildren [2, 2, 0] = [[0, 2, 2, 0]] := by decide +kernel
  obtain ⟨hsteps, _, _, hmarkers⟩ := siblings_enumerate_children hp
  refine ⟨hp, hmarker, hfirst, ?_, hheld ▸ hmarkers _ _ hmarker hfirst⟩
  rw [funext hsteps, hchildren]
  rfl

end

end Stencil.Document
