import Stencil.Proofs.Document.Standing

/-!
# Addresses and resolution

An address is computed upwards, from a node to the top element, and followed downwards, one step
after the other. `resolve?_append` takes a walk along an address apart, and `resolve?_addressOf` is
the inversion: from a top element that is not a marker, the address of a plain element below it
leads to that element. It rests on the agreement of logical children and parents
(`mem_logicalChildren_iff`), one step at a time (`resolveStep?_stepTo`).
-/

namespace Stencil.Document

section
variable {d : Document} {p q r : Path}

/-! ## Following addresses -/

theorem resolveSteps?_append (d : Document) (p : Path) (xs ys : List Step) :
    d.resolveSteps? p (xs ++ ys) = (d.resolveSteps? p xs).bind fun q => d.resolveSteps? q ys := by
  induction xs generalizing p with
  | nil => rfl
  | cons x xs ih =>
    rw [List.cons_append, resolveSteps?, resolveSteps?]
    cases d.resolveStep? p x with
    | none => rfl
    | some q => exact ih q

/-- An address after another is followed from where the first one leads. -/
theorem resolve?_append (d : Document) (p : Path) (a b : Address) :
    d.resolve? p (a ++ b) = (d.resolve? p a).bind fun q => d.resolve? q b :=
  resolveSteps?_append d p a.steps b.steps

/-- A step leads to the child in its place if the child has its tag, and else nowhere. -/
theorem resolveStep?_eq_some_iff {s : Step} :
    d.resolveStep? p s = some q ↔ d.childAt? p s = some q ∧ d.tag? q = some s.tag := by
  rw [resolveStep?]
  cases hc : d.childAt? p s with
  | none => exact ⟨nofun, fun h => nomatch h.1⟩
  | some r =>
    dsimp only
    rw [Option.ite_none_right_eq_some]
    constructor
    · rintro ⟨htag, ⟨⟩⟩
      exact ⟨rfl, htag⟩
    · rintro ⟨⟨⟩, htag⟩
      exact ⟨htag, rfl⟩

/-- The step to a logical child leads there: its place is one at which the child stands, and its tag
is the child's. -/
theorem resolveStep?_stepTo (h : q ∈ d.logicalChildren p) :
    d.resolveStep? p (d.stepTo p q) = some q := by
  obtain ⟨i, hi⟩ := Option.isSome_iff_exists.1 (List.isSome_idxOf?.2 h)
  obtain ⟨hlt, hget, _⟩ := List.idxOf?_eq_some_iff.1 hi
  have hchild : d.childAt? p (d.stepTo p q) = some q := by
    simp only [childAt?, stepTo, hi, Option.getD_some]
    rw [List.getElem?_eq_getElem hlt, hget]
  obtain ⟨j, hs⟩ := mem_logicalChildren_iff_stands.1 h
  exact resolveStep?_eq_some_iff.2 ⟨hchild, hs.isPlainAt.tag?_eq⟩

/-! ## Computing addresses -/

theorem stepsTo_root (h : d.root? = some p) : d.stepsTo p = [] := by
  rw [stepsTo, if_pos h]

/-- A plain element below the top has one step more than its logical parent. -/
theorem stepsTo_of_logicalParent? (hroot : d.root? ≠ some p) (hp : d.IsPlainAt p)
    (hparent : d.logicalParent? p = some q) :
    d.stepsTo p = d.stepsTo q ++ [d.stepTo q p] := by
  rw [stepsTo, if_neg hroot]
  split
  · next h => rw [hparent] at h; cases h
  · next parent h =>
    rw [hparent] at h
    cases h
    rw [hp.not_isMarkerAt]
    rfl

/-! ## Going up -/

/-- From a node at or below a plain element, the nearest plain element upwards exists and is not
above that one. -/
theorem exists_nearest?_of_suffix {n : Node} (hr : d.IsPlainAt r) (hp : d.node? p = some n)
    (helement : ∃ tag m children, n = .element tag m children) (h : r <:+ p) :
    ∃ q, d.nearest? p = some q ∧ r <:+ q := by
  induction p generalizing n with
  | nil => simp [node?] at hp
  | cons i p ih =>
    rcases List.suffix_cons_iff.1 h with rfl | h
    · exact ⟨_, nearest?_of_isPlainAt hr, List.suffix_rfl⟩
    · obtain ⟨tag, m, children, rfl⟩ := helement
      cases m with
      | none => exact ⟨_, nearest?_of_isPlainAt ⟨tag, children, hp⟩, h.trans (List.suffix_cons _ _)⟩
      | some m =>
        have hne : p ≠ [] := by
          rintro rfl
          obtain ⟨_, _, hr⟩ := hr
          rw [List.suffix_nil.1 h] at hr
          simp [node?] at hr
        obtain ⟨tag', m', children', hn⟩ := node?_tail hne hp
        obtain ⟨q, hq, hrq⟩ := ih hn ⟨_, _, _, rfl⟩ h
        exact ⟨q, by rw [nearest?_of_isMarkerAt (isMarkerAt_iff.2 ⟨_, _, _, hp⟩), hq], hrq⟩

/-- A node properly below a plain element has a logical parent, and it is not above that one. -/
theorem exists_logicalParent?_of_suffix {n : Node} (hr : d.IsPlainAt r) (hp : d.node? p = some n)
    (h : r <:+ p) (hne : p ≠ r) : ∃ q, d.logicalParent? p = some q ∧ r <:+ q := by
  cases p with
  | nil => simp [node?] at hp
  | cons i p =>
    rcases List.suffix_cons_iff.1 h with rfl | h
    · exact absurd rfl hne
    · have hne : p ≠ [] := by
        rintro rfl
        obtain ⟨_, _, hr⟩ := hr
        rw [List.suffix_nil.1 h] at hr
        simp [node?] at hr
      obtain ⟨tag, m, children, hn⟩ := node?_tail hne hp
      exact exists_nearest?_of_suffix hr hn ⟨_, _, _, rfl⟩ h

/-- A marker below a plain element has a logical parent, and it is not above that one. -/
theorem exists_logicalParent?_of_marker {tag text : String} {children : List Node}
    (hr : d.IsPlainAt r) (hp : d.node? p = some (.element tag (some text) children)) (h : r <:+ p) :
    ∃ q, d.logicalParent? p = some q ∧ r <:+ q := by
  refine exists_logicalParent?_of_suffix hr hp h ?_
  rintro rfl
  obtain ⟨_, _, hplain⟩ := hr
  rw [hp] at hplain
  cases hplain

/-! ## The inversion -/

/-- **The address of an element leads to it.** This is so for every plain element at or below the
top element, when the top element is no marker. The induction is on the length of the position: a
logical parent is nearer to the top. -/
theorem resolve?_addressOf (hroot : d.root? = some r) (hr : d.IsPlainAt r) (hp : d.IsPlainAt p)
    (h : r <:+ p) : d.resolve? r (d.addressOf p) = some p := by
  induction hlen : p.length using Nat.strongRecOn generalizing p with
  | ind len ih =>
    by_cases hpr : p = r
    · subst hpr
      rw [addressOf, stepsTo_root hroot]
      rfl
    · obtain ⟨_, _, hn⟩ := id hp
      obtain ⟨q, hparent, hrq⟩ := exists_logicalParent?_of_suffix hr hn h hpr
      have hq := isPlainAt_of_logicalParent? hparent
      have hlt := length_lt_of_logicalParent? hparent
      have hne : d.root? ≠ some p := fun h => hpr (Option.some.inj (h.symm.trans hroot))
      have hstep := resolveStep?_stepTo ((mem_logicalChildren_iff hq).2 ⟨hp, hparent⟩)
      calc d.resolve? r (d.addressOf p)
          = d.resolveSteps? r (d.stepsTo q ++ [d.stepTo q p]) := by
            rw [addressOf, stepsTo_of_logicalParent? hne hp hparent]; rfl
        _ = (d.resolve? r (d.addressOf q)).bind fun x => d.resolveSteps? x [d.stepTo q p] :=
            resolveSteps?_append d r _ _
        _ = some p := by
            rw [ih q.length (hlen ▸ hlt) hq hrq rfl, Option.bind_some, resolveSteps?, hstep]
            rfl

end

end Stencil.Document
