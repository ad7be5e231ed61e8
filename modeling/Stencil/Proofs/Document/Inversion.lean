import Stencil.Proofs.Document.Transparency

/-!
# Addresses and elements, one for one

Under a top element that is no marker, an element has exactly one address that gives a position in
every step: the one computed for it. That this address leads to the element is
`resolve?_addressOf`. The converse goes along an address: the step that was taken at a position is
the step computed for the child it led to, since a child stands among the logical children of its
parent once (`stepTo_of_resolveStep?`), and so all the steps are those computed for the element in
the end (`stepsTo_of_resolveSteps?`).
-/

namespace Stencil

/-- Every step of an address gives the position of the child. -/
def Address.IsPlaced (a : Address) : Prop := ∀ s ∈ a.steps, ∃ i, s.place = some (.at i)

namespace Document

section
variable {d : Document} {p q top : Path}

/-! ## Computed addresses -/

/-- The top element is below no other one. -/
theorem logicalParent?_of_root? (h : d.root? = some p) : d.logicalParent? p = none := by
  obtain ⟨i, _, rfl⟩ := Option.map_eq_some_iff.1 h
  rfl

/-- A logical child is not the top element, and its address goes on from its parent's. -/
theorem stepsTo_of_mem_logicalChildren (hp : d.IsPlainAt p) (h : q ∈ d.logicalChildren p) :
    d.stepsTo q = d.stepsTo p ++ [d.stepTo p q] := by
  obtain ⟨hq, hparent⟩ := (mem_logicalChildren_iff hp).1 h
  have hne : d.root? ≠ some q := fun hroot => by
    rw [logicalParent?_of_root? hroot] at hparent
    cases hparent
  exact stepsTo_of_logicalParent? hne hq hparent

/-- A computed address gives a position in every step. -/
theorem isPlaced_addressOf (d : Document) (p : Path) : (d.addressOf p).IsPlaced := by
  induction hlen : p.length using Nat.strongRecOn generalizing p with
  | ind len ih =>
    intro s hs
    change s ∈ d.stepsTo p at hs
    rw [stepsTo] at hs
    split at hs
    · cases hs
    · split at hs
      · cases hs
      · next parent hparent =>
        rcases List.mem_append.1 hs with hs | hs
        · exact ih parent.length (hlen ▸ length_lt_of_logicalParent? hparent) parent rfl s hs
        · split at hs
          · cases hs
          · rw [List.mem_singleton.1 hs]
            exact ⟨_, rfl⟩

/-! ## Taken steps -/

/-- A step that gives a position is the step computed for the child it leads to. -/
theorem stepTo_of_resolveStep? {s : Step} {i : Nat} (hs : s.place = some (.at i))
    (h : d.resolveStep? p s = some q) : d.stepTo p q = s := by
  obtain ⟨tag, place⟩ := s
  cases hs
  obtain ⟨hchild, htag⟩ := resolveStep?_eq_some_iff.1 h
  obtain ⟨hlt, hget⟩ :=
    List.getElem?_eq_some_iff.1 (show (d.logicalChildren p)[i]? = some q from hchild)
  have hplace : (d.logicalChildren p).idxOf? q = some i := by
    refine List.idxOf?_eq_some_iff.2 ⟨hlt, hget, fun j hj heq => ?_⟩
    have hsame := (nodup_logicalChildren d p).getElem_inj_iff.1 (heq.trans hget.symm)
    omega
  rw [stepTo, htag, hplace]
  rfl

theorem resolveSteps?_concat (d : Document) (p : Path) (steps : List Step) (s : Step) :
    d.resolveSteps? p (steps ++ [s]) = (d.resolveSteps? p steps).bind (d.resolveStep? · s) := by
  rw [resolveSteps?_append]
  refine congrArg _ (funext fun q => ?_)
  rw [resolveSteps?]
  cases d.resolveStep? q s <;> rfl

/-- Steps that give positions are those computed for the element they lead to from the top. The
induction takes the last step off. -/
theorem stepsTo_of_resolveSteps? (hroot : d.root? = some top) (htop : d.IsPlainAt top)
    (steps : List Step) : ∀ {p : Path}, (∀ s ∈ steps, ∃ i, s.place = some (.at i)) →
      d.resolveSteps? top steps = some p → d.IsPlainAt p ∧ d.stepsTo p = steps := by
  induction steps using List.reverseRecOn with
  | nil =>
    intro p _ h
    cases h
    exact ⟨htop, stepsTo_root hroot⟩
  | append_singleton steps s ih =>
    intro p hplaced h
    rw [resolveSteps?_concat, Option.bind_eq_some_iff] at h
    obtain ⟨q, hq, hstep⟩ := h
    obtain ⟨hplain, hsteps⟩ := ih (fun s hs => hplaced s (List.mem_append_left _ hs)) hq
    obtain ⟨i, hi⟩ := hplaced s (List.mem_append_right _ List.mem_cons_self)
    have hchild := mem_logicalChildren_of_resolveStep? hstep
    refine ⟨isPlainAt_of_mem_logicalChildren hchild, ?_⟩
    rw [stepsTo_of_mem_logicalChildren hplain hchild, hsteps, stepTo_of_resolveStep? hi hstep]

/-! ## The inversion -/

/-- **Addresses and resolution are inverse.** Let the top element of a document be no marker. The
address computed for a plain element at or below it gives positions only and leads from the top to
that element, and an address that gives positions only and leads from the top to an element is the
one computed for it. So different elements have different addresses. From any node, an address with
another one behind it leads to where the second one leads from where the first one leads. -/
theorem addresses_invert_resolution (hroot : d.root? = some top) (htop : d.IsPlainAt top) :
    (∀ p, d.IsPlainAt p → top <:+ p →
      (d.addressOf p).IsPlaced ∧ d.resolve? top (d.addressOf p) = some p) ∧
    (∀ a p, a.IsPlaced → d.resolve? top a = some p → a = d.addressOf p) ∧
    (∀ p q, d.IsPlainAt p → top <:+ p → d.IsPlainAt q → top <:+ q →
      d.addressOf p = d.addressOf q → p = q) ∧
    ∀ p a b, d.resolve? p (a ++ b) = (d.resolve? p a).bind fun q => d.resolve? q b := by
  refine ⟨fun p hp hbelow => ⟨isPlaced_addressOf d p, resolve?_addressOf hroot htop hp hbelow⟩,
    fun a p hplaced ha => ?_, fun p q hp hbelow hq hbelow' heq => ?_, resolve?_append d⟩
  · obtain ⟨steps⟩ := a
    rw [addressOf, (stepsTo_of_resolveSteps? hroot htop steps hplaced ha).2]
  · have hresolve := resolve?_addressOf hroot htop hp hbelow
    rw [heq, resolve?_addressOf hroot htop hq hbelow'] at hresolve
    exact (Option.some.inj hresolve).symm

/-- Two items of one tag in different markers, the second one below another element. -/
theorem addresses_invert_resolution_nested :
    let d : Document := ⟨[.doctype "html", .element "html" none [.text "a",
      .element "list-start" (some "1") [.element "li" none [],
        .element "list-next" (some "2") [.element "ul" none
          [.element "value" (some "3") [], .element "li" none []]]]]]⟩
    let first : Path := [0, 1, 1]
    let second : Path := [1, 0, 1, 1, 1]
    let a : Address := ⟨[⟨"ul", some (.at 1)⟩, ⟨"li", some (.at 0)⟩]⟩
    d.root? = some [1] ∧ d.IsPlainAt [1] ∧ d.IsPlainAt first ∧ d.IsPlainAt second ∧
      d.resolve? [1] (d.addressOf second) = some second ∧ a.IsPlaced ∧
      d.resolve? [1] a = some second ∧ a = d.addressOf second ∧
      d.addressOf first ≠ d.addressOf second := by
  intro d first second a
  have hroot : d.root? = some [1] := by decide
  have htop : d.IsPlainAt [1] := ⟨_, _, rfl⟩
  have hfirst : d.IsPlainAt first := ⟨_, _, rfl⟩
  have hsecond : d.IsPlainAt second := ⟨_, _, rfl⟩
  have hplaced : a.IsPlaced := by
    simp [a, Address.IsPlaced]
  have ha : d.resolve? [1] a = some second := by decide
  obtain ⟨hleads, hcomputed, hdistinct, _⟩ := addresses_invert_resolution hroot htop
  refine ⟨hroot, htop, hfirst, hsecond, (hleads second hsecond (by decide)).2, hplaced, ha,
    hcomputed a second hplaced ha, fun h => ?_⟩
  have hsame := hdistinct first second hfirst (by decide) hsecond (by decide) h
  exact absurd hsame (by decide)

end

end Document

end Stencil
