import Stencil.Proofs.Document.Standing

/-!
# The top element and the search for markers

What the two searches of a document find. `root?` finds the element at the top when there is one
only, and everything that is an element is at it or below (`HasPlainTop.exists_root?`).
`findMarker?` finds an element that carries the identifier (`node?_of_findMarker?`), and finds none
only where there is none (`findMarker?_eq_none_iff`).
-/

namespace Stencil.Document

/-- There is exactly one element at the top of the document, and it is no marker. -/
def HasPlainTop (d : Document) : Prop :=
  ∃ (i : Nat) (tag : String) (children : List Node),
    d.nodes[i]? = some (Node.element tag none children) ∧
      ∀ (j : Nat) (n : Node), d.nodes[j]? = some n → n.isElement = true → j = i

section
variable {d : Document}

theorem firstElement?_of_unique {ns : List Node} {i : Nat} {n : Node} (hn : ns[i]? = some n)
    (he : n.isElement = true)
    (hunique : ∀ (j : Nat) (m : Node), ns[j]? = some m → m.isElement = true → j = i) :
    firstElement? ns = some i := by
  induction ns generalizing i with
  | nil => simp at hn
  | cons m ns ih =>
    rw [firstElement?]
    split
    · next hm => rw [hunique 0 m rfl hm]
    · next hm =>
      cases i with
      | zero =>
        rw [List.getElem?_cons_zero] at hn
        cases hn
        exact absurd he hm
      | succ i =>
        rw [List.getElem?_cons_succ] at hn
        rw [ih hn fun j m hj hm => by
          have := hunique (j + 1) m (by rwa [List.getElem?_cons_succ]) hm
          omega]
        rfl

/-- The top element of such a document is the one that `root?` finds, and all elements are at or
below it. -/
theorem HasPlainTop.exists_root? (h : d.HasPlainTop) :
    ∃ top, d.root? = some top ∧ d.IsPlainAt top ∧
      ∀ p tag m children, d.node? p = some (.element tag m children) → top <:+ p := by
  obtain ⟨i, tag, children, hi, hunique⟩ := h
  refine ⟨[i], ?_, ⟨tag, children, hi⟩, ?_⟩
  · rw [root?, firstElement?_of_unique hi rfl hunique]
    rfl
  · intro p
    induction p with
    | nil => intro _ _ _ hp; simp [node?] at hp
    | cons j p ih =>
      intro tag m children hp
      by_cases hne : p = []
      · subst hne
        rw [hunique j _ hp rfl]
      · obtain ⟨tag', m', children', hn⟩ := node?_tail hne hp
        exact (ih _ _ _ hn).trans (List.suffix_cons j p)

mutual

/-- What is found at or below a node carries the text that is looked for. -/
theorem node?_of_findIn {wanted : String} {q : Path} : ∀ (n : Node) (p : Path),
    d.node? p = some n → findIn wanted p n = some q →
    ∃ tag children, d.node? q = some (.element tag (some wanted) children)
  | .element tag m children, p, hn, h => by
    rw [findIn] at h
    split at h
    · next hm =>
      cases h
      exact ⟨tag, children, hm ▸ hn⟩
    · have hc : d.childrenAt p = children := childrenAt_of_node? hn
      exact node?_of_findAll children p 0 hc h
  | .text _, _, _, h | .comment _, _, _, h | .doctype _, _, _, h => by
    rw [findIn] at h
    cases h

/-- The same of nodes that are children of a position, from an index on. -/
theorem node?_of_findAll {wanted : String} {q : Path} : ∀ (ns : List Node) (p : Path) (i : Nat),
    (d.childrenAt p).drop i = ns → findAll wanted p i ns = some q →
    ∃ tag children, d.node? q = some (.element tag (some wanted) children)
  | [], _, _, _, h => by
    rw [findAll] at h
    cases h
  | n :: ns, p, i, hns, h => by
    obtain ⟨hn, hrest⟩ := node?_of_drop_childrenAt hns
    rw [findAll] at h
    split at h
    · next hfound =>
      cases h
      exact node?_of_findIn n (i :: p) hn hfound
    · exact node?_of_findAll ns p (i + 1) hrest h

end

/-- The marker that is found for an identifier carries it. -/
theorem node?_of_findMarker? {id : MarkerId} {q : Path} (h : d.findMarker? id = some q) :
    ∃ tag children, d.node? q = some (.element tag (some id.toText) children) := by
  rw [findMarker?] at h
  exact node?_of_findAll d.nodes [] 0 rfl h

/-- Above a node there are nodes. -/
theorem exists_node?_of_suffix {p q : Path} {n : Node} (hp : p ≠ []) (h : p <:+ q)
    (hq : d.node? q = some n) : ∃ m, d.node? p = some m := by
  induction q generalizing n with
  | nil => exact absurd (List.suffix_nil.1 h) hp
  | cons i q ih =>
    rcases List.suffix_cons_iff.1 h with rfl | h
    · exact ⟨n, hq⟩
    · have hne : q ≠ [] := fun hnil => hp (List.suffix_nil.1 (hnil ▸ h))
      obtain ⟨tag, m, children, hn⟩ := node?_tail hne hq
      exact ih h hn

/-- A position at or below another one is that position, or at or below a child's. -/
theorem eq_or_exists_suffix_cons {p q : Path} (h : p <:+ q) : q = p ∨ ∃ i, i :: p <:+ q := by
  obtain ⟨front, rfl⟩ := h
  rcases List.eq_nil_or_concat front with rfl | ⟨front, i, rfl⟩
  · exact .inl rfl
  · exact .inr ⟨i, front, by rw [List.concat_eq_append, List.append_assoc]; rfl⟩

/-- Below a node without children there is no node. -/
theorem eq_of_suffix_of_children_eq_nil {p q : Path} {n m : Node} (hn : d.node? p = some n)
    (hchildren : n.children = []) (h : p <:+ q) (hq : d.node? q = some m) : q = p := by
  rcases eq_or_exists_suffix_cons h with heq | ⟨i, hi⟩
  · exact heq
  · obtain ⟨c, hc⟩ := exists_node?_of_suffix (List.cons_ne_nil i p) hi hq
    rw [node?, childrenAt_of_node? hn, hchildren] at hc
    cases hc

mutual

/-- Where the search at or below a node finds nothing, no element carries the text. -/
theorem ne_of_findIn_eq_none {wanted : String} {q : Path} {tag : String} {children : List Node} :
    ∀ (n : Node) (p : Path), d.node? p = some n → findIn wanted p n = none → p <:+ q →
    d.node? q ≠ some (.element tag (some wanted) children)
  | .element tag' m children', p, hn, h, hsuffix => by
    rw [findIn] at h
    split at h
    · cases h
    · next hm =>
      rcases eq_or_exists_suffix_cons hsuffix with rfl | ⟨j, hj⟩
      · rw [hn]
        rintro ⟨⟩
        exact hm rfl
      · have hc : d.childrenAt p = children' := childrenAt_of_node? hn
        exact ne_of_findAll_eq_none children' p 0 hc h (Nat.zero_le j) hj
  | .text _, p, hn, _, hsuffix | .comment _, p, hn, _, hsuffix | .doctype _, p, hn, _, hsuffix => by
    intro hq
    rw [eq_of_suffix_of_children_eq_nil hn rfl hsuffix hq, hn] at hq
    cases hq

/-- The same of nodes that are children of a position, from an index on. -/
theorem ne_of_findAll_eq_none {wanted : String} {q : Path} {tag : String} {children : List Node} :
    ∀ (ns : List Node) (p : Path) (i : Nat), (d.childrenAt p).drop i = ns →
    findAll wanted p i ns = none → ∀ {j : Nat}, i ≤ j → j :: p <:+ q →
    d.node? q ≠ some (.element tag (some wanted) children)
  | [], p, i, hns, _, j, hij, hsuffix => by
    intro hq
    obtain ⟨m, hm⟩ := exists_node?_of_suffix (List.cons_ne_nil j p) hsuffix hq
    rw [node?_eq_none_of_drop_childrenAt hns hij] at hm
    cases hm
  | n :: ns, p, i, hns, h, j, hij, hsuffix => by
    obtain ⟨hn, hrest⟩ := node?_of_drop_childrenAt hns
    rw [findAll] at h
    split at h
    · cases h
    · next hfirst =>
      rcases Nat.eq_or_lt_of_le hij with rfl | hlt
      · exact ne_of_findIn_eq_none n (i :: p) hn hfirst hsuffix
      · exact ne_of_findAll_eq_none ns p (i + 1) hrest h hlt hsuffix

end

/-- No marker is found for an identifier exactly when no element carries it. -/
theorem findMarker?_eq_none_iff {id : MarkerId} :
    d.findMarker? id = none ↔
      ∀ q tag children, d.node? q ≠ some (.element tag (some id.toText) children) := by
  constructor
  · intro h q tag children hq
    rcases eq_or_exists_suffix_cons (List.nil_suffix (l := q)) with rfl | ⟨j, hj⟩
    · cases hq
    · exact ne_of_findAll_eq_none d.nodes [] 0 rfl h (Nat.zero_le j) hj hq
  · intro h
    cases hm : d.findMarker? id with
    | none => rfl
    | some q =>
      obtain ⟨tag, children, hq⟩ := node?_of_findMarker? hm
      exact absurd hq (h q tag children)

end

end Stencil.Document
