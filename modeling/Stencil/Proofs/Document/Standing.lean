import Mathlib.Data.List.Infix
import Stencil.Document

/-!
# Logical children and parents

The two ways of looking through markers agree. Downwards, the elements that stand for a node are
collected by recursion on the tree; upwards, the logical parent is found by going along a position.
`Stands d p q` says without either of them that the element at `q` stands for the node at `p`: from
`p` to the place above `q` there are markers only. Both functions are told by this relation
(`mem_logicalChildren_iff_stands`, `logicalParent?_of_stands`), and so an element is a logical child
of its logical parent and of no other element (`mem_logicalChildren_iff`). The logical children are in
document order and so each there once (`pairwise_logicalChildren`, `nodup_logicalChildren`), and an
element without a logical parent is a logical child of the document
(`mem_logicalChildren_logicalParent?`).
-/

namespace Stencil.Document

/-- There is an element at a position, and it is not a marker. -/
def IsPlainAt (d : Document) (p : Path) : Prop :=
  ∃ tag children, d.node? p = some (.element tag none children)

/-- The element at the second position stands for the node at the first one: it is that node, or
the node is a marker and the element stands for one of its children. -/
inductive Stands (d : Document) : Path → Path → Prop where
  | self {p : Path} (h : d.IsPlainAt p) : Stands d p p
  | through {p q : Path} {i : Nat} (h : d.isMarkerAt p = true) (hq : Stands d (i :: p) q) :
    Stands d p q

section
variable {d : Document} {p q : Path}

/-! ## Nodes and their children -/

theorem childrenAt_of_node? {n : Node} (h : d.node? p = some n) : d.childrenAt p = n.children := by
  cases p with
  | nil => simp [node?] at h
  | cons i p =>
    rw [node?] at h
    rw [childrenAt, h]

/-- The first of the children from an index on is the node there, and after it come the children
from the next index on. -/
theorem node?_of_drop_childrenAt {i : Nat} {n : Node} {ns : List Node}
    (h : (d.childrenAt p).drop i = n :: ns) :
    d.node? (i :: p) = some n ∧ (d.childrenAt p).drop (i + 1) = ns := by
  constructor
  · rw [node?, ← List.head?_drop, h]
    rfl
  · rw [← List.tail_drop, h]
    rfl

/-- With no children from an index on there is no node at it or after it. -/
theorem node?_eq_none_of_drop_childrenAt {i j : Nat} (h : (d.childrenAt p).drop i = [])
    (hij : i ≤ j) : d.node? (j :: p) = none := by
  rw [node?]
  exact List.getElem?_eq_none ((List.drop_eq_nil_iff.1 h).trans hij)

theorem isMarkerAt_iff :
    d.isMarkerAt p = true ↔
      ∃ tag m children, d.node? p = some (.element tag (some m) children) := by
  rw [isMarkerAt]
  cases hn : d.node? p with
  | none => simp
  | some n => cases n with
    | element tag m children => cases m <;> simp [Node.isMarker, Node.marker?]
    | text content | comment content | doctype name => simp [Node.isMarker, Node.marker?]

theorem IsPlainAt.not_isMarkerAt (h : d.IsPlainAt p) : d.isMarkerAt p = false := by
  obtain ⟨tag, children, hn⟩ := h
  simp [isMarkerAt, hn, Node.isMarker, Node.marker?]

/-- A plain element has its own tag. -/
theorem IsPlainAt.tag?_eq (h : d.IsPlainAt p) : d.tag? p = some ((d.tag? p).getD "") := by
  obtain ⟨tag, children, hn⟩ := h
  simp [tag?, hn, Node.tag?]

/-- A node below a position has a node there, with children. -/
theorem node?_tail {i : Nat} {n : Node} (hp : p ≠ []) (h : d.node? (i :: p) = some n) :
    ∃ tag m children, d.node? p = some (.element tag m children) := by
  cases hn : d.node? p with
  | none =>
    cases p with
    | nil => exact absurd rfl hp
    | cons j p =>
      rw [node?] at hn
      simp [node?, childrenAt, hn] at h
  | some parent =>
    rw [node?, childrenAt_of_node? hn] at h
    cases parent with
    | element tag m children => exact ⟨tag, m, children, rfl⟩
    | text content | comment content | doctype name => simp [Node.children] at h

/-! ## Downwards -/

mutual

/-- What is collected for a node is what stands for it. -/
theorem mem_standing : ∀ (n : Node) (p : Path), d.node? p = some n →
    (q ∈ standing p n ↔ Stands d p q)
  | .element tag none children, p, hn => by
    rw [standing, List.mem_singleton]
    constructor
    · rintro rfl
      exact .self ⟨tag, children, hn⟩
    · intro h
      cases h with
      | self _ => rfl
      | through hm _ =>
        obtain ⟨_, _, _, hn'⟩ := isMarkerAt_iff.1 hm
        rw [hn] at hn'
        cases hn'
  | .element tag (some m) children, p, hn => by
    have hc : d.childrenAt p = children := childrenAt_of_node? hn
    have hm : d.isMarkerAt p = true := isMarkerAt_iff.2 ⟨tag, m, children, hn⟩
    rw [standing, mem_standingAll children p 0 hc]
    constructor
    · rintro ⟨i, _, hq⟩
      exact .through hm hq
    · intro h
      cases h with
      | self hp =>
        rw [hp.not_isMarkerAt] at hm
        cases hm
      | through _ hq => exact ⟨_, Nat.zero_le _, hq⟩
  | .text content, p, hn | .comment content, p, hn | .doctype name, p, hn => by
    rw [standing]
    refine ⟨fun h => absurd h List.not_mem_nil, fun h => ?_⟩
    cases h with
    | self hp => obtain ⟨_, _, hp⟩ := hp; rw [hn] at hp; cases hp
    | through hm _ => obtain ⟨_, _, _, hm⟩ := isMarkerAt_iff.1 hm; rw [hn] at hm; cases hm

/-- What is collected for nodes that are children of a position, from an index on, is what stands
for one of them. -/
theorem mem_standingAll : ∀ (ns : List Node) (p : Path) (i : Nat), (d.childrenAt p).drop i = ns →
    (q ∈ standingAll p i ns ↔ ∃ j, i ≤ j ∧ Stands d (j :: p) q)
  | [], p, i, hns => by
    rw [standingAll]
    refine ⟨fun h => absurd h List.not_mem_nil, ?_⟩
    rintro ⟨j, hj, hq⟩
    -- There is no node from the index on that anything could stand for.
    have hnone : d.node? (j :: p) = none := node?_eq_none_of_drop_childrenAt hns hj
    cases hq with
    | self hp => obtain ⟨_, _, hp⟩ := hp; rw [hnone] at hp; cases hp
    | through hm _ => obtain ⟨_, _, _, hm⟩ := isMarkerAt_iff.1 hm; rw [hnone] at hm; cases hm
  | n :: ns, p, i, hns => by
    obtain ⟨hfirst, hrest⟩ := node?_of_drop_childrenAt hns
    rw [standingAll, List.mem_append, mem_standing n (i :: p) hfirst,
      mem_standingAll ns p (i + 1) hrest]
    constructor
    · rintro (hq | ⟨j, hj, hq⟩)
      · exact ⟨i, Nat.le_refl i, hq⟩
      · exact ⟨j, by omega, hq⟩
    · rintro ⟨j, hj, hq⟩
      rcases Nat.eq_or_lt_of_le hj with rfl | hlt
      · exact .inl hq
      · exact .inr ⟨j, hlt, hq⟩

end

/-- The logical children of a position are the elements that stand for its children. -/
theorem mem_logicalChildren_iff_stands : q ∈ d.logicalChildren p ↔ ∃ i, Stands d (i :: p) q := by
  rw [logicalChildren, mem_standingAll (d.childrenAt p) p 0 rfl]
  exact ⟨fun ⟨i, _, h⟩ => ⟨i, h⟩, fun ⟨i, h⟩ => ⟨i, Nat.zero_le i, h⟩⟩

/-- What stands for a node is a plain element. -/
theorem Stands.isPlainAt (h : Stands d p q) : d.IsPlainAt q := by
  induction h with
  | self h => exact h
  | through _ _ ih => exact ih

theorem isPlainAt_of_mem_logicalChildren (h : q ∈ d.logicalChildren p) : d.IsPlainAt q := by
  obtain ⟨i, hstands⟩ := mem_logicalChildren_iff_stands.1 h
  exact hstands.isPlainAt

/-- What stands for a node is at its position or below. -/
theorem Stands.suffix (h : Stands d p q) : p <:+ q := by
  induction h with
  | self _ => exact List.suffix_rfl
  | through _ _ ih => exact (List.suffix_cons _ _).trans ih

theorem Stands.exists_node? (h : Stands d p q) :
    ∃ tag m children, d.node? p = some (.element tag m children) := by
  cases h with
  | self h =>
    obtain ⟨tag, children, hn⟩ := h
    exact ⟨tag, none, children, hn⟩
  | through h _ =>
    obtain ⟨tag, m, children, hn⟩ := isMarkerAt_iff.1 h
    exact ⟨tag, some m, children, hn⟩

/-! ### Document order -/

mutual

/-- What is collected for a node is at its position or below, of whatever document it is taken. -/
theorem suffix_of_mem_standing : ∀ (n : Node) (p : Path), q ∈ standing p n → p <:+ q
  | .element _ none _, p, h => by
    rw [standing, List.mem_singleton] at h
    exact h ▸ List.suffix_rfl
  | .element _ (some _) children, p, h => by
    rw [standing] at h
    obtain ⟨j, _, hj⟩ := suffix_of_mem_standingAll children p 0 h
    exact (List.suffix_cons j p).trans hj
  | .text _, _, h | .comment _, _, h | .doctype _, _, h => by
    rw [standing] at h
    cases h

/-- What is collected for the children of a position, from an index on, is at the position of one
of them or below. -/
theorem suffix_of_mem_standingAll : ∀ (ns : List Node) (p : Path) (i : Nat),
    q ∈ standingAll p i ns → ∃ j, i ≤ j ∧ (j :: p) <:+ q
  | [], _, _, h => by
    rw [standingAll] at h
    cases h
  | n :: ns, p, i, h => by
    rw [standingAll, List.mem_append] at h
    rcases h with h | h
    · exact ⟨i, Nat.le_refl i, suffix_of_mem_standing n (i :: p) h⟩
    · obtain ⟨j, hj, hq⟩ := suffix_of_mem_standingAll ns p (i + 1) h
      exact ⟨j, by omega, hq⟩

end

/-- The first position is before the second one in document order: where the ways from the top to
them part, the first one goes on to an earlier child. -/
def Precedes (p q : Path) : Prop := ∃ r i j, i < j ∧ i :: r <:+ p ∧ j :: r <:+ q

/-- No position is before itself. -/
theorem Precedes.ne (h : Precedes p q) : p ≠ q := by
  rintro rfl
  obtain ⟨r, i, j, hij, hi, hj⟩ := h
  have hsuffix := List.suffix_of_suffix_length_le hi hj (Nat.le_refl _)
  cases hsuffix.eq_of_length rfl
  omega

mutual

theorem pairwise_standing : ∀ (n : Node) (p : Path), (standing p n).Pairwise Precedes
  | .element _ none _, p => by
    rw [standing]
    exact List.pairwise_singleton _ p
  | .element _ (some _) children, p => by
    rw [standing]
    exact pairwise_standingAll children p 0
  | .text _, _ | .comment _, _ | .doctype _, _ => by
    rw [standing]
    exact List.Pairwise.nil

theorem pairwise_standingAll : ∀ (ns : List Node) (p : Path) (i : Nat),
    (standingAll p i ns).Pairwise Precedes
  | [], _, _ => by
    rw [standingAll]
    exact List.Pairwise.nil
  | n :: ns, p, i => by
    rw [standingAll, List.pairwise_append]
    refine ⟨pairwise_standing n (i :: p), pairwise_standingAll ns p (i + 1), fun q hq q' hq' => ?_⟩
    obtain ⟨j, hlt, hj⟩ := suffix_of_mem_standingAll ns p (i + 1) hq'
    exact ⟨p, i, j, hlt, suffix_of_mem_standing n (i :: p) hq, hj⟩

end

/-- The logical children are in document order. -/
theorem pairwise_logicalChildren (d : Document) (p : Path) :
    (d.logicalChildren p).Pairwise Precedes :=
  pairwise_standingAll _ p 0

/-- An element is at one place among the logical children only. -/
theorem nodup_logicalChildren (d : Document) (p : Path) : (d.logicalChildren p).Nodup :=
  (pairwise_logicalChildren d p).imp Precedes.ne

/-! ## Upwards -/

theorem nearest?_of_isPlainAt (h : d.IsPlainAt p) : d.nearest? p = some p := by
  obtain ⟨tag, children, hn⟩ := h
  cases p with
  | nil => simp [node?] at hn
  | cons i p => rw [nearest?, hn]

theorem nearest?_of_isMarkerAt {i : Nat} (h : d.isMarkerAt (i :: p) = true) :
    d.nearest? (i :: p) = d.nearest? p := by
  obtain ⟨tag, m, children, hn⟩ := isMarkerAt_iff.1 h
  rw [nearest?, hn]

/-- Only plain elements are found upwards. -/
theorem isPlainAt_of_nearest? (h : d.nearest? p = some q) : d.IsPlainAt q := by
  induction p with
  | nil => simp [nearest?] at h
  | cons i p ih =>
    rw [nearest?] at h
    split at h
    · next tag children hn =>
      cases h
      exact ⟨tag, children, hn⟩
    · exact ih h
    · cases h

theorem isPlainAt_of_logicalParent? (h : d.logicalParent? p = some q) : d.IsPlainAt q := by
  cases p with
  | nil => simp [logicalParent?] at h
  | cons i p => exact isPlainAt_of_nearest? h

/-- What stands for a child of a position has its logical parent where the position has its nearest
plain element. -/
theorem logicalParent?_of_stands {i : Nat} (h : Stands d (i :: p) q) :
    d.logicalParent? q = d.nearest? p := by
  generalize hx : i :: p = x at h
  induction h generalizing i p with
  | self _ => rw [← hx, logicalParent?]
  | through hm _ ih =>
    subst hx
    rw [ih rfl, nearest?_of_isMarkerAt hm]

/-- Going up from a position ends at an element that the position is below of through markers
only. -/
theorem exists_stands_of_nearest? {r : Path} {i : Nat} (hn : d.nearest? p = some r)
    (h : Stands d (i :: p) q) : ∃ j, Stands d (j :: r) q := by
  induction p generalizing i with
  | nil => simp [nearest?] at hn
  | cons k p ih =>
    by_cases hm : d.isMarkerAt (k :: p) = true
    · rw [nearest?_of_isMarkerAt hm] at hn
      exact ih hn (.through hm h)
    · have hr : r = k :: p := by
        rw [nearest?] at hn
        split at hn
        · exact (Option.some.inj hn).symm
        · next tag m children hk => exact absurd (isMarkerAt_iff.2 ⟨tag, m, children, hk⟩) hm
        · cases hn
      exact ⟨i, hr ▸ h⟩

/-- **Children and parents agree.** The logical children of a plain element are the plain elements
whose logical parent it is. -/
theorem mem_logicalChildren_iff (hp : d.IsPlainAt p) :
    q ∈ d.logicalChildren p ↔ d.IsPlainAt q ∧ d.logicalParent? q = some p := by
  rw [mem_logicalChildren_iff_stands]
  constructor
  · rintro ⟨i, h⟩
    exact ⟨h.isPlainAt, by rw [logicalParent?_of_stands h, nearest?_of_isPlainAt hp]⟩
  · rintro ⟨hq, hparent⟩
    cases q with
    | nil => simp [logicalParent?] at hparent
    | cons i q => exact exists_stands_of_nearest? hparent (.self hq)

/-- Going up from a position and finding no plain element ends at the top of the document. -/
theorem exists_stands_of_nearest?_eq_none {i : Nat} (hn : d.nearest? p = none)
    (h : Stands d (i :: p) q) : ∃ j, Stands d [j] q := by
  induction p generalizing i with
  | nil => exact ⟨i, h⟩
  | cons k p ih =>
    obtain ⟨_, _, _, hi⟩ := h.exists_node?
    obtain ⟨tag, m, children, hk⟩ := node?_tail (List.cons_ne_nil k p) hi
    cases m with
    | none => rw [nearest?_of_isPlainAt ⟨tag, children, hk⟩] at hn; cases hn
    | some m =>
      have hm : d.isMarkerAt (k :: p) = true := isMarkerAt_iff.2 ⟨tag, m, children, hk⟩
      rw [nearest?_of_isMarkerAt hm] at hn
      exact ih hn (.through hm h)

/-- Every plain element is among the logical children of its logical parent, or of the document when
it has none. -/
theorem mem_logicalChildren_logicalParent? (hq : d.IsPlainAt q) :
    q ∈ d.logicalChildren ((d.logicalParent? q).getD []) := by
  cases hparent : d.logicalParent? q with
  | some r => exact (mem_logicalChildren_iff (isPlainAt_of_logicalParent? hparent)).2 ⟨hq, hparent⟩
  | none =>
    cases q with
    | nil =>
      obtain ⟨_, _, hn⟩ := hq
      simp [node?] at hn
    | cons i q =>
      exact mem_logicalChildren_iff_stands.2 (exists_stands_of_nearest?_eq_none hparent (.self hq))

end

end Stencil.Document
