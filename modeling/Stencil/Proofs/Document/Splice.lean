import Stencil.Proofs.Document.Standing

/-!
# Splicing markers out

`splice` is the document with every marker replaced by its own children, in place, also where
markers stand in markers. No marker is left in it (`not_isMarkerAt_splice`). The nodes that come of
the children of a position stand next to each other in the spliced document; where they begin is the
`seat` of that position, which is computed along the position. The place of a plain element in the
spliced document is its `counterpart`: there stands the same element with its children spliced
(`node?_counterpart`). What the elements collected below a node become is told by the seat alone
(`map_standingAll`), and so the logical children and the logical parent of an element are those of
its counterpart (`logicalChildren_counterpart`, `logicalParent?_counterpart`).
-/

namespace Stencil

namespace Node

mutual

/-- What comes of a node when markers are replaced by their children: the node itself with its
children spliced, or for a marker what comes of its children. -/
def splice : Node → List Node
  | .element tag none children => [.element tag none (spliceAll children)]
  | .element _ (some _) children => spliceAll children
  | .text content => [.text content]
  | .comment content => [.comment content]
  | .doctype name => [.doctype name]

/-- What comes of nodes that stand next to each other. -/
def spliceAll : List Node → List Node
  | [] => []
  | n :: ns => n.splice ++ spliceAll ns

end

@[simp] theorem spliceAll_append (ms ns : List Node) :
    spliceAll (ms ++ ns) = spliceAll ms ++ spliceAll ns := by
  induction ms with
  | nil => simp [spliceAll]
  | cons m ms ih => simp [spliceAll, ih]

mutual

/-- What comes of a node is no marker, and neither is anything below it. -/
theorem not_isMarker_of_mem_splice {m : Node} : ∀ n : Node, m ∈ n.splice →
    m.isMarker = false ∧ ∃ ns, m.children = spliceAll ns
  | .element tag none children, h => by
    rw [splice, List.mem_singleton] at h
    subst h
    exact ⟨rfl, children, rfl⟩
  | .element tag (some _) children, h => by
    rw [splice] at h
    exact not_isMarker_of_mem_spliceAll children h
  | .text _, h | .comment _, h | .doctype _, h => by
    rw [splice, List.mem_singleton] at h
    subst h
    exact ⟨rfl, [], rfl⟩

/-- The same of what comes of nodes next to each other. -/
theorem not_isMarker_of_mem_spliceAll {m : Node} : ∀ ns : List Node, m ∈ spliceAll ns →
    m.isMarker = false ∧ ∃ ms, m.children = spliceAll ms
  | [], h => by
    rw [spliceAll] at h
    cases h
  | n :: ns, h => by
    rw [spliceAll, List.mem_append] at h
    exact h.elim (not_isMarker_of_mem_splice n) (not_isMarker_of_mem_spliceAll ns)

end

end Node

namespace Document

open Node (spliceAll)

/-- The document with every marker replaced by its children, recursively and in place. -/
def splice (d : Document) : Document := ⟨spliceAll d.nodes⟩

/-- A place from which on nodes stand next to each other: the position they are children of, and the
index of the first one. -/
structure Seat where
  parent : Path
  first : Nat

/-- The position of the first node at a seat. -/
def Seat.path (s : Seat) : Path := s.first :: s.parent

/-- The seat behind what comes of the given nodes. -/
def Seat.behind (s : Seat) (ns : List Node) : Seat := ⟨s.parent, s.first + (spliceAll ns).length⟩

/-- Where in the spliced document the children of the node at a position come to stand. The children
of a marker stand where the marker stood, among its siblings. -/
def seat (d : Document) : Path → Seat
  | [] => ⟨[], 0⟩
  | i :: p =>
    let s := (d.seat p).behind ((d.childrenAt p).take i)
    if d.isMarkerAt (i :: p) then s else ⟨s.path, 0⟩

/-- Where in the spliced document the element at a position stands, for an element that is no
marker. -/
def counterpart (d : Document) (p : Path) : Path := (d.seat p).parent

/-- A position that nodes can be below of: the document's or an element's. -/
def IsInnerAt (d : Document) (p : Path) : Prop :=
  p = [] ∨ ∃ tag m children, d.node? p = some (.element tag m children)

/-- A position that logical children belong to: the document's or a plain element's. -/
def IsHolderAt (d : Document) (p : Path) : Prop := p = [] ∨ d.IsPlainAt p

/-- Nodes stand at a seat of a document, with any nodes in front of them and behind them. -/
def HasAt (d : Document) (s : Seat) (ns : List Node) : Prop :=
  ∃ front back, d.childrenAt s.parent = front ++ ns ++ back ∧ front.length = s.first

section
variable {d : Document} {p q : Path} {i : Nat}

/-! ## No marker is left -/

/-- Every list of children in a spliced document comes of splicing. -/
theorem exists_childrenAt_splice (d : Document) (q : Path) :
    ∃ ns, d.splice.childrenAt q = spliceAll ns := by
  induction q with
  | nil => exact ⟨d.nodes, rfl⟩
  | cons i q ih =>
    obtain ⟨ns, hns⟩ := ih
    rw [childrenAt, hns]
    split
    · next n hn => exact (Node.not_isMarker_of_mem_spliceAll ns (List.mem_of_getElem? hn)).2
    · exact ⟨[], rfl⟩

theorem not_isMarkerAt_splice (d : Document) (q : Path) : d.splice.isMarkerAt q = false := by
  cases q with
  | nil => rfl
  | cons i q =>
    obtain ⟨ns, hns⟩ := exists_childrenAt_splice d q
    rw [isMarkerAt, node?, hns]
    cases hn : (spliceAll ns)[i]? with
    | none => rfl
    | some n => exact (Node.not_isMarker_of_mem_spliceAll ns (List.mem_of_getElem? hn)).1

/-! ## Counterparts -/

theorem isInnerAt_of_node? {n : Node} (h : d.node? (i :: p) = some n) : d.IsInnerAt p :=
  or_iff_not_imp_left.2 fun hne => node?_tail hne h

theorem seat_of_isMarkerAt (h : d.isMarkerAt (i :: p) = true) :
    d.seat (i :: p) = (d.seat p).behind ((d.childrenAt p).take i) := by
  rw [seat, if_pos h]

theorem seat_of_not_isMarkerAt (h : d.isMarkerAt (i :: p) = false) :
    d.seat (i :: p) = ⟨((d.seat p).behind ((d.childrenAt p).take i)).path, 0⟩ := by
  rw [seat, if_neg (by rw [h]; decide)]

theorem IsPlainAt.counterpart_cons (h : d.IsPlainAt (i :: p)) :
    d.counterpart (i :: p) = ((d.seat p).behind ((d.childrenAt p).take i)).path := by
  rw [counterpart, seat_of_not_isMarkerAt h.not_isMarkerAt]

/-- Below the document and below a plain element, a seat is at the beginning. -/
theorem seat_of_isHolderAt (h : d.IsHolderAt p) : d.seat p = ⟨d.counterpart p, 0⟩ := by
  rcases h with rfl | h
  · rfl
  · cases p with
    | nil => rfl
    | cons i p => rw [counterpart, seat_of_not_isMarkerAt h.not_isMarkerAt]

/-- What comes of one of the nodes at a seat stands behind what comes of the ones before. -/
theorem HasAt.behind {u : Document} {s : Seat} {ns : List Node} {n : Node}
    (h : u.HasAt s (spliceAll ns)) (hn : ns[i]? = some n) :
    u.HasAt (s.behind (ns.take i)) n.splice := by
  obtain ⟨front, back, hchildren, hlength⟩ := h
  have hns : ns = ns.take i ++ n :: ns.drop (i + 1) := by
    obtain ⟨hlt, rfl⟩ := List.getElem?_eq_some_iff.1 hn
    rw [List.getElem_cons_drop, List.take_append_drop]
  refine ⟨front ++ spliceAll (ns.take i), spliceAll (ns.drop (i + 1)) ++ back, ?_, ?_⟩
  · calc u.childrenAt s.parent
        = front ++ spliceAll (ns.take i ++ n :: ns.drop (i + 1)) ++ back := by rw [← hns, hchildren]
      _ = _ := by simp [spliceAll]
  · rw [List.length_append, hlength, Seat.behind]

theorem HasAt.node?_path {u : Document} {s : Seat} {n : Node} (h : u.HasAt s [n]) :
    u.node? s.path = some n := by
  obtain ⟨front, back, hchildren, hlength⟩ := h
  rw [Seat.path, node?, hchildren, ← hlength]
  simp

/-- **What comes of the children of a position stands at its seat.** The induction is along the
position. Below a marker the nodes are some of those at the seat of its parent; below a plain
element they are all the children of its counterpart. -/
theorem hasAt_seat (h : d.IsInnerAt p) :
    d.splice.HasAt (d.seat p) (spliceAll (d.childrenAt p)) := by
  induction p with
  | nil => exact ⟨[], [], by simp [seat, childrenAt, splice], rfl⟩
  | cons i p ih =>
    obtain ⟨tag, m, children, hn⟩ := h.resolve_left (List.cons_ne_nil i p)
    have hnode := (ih (isInnerAt_of_node? hn)).behind hn
    rw [childrenAt_of_node? hn]
    cases m with
    | some m =>
      rw [seat_of_isMarkerAt (isMarkerAt_iff.2 ⟨tag, m, children, hn⟩)]
      exact hnode
    | none =>
      have hplain : d.IsPlainAt (i :: p) := ⟨tag, children, hn⟩
      rw [seat_of_not_isMarkerAt hplain.not_isMarkerAt]
      refine ⟨[], [], ?_, rfl⟩
      rw [childrenAt_of_node? hnode.node?_path]
      simp [Node.children]

/-- At the counterpart of a plain element stands the same element with its children spliced. -/
theorem node?_counterpart {tag : String} {children : List Node}
    (h : d.node? p = some (.element tag none children)) :
    d.splice.node? (d.counterpart p) = some (.element tag none (spliceAll children)) := by
  cases p with
  | nil => simp [node?] at h
  | cons i p =>
    rw [IsPlainAt.counterpart_cons ⟨tag, children, h⟩]
    exact ((hasAt_seat (isInnerAt_of_node? h)).behind h).node?_path

theorem IsPlainAt.counterpart (h : d.IsPlainAt p) : d.splice.IsPlainAt (d.counterpart p) := by
  obtain ⟨tag, children, hn⟩ := h
  exact ⟨tag, spliceAll children, node?_counterpart hn⟩

theorem IsPlainAt.tag?_counterpart (h : d.IsPlainAt p) :
    d.splice.tag? (d.counterpart p) = d.tag? p := by
  obtain ⟨tag, children, hn⟩ := h
  rw [tag?, tag?, hn, node?_counterpart hn]
  rfl

theorem childrenAt_counterpart (h : d.IsHolderAt p) :
    d.splice.childrenAt (d.counterpart p) = spliceAll (d.childrenAt p) := by
  rcases h with rfl | ⟨tag, children, hn⟩
  · rfl
  · rw [childrenAt_of_node? hn, childrenAt_of_node? (node?_counterpart hn)]
    rfl

/-! ## Logical children -/

theorem standingAll_append (p : Path) (ms ns : List Node) : ∀ i : Nat,
    standingAll p i (ms ++ ns) = standingAll p i ms ++ standingAll p (i + ms.length) ns := by
  induction ms with
  | nil => intro i; rfl
  | cons m ms ih =>
    intro i
    rw [List.cons_append, standingAll, standingAll, ih, List.append_assoc, List.length_cons,
      Nat.add_assoc, Nat.add_comm 1]

mutual

/-- The elements that stand for a node have as counterparts the elements of what comes of the node,
counted from where the node stood. -/
theorem map_standing : ∀ (n : Node) (i : Nat) (p : Path), d.node? (i :: p) = some n →
    (standing (i :: p) n).map d.counterpart =
      standingAll (d.seat p).parent ((d.seat p).behind ((d.childrenAt p).take i)).first n.splice
  | .element tag none children, i, p, hn => by
    rw [standing, List.map_singleton, IsPlainAt.counterpart_cons ⟨tag, children, hn⟩]
    rfl
  | .element tag (some m) children, i, p, hn => by
    have hc : d.childrenAt (i :: p) = children := childrenAt_of_node? hn
    rw [standing, map_standingAll children 0 (i :: p) hc,
      seat_of_isMarkerAt (isMarkerAt_iff.2 ⟨tag, m, children, hn⟩)]
    rfl
  | .text _, _, _, _ | .comment _, _, _, _ | .doctype _, _, _, _ => rfl

/-- The same of the nodes that are children of a position, from an index on. -/
theorem map_standingAll : ∀ (ns : List Node) (i : Nat) (p : Path), (d.childrenAt p).drop i = ns →
    (standingAll p i ns).map d.counterpart =
      standingAll (d.seat p).parent ((d.seat p).behind ((d.childrenAt p).take i)).first
        (spliceAll ns)
  | [], _, _, _ => rfl
  | n :: ns, i, p, hns => by
    obtain ⟨hn, hrest⟩ := node?_of_drop_childrenAt hns
    rw [node?] at hn
    have htake : (d.childrenAt p).take (i + 1) = (d.childrenAt p).take i ++ [n] := by
      rw [List.take_add_one, hn]
      rfl
    have hfirst : ((d.seat p).behind ((d.childrenAt p).take (i + 1))).first =
        ((d.seat p).behind ((d.childrenAt p).take i)).first + n.splice.length := by
      simp only [Seat.behind, htake, Node.spliceAll_append, spliceAll, List.append_nil,
        List.length_append, Nat.add_assoc]
    rw [standingAll, List.map_append, map_standing n i p hn, map_standingAll ns (i + 1) p hrest,
      hfirst, spliceAll, standingAll_append]

end

/-- The logical children of the counterpart are the counterparts of the logical children. -/
theorem logicalChildren_counterpart (h : d.IsHolderAt p) :
    d.splice.logicalChildren (d.counterpart p) = (d.logicalChildren p).map d.counterpart := by
  rw [logicalChildren, logicalChildren, map_standingAll (d.childrenAt p) 0 p rfl,
    childrenAt_counterpart h, seat_of_isHolderAt h]
  rfl

/-! ## Logical parents -/

/-- Going up through markers ends where going up in the spliced document does. -/
theorem nearest?_seat (h : d.IsInnerAt p) :
    d.splice.nearest? (d.seat p).parent = (d.nearest? p).map d.counterpart := by
  induction p with
  | nil => rfl
  | cons i p ih =>
    obtain ⟨tag, m, children, hn⟩ := h.resolve_left (List.cons_ne_nil i p)
    cases m with
    | some m =>
      have hmarker : d.isMarkerAt (i :: p) = true := isMarkerAt_iff.2 ⟨tag, m, children, hn⟩
      rw [seat_of_isMarkerAt hmarker, nearest?_of_isMarkerAt hmarker]
      exact ih (isInnerAt_of_node? hn)
    | none =>
      have hplain : d.IsPlainAt (i :: p) := ⟨tag, children, hn⟩
      rw [nearest?_of_isPlainAt hplain]
      exact nearest?_of_isPlainAt hplain.counterpart

/-- The logical parent of the counterpart is the counterpart of the logical parent. -/
theorem logicalParent?_counterpart (h : d.IsPlainAt p) :
    d.splice.logicalParent? (d.counterpart p) = (d.logicalParent? p).map d.counterpart := by
  cases p with
  | nil => rfl
  | cons i p =>
    obtain ⟨tag, children, hn⟩ := id h
    rw [h.counterpart_cons]
    exact nearest?_seat (isInnerAt_of_node? hn)

end

end Document

end Stencil
