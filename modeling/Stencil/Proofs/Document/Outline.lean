import Stencil.Proofs.Document.InStep
import Stencil.Proofs.Document.Search

/-!
# Outlines

The outline of a document is the tree of its elements with all markers looked through and everything
but the tags left out. Queries see nothing else of a document: an address that leads somewhere from
one element leads to an element with the same outline from every other element that has the outline
of the first (`map_outlineAt_resolve?`).
-/

namespace Stencil

/-- An element with the markers below it looked through: its tag and its logical children. -/
inductive Outline where
  | element (tag : String) (children : List Outline)

mutual

/-- The outlines of the elements that stand for a node. -/
def Node.outlines : Node → List Outline
  | .element tag none children => [.element tag (outlinesAll children)]
  | .element _ (some _) children => outlinesAll children
  | .text _ => []
  | .comment _ => []
  | .doctype _ => []

/-- The outlines of the elements that stand for nodes, in document order. -/
def Node.outlinesAll : List Node → List Outline
  | [] => []
  | n :: ns => n.outlines ++ outlinesAll ns

end

/-- The tag and the logical children of an outline. -/
def Outline.parts : Outline → Option String × List Outline
  | .element tag children => (some tag, children)

namespace Document

/-- The outline of a document. -/
def outline (d : Document) : List Outline := Node.outlinesAll d.nodes

/-- The tag and the outlines of the logical children of the element at a position. -/
def outlineAt (d : Document) (p : Path) : Option String × List Outline :=
  (d.tag? p, Node.outlinesAll (d.childrenAt p))

section
variable {d d' : Document} {p p' : Path}

theorem outlineAt_of_node? {tag : String} {m : Option String} {children : List Node}
    (h : d.node? p = some (.element tag m children)) :
    d.outlineAt p = (some tag, Node.outlinesAll children) := by
  rw [outlineAt, tag?, h, childrenAt_of_node? h]
  rfl

mutual

/-- The elements that stand for a node have its outlines. -/
theorem map_outlineAt_standing : ∀ (n : Node) (p : Path), d.node? p = some n →
    (standing p n).map d.outlineAt = n.outlines.map Outline.parts
  | .element tag none children, p, hn => by
    rw [standing, Node.outlines, List.map_singleton, outlineAt_of_node? hn]
    rfl
  | .element tag (some m) children, p, hn => by
    have hc : d.childrenAt p = children := childrenAt_of_node? hn
    rw [standing, Node.outlines]
    exact map_outlineAt_standingAll children p 0 hc
  | .text _, _, _ => rfl
  | .comment _, _, _ => rfl
  | .doctype _, _, _ => rfl

/-- The same of the children of a position, from an index on. -/
theorem map_outlineAt_standingAll : ∀ (ns : List Node) (p : Path) (i : Nat),
    (d.childrenAt p).drop i = ns →
    (standingAll p i ns).map d.outlineAt = (Node.outlinesAll ns).map Outline.parts
  | [], _, _, _ => rfl
  | n :: ns, p, i, hns => by
    obtain ⟨hfirst, hrest⟩ := node?_of_drop_childrenAt hns
    rw [standingAll, Node.outlinesAll, List.map_append, List.map_append,
      map_outlineAt_standing n (i :: p) hfirst, map_outlineAt_standingAll ns p (i + 1) hrest]

end

/-- The logical children of an element have the outlines below it. -/
theorem map_outlineAt_logicalChildren (d : Document) (p : Path) :
    (d.logicalChildren p).map d.outlineAt = (d.outlineAt p).2.map Outline.parts :=
  map_outlineAt_standingAll (d.childrenAt p) p 0 rfl

/-- Elements with one outline are walked in step. -/
theorem inStep_outlineAt (d d' : Document) :
    InStep d d' fun p p' => d.outlineAt p = d'.outlineAt p' := by
  refine ⟨fun h => congrArg Prod.fst h, fun {p p'} h => ?_⟩
  have hchildren : (d.logicalChildren p).map d.outlineAt =
      (d'.logicalChildren p').map d'.outlineAt := by
    rw [map_outlineAt_logicalChildren, map_outlineAt_logicalChildren, h]
  rwa [← List.forall₂_eq_eq_eq, List.forall₂_map_left_iff, List.forall₂_map_right_iff] at hchildren

/-- **An address leads from elements with one outline to elements with one outline**, or from
neither of them anywhere. -/
theorem map_outlineAt_resolve? (h : d.outlineAt p = d'.outlineAt p') (a : Address) :
    (d.resolve? p a).map d.outlineAt = (d'.resolve? p' a).map d'.outlineAt := by
  have hrel := (inStep_outlineAt d d').rel_resolve? h a
  generalize d.resolve? p a = x at hrel ⊢
  generalize d'.resolve? p' a = x' at hrel ⊢
  cases hrel with
  | none => rfl
  | some hq => rw [Option.map_some, Option.map_some, hq]

end

/-! ## Whole documents -/

theorem outlinesAll_of_no_element {ns : List Node} (h : ∀ n ∈ ns, ¬ n.isElement = true) :
    Node.outlinesAll ns = [] := by
  induction ns with
  | nil => rfl
  | cons n ns ih =>
    rw [Node.outlinesAll, ih fun m hm => h m (List.mem_cons_of_mem _ hm), List.append_nil]
    cases n with
    | element tag m children => exact absurd rfl (h _ (List.mem_cons_self ..))
    | text content => rfl
    | comment content => rfl
    | doctype name => rfl

/-- Nodes with one element among them have its outlines. -/
theorem outlinesAll_of_unique {ns : List Node} {i : Nat} {n : Node} (hn : ns[i]? = some n)
    (hunique : ∀ (j : Nat) (m : Node), ns[j]? = some m → m.isElement = true → j = i) :
    Node.outlinesAll ns = n.outlines := by
  induction ns generalizing i with
  | nil => cases hn
  | cons m ns ih =>
    rw [Node.outlinesAll]
    cases i with
    | zero =>
      rw [List.getElem?_cons_zero] at hn
      cases hn
      rw [outlinesAll_of_no_element, List.append_nil]
      intro m hm he
      obtain ⟨j, hj⟩ := List.mem_iff_getElem?.1 hm
      exact absurd (hunique (j + 1) m hj he) (Nat.succ_ne_zero j)
    | succ i =>
      have hfirst : m.outlines = [] := by
        cases m with
        | element tag mk children => exact absurd (hunique 0 _ rfl rfl) (Nat.succ_ne_zero i).symm
        | text content => rfl
        | comment content => rfl
        | doctype name => rfl
      rw [hfirst, List.nil_append]
      exact ih hn fun j m hj he => Nat.succ.inj (hunique (j + 1) m hj he)

/-- Under a top element that is no marker, a document has one outline, which is that of the top. -/
theorem HasPlainTop.exists_outline {d : Document} (h : d.HasPlainTop) :
    ∃ top tag children, d.root? = some top ∧ d.outlineAt top = (some tag, children) ∧
      d.outline = [.element tag children] := by
  obtain ⟨i, tag, children, hi, hunique⟩ := h
  have hroot : d.root? = some [i] := by
    rw [root?, firstElement?_of_unique hi rfl hunique]
    rfl
  have hnode : d.node? [i] = some (.element tag none children) := hi
  refine ⟨[i], tag, Node.outlinesAll children, hroot, outlineAt_of_node? hnode, ?_⟩
  rw [outline, outlinesAll_of_unique hi hunique, Node.outlines]

/-- The top elements of documents with one outline have one outline. -/
theorem HasPlainTop.outlineAt_eq {d d' : Document} (h : d.HasPlainTop) (h' : d'.HasPlainTop)
    (hsame : d.outline = d'.outline) {top top' : Path} (htop : d.root? = some top)
    (htop' : d'.root? = some top') : d.outlineAt top = d'.outlineAt top' := by
  obtain ⟨q, tag, children, hq, hqo, ho⟩ := h.exists_outline
  obtain ⟨q', tag', children', hq', hqo', ho'⟩ := h'.exists_outline
  cases htop.symm.trans hq
  cases htop'.symm.trans hq'
  rw [ho, ho'] at hsame
  cases hsame
  rw [hqo, hqo']

end Document

end Stencil
