import Stencil.Address
import Stencil.MarkerId

/-!
# Documents

A document is a finite tree of elements, texts and comments. An element that carries the marker
attribute is a marker. Markers are transparent: the *logical* children of an element are its child
elements with every marker replaced by the marker's own children, and the logical parent of a node
is its nearest ancestor that is not a marker. All queries on elements look through markers in this
way, so an address found in a marked sample is the address of the same element in the document
without markers.

Nodes are named by their positions. A position lists child indices from the node up to the
document, so that the tail of a position is the position of the parent.
-/

namespace Stencil

/-- A node of a document. -/
inductive Node where
  /-- An element with its tag, the text of its marker attribute and its children. -/
  | element (tag : String) (marker : Option String) (children : List Node)
  | text (content : String)
  | comment (content : String)
  | doctype (name : String)
  deriving Repr, Inhabited

namespace Node

/-- The children of a node; only elements have any. -/
def children : Node → List Node
  | element _ _ children => children
  | _ => []

/-- The tag of an element. -/
def tag? : Node → Option String
  | element tag _ _ => some tag
  | _ => none

/-- The text of the marker attribute. -/
def marker? : Node → Option String
  | element _ marker _ => marker
  | _ => none

/-- Whether a node is an element. -/
def isElement (n : Node) : Bool := n.tag?.isSome

/-- Whether a node is a marker. -/
def isMarker (n : Node) : Bool := n.marker?.isSome

/-- The characters of a text. -/
def text? : Node → Option String
  | text content => some content
  | _ => none

end Node

/-- The position of a node: its index among its parent's children, then the parent's position. The
document itself is at the empty position. -/
abbrev Path := List Nat

/-- The nodes at the top of a document. -/
structure Document where
  nodes : List Node
  deriving Repr, Inhabited

namespace Document

/-- The children of the node at a position. -/
def childrenAt (d : Document) : Path → List Node
  | [] => d.nodes
  | i :: p =>
    match (d.childrenAt p)[i]? with
    | some n => n.children
    | none => []

/-- The node at a position. -/
def node? (d : Document) : Path → Option Node
  | [] => none
  | i :: p => (d.childrenAt p)[i]?

/-- The tag of the element at a position. -/
def tag? (d : Document) (p : Path) : Option String :=
  (d.node? p).bind Node.tag?

/-- Whether there is a marker at a position. -/
def isMarkerAt (d : Document) (p : Path) : Bool :=
  ((d.node? p).map Node.isMarker).getD false

/-! ## Looking through markers -/

mutual

/-- The positions of the elements that stand for the node at `p`: the node itself, or for a marker
the elements that stand for its children. -/
def standing (p : Path) : Node → List Path
  | .element _ none _ => [p]
  | .element _ (some _) children => standingAll p 0 children
  | .text _ => []
  | .comment _ => []
  | .doctype _ => []

/-- The positions of the elements that stand for the children of the node at `p`, from the child
with index `i` on. -/
def standingAll (p : Path) (i : Nat) : List Node → List Path
  | [] => []
  | n :: rest => standing (i :: p) n ++ standingAll p (i + 1) rest

end

/-- The positions of the logical children of the node at a position, in document order. -/
def logicalChildren (d : Document) (p : Path) : List Path :=
  standingAll p 0 (d.childrenAt p)

/-- The nearest element that is not a marker, from a position upwards. -/
def nearest? (d : Document) : Path → Option Path
  | [] => none
  | i :: p =>
    match d.node? (i :: p) with
    | some (.element _ none _) => some (i :: p)
    | some (.element _ (some _) _) => d.nearest? p
    | _ => none

/-- The position of the logical parent of the node at a position. -/
def logicalParent? (d : Document) : Path → Option Path
  | [] => none
  | _ :: p => d.nearest? p

theorem length_le_of_nearest? {d : Document} {p q : Path} (h : d.nearest? p = some q) :
    q.length ≤ p.length := by
  induction p with
  | nil => simp [nearest?] at h
  | cons i p ih =>
    rw [nearest?] at h
    split at h
    · simp only [Option.some.injEq] at h
      simp [← h]
    · have := ih h
      simp only [List.length_cons]
      omega
    · simp at h

/-- A parent is nearer to the top than its child. -/
theorem length_lt_of_logicalParent? {d : Document} {p q : Path} (h : d.logicalParent? p = some q) :
    q.length < p.length := by
  cases p with
  | nil => simp [logicalParent?] at h
  | cons i p =>
    have := length_le_of_nearest? (d := d) (p := p) h
    simp only [List.length_cons]
    omega

/-! ## Queries -/

/-- The index of the first element of a list of nodes. -/
def firstElement? : List Node → Option Nat
  | [] => none
  | n :: rest => if n.isElement then some 0 else (firstElement? rest).map (· + 1)

/-- The position of the top element, the first element of the document. -/
def root? (d : Document) : Option Path :=
  (firstElement? d.nodes).map fun i => [i]

mutual

/-- The position of the first node, at or below the node at `p` and in document order, whose marker
attribute is the given text. -/
def findIn (wanted : String) (p : Path) : Node → Option Path
  | .element _ marker children =>
    if marker = some wanted then some p else findAll wanted p 0 children
  | .text _ => none
  | .comment _ => none
  | .doctype _ => none

/-- The first such node below the node at `p`, from the child with index `i` on. -/
def findAll (wanted : String) (p : Path) (i : Nat) : List Node → Option Path
  | [] => none
  | n :: rest =>
    match findIn wanted (i :: p) n with
    | some q => some q
    | none => findAll wanted p (i + 1) rest

end

/-- The position of the marker of an identifier. -/
def findMarker? (d : Document) (id : MarkerId) : Option Path :=
  findAll id.toText [] 0 d.nodes

/-- The first logical child. -/
def firstChild? (d : Document) (p : Path) : Option Path :=
  (d.logicalChildren p).head?

/-- The logical child of the same parent that comes next. -/
def nextSibling? (d : Document) (p : Path) : Option Path :=
  match d.logicalParent? p with
  | none => none
  | some parent =>
    let siblings := d.logicalChildren parent
    match siblings.idxOf? p with
    | none => none
    | some i => siblings[i + 1]?

/-- The characters of the texts directly below the node at a position. -/
def textAt (d : Document) (p : Path) : String :=
  String.join ((d.childrenAt p).filterMap Node.text?)

/-! ## Addresses -/

/-- The step from a parent to its logical child at a position. -/
def stepTo (d : Document) (parent p : Path) : Step :=
  ⟨(d.tag? p).getD "", some (.at (((d.logicalChildren parent).idxOf? p).getD 0))⟩

/-- The steps from the top element to the node at a position. Markers contribute none. -/
def stepsTo (d : Document) (p : Path) : List Step :=
  if d.root? = some p then []
  else
    match _h : d.logicalParent? p with
    | none => []
    | some parent =>
      stepsTo d parent ++ (if d.isMarkerAt p then [] else [d.stepTo parent p])
termination_by p.length
decreasing_by exact length_lt_of_logicalParent? _h

/-- The address of the node at a position, from the top element. -/
def addressOf (d : Document) (p : Path) : Address := ⟨d.stepsTo p⟩

/-- The child a step leads to, before its tag is compared. -/
def childAt? (d : Document) (p : Path) (s : Step) : Option Path :=
  match s.place with
  | some (.at i) => (d.logicalChildren p)[i]?
  | some .last => (d.logicalChildren p).getLast?
  | none => (d.logicalChildren p).find? fun q => d.tag? q == some s.tag

/-- Takes a step: the child at its place, if that has its tag. -/
def resolveStep? (d : Document) (p : Path) (s : Step) : Option Path :=
  match d.childAt? p s with
  | some q => if d.tag? q = some s.tag then some q else none
  | none => none

/-- Takes steps one after the other. -/
def resolveSteps? (d : Document) (p : Path) : List Step → Option Path
  | [] => some p
  | s :: rest =>
    match d.resolveStep? p s with
    | some q => d.resolveSteps? q rest
    | none => none

/-- Follows an address from the node at a position. -/
def resolve? (d : Document) (p : Path) (a : Address) : Option Path :=
  d.resolveSteps? p a.steps

end Document

end Stencil
