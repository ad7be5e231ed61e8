import Stencil.Document

/-!
# Documents with other texts

`Document.relabel` changes the texts of marker attributes and all other texts of a document and
keeps its tags and its shape. The queries of a document ask of a marker attribute only whether it is
there, so they answer as before (`logicalChildren_relabel`, `logicalParent?_relabel`,
`addressOf_relabel`). The search for markers alone reads the attribute: it finds the same position
if the new texts tell apart what is looked for (`findAll_relabelAll`).
-/

namespace Stencil

mutual

/-- The node with the texts of its marker attributes changed by `mark` and all others by `text`. -/
def Node.relabel (mark text : String → String) : Node → Node
  | .element tag marker children =>
    .element tag (marker.map mark) (relabelAll mark text children)
  | .text s => .text (text s)
  | .comment s => .comment (text s)
  | .doctype s => .doctype (text s)

/-- The nodes of a list with their texts changed. -/
def Node.relabelAll (mark text : String → String) : List Node → List Node
  | [] => []
  | n :: ns => n.relabel mark text :: relabelAll mark text ns

end

/-- The document with the texts of its marker attributes changed by `mark` and all others by
`text`. -/
def Document.relabel (mark text : String → String) (d : Document) : Document :=
  ⟨Node.relabelAll mark text d.nodes⟩

namespace Node

variable (mark text : String → String)

theorem relabelAll_eq_map (ns : List Node) :
    relabelAll mark text ns = ns.map (relabel mark text) := by
  induction ns with
  | nil => rfl
  | cons n ns ih => rw [relabelAll, ih, List.map_cons]

@[simp] theorem children_relabel (n : Node) :
    (n.relabel mark text).children = relabelAll mark text n.children := by
  cases n <;> rw [relabel] <;> rfl

@[simp] theorem tag?_relabel (n : Node) : (n.relabel mark text).tag? = n.tag? := by
  cases n <;> rw [relabel] <;> rfl

@[simp] theorem isMarker_relabel (n : Node) : (n.relabel mark text).isMarker = n.isMarker := by
  cases n with
  | element tag marker children =>
    rw [relabel]
    cases marker <;> rfl
  | text s => rw [relabel]; rfl
  | comment s => rw [relabel]; rfl
  | doctype s => rw [relabel]; rfl

@[simp] theorem isElement_relabel (n : Node) : (n.relabel mark text).isElement = n.isElement := by
  rw [isElement, isElement, tag?_relabel]

end Node

namespace Document

open Node (relabelAll)

section
variable (mark text : String → String) (d : Document)

/-! ## Looking through markers -/

@[simp] theorem childrenAt_relabel (p : Path) :
    (d.relabel mark text).childrenAt p = relabelAll mark text (d.childrenAt p) := by
  induction p with
  | nil => rfl
  | cons i p ih =>
    rw [childrenAt, childrenAt, ih, Node.relabelAll_eq_map, List.getElem?_map]
    cases (d.childrenAt p)[i]? with
    | none => rfl
    | some n => exact n.children_relabel mark text

@[simp] theorem node?_relabel (p : Path) :
    (d.relabel mark text).node? p = (d.node? p).map (Node.relabel mark text) := by
  cases p with
  | nil => rfl
  | cons i p => rw [node?, node?, childrenAt_relabel, Node.relabelAll_eq_map, List.getElem?_map]

@[simp] theorem tag?_at_relabel (p : Path) : (d.relabel mark text).tag? p = d.tag? p := by
  rw [tag?, tag?, node?_relabel]
  cases d.node? p with
  | none => rfl
  | some n => exact n.tag?_relabel mark text

@[simp] theorem isMarkerAt_relabel (p : Path) :
    (d.relabel mark text).isMarkerAt p = d.isMarkerAt p := by
  rw [isMarkerAt, isMarkerAt, node?_relabel]
  cases d.node? p with
  | none => rfl
  | some n => exact n.isMarker_relabel mark text

mutual

theorem standing_relabel : ∀ (p : Path) (n : Node), standing p (n.relabel mark text) = standing p n
  | p, .element _ none _ => by
    rw [Node.relabel, Option.map_none, standing, standing]
  | p, .element _ (some _) children => by
    rw [Node.relabel, Option.map_some, standing, standing, standingAll_relabelAll p 0 children]
  | _, .text _ => by rw [Node.relabel, standing, standing]
  | _, .comment _ => by rw [Node.relabel, standing, standing]
  | _, .doctype _ => by rw [Node.relabel, standing, standing]

theorem standingAll_relabelAll : ∀ (p : Path) (i : Nat) (ns : List Node),
    standingAll p i (relabelAll mark text ns) = standingAll p i ns
  | _, _, [] => rfl
  | p, i, n :: ns => by
    rw [relabelAll, standingAll, standingAll, standing_relabel (i :: p) n,
      standingAll_relabelAll p (i + 1) ns]

end

@[simp] theorem logicalChildren_relabel (p : Path) :
    (d.relabel mark text).logicalChildren p = d.logicalChildren p := by
  rw [logicalChildren, logicalChildren, childrenAt_relabel, standingAll_relabelAll]

@[simp] theorem nearest?_relabel (p : Path) :
    (d.relabel mark text).nearest? p = d.nearest? p := by
  induction p with
  | nil => rfl
  | cons i p ih =>
    rw [nearest?, nearest?, node?_relabel, ih]
    cases d.node? (i :: p) with
    | none => rfl
    | some n =>
      cases n with
      | element tag marker children =>
        rw [Option.map_some, Node.relabel]
        cases marker <;> rfl
      | text s => rw [Option.map_some, Node.relabel]
      | comment s => rw [Option.map_some, Node.relabel]
      | doctype s => rw [Option.map_some, Node.relabel]

@[simp] theorem logicalParent?_relabel (p : Path) :
    (d.relabel mark text).logicalParent? p = d.logicalParent? p := by
  cases p with
  | nil => rfl
  | cons i p => exact nearest?_relabel mark text d p

/-! ## Queries -/

theorem firstElement?_relabelAll (ns : List Node) :
    firstElement? (relabelAll mark text ns) = firstElement? ns := by
  induction ns with
  | nil => rfl
  | cons n ns ih => rw [relabelAll, firstElement?, firstElement?, ih, Node.isElement_relabel]

@[simp] theorem root?_relabel : (d.relabel mark text).root? = d.root? := by
  rw [root?, root?, relabel, firstElement?_relabelAll]

@[simp] theorem firstChild?_relabel (p : Path) :
    (d.relabel mark text).firstChild? p = d.firstChild? p := by
  rw [firstChild?, firstChild?, logicalChildren_relabel]

@[simp] theorem stepTo_relabel (parent p : Path) :
    (d.relabel mark text).stepTo parent p = d.stepTo parent p := by
  rw [stepTo, stepTo, tag?_at_relabel, logicalChildren_relabel]

/-- The steps to a node, by what is around it. -/
theorem stepsTo_eq (p : Path) :
    d.stepsTo p =
      if d.root? = some p then []
      else
        match d.logicalParent? p with
        | none => []
        | some parent =>
          d.stepsTo parent ++ (if d.isMarkerAt p then [] else [d.stepTo parent p]) := by
  rw [stepsTo]
  split
  · rfl
  · split <;> next h => rw [h]

/-- The address of an element does not tell the texts of the document. The induction goes up the
position. -/
theorem stepsTo_relabel (p : Path) : (d.relabel mark text).stepsTo p = d.stepsTo p := by
  induction hn : p.length using Nat.strongRecOn generalizing p with
  | ind n ih =>
    rw [stepsTo_eq, stepsTo_eq, root?_relabel, logicalParent?_relabel, isMarkerAt_relabel]
    cases hparent : d.logicalParent? p with
    | none => rfl
    | some parent =>
      have hlt := length_lt_of_logicalParent? hparent
      dsimp only
      rw [ih parent.length (hn ▸ hlt) parent rfl, stepTo_relabel]

@[simp] theorem addressOf_relabel (p : Path) :
    (d.relabel mark text).addressOf p = d.addressOf p := by
  rw [addressOf, addressOf, stepsTo_relabel]

end

/-! ## The search for markers -/

section
variable {mark : String → String} {wanted wanted' : String}

theorem map_mark_eq_some_iff (h : ∀ m, mark m = wanted' ↔ m = wanted) (marker : Option String) :
    marker.map mark = some wanted' ↔ marker = some wanted := by
  cases marker with
  | none => exact ⟨nofun, nofun⟩
  | some m => rw [Option.map_some, Option.some_inj, Option.some_inj, h]

mutual

theorem findIn_relabel (h : ∀ m, mark m = wanted' ↔ m = wanted) (text : String → String) :
    ∀ (p : Path) (n : Node), findIn wanted' p (n.relabel mark text) = findIn wanted p n
  | p, .element tag marker children => by
    rw [Node.relabel, findIn, findIn, findAll_relabelAll h text p 0 children]
    simp only [map_mark_eq_some_iff h]
  | _, .text _ => by rw [Node.relabel, findIn, findIn]
  | _, .comment _ => by rw [Node.relabel, findIn, findIn]
  | _, .doctype _ => by rw [Node.relabel, findIn, findIn]

/-- What is found where the marker attributes say something else: the same, if they say what is
looked for exactly where they did before. -/
theorem findAll_relabelAll (h : ∀ m, mark m = wanted' ↔ m = wanted) (text : String → String) :
    ∀ (p : Path) (i : Nat) (ns : List Node),
      findAll wanted' p i (relabelAll mark text ns) = findAll wanted p i ns
  | _, _, [] => rfl
  | p, i, n :: ns => by
    rw [relabelAll, findAll, findAll, findIn_relabel h text (i :: p) n,
      findAll_relabelAll h text p (i + 1) ns]

end

/-- A renaming of identifiers that the texts of the marker attributes follow. -/
def Follows (mark : String → String) (f : MarkerId → MarkerId) : Prop :=
  ∀ (id : MarkerId) (m : String), mark m = (f id).toText ↔ m = id.toText

theorem findMarker?_relabel {f : MarkerId → MarkerId} (h : Follows mark f)
    (text : String → String) (d : Document) (id : MarkerId) :
    (d.relabel mark text).findMarker? (f id) = d.findMarker? id :=
  findAll_relabelAll (h id) text [] 0 d.nodes

end

end Document

end Stencil
