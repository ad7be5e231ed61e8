import Stencil.Document
import Stencil.Sample

/-!
# Trees under construction

While HTML is read, nodes are created, moved and taken out again. A forest keeps every node that was
ever created in a numbered cell with its parent and its children; cell 0 is the document. When the
reading is over, `Forest.toDocument` gives the finished tree.
-/

namespace Stencil.Html

/-- The language an element belongs to. -/
inductive Language where
  | html
  | svg
  | mathml
  deriving DecidableEq, Repr, Inhabited

/-- What a start tag makes. -/
structure Element where
  language : Language
  name : String
  attributes : List (String × String)
  deriving DecidableEq, Repr, Inhabited

/-- What a cell holds. -/
inductive Content where
  | document
  | element (e : Element)
  | text (content : String)
  | comment (content : String)
  | doctype (name : String)
  /-- The contents of a template, which are not among its children. -/
  | fragment
  deriving Repr, Inhabited

/-- A node with its place in the forest. -/
structure Cell where
  content : Content
  parent : Option Nat
  children : Array Nat
  deriving Repr, Inhabited

/-- All nodes created so far. -/
structure Forest where
  cells : Array Cell
  deriving Repr, Inhabited

namespace Forest

/-- The forest of an empty document. -/
def empty : Forest := ⟨#[⟨.document, none, #[]⟩]⟩

/-- The cell of the document. -/
def documentCell : Nat := 0

/-- The number that the next cell gets. -/
def nextCell (f : Forest) : Nat := f.cells.size

/-- Changes a cell. -/
def modify (f : Forest) (n : Nat) (change : Cell → Cell) : Forest :=
  ⟨f.cells.modify n change⟩

/-- A new node without a place; its number is `nextCell`. -/
def create (f : Forest) (content : Content) : Forest :=
  ⟨f.cells.push ⟨content, none, #[]⟩⟩

/-- The parent of a node. -/
def parent? (f : Forest) (n : Nat) : Option Nat :=
  (f.cells[n]?).bind (·.parent)

/-- The children of a node. -/
def children (f : Forest) (n : Nat) : Array Nat :=
  ((f.cells[n]?).map (·.children)).getD #[]

/-- Takes a node out of its place. -/
def detach (f : Forest) (n : Nat) : Forest :=
  match f.parent? n with
  | none => f
  | some p =>
    (f.modify p fun c => { c with children := c.children.filter (· ≠ n) }).modify n
      fun c => { c with parent := none }

/-- Puts a node without a place behind the children of another. -/
def append (f : Forest) (parent n : Nat) : Forest :=
  (f.modify parent fun c => { c with children := c.children.push n }).modify n
    fun c => { c with parent := some parent }

/-- Puts a node without a place in front of another. -/
def insertBefore (f : Forest) (sibling n : Nat) : Forest :=
  match f.parent? sibling with
  | none => f
  | some p =>
    (f.modify p fun c =>
      let i := (c.children.findIdx? (· == sibling)).getD c.children.size
      { c with children := c.children.extract 0 i ++ #[n] ++ c.children.extract i c.children.size }
      ).modify n fun c => { c with parent := some p }

/-- Whether a node is a text. -/
def isText (f : Forest) (n : Nat) : Bool :=
  match f.cells[n]? with
  | some ⟨.text _, _, _⟩ => true
  | _ => false

/-- Adds characters to a text. -/
def extendText (f : Forest) (n : Nat) (more : String) : Forest :=
  f.modify n fun c =>
    match c.content with
    | .text s => { c with content := .text (s ++ more) }
    | _ => c

/-- Puts characters behind the children of a node. -/
def appendText (f : Forest) (parent : Nat) (s : String) : Forest :=
  match (f.children parent).back? with
  | some last =>
    if f.isText last then f.extendText last s
    else (f.create (.text s)).append parent f.nextCell
  | none => (f.create (.text s)).append parent f.nextCell

/-- Puts characters in front of a node. -/
def insertTextBefore (f : Forest) (sibling : Nat) (s : String) : Forest :=
  match f.parent? sibling with
  | none => f
  | some p =>
    let before := (f.children p).toList.takeWhile (· ≠ sibling)
    match before.getLast? with
    | some previous =>
      if f.isText previous then f.extendText previous s
      else (f.create (.text s)).insertBefore sibling f.nextCell
    | none => (f.create (.text s)).insertBefore sibling f.nextCell

/-- Moves the children of one node behind those of another. -/
def moveChildren (f : Forest) (source target : Nat) : Forest :=
  let moved := f.children source
  let f := f.modify source fun c => { c with children := #[] }
  let f := f.modify target fun c => { c with children := c.children ++ moved }
  moved.foldl (fun f n => f.modify n fun c => { c with parent := some target }) f

/-- Adds the attributes that an element lacks. -/
def addAttributes (f : Forest) (n : Nat) (attributes : List (String × String)) : Forest :=
  f.modify n fun c =>
    match c.content with
    | .element e =>
      let missing := attributes.filter fun a => !e.attributes.any (·.1 == a.1)
      { c with content := .element { e with attributes := e.attributes ++ missing } }
    | _ => c

/-- The finished node of a cell and all below it, down to the given depth. -/
def toNode (f : Forest) : Nat → Nat → Option Node
  | 0, _ => none
  | depth + 1, n =>
    match f.cells[n]? with
    | none => none
    | some c =>
      match c.content with
      | .element e =>
        some (.element e.name (e.attributes.lookup markerAttribute)
          (c.children.toList.filterMap (toNode f depth)))
      | .text s => some (.text s)
      | .comment s => some (.comment s)
      | .doctype name => some (.doctype name)
      | .document => none
      | .fragment => none

/-- The finished document. No path down is longer than the number of cells. -/
def toDocument (f : Forest) : Document :=
  ⟨(f.children documentCell).toList.filterMap (f.toNode f.cells.size)⟩

end Forest

end Stencil.Html
