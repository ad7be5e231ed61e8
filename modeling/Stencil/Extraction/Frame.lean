import Stencil.Annotation
import Stencil.Blueprint
import Stencil.Document
import Stencil.Extraction.Settings
import Stencil.StructuralError
import Stencil.Text.Blank

/-!
# One step of an extraction

An extraction keeps a stack of frames, one for each container it is inside of. A frame knows the
element it is at, the fields still to visit and what the fields before them gave. `advance` takes
one frame one step further: it visits the next field, or ends the container, or moves a list on to
its next item.
-/

namespace Stencil

/-- The members of a result that is being filled. -/
abbrev Fields := List (String × Json)

namespace Extraction

/-- A container whose fields are being visited. -/
inductive Frame where
  /-- An object at an element. -/
  | object (token : Token) (node : Path) (todo : List Token) (fields : Fields)
  /-- A list at one of its items. `items` are the items before it, the last one first. -/
  | list (token : Token) (item : Path) (itemTag : Option String) (todo : List Token)
      (items : List Json) (current : Fields)
  deriving Repr

namespace Frame

/-- Records the value of a field. -/
def put (name : String) (value : Json) : Frame → Frame
  | object token node todo fields => object token node todo (Json.insert name value fields)
  | list token item itemTag todo items current =>
    list token item itemTag todo items (Json.insert name value current)

/-- The frame for an object at its element. -/
def ofObject (t : Token) (node : Path) : Frame := object t node t.children []

/-- The frame for a list at its first item. -/
def ofList (d : Document) (t : Token) (node : Path) : Frame :=
  list t node (d.tag? node) t.children [] []

end Frame

/-- What visiting a field leads to. -/
inductive Visit where
  /-- Nothing is recorded. -/
  | nothing
  /-- A value is recorded under a name. -/
  | record (name : String) (value : Json)
  /-- The field is a container to be entered. -/
  | enter (child : Frame)
  deriving Repr

/-- The value read from an element: its direct text without annotations, trimmed if so set. -/
def textValue (s : ExtractionSettings) (d : Document) (node : Path) : String :=
  let cleaned := removeAnnotations (d.textAt node).toList
  String.ofList (if s.trimValues then Text.trim cleaned else cleaned)

/-- What becomes of a field whose address leads nowhere. -/
def visitMissing (s : ExtractionSettings) (t : Token) : Except StructuralError Visit :=
  match s.missingField with
  | .fail => .error (.nodeNotFound t.label t.way)
  | .skip => .ok (if t.kind = .listStart then .record t.label (.array []) else .nothing)

/-- What becomes of a field found at an element. -/
def visitFound (s : ExtractionSettings) (d : Document) (t : Token) (node : Path) : Visit :=
  match t.kind with
  | .value => .record t.label (.string (textValue s d node))
  | .objectStart => .enter (.ofObject t node)
  | .listStart => .enter (.ofList d t node)
  | .root | .objectEnd | .listEnd => .nothing

/-- Visits a field from the element of its container. -/
def visit (s : ExtractionSettings) (d : Document) (anchor : Path) (t : Token) :
    Except StructuralError Visit :=
  match d.resolve? anchor t.way with
  | none => visitMissing s t
  | some node => .ok (visitFound s d t node)

/-- The sibling that is the next item of a list. -/
def nextRepetition? (s : ExtractionSettings) (d : Document) (item : Path)
    (itemTag : Option String) : Option Path :=
  match d.nextSibling? item with
  | none => none
  | some sibling => if s.matchSiblingTag ∧ d.tag? sibling ≠ itemTag then none else some sibling

/-- Where a step leads. -/
inductive Move where
  /-- The frame goes on. -/
  | stay (frame : Frame)
  /-- The frame waits for a container inside it. -/
  | enter (frame child : Frame)
  /-- The container is finished with a value. -/
  | leave (name : String) (value : Json)
  deriving Repr

/-- Takes a frame on after a visit. -/
def Frame.after (f : Frame) : Visit → Move
  | .nothing => .stay f
  | .record name value => .stay (f.put name value)
  | .enter child => .enter f child

/-- Ends an item of a list: the list goes on with the next item, if there is one and the list may
hold it. -/
def endItem (s : ExtractionSettings) (d : Document) (token : Token) (item : Path)
    (itemTag : Option String) (items : List Json) : Move :=
  match nextRepetition? s d item itemTag with
  | none => .leave token.label (.array items.reverse)
  | some sibling =>
    if s.maxListItems ≤ items.length then .leave token.label (.array items.reverse)
    else .stay (.list token sibling itemTag token.children items [])

/-- Takes a frame one step further. -/
def advance (s : ExtractionSettings) (d : Document) : Frame → Except StructuralError Move
  | .object token node (t :: todo) fields =>
    (visit s d node t).map (Frame.object token node todo fields).after
  | .object token _ [] fields => .ok (.leave token.label (.object fields))
  | .list token item itemTag (t :: todo) items current =>
    (visit s d item t).map (Frame.list token item itemTag todo items current).after
  | .list token item itemTag [] items current =>
    .ok (endItem s d token item itemTag (.object current :: items))

end Extraction

end Stencil
