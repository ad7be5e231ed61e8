import Stencil.Extraction.Frame

/-!
# What an extraction means

The value of a list of fields at an element, by recursion on the fields: they are visited in
declared order, each from the element of its container; an object is the value of its own fields at
its element, and a list holds the value of its fields at each of its items. The stack of frames of
`Stencil.Extraction.Run` computes the same.
-/

namespace Stencil.Extraction

/-- The values of a list's fields at an item, at the next repetition and so on. There are at most
`more` items after the first. -/
def itemsValue (s : ExtractionSettings) (d : Document)
    (fields : Path → Except StructuralError Fields) (itemTag : Option String) :
    (more : Nat) → (item : Path) → Except StructuralError (List Json)
  | 0, item => (fields item).map fun ms => [.object ms]
  | more + 1, item =>
    match fields item with
    | .error e => .error e
    | .ok ms =>
      match nextRepetition? s d item itemTag with
      | none => .ok [.object ms]
      | some next =>
        (itemsValue s d fields itemTag more next).map fun rest => .object ms :: rest

mutual

/-- The members that a list of fields adds to those before them, at an element. -/
def fieldsValue (s : ExtractionSettings) (d : Document) :
    List Token → (before : Fields) → (anchor : Path) → Except StructuralError Fields
  | [], before, _ => .ok before
  | t :: rest, before, anchor =>
    match fieldValue s d t before anchor with
    | .error e => .error e
    | .ok before => fieldsValue s d rest before anchor

/-- The members after one field. -/
def fieldValue (s : ExtractionSettings) (d : Document) :
    Token → (before : Fields) → (anchor : Path) → Except StructuralError Fields
  | ⟨kind, name, _, _, children, address⟩, before, anchor =>
    match d.resolve? anchor (address.getD .empty) with
    | none =>
      match s.missingField with
      | .fail => .error (.nodeNotFound (name.getD "") (address.getD .empty))
      | .skip =>
        .ok (if kind = .listStart then Json.insert (name.getD "") (.array []) before else before)
    | some node =>
      match kind with
      | .value => .ok (Json.insert (name.getD "") (.string (textValue s d node)) before)
      | .objectStart =>
        (fieldsValue s d children [] node).map fun ms =>
          Json.insert (name.getD "") (.object ms) before
      | .listStart =>
        (itemsValue s d (fieldsValue s d children []) (d.tag? node) (s.maxListItems - 1) node).map
          fun items => Json.insert (name.getD "") (.array items) before
      | .root | .objectEnd | .listEnd => .ok before

end

/-- The value of a blueprint in a document. -/
def value (s : ExtractionSettings) (b : Blueprint) (d : Document) : Except StructuralError Json :=
  match d.root? with
  | none => .error (.nodeNotFound b.name .empty)
  | some top => (fieldsValue s d b.root.children [] top).map .object

end Stencil.Extraction
