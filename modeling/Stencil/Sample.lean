import Stencil.Annotation

/-!
# Samples

A sample is a document with annotations in it. `tokenize` lists its annotations as tokens,
`strip` removes them, and `inject` puts marker elements in their place: a container's marker is
opened at its start and closed at its end, and a value's marker is an empty element.
-/

namespace Stencil

/-- Where marker identifiers come from: the identifier for each place in the list of tokens. -/
abbrev IdSupply := Nat → MarkerId

/-- Why the annotations of a text cannot be listed. -/
inductive SyntaxError where
  /-- The opening brace at this offset has no closing brace after it. -/
  | unterminated (offset : Nat)
  deriving DecidableEq, Repr

/-- The text shown for a syntax error. -/
def SyntaxError.message : SyntaxError → String
  | .unterminated offset =>
    "Unterminated annotation starting at offset " ++ toString offset

/-- The attribute that marks an element as a marker. -/
def markerAttribute : String := "data-schemee-id"

namespace Sample

/-- The token of an annotation. Ends of containers have no identifier. -/
def tokenOf (id : MarkerId) (a : Annotation) : Token :=
  .leaf a.kind a.name (some a.span) (if a.kind.isClosing then none else some id)

/-- The tokens of annotations, the first one at place `n` of the list. -/
def tokensFrom (ids : IdSupply) (n : Nat) : List Annotation → List Token
  | [] => []
  | a :: rest => tokenOf (ids n) a :: tokensFrom ids (n + 1) rest

/-- The tokens of a sample: the root and one token for each annotation. -/
def tokenize (ids : IdSupply) (s : List Char) : Except SyntaxError (List Token) :=
  match (scan s).unterminated with
  | some offset => .error (.unterminated offset)
  | none => .ok (.root (ids 0) :: tokensFrom ids 1 (scan s).found)

/-- The sample without its annotations. -/
def strip (s : List Char) : Except SyntaxError (List Char) :=
  match (scan s).unterminated with
  | some offset => .error (.unterminated offset)
  | none => .ok (cutSpans ((scan s).found.map (·.span)) s)

/-- The start tag of a marker element. -/
def markerStart (tag : String) (id : Option MarkerId) : List Char :=
  '<' :: (tag.toList ++
    (match id with
      | none => []
      | some id => ' ' :: (markerAttribute.toList ++ '=' :: '"' :: (id.digits ++ ['"']))) ++
    ['>'])

/-- The end tag of a marker element. -/
def markerEnd (tag : String) : List Char :=
  '<' :: '/' :: (tag.toList ++ ['>'])

/-- What stands for a token in a marked sample. -/
def marker (t : Token) : List Char :=
  match t.kind.markerTag? with
  | none => []
  | some tag =>
    match t.kind with
    | .objectStart | .listStart => markerStart tag t.markerId
    | .objectEnd | .listEnd => markerEnd tag
    | .value => markerStart tag t.markerId ++ markerEnd tag
    | .root => []

/-- The places of tokens with their markers; tokens without a place are left out. -/
def markers (tokens : List Token) : List (Span × List Char) :=
  tokens.filterMap fun t => t.span.map fun span => (span, marker t)

/-- The sample with markers in the place of its annotations. -/
def inject (tokens : List Token) (s : List Char) : List Char :=
  replaceSpans 0 (markers tokens) s

end Sample

end Stencil
