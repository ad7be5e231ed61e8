/-!
# Kinds of tokens

What an annotation of a sample marks: the start or the end of an object or of a list, or a value.
The root stands for the whole sample and is written by no annotation.
-/

namespace Stencil

/-- What a token stands for. -/
inductive TokenKind where
  | root
  | objectStart
  | objectEnd
  | listStart
  | listEnd
  | value
  deriving DecidableEq, Repr, Inhabited

namespace TokenKind

/-- The word for a kind in messages and listings. -/
def label : TokenKind → String
  | root => "root"
  | objectStart => "object"
  | objectEnd => "object-end"
  | listStart => "list"
  | listEnd => "list-end"
  | value => "value"

/-- The word for a kind in stored blueprints. -/
def keyword : TokenKind → String
  | root => "root"
  | objectStart => "object_start"
  | objectEnd => "object_end"
  | listStart => "list_start"
  | listEnd => "list_end"
  | value => "value"

/-- Every kind. -/
def all : List TokenKind := [root, objectStart, objectEnd, listStart, listEnd, value]

/-- The kind of a word in stored blueprints. -/
def ofKeyword? (s : String) : Option TokenKind :=
  all.find? fun k => k.keyword == s

/-- Whether a kind ends a container. -/
def isClosing : TokenKind → Bool
  | objectEnd | listEnd => true
  | _ => false

/-- Whether a kind may hold fields. -/
def isContainer : TokenKind → Bool
  | root | objectStart | listStart => true
  | _ => false

/-- Whether a kind starts a container inside a sample. -/
def isOpening : TokenKind → Bool
  | objectStart | listStart => true
  | _ => false

/-- Whether an end of the first kind may follow a start of the second. -/
def closes : (closing opened : TokenKind) → Bool
  | objectEnd, objectStart => true
  | listEnd, listStart => true
  | _, _ => false

/-- The tag of the marker element for a kind. -/
def markerTag? : TokenKind → Option String
  | root => none
  | objectStart | objectEnd => some "object-start"
  | listStart | listEnd => some "list-start"
  | value => some "value"

@[simp] theorem ofKeyword?_keyword (k : TokenKind) : ofKeyword? k.keyword = some k := by
  cases k <;> rfl

end TokenKind

end Stencil
