import Stencil.Json.Decode

/-!
# Output formats

The ways in which results are shown, and the words for them.
-/

namespace Stencil

/-- How results are shown. -/
inductive OutputFormat where
  | table
  | json
  /-- Without decoration, for other programs. -/
  | quiet
  deriving DecidableEq, Repr, Inhabited

namespace OutputFormat

/-- The word for a format. -/
def keyword : OutputFormat → String
  | table => "table"
  | json => "json"
  | quiet => "quiet"

/-- The format of a word. -/
def ofKeyword? (s : String) : Option OutputFormat :=
  [table, json, quiet].find? (·.keyword = s)

/-- Reads a format from its word, or from an object with the word as key and a value below that
`isUnit` accepts as nothing. -/
def ofJson? (isUnit : Json → Bool) : Json → Option OutputFormat
  | .string s => ofKeyword? s
  | .object [(s, j)] => if isUnit j then ofKeyword? s else none
  | _ => none

end OutputFormat

end Stencil
