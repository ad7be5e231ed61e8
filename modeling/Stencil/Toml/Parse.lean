import Stencil.Toml.Literal
import Stencil.Toml.Quoted

/-!
# Reading TOML

A document is a sequence of lines: assignments, headers, comments and empty lines. Lines are read
one by one into statements, and the statements build the tree. Values may be nested less than
`maxDepth` deep, and a key has less than `maxDepth` parts.
-/

namespace Stencil.Toml

/-- The bound on nesting and on the parts of a key. -/
def maxDepth : Nat := 80

/-- A text without its leading blanks. -/
def skipWide (s : List Char) : List Char := s.dropWhile isWide

/-- The rest after a comment, which ends before a line break or with the text. -/
def skipComment : List Char → List Char
  | '#' :: r => r.dropWhile isPlain
  | s => s

/-- The rest after the end of a line: blanks, a comment, and a line break or the end of the text. -/
def endLine? (s : List Char) : Option (List Char) :=
  match skipComment (skipWide s) with
  | [] => some []
  | r => newline? r

/-- Skips blanks, line breaks and comments. The first argument bounds the number of lines. -/
def skipLines : Nat → List Char → List Char
  | 0, s => s
  | n + 1, s =>
    match newline? (skipComment (skipWide s)) with
    | some r => skipLines n r
    | none => skipWide s

/-- Skips blanks, line breaks and comments. -/
def skipBetween (s : List Char) : List Char := skipLines s.length s

/-! ## Keys -/

/-- Characters of keys that need no quotes. -/
def isBareKeyChar (c : Char) : Bool := c.isAlphanum || c == '-' || c == '_'

/-- Reads a part of a key. -/
def readKeyPart? (s : List Char) : Option (String × List Char) :=
  match readShort? s with
  | some (text, r) => some (String.ofList text, r)
  | none =>
    match s.takeWhile isBareKeyChar with
    | [] => none
    | part => some (String.ofList part, s.dropWhile isBareKeyChar)

/-- Reads the parts of a key, with dots between them. The first argument bounds their number. -/
def readParts : Nat → List Char → Option (List String × List Char)
  | 0, _ => none
  | n + 1, s =>
    match readKeyPart? (skipWide s) with
    | none => none
    | some (part, r) =>
      match skipWide r with
      | '.' :: r => (readParts n r).map fun (parts, r) => (part :: parts, r)
      | r => some ([part], r)

/-- Reads a key. -/
def readKey? (s : List Char) : Option (List String × List Char) := readParts (maxDepth - 1) s

/-! ## Values -/

/-- Reads the items of a list after its opening bracket. The first argument bounds their number. -/
def readItems (value : List Char → Option (Toml × List Char)) :
    Nat → List Char → Option (List Toml × List Char)
  | 0, _ => none
  | n + 1, s =>
    match skipBetween s with
    | ']' :: r => some ([], r)
    | s =>
      match value s with
      | none => none
      | some (x, r) =>
        match skipBetween r with
        | ',' :: r => (readItems value n r).map fun (xs, r) => (x :: xs, r)
        | ']' :: r => some ([x], r)
        | _ => none

/-- Reads an assignment: a key, an equals sign and a value. -/
def readAssignment (value : List Char → Option (Toml × List Char)) (s : List Char) :
    Option ((List String × Toml) × List Char) :=
  match readKey? s with
  | none => none
  | some (key, r) =>
    match skipWide r with
    | '=' :: r => (value (skipWide r)).map fun (v, r) => ((key, v), r)
    | _ => none

/-- Reads the assignments of a table written inline. The first argument bounds their number. -/
def readInline (value : List Char → Option (Toml × List Char)) :
    Nat → List Char → Option (List (List String × Toml) × List Char)
  | 0, _ => none
  | n + 1, s =>
    match readAssignment value s with
    | none => none
    | some (a, r) =>
      match skipWide r with
      | ',' :: r => (readInline value n r).map fun (as, r) => (a :: as, r)
      | '\x7d' :: r => some ([a], r)
      | _ => none

/-- Adds an assignment to a table. -/
def assignKey (origin : TableOrigin) (members : Members) (a : List String × Toml) :
    Option Members :=
  match a.1.getLast? with
  | none => none
  | some key => assign a.1.dropLast key a.2 origin members

/-- Reads a value with at most `levels` brackets and braces around each other. -/
def readValue : Nat → List Char → Option (Toml × List Char)
  | 0, s =>
    match s with
    | '[' :: _ | '\x7b' :: _ => none
    | '"' :: _ | '\'' :: _ => (readQuoted? s).map fun (t, r) => (.string (String.ofList t), r)
    | s => readLiteralValue? s
  | levels + 1, s =>
    match s with
    | '[' :: r => (readItems (readValue levels) (r.length + 1) r).map fun (xs, r) => (.array xs, r)
    | '\x7b' :: r =>
      match skipWide r with
      | '\x7d' :: r => some (.table .inline [], r)
      | r =>
        match readInline (readValue levels) (r.length + 1) r with
        | none => none
        | some (as, r) =>
          (as.foldlM (assignKey .inline) []).map fun members => (.table .inline members, r)
    | '"' :: _ | '\'' :: _ => (readQuoted? s).map fun (t, r) => (.string (String.ofList t), r)
    | s => readLiteralValue? s

/-! ## Documents -/

/-- What a line says. -/
inductive Statement where
  | assignment (key : List String) (v : Toml)
  /-- A header of one table. -/
  | header (key : List String)
  /-- A header of an item of a list of tables. -/
  | item (key : List String)
  deriving Repr

/-- Reads a line that is not empty up to its end. -/
def readStatement (s : List Char) : Option (Statement × List Char) :=
  match s with
  | '[' :: '[' :: r =>
    match readKey? r with
    | some (key, ']' :: ']' :: r) => some (.item key, r)
    | _ => none
  | '[' :: r =>
    match readKey? r with
    | some (key, ']' :: r) => some (.header key, r)
    | _ => none
  | s => (readAssignment (readValue (maxDepth - 1)) s).map fun ((key, v), r) => (.assignment key v, r)

/-- The statements of a text. The first argument bounds the number of lines. -/
def readStatements : Nat → List Char → Option (List Statement)
  | 0, _ => none
  | n + 1, s =>
    match skipWide s with
    | [] => some []
    | s =>
      match endLine? s with
      | some r => readStatements n r
      | none =>
        match readStatement s with
        | none => none
        | some (statement, r) =>
          match endLine? r with
          | none => none
          | some r => (readStatements n r).map (statement :: ·)

/-- A document under construction: its members, and the table that the last header opened. -/
structure Draft where
  members : Members := []
  current : List String := []

/-- Carries out a statement. -/
def Draft.add (d : Draft) : Statement → Option Draft
  | .assignment key v =>
    (within false (fun origin members => assignKey origin members (key, v)) d.current .header
      d.members).map fun members => { d with members }
  | .header key =>
    match key.getLast? with
    | none => none
    | some last => (openTable key.dropLast last d.members).map fun members => ⟨members, key⟩
  | .item key =>
    match key.getLast? with
    | none => none
    | some last => (openItem key.dropLast last d.members).map fun members => ⟨members, key⟩

/-- The tree of a document, which may start with a byte order mark. -/
def parse? (s : List Char) : Option Toml :=
  let s := match s with
    | '\uFEFF' :: r => r
    | s => s
  match readStatements (s.length + 1) s with
  | none => none
  | some statements =>
    (statements.foldlM Draft.add {}).map fun d => .table .header d.members

/-- The tree of a text. -/
def ofString? (s : String) : Option Toml := parse? s.toList

end Stencil.Toml
