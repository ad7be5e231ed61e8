import Stencil.Blueprint.Codec
import Stencil.Report.FieldRows
import Stencil.Report.Format
import Stencil.Report.Leaves
import Stencil.Report.Table

/-!
# Reports

How values, blueprints, names and messages are shown to a user: as tables, as JSON, or bare for
other programs. Colors are terminal escape sequences.
-/

namespace Stencil

/-- Colors of messages. -/
inductive Color where
  | red
  | green
  | yellow
  | blue
  | cyan
  deriving DecidableEq, Repr

/-- The escape sequence that starts a color. -/
def Color.start : Color → String
  | red => "\x1b[31m"
  | green => "\x1b[32m"
  | yellow => "\x1b[33m"
  | blue => "\x1b[34m"
  | cyan => "\x1b[36m"

/-- The escape sequence that ends every color. -/
def Color.reset : String := "\x1b[0m"

/-- How reports look. -/
structure Report where
  format : OutputFormat := .table
  color : Bool := false
  deriving DecidableEq, Repr

namespace Report

/-- A text in a color, which starts again where the text itself ends a color. -/
def paint (r : Report) (c : Color) (text : String) : String :=
  if r.color then
    c.start ++ (Color.reset ++ c.start).intercalate (text.splitOn Color.reset) ++ Color.reset
  else text

/-- An extracted value. -/
def value (r : Report) (j : Json) : String :=
  match r.format with
  | .json => j.prettyString
  | .quiet => j.compactString
  | .table =>
    match j.leaves with
    | [] => r.paint .yellow "No values extracted."
    | leaves =>
      Table.render { header := ["Path", "Value"], rows := leaves.map fun l => [l.1, l.2] }

/-- The fields of a blueprint. -/
def blueprint (r : Report) (b : Blueprint) : String :=
  match r.format with
  | .json => b.toText
  | .quiet => "\n".intercalate (b.root.fieldRows.map (·.path))
  | .table =>
    match b.root.fieldRows with
    | [] => r.paint .yellow ("Blueprint '" ++ b.name ++ "' has no fields.")
    | rows =>
      r.paint .cyan b.name ++ "\n" ++
        Table.render {
          header := ["Field", "Kind", "Address"]
          rows := rows.map fun row => [row.path, row.kind.label, row.addressText] }

/-- The names of blueprints. -/
def names (r : Report) (names : List String) : String :=
  match r.format with
  | .json => (Json.array (names.map .string)).prettyString
  | .quiet => "\n".intercalate names
  | .table =>
    match names with
    | [] => r.paint .yellow "No blueprints found."
    | names =>
      Table.render { header := ["Blueprint"], rows := names.map ([·]), alignment := .left }

/-- A message of success. -/
def success (r : Report) (message : String) : String := r.paint .green ("✓ " ++ message)

/-- A message of failure. -/
def error (r : Report) (message : String) : String := r.paint .red ("✗ " ++ message)

/-- A message for information. -/
def info (r : Report) (message : String) : String := r.paint .blue ("ℹ " ++ message)

/-- A warning. -/
def warning (r : Report) (message : String) : String := r.paint .yellow ("⚠ " ++ message)

/-- The message that a blueprint was compiled. -/
def compiled (r : Report) (name : String) (fields : Nat) : String :=
  r.success ("Blueprint '" ++ name ++ "' compiled (" ++ toString fields ++ " fields)")

end Report

end Stencil
