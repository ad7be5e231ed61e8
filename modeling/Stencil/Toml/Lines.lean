import Stencil.Toml.Quoted

/-!
# Writing TOML

A document is written line by line: assignments first, then a header for each table after an empty
line.
-/

namespace Stencil.Toml

/-- An assignment on a line of its own. -/
def line (key value : String) : String := key ++ " = " ++ value ++ "\n"

/-- A text in quotes. -/
def stringText (text : String) : String := String.ofList (quote text.toList)

/-- A truth value. -/
def boolText : Bool → String
  | true => "true"
  | false => "false"

/-- A number, if it is below 2^63. -/
def numberText? (n : Nat) : Option String := if n < Nat.pow 2 63 then some (toString n) else none

/-- The header of a table. -/
def headerLine (name : String) : String := "[" ++ name ++ "]\n"

end Stencil.Toml
