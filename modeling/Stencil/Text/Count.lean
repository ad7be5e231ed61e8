/-!
# Counts

Numbers that users write to count something. They fit in a machine word.
-/

namespace Stencil.Text

/-- The number of values of a machine word. -/
def wordSize : Nat := Nat.pow 2 64

/-- The number that decimal digits write, with an optional plus sign, if it fits in a word. -/
def readCount? (s : List Char) : Option Nat :=
  let digits := match s with
    | '+' :: r => r
    | r => r
  if digits.isEmpty then none
  else
    match digits.foldlM (fun n c => if c.isDigit then some (n * 10 + (c.toNat - 48)) else none) 0 with
    | some n => if n < wordSize then some n else none
    | none => none

end Stencil.Text
