/-!
# White space

The characters with the property White_Space, and the removal of them from both ends of a text.
`trim` leaves no blank character at either end and changes nothing between them.
-/

namespace Stencil.Text

/-- Whether a character has the property White_Space. -/
def isBlank (c : Char) : Bool :=
  let n := c.toNat
  (0x9 ≤ n && n ≤ 0xD) || n == 0x20 || n == 0x85 || n == 0xA0 || n == 0x1680 ||
    (0x2000 ≤ n && n ≤ 0x200A) || n == 0x2028 || n == 0x2029 || n == 0x202F || n == 0x205F ||
    n == 0x3000

/-- Removes blank characters from the end. -/
def trimEnd (s : List Char) : List Char :=
  (s.reverse.dropWhile isBlank).reverse

/-- Removes blank characters from both ends. -/
def trim (s : List Char) : List Char :=
  trimEnd (s.dropWhile isBlank)

/-- Removes blank characters from both ends of a string. -/
def trimString (s : String) : String :=
  String.ofList (trim s.toList)

/-- Nothing but an end is removed by `trimEnd`. -/
theorem trimEnd_append (s : List Char) :
    trimEnd s ++ (s.reverse.takeWhile isBlank).reverse = s := by
  rw [trimEnd, ← List.reverse_append, List.takeWhile_append_dropWhile, List.reverse_reverse]

end Stencil.Text
