import Stencil.Text.WordTable

/-!
# Word characters

The characters that may stand in a field's name, beside the dot: letters, marks, decimal digits,
connecting punctuation and the two joiners, in every script. ASCII is decided directly and the rest
by `wordRanges`, so the predicate holds of `_`, of every ASCII letter and of every ASCII digit, and
of no other ASCII character.
-/

namespace Stencil.Text

/-- Whether a code point lies in one of the ranges. -/
def inRanges (ranges : List (Nat × Nat)) (n : Nat) : Bool :=
  ranges.any fun r => r.1 ≤ n && n ≤ r.2

/-- Whether a character is a letter, mark, decimal digit, connecting punctuation or joiner. -/
def isWord (c : Char) : Bool :=
  c.isAlphanum || c == '_' || (0x80 ≤ c.toNat && inRanges wordRanges c.toNat)

/-- A name character: a word character or a dot. -/
def isNameChar (c : Char) : Bool :=
  c == '.' || isWord c

end Stencil.Text
