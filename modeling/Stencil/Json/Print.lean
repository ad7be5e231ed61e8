import Stencil.Json.Basic

/-!
# Printing JSON

Two layouts of a tree: `compact` without any space, and `pretty` with one member or item a line,
two spaces of indentation a level and a space after each colon. Strings are written alike in both:
quotes, backslashes and the characters below U+0020 are escaped and everything else stands for
itself.
-/

namespace Stencil.Json

/-- The hexadecimal digit of a value below sixteen, in lower case. -/
def hexDigit (n : Nat) : Char :=
  if n < 10 then Char.ofNat (48 + n) else Char.ofNat (87 + n)

/-- A character inside a quoted string. -/
def escape (c : Char) : List Char :=
  if c = '"' then ['\\', '"']
  else if c = '\\' then ['\\', '\\']
  else if c = '\n' then ['\\', 'n']
  else if c = '\r' then ['\\', 'r']
  else if c = '\t' then ['\\', 't']
  else if c = '\x08' then ['\\', 'b']
  else if c = '\x0c' then ['\\', 'f']
  else if c.toNat < 0x20 then
    ['\\', 'u', '0', '0', hexDigit (c.toNat / 16), hexDigit (c.toNat % 16)]
  else [c]

/-- A quoted string. -/
def quote (s : String) : List Char :=
  '"' :: (s.toList.flatMap escape ++ ['"'])

/-- The literal of a truth value. -/
def boolText (b : Bool) : List Char :=
  if b then ['t', 'r', 'u', 'e'] else ['f', 'a', 'l', 's', 'e']

/-- The literal of the null value. -/
def nullText : List Char := ['n', 'u', 'l', 'l']

mutual

/-- The text of a tree without spaces. -/
def compact : Json → List Char
  | .null => nullText
  | .bool b => boolText b
  | .number literal => literal.toList
  | .string s => quote s
  | .array [] => ['[', ']']
  | .array (x :: xs) => '[' :: (compact x ++ compactItems xs)
  | .object [] => ['\x7b', '\x7d']
  | .object ((k, v) :: ms) => '\x7b' :: (quote k ++ (':' :: (compact v ++ compactMembers ms)))

/-- The items after the first, and the closing bracket. -/
def compactItems : List Json → List Char
  | [] => [']']
  | x :: xs => ',' :: (compact x ++ compactItems xs)

/-- The members after the first, and the closing brace. -/
def compactMembers : List (String × Json) → List Char
  | [] => ['\x7d']
  | (k, v) :: ms => ',' :: (quote k ++ (':' :: (compact v ++ compactMembers ms)))

end

/-- A line break and the indentation of a level. -/
def breakLine (level : Nat) : List Char :=
  '\n' :: List.replicate (2 * level) ' '

mutual

/-- The text of a tree whose lines are indented by `level` levels. -/
def prettyAt (level : Nat) : Json → List Char
  | .null => nullText
  | .bool b => boolText b
  | .number literal => literal.toList
  | .string s => quote s
  | .array [] => ['[', ']']
  | .array (x :: xs) =>
    '[' :: (breakLine (level + 1) ++ (prettyAt (level + 1) x ++ prettyItems level xs))
  | .object [] => ['\x7b', '\x7d']
  | .object ((k, v) :: ms) =>
    '\x7b' :: (breakLine (level + 1) ++ (quote k ++ (':' :: ' ' ::
      (prettyAt (level + 1) v ++ prettyMembers level ms))))

/-- The items after the first, one a line, and the closing bracket. -/
def prettyItems (level : Nat) : List Json → List Char
  | [] => breakLine level ++ [']']
  | x :: xs => ',' :: (breakLine (level + 1) ++ (prettyAt (level + 1) x ++ prettyItems level xs))

/-- The members after the first, one a line, and the closing brace. -/
def prettyMembers (level : Nat) : List (String × Json) → List Char
  | [] => breakLine level ++ ['\x7d']
  | (k, v) :: ms =>
    ',' :: (breakLine (level + 1) ++ (quote k ++ (':' :: ' ' ::
      (prettyAt (level + 1) v ++ prettyMembers level ms))))

end

/-- The text of a tree with one item or member a line. -/
def pretty (j : Json) : List Char := prettyAt 0 j

/-- The compact text as a string. -/
def compactString (j : Json) : String := String.ofList j.compact

/-- The laid out text as a string. -/
def prettyString (j : Json) : String := String.ofList j.pretty

end Stencil.Json
