import Std.Data.HashMap
import Stencil.Html.Lexeme
import Stencil.Html.ReferenceNames

/-!
# Character references

An ampersand may start a reference: `&#` with a number, or the longest name of the table that the
text goes on with. A number outside the code points, or one of a surrogate or of null, stands for
U+FFFD, and the numbers from 80 to 9F stand for what Windows code page 1252 has there.
-/

namespace Stencil.Html

/-- The names by which characters can be referred to. -/
def referenceTable : Std.HashMap String String := Std.HashMap.ofList referenceNames

/-- The code points that the numbers from 80 to 9F stand for. -/
def windowsCodes : List Nat :=
  [0x20AC, 0x81, 0x201A, 0x192, 0x201E, 0x2026, 0x2020, 0x2021, 0x2C6, 0x2030, 0x160, 0x2039,
   0x152, 0x8D, 0x17D, 0x8F, 0x90, 0x2018, 0x2019, 0x201C, 0x201D, 0x2022, 0x2013, 0x2014, 0x2DC,
   0x2122, 0x161, 0x203A, 0x153, 0x9D, 0x17E, 0x178]

/-- The character of a numeric reference. -/
def numbered (n : Nat) : Char :=
  if n = 0 ∨ 0x10FFFF < n ∨ (0xD800 ≤ n ∧ n < 0xE000) then replacement
  else if 0x80 ≤ n ∧ n ≤ 0x9F then Char.ofNat (windowsCodes.getD (n - 0x80) n)
  else Char.ofNat n

/-- The value of a digit in a base up to sixteen. -/
def digitValue? (base : Nat) (c : Char) : Option Nat :=
  let n := c.toNat
  let v :=
    if 48 ≤ n ∧ n ≤ 57 then some (n - 48)
    else if 97 ≤ n ∧ n ≤ 102 then some (n - 87)
    else if 65 ≤ n ∧ n ≤ 70 then some (n - 55)
    else none
  v.filter (· < base)

/-- Reads the digits of a numeric reference and the semicolon that may follow them. Numbers too
large for a code point stay so. -/
def readNumber (base : Nat) (s : List Char) : Option (Char × List Char) :=
  let digits := s.takeWhile fun c => (digitValue? base c).isSome
  if digits.isEmpty then none
  else
    let n := digits.foldl
      (fun n c => min (n * base + (digitValue? base c).getD 0) 0x110000) 0
    match s.drop digits.length with
    | ';' :: r => some (numbered n, r)
    | r => some (numbered n, r)

/-- The longest name has fewer characters than this. -/
def maxNameLength : Nat := 33

/-- The longest prefix of `name`, of at most `n` characters, that is a name by itself. -/
def longestName? (name : List Char) : Nat → Option (Nat × String)
  | 0 => none
  | n + 1 =>
    match referenceTable[String.ofList (name.take (n + 1))]? with
    | some chars => some (n + 1, chars)
    | none => longestName? name n

/-- Reads a named reference. In an attribute's value a name without its semicolon is none when a
letter, a digit or an equals sign follows. -/
def readName (inAttribute : Bool) (s : List Char) : Option (List Char × List Char) :=
  let name := (s.take maxNameLength).takeWhile Char.isAlphanum
  let whole :=
    if (s.drop name.length).head? = some ';' then
      (referenceTable[String.ofList (name ++ [';'])]?).map fun chars =>
        (chars.toList, s.drop (name.length + 1))
    else none
  match whole with
  | some found => some found
  | none =>
    match longestName? name name.length with
    | none => none
    | some (n, chars) =>
      let rest := s.drop n
      let goesOn := match rest with
        | c :: _ => c == '=' || c.isAlphanum
        | [] => false
      if inAttribute && goesOn then none else some (chars.toList, rest)

/-- Reads what follows an ampersand: the characters referred to and the rest, or nothing when the
ampersand stands for itself. -/
def readReference (inAttribute : Bool) : List Char → Option (List Char × List Char)
  | '#' :: 'x' :: r => (readNumber 16 r).map fun (c, r) => ([c], r)
  | '#' :: 'X' :: r => (readNumber 16 r).map fun (c, r) => ([c], r)
  | '#' :: r => (readNumber 10 r).map fun (c, r) => ([c], r)
  | s => readName inAttribute s

/-- A text with its references replaced. The first argument bounds the number of steps. -/
def expandFrom (inAttribute : Bool) (done : List Char) : Nat → List Char → List Char
  | 0, s => done.reverse ++ s
  | _, [] => done.reverse
  | n + 1, c :: r =>
    if c = '&' then
      match readReference inAttribute r with
      | some (chars, rest) => expandFrom inAttribute (chars.reverse ++ done) n rest
      | none => expandFrom inAttribute (c :: done) n r
    else expandFrom inAttribute (withoutNull c :: done) n r

/-- A text with its references and null characters replaced. -/
def expand (inAttribute : Bool) (s : List Char) : List Char :=
  expandFrom inAttribute [] s.length s

end Stencil.Html
