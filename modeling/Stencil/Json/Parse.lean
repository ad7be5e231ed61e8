import Stencil.Json.Basic

/-!
# Reading JSON

A reader of JSON texts by recursive descent over the characters. It accepts the grammar and no
more: no comma after the last item, no character below U+0020 inside a string, no surrogate escape
without its partner, no digit after a leading zero, and nothing but blanks after the value. The
nesting of a text is not limited here; `Stencil.Json.Decode` says how deep a decoder looks.
-/

namespace Stencil.Json

/-- The four blanks that may stand between the signs of a text. -/
def isSpace (c : Char) : Bool :=
  c == ' ' || c == '\n' || c == '\t' || c == '\r'

/-- A text without its leading blanks. -/
def skipSpace (s : List Char) : List Char :=
  s.dropWhile isSpace

/-- The value of a hexadecimal digit in either case. -/
def hexValue? (c : Char) : Option Nat :=
  let n := c.toNat
  if 48 ≤ n ∧ n ≤ 57 then some (n - 48)
  else if 97 ≤ n ∧ n ≤ 102 then some (n - 87)
  else if 65 ≤ n ∧ n ≤ 70 then some (n - 55)
  else none

/-- The value of four hexadecimal digits. -/
def hexQuad? (a b c d : Char) : Option Nat := do
  return ((← hexValue? a) * 16 + (← hexValue? b)) * 256 + (← hexValue? c) * 16 + (← hexValue? d)

/-- The character that a one-letter escape stands for. -/
def unescape? (c : Char) : Option Char :=
  match c with
  | '"' => some '"'
  | '\\' => some '\\'
  | '/' => some '/'
  | 'b' => some '\x08'
  | 'f' => some '\x0c'
  | 'n' => some '\n'
  | 'r' => some '\r'
  | 't' => some '\t'
  | _ => none

/-- Reads the rest of a string up to its closing quote; `seen` holds the characters before it in
reverse. -/
def readString (seen : List Char) : List Char → Option (String × List Char)
  | [] => none
  | '"' :: r => some (String.ofList seen.reverse, r)
  | '\\' :: 'u' :: a :: b :: c :: d :: r =>
    match hexQuad? a b c d with
    | none => none
    | some high =>
      if 0xD800 ≤ high ∧ high < 0xDC00 then
        match r with
        | '\\' :: 'u' :: e :: f :: g :: h :: r =>
          match hexQuad? e f g h with
          | none => none
          | some low =>
            if 0xDC00 ≤ low ∧ low < 0xE000 then
              readString (Char.ofNat (0x10000 + (high - 0xD800) * 0x400 + (low - 0xDC00)) :: seen) r
            else none
        | _ => none
      else if 0xDC00 ≤ high ∧ high < 0xE000 then none
      else readString (Char.ofNat high :: seen) r
  | '\\' :: c :: r =>
    match unescape? c with
    | none => none
    | some x => readString (x :: seen) r
  | c :: r => if c.toNat < 0x20 then none else readString (c :: seen) r

/-- A digit. -/
def isDigit (c : Char) : Bool := '0' ≤ c && c ≤ '9'

/-- The leading digits of a text, at least one, and the rest. -/
def readDigits (s : List Char) : Option (List Char × List Char) :=
  match s.takeWhile isDigit with
  | [] => none
  | ds => some (ds, s.dropWhile isDigit)

/-- The whole part of a number: a lone zero or digits that start with another. -/
def readWhole (s : List Char) : Option (List Char × List Char) :=
  match readDigits s with
  | none => none
  | some (ds, r) => if ds.length ≠ 1 ∧ ds.head? = some '0' then none else some (ds, r)

/-- The fraction of a number, if there is one. -/
def readFraction : List Char → Option (List Char × List Char)
  | '.' :: s =>
    match readDigits s with
    | none => none
    | some (ds, r) => some ('.' :: ds, r)
  | s => some ([], s)

/-- The exponent of a number, if there is one. -/
def readExponent : List Char → Option (List Char × List Char)
  | [] => some ([], [])
  | c :: s =>
    if c = 'e' ∨ c = 'E' then
      let (sign, s) := match s with
        | '+' :: s => (['+'], s)
        | '-' :: s => (['-'], s)
        | s => ([], s)
      match readDigits s with
      | none => none
      | some (ds, r) => some (c :: sign ++ ds, r)
    else some ([], c :: s)

/-- A number's literal and the rest of the text. -/
def readNumber (s : List Char) : Option (List Char × List Char) := do
  let (sign, s) := match s with
    | '-' :: s => (['-'], s)
    | s => ([], s)
  let (whole, s) ← readWhole s
  let (fraction, s) ← readFraction s
  let (exponent, s) ← readExponent s
  return (sign ++ whole ++ fraction ++ exponent, s)

mutual

/-- Reads a value after any blanks. The first argument bounds the depth of the descent. -/
def readValue : Nat → List Char → Option (Json × List Char)
  | 0, _ => none
  | n + 1, s =>
    match skipSpace s with
    | 'n' :: 'u' :: 'l' :: 'l' :: r => some (.null, r)
    | 't' :: 'r' :: 'u' :: 'e' :: r => some (.bool true, r)
    | 'f' :: 'a' :: 'l' :: 's' :: 'e' :: r => some (.bool false, r)
    | '"' :: r => (readString [] r).map fun (s, r) => (.string s, r)
    | '[' :: r =>
      match skipSpace r with
      | ']' :: r => some (.array [], r)
      | r => (readItems n r).map fun (xs, r) => (.array xs, r)
    | '\x7b' :: r =>
      match skipSpace r with
      | '\x7d' :: r => some (.object [], r)
      | r => (readMembers n r).map fun (ms, r) => (.object ms, r)
    | r => (readNumber r).map fun (literal, r) => (.number (String.ofList literal), r)

/-- Reads items up to the closing bracket. -/
def readItems : Nat → List Char → Option (List Json × List Char)
  | 0, _ => none
  | n + 1, s =>
    match readValue n s with
    | none => none
    | some (x, r) =>
      match skipSpace r with
      | ',' :: r => (readItems n r).map fun (xs, r) => (x :: xs, r)
      | ']' :: r => some ([x], r)
      | _ => none

/-- Reads members up to the closing brace. -/
def readMembers : Nat → List Char → Option (List (String × Json) × List Char)
  | 0, _ => none
  | n + 1, s =>
    match skipSpace s with
    | '"' :: r =>
      match readString [] r with
      | none => none
      | some (k, r) =>
        match skipSpace r with
        | ':' :: r =>
          match readValue n r with
          | none => none
          | some (v, r) =>
            match skipSpace r with
            | ',' :: r => (readMembers n r).map fun (ms, r) => ((k, v) :: ms, r)
            | '\x7d' :: r => some ([(k, v)], r)
            | _ => none
        | _ => none
    | _ => none

end

/-- The tree of a text. Each two steps of the descent take at least one character, so twice the
length of the text bounds them. -/
def parse? (s : List Char) : Option Json :=
  match readValue (2 * s.length + 1) s with
  | some (j, r) => if skipSpace r = [] then some j else none
  | none => none

/-- The tree of a string. -/
def ofString? (s : String) : Option Json := parse? s.toList

end Stencil.Json
