import Stencil.Toml.Basic

/-!
# Numbers, dates and truth values in TOML

A literal is the longest run of letters, digits and a few signs. It is a truth value, a number or a
moment as a whole, or it is nothing.
-/

namespace Stencil.Toml

/-- A decimal digit. -/
def isDecimal (c : Char) : Bool := '0' ≤ c && c ≤ '9'

/-- A hexadecimal digit. -/
def isHex (c : Char) : Bool :=
  isDecimal c || ('a' ≤ c && c ≤ 'f') || ('A' ≤ c && c ≤ 'F')

/-- Digits without the underscores between them. Each underscore has a digit on both sides. -/
def ungroup? (isDigit : Char → Bool) : List Char → Option (List Char)
  | [] => none
  | [c] => if isDigit c then some [c] else none
  | c :: '_' :: r => if isDigit c then (ungroup? isDigit r).map (c :: ·) else none
  | c :: r => if isDigit c then (ungroup? isDigit r).map (c :: ·) else none

/-- The value of digits in a base. -/
def digitsValue (base : Nat) (digits : List Char) : Nat :=
  digits.foldl (fun n c =>
    n * base + (if c ≤ '9' then c.toNat - 48 else if c ≤ 'F' then c.toNat - 55 else c.toNat - 87)) 0

/-- A literal without its sign, and whether that is a minus. -/
def splitSign : List Char → Bool × List Char
  | '+' :: r => (false, r)
  | '-' :: r => (true, r)
  | r => (false, r)

/-- The digits of a whole number, which start with a zero only if there is no other. -/
def wholeDigits? (s : List Char) : Option (List Char) :=
  if s.head? = some '0' ∧ s ≠ ['0'] then none else ungroup? isDecimal s

/-- A number below 2^63, read from digits of a base. -/
def based? (base : Nat) (isDigit : Char → Bool) (s : List Char) : Option Toml :=
  match ungroup? isDigit s with
  | none => none
  | some ds => if digitsValue base ds < Nat.pow 2 63 then some (.integer (digitsValue base ds)) else none

/-- A 64-bit integer. Only a decimal one has a sign. -/
def integer? : List Char → Option Toml
  | '0' :: 'x' :: r => based? 16 isHex r
  | '0' :: 'o' :: r => based? 8 (fun c => '0' ≤ c && c ≤ '7') r
  | '0' :: 'b' :: r => based? 2 (fun c => c == '0' || c == '1') r
  | s =>
    let (minus, s) := splitSign s
    match wholeDigits? s with
    | none => none
    | some ds =>
      let n := digitsValue 10 ds
      if minus then if n ≤ Nat.pow 2 63 then some (.integer (-n)) else none
      else if n < Nat.pow 2 63 then some (.integer n) else none

/-- Whether digits times a power of ten are too large for binary64: from half a step above the
largest number on. -/
def isTooLarge (digits : List Char) (e : Int) : Bool :=
  let n := digitsValue 10 digits
  if n = 0 then false
  else
    let size : Int := (toString n).length + e
    if size < 309 then false
    else if 310 < size then true
    else
      let limit := Nat.pow 2 1024 - Nat.pow 2 970
      if 0 ≤ e then decide (limit ≤ n * Nat.pow 10 e.toNat)
      else decide (limit * Nat.pow 10 (-e).toNat ≤ n)

/-- A number with a fraction, an exponent or both. One above all binary64 numbers is refused; one
below all of them is not. -/
def float? (literal : List Char) : Option Toml :=
  let (minus, s) := splitSign literal
  if s = ['i', 'n', 'f'] ∨ s = ['n', 'a', 'n'] then some (.float (String.ofList literal))
  else
    let isMark := fun c : Char => c == '.' || c == 'e' || c == 'E'
    let whole := s.takeWhile (!isMark ·)
    let rest := s.dropWhile (!isMark ·)
    let (fraction, rest) : Option (List Char) × List Char := match rest with
      | '.' :: r => (some (r.takeWhile (!isMark ·)), r.dropWhile (!isMark ·))
      | r => (none, r)
    let exponent := rest.drop 1
    if fraction = none ∧ rest = [] then none
    else if rest.head? = some '.' then none
    else do
      let whole ← wholeDigits? whole
      let fraction ← match fraction with
        | none => some []
        | some ds => ungroup? isDecimal ds
      let (below, power) := splitSign exponent
      let power ← if rest = [] then some [] else ungroup? isDecimal power
      let power : Int := digitsValue 10 power
      let e := (if below then -power else power) - fraction.length
      if !minus && isTooLarge (whole ++ fraction) e then none
      else some (.float (String.ofList literal))

/-! ## Moments -/

/-- A number of two digits within bounds, and the rest. -/
def twoDigits? (least most : Nat) : List Char → Option (Nat × List Char)
  | a :: b :: r =>
    let n := digitsValue 10 [a, b]
    if isDecimal a && isDecimal b && least ≤ n && n ≤ most then some (n, r) else none
  | _ => none

/-- The rest after a sign. -/
def expect? (sign : Char) : List Char → Option (List Char)
  | c :: r => if c = sign then some r else none
  | [] => none

/-- The number of days in a month. -/
def daysIn (year month : Nat) : Nat :=
  if month = 2 then
    if year % 4 = 0 ∧ (year % 100 ≠ 0 ∨ year % 400 = 0) then 29 else 28
  else if month = 4 ∨ month = 6 ∨ month = 9 ∨ month = 11 then 30
  else 31

/-- The rest after a date. -/
def date? (s : List Char) : Option (List Char) := do
  let (century, s) ← twoDigits? 0 99 s
  let (year, s) ← twoDigits? 0 99 s
  let (month, s) ← twoDigits? 1 12 (← expect? '-' s)
  let (_, s) ← twoDigits? 1 (daysIn (century * 100 + year) month) (← expect? '-' s)
  return s

/-- The rest after a time of day. -/
def time? (s : List Char) : Option (List Char) := do
  let (_, s) ← twoDigits? 0 23 s
  let (_, s) ← twoDigits? 0 59 (← expect? ':' s)
  let (_, s) ← twoDigits? 0 60 (← expect? ':' s)
  match s with
  | '.' :: r => if (r.takeWhile isDecimal).isEmpty then none else some (r.dropWhile isDecimal)
  | s => some s

/-- The rest after a time of day and the distance from universal time, if one is given. -/
def timeWithOffset? (s : List Char) : Option (List Char) := do
  match ← time? s with
  | 'Z' :: r | 'z' :: r => some r
  | '+' :: r | '-' :: r =>
    let (_, r) ← twoDigits? 0 23 r
    let (_, r) ← twoDigits? 0 59 (← expect? ':' r)
    return r
  | r => some r

/-- Whether a literal is a date alone. -/
def isDate (s : List Char) : Bool := date? s = some []

/-- Whether a literal is a moment: a time, a date, or both with a `T` between them. -/
def isMoment (s : List Char) : Bool :=
  time? s = some [] ||
    match date? s with
    | some [] => true
    | some ('T' :: r) | some ('t' :: r) => timeWithOffset? r = some []
    | _ => false

/-- Characters of literals. -/
def isLiteralChar (c : Char) : Bool :=
  c.isAlphanum || c == '+' || c == '-' || c == '_' || c == '.' || c == ':'

/-- What a literal stands for. -/
def ofLiteral? (s : List Char) : Option Toml :=
  if s = ['t', 'r', 'u', 'e'] then some (.boolean true)
  else if s = ['f', 'a', 'l', 's', 'e'] then some (.boolean false)
  else if isMoment s then some (.moment (String.ofList s))
  else
    match integer? s with
    | some v => some v
    | none => float? s

/-- Reads a literal. After a date, a blank and a time belong to it as well. -/
def readLiteralValue? (s : List Char) : Option (Toml × List Char) :=
  let literal := s.takeWhile isLiteralChar
  let rest := s.dropWhile isLiteralChar
  match rest with
  | ' ' :: r =>
    let second := r.takeWhile isLiteralChar
    if isDate literal && !second.isEmpty then
      if timeWithOffset? second = some [] then
        some (.moment (String.ofList (literal ++ ' ' :: second)), r.dropWhile isLiteralChar)
      else none
    else (ofLiteral? literal).map (·, rest)
  | _ => (ofLiteral? literal).map (·, rest)

end Stencil.Toml
