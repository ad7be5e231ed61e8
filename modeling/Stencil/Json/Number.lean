import Stencil.Json.Decode
import Stencil.Number.Shortest

/-!
# Number literals

What a JSON number literal means, and the one spelling in which a value prints. A whole literal
within 64 bits is that integer. Every other literal is a binary64 number: its leading digits, as
many as fit in 64 bits, are scaled by a power of ten, and a literal too large for the format is
refused.
-/

namespace Stencil.Json

/-- A literal taken apart: the sign, the digits before and after the point, and the exponent. -/
structure Literal where
  negative : Bool
  whole : List Char
  /-- The digits after the point, if there is one. -/
  fraction : Option (List Char)
  /-- The sign (true for minus) and the digits of the exponent, if there is one. -/
  exponent : Option (Bool × List Char)

/-- The parts of a literal that the reader accepted. -/
def Literal.ofChars (s : List Char) : Literal :=
  let negative := s.head? = some '-'
  let s := if negative then s.drop 1 else s
  let isDigit := fun c : Char => '0' ≤ c && c ≤ '9'
  let whole := s.takeWhile isDigit
  let s := s.dropWhile isDigit
  let (fraction, s) := match s with
    | '.' :: r => (some (r.takeWhile isDigit), r.dropWhile isDigit)
    | r => (none, r)
  let exponent := match s with
    | _ :: '-' :: r => some (true, r)
    | _ :: '+' :: r => some (false, r)
    | _ :: r => some (false, r)
    | [] => none
  ⟨negative, whole, fraction, exponent⟩

/-- Takes digits into a significand as long as it stays below 2^64. Gives the significand and the
digits left over. -/
def takeSignificand (n : Nat) : List Char → Nat × List Char
  | [] => (n, [])
  | c :: r =>
    let next := n * 10 + (c.toNat - 48)
    if next < Text.wordSize then takeSignificand next r else (n, c :: r)

/-- The powers of ten by which a significand is scaled in one step end here. -/
def maxPower : Nat := 308

/-- A significand times a power of ten, in steps of at most `maxPower`; `none` when the result is
too large. The first argument bounds the number of steps. -/
def scale : Nat → Float → Int → Option Float
  | 0, f, _ => some f
  | n + 1, f, e =>
    if e.natAbs ≤ maxPower then
      let power := Float.ofScientific 1 false e.natAbs
      if 0 ≤ e then
        let g := f * power
        if g.isInf then none else some g
      else some (f / power)
    else if f == 0.0 then some f
    else if 0 ≤ e then none
    else scale n (f / Float.ofScientific 1 false maxPower) (e + maxPower)

/-- The binary64 number of a literal, without its sign. -/
def Literal.float? (l : Literal) : Option Float :=
  let (n, dropped) := takeSignificand 0 l.whole
  let e : Int := dropped.length
  let (n, e) := match l.fraction with
    | none => (n, e)
    | some ds =>
      let (n', rest) := takeSignificand n ds
      (n', e - (ds.length - rest.length : Nat))
  match l.exponent with
  | none => scale (e.natAbs / maxPower + 2) (Float.ofNat n) e
  | some (minus, ds) =>
    let x := (decimal? ds).getD 0
    if x < Nat.pow 2 31 then
      let e := if minus then e - x else e + x
      if e < -100000 then some 0.0 else scale (e.natAbs / maxPower + 2) (Float.ofNat n) e
    else if n = 0 ∨ minus then some 0.0
    else none

/-- A positional text has at most this many digits before the point. -/
def maxWholeDigits : Int := 16

/-- A positional text has fewer than this many zeros after the point. -/
def maxLeadingZeros : Int := 5

/-- The text of a decimal: positional while the point falls within or near the digits, else one
digit, the rest and an exponent. A whole number keeps `.0`. -/
def decimalText (d : Number.Decimal) : List Char :=
  let digits := (toString d.digits).toList
  let count : Int := digits.length
  let point := count + d.exponent
  if 0 ≤ d.exponent ∧ point ≤ maxWholeDigits then
    digits ++ List.replicate d.exponent.toNat '0' ++ ['.', '0']
  else if 0 < point ∧ point ≤ maxWholeDigits then
    digits.take point.toNat ++ '.' :: digits.drop point.toNat
  else if -maxLeadingZeros < point ∧ point ≤ 0 then
    '0' :: '.' :: (List.replicate (-point).toNat '0' ++ digits)
  else
    let exponent := point - 1
    let tail := 'e' :: (toString exponent).toList
    match digits with
    | [d] => d :: tail
    | d :: ds => d :: '.' :: (ds ++ tail)
    | [] => tail

/-- The text of a finite binary64 number: the shortest digits that read back. -/
def floatText (negative : Bool) (f : Float) : List Char :=
  let b := Number.Binary.ofBits f.toBits
  let text := if b.mantissa = 0 then ['0', '.', '0'] else decimalText (Number.shortest b)
  if negative then '-' :: text else text

/-- The literal in which the value of a literal prints; `none` when it has no value. -/
def canonicalNumber? (literal : String) : Option String :=
  let l := Literal.ofChars literal.toList
  let asFloat := l.float?.map fun f => String.ofList (floatText l.negative f)
  if l.fraction.isSome ∨ l.exponent.isSome then asFloat
  else
    match decimal? l.whole with
    | none => none
    | some n =>
      if l.negative then if 0 < n ∧ n ≤ Nat.pow 2 63 then some literal else asFloat
      else if n < Text.wordSize then some literal else asFloat

end Stencil.Json
