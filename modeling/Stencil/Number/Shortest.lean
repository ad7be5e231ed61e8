/-!
# Shortest decimals of binary numbers

A finite binary64 number is `m · 2^q`, and a reader that rounds to nearest gives it back from every
decimal in an interval around it. `shortest` finds a decimal with the fewest digits in that
interval and, of those, the nearest: it tries one digit, then two, and so on, looking at the two
neighbours of the number on each decimal grid.
-/

namespace Stencil.Number

/-- A positive binary64 number: `mantissa · 2^exponent`, with the exponent of its units. -/
structure Binary where
  mantissa : Nat
  exponent : Int
  deriving DecidableEq, Repr

/-- The parts of the bit pattern of a finite number, the sign left out. -/
def Binary.ofBits (bits : UInt64) : Binary :=
  let fraction : Nat := bits.toNat % Nat.pow 2 52
  let biased : Nat := bits.toNat / Nat.pow 2 52 % Nat.pow 2 11
  if biased = 0 then ⟨fraction, -1074⟩ else ⟨fraction + Nat.pow 2 52, biased - 1075⟩

/-- A decimal number `digits · 10^exponent`. -/
structure Decimal where
  digits : Nat
  exponent : Int
  deriving DecidableEq, Repr

/-- `a · 2^p · 10^e` as a fraction of natural numbers. -/
private def scaled (a : Nat) (p e : Int) : Nat × Nat :=
  let two := Nat.pow 2 p.natAbs
  let ten := Nat.pow 10 e.natAbs
  ((if 0 ≤ p then a * two else a) * (if 0 ≤ e then ten else 1),
    (if 0 ≤ p then 1 else two) * (if 0 ≤ e then 1 else ten))

/-- Comparison of two fractions with positive denominators. -/
private def fractionLt (x y : Nat × Nat) : Bool := x.1 * y.2 < y.1 * x.2

/-- Whether a decimal rounds to the binary number. The interval of those that do reaches half a
unit up, and half a unit down or a quarter at the lower end of a binade; its ends belong to it
when the mantissa is even. -/
def Binary.readsBack (b : Binary) (d : Decimal) : Bool :=
  let value := scaled d.digits 0 d.exponent
  let atBinade := b.mantissa = Nat.pow 2 52 ∧ -1074 < b.exponent
  let low := if atBinade then scaled (4 * b.mantissa - 1) (b.exponent - 2) 0
    else scaled (4 * b.mantissa - 2) (b.exponent - 2) 0
  let high := scaled (4 * b.mantissa + 2) (b.exponent - 2) 0
  if b.mantissa % 2 = 0 then !fractionLt value low && !fractionLt high value
  else fractionLt low value && fractionLt value high

/-- The decimal of the given number of digits that is nearest to the number among those on the
grid `10^exponent` which round to it. A tie goes to the even digit. -/
private def onGrid (b : Binary) (exponent : Int) : Option Decimal :=
  let (num, den) := scaled b.mantissa b.exponent (-exponent)
  let below : Decimal := ⟨num / den, exponent⟩
  let above : Decimal := ⟨num / den + 1, exponent⟩
  let twice := 2 * (num % den)
  let nearBelow := twice < den || (twice = den && num / den % 2 = 0)
  match b.readsBack below && below.digits ≠ 0, b.readsBack above with
  | true, true => some (if nearBelow then below else above)
  | true, false => some below
  | false, true => some above
  | false, false => none

/-- Tries the grids from `exponent` downwards. -/
private def search (b : Binary) : Nat → Int → Decimal
  | 0, exponent => ⟨(scaled b.mantissa b.exponent (-exponent)).1, exponent⟩
  | n + 1, exponent =>
    match onGrid b exponent with
    | some d => d
    | none => search b n (exponent - 1)

/-- Drops zeros from the end of the digits, at most `n` of them. -/
private def dropZeros : Nat → Decimal → Decimal
  | 0, d => d
  | n + 1, d =>
    if d.digits % 10 = 0 ∧ d.digits ≠ 0 then dropZeros n ⟨d.digits / 10, d.exponent + 1⟩ else d

/-- The shortest decimal that rounds to the number, for a number that is not zero. The first grid
tried is above the number: `m · 2^q` has fewer than `log₂ m · 3/10 + q · 3/10 + 2` digits. -/
def shortest (b : Binary) : Decimal :=
  let top := ((b.mantissa.log2 : Int) + b.exponent) * 30103 / 100000 + 2
  dropZeros 20 (search b 22 top)

end Stencil.Number
