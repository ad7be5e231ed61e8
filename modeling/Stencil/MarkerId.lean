import Stencil.Json.Print
import Stencil.Json.Parse

/-!
# Marker identifiers

A marker identifier is a 128-bit number. It prints as 32 lower-case hexadecimal digits and is read
from four spellings of its digits: plain, in groups of 8-4-4-4-12 joined by hyphens, grouped in
braces, and grouped after `urn:uuid:`. Case never matters when reading.
-/

namespace Stencil

/-- A 128-bit number that ties an annotation to the marker element standing for it. -/
structure MarkerId where
  value : Nat
  value_lt : value < Nat.pow 2 128
  deriving DecidableEq, Repr

namespace MarkerId

instance : Inhabited MarkerId := ⟨⟨0, by decide⟩⟩

/-- The identifier of a number, if it has at most 128 bits. -/
def ofNat? (n : Nat) : Option MarkerId :=
  if h : n < Nat.pow 2 128 then some ⟨n, h⟩ else none

/-- The identifier of a number modulo 2^128. -/
def ofNat (n : Nat) : MarkerId :=
  ⟨n % Nat.pow 2 128, Nat.mod_lt _ (by decide)⟩

/-- The last `count` hexadecimal digits of a number. -/
def hexDigits : Nat → Nat → List Char
  | 0, _ => []
  | count + 1, n => hexDigits count (n / 16) ++ [Json.hexDigit (n % 16)]

/-- The 32 digits of an identifier. -/
def digits (id : MarkerId) : List Char := hexDigits 32 id.value

/-- The printed form. -/
def toText (id : MarkerId) : String := String.ofList id.digits

/-- The number that hexadecimal digits write, in either case. -/
def readHex? (cs : List Char) : Option Nat :=
  cs.foldlM (fun n c => (Json.hexValue? c).map (n * 16 + ·)) 0

/-- The sizes of the groups of a hyphenated spelling. -/
def groupSizes : List Nat := [8, 4, 4, 4, 12]

/-- Joins groups of the given sizes that are separated by hyphens. -/
def ungroup? : List Nat → List Char → Option (List Char)
  | [], _ => none
  | [n], cs => if cs.length = n then some cs else none
  | n :: m :: sizes, cs =>
    if (cs.take n).length = n then
      match cs.drop n with
      | '-' :: r => (ungroup? (m :: sizes) r).map (cs.take n ++ ·)
      | _ => none
    else none

/-- The prefix of the longest spelling. -/
def urnPrefix : List Char := ['u', 'r', 'n', ':', 'u', 'u', 'i', 'd', ':']

/-- A grouped spelling without the braces or the prefix around it. -/
def unwrap (cs : List Char) : List Char :=
  if cs.head? = some '\x7b' ∧ cs.getLast? = some '\x7d' then (cs.drop 1).dropLast
  else if (cs.take urnPrefix.length).map Char.toLower = urnPrefix then cs.drop urnPrefix.length
  else cs

/-- The hexadecimal digits of an accepted spelling. -/
def spelledDigits? (cs : List Char) : Option (List Char) :=
  if cs.length = 32 then some cs else ungroup? groupSizes (unwrap cs)

/-- Reads an identifier from any of its spellings. -/
def parse? (s : String) : Option MarkerId :=
  ((spelledDigits? s.toList).bind readHex?).bind ofNat?

/-- The identifiers of a list in ascending order, each once. -/
def ascending (ids : List MarkerId) : List MarkerId :=
  (ids.mergeSort fun a b => a.value ≤ b.value).eraseReps

end MarkerId

end Stencil
