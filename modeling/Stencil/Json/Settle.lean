import Stencil.Json.Number

/-!
# Settling a tree

The value a JSON text stands for, as a tree again: every number has the spelling in which it
prints, no object has two members with one key, and no bracket lies deeper than `maxLevels`.
-/

namespace Stencil.Json

mutual

/-- The value of a tree, if the brackets in it are nested at most `levels` deep. -/
def settleAt (levels : Nat) : Json → Option Json
  | .number literal => (canonicalNumber? literal).map .number
  | .array items =>
    match levels with
    | 0 => none
    | n + 1 => (settleItems n items).map .array
  | .object members =>
    match levels with
    | 0 => none
    | n + 1 => (settleMembers n [] members).map .object
  | j => some j

/-- The values of items. -/
def settleItems (levels : Nat) : List Json → Option (List Json)
  | [] => some []
  | x :: xs =>
    match settleAt levels x with
    | none => none
    | some y => (settleItems levels xs).map (y :: ·)

/-- The values of members, added to those before them: a repeated key keeps its first place and its
last value. -/
def settleMembers (levels : Nat) (before : List (String × Json)) :
    List (String × Json) → Option (List (String × Json))
  | [] => some before
  | (k, x) :: ms =>
    match settleAt levels x with
    | none => none
    | some y => settleMembers levels (insert k y before) ms

end

/-- The value a text stands for. -/
def settle? (j : Json) : Option Json := settleAt maxLevels j

end Stencil.Json
