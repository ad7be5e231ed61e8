import Stencil.Json.Basic
import Stencil.Text.Count

/-!
# Decoding JSON trees

What typed decoders share: the depth a decoder looks into a text, and the rule by which a record is
read off a tree. A record may be written as an object, whose unknown members are ignored and whose
known members occur at most once, or as the list of its field values in declared order.
-/

namespace Stencil.Json

/-- How deep brackets and braces may be nested in what a decoder reads. -/
def maxLevels : Nat := 127

/-- The only member with a key: absent, or present once. Repetition is an error. -/
def member? (key : String) (members : List (String × Json)) : Option (Option Json) :=
  match members.filter (·.1 == key) with
  | [] => some none
  | [m] => some (some m.2)
  | _ => none

/-- The values of a record's fields, absent ones as `none`, in the order of `known`. -/
def fields? (known : List String) : Json → Option (List (Option Json))
  | .object members => known.mapM fun key => member? key members
  | .array items =>
    if items.length ≤ known.length then
      some (items.map some ++ List.replicate (known.length - items.length) none)
    else none
  | _ => none

/-- An optional field: absent and null mean that there is none. -/
def optional? {α : Type} (decode : Json → Option α) : Option Json → Option (Option α)
  | none | some .null => some none
  | some j => (decode j).map some

/-- Whether a tree is null. -/
def isNull : Json → Bool
  | .null => true
  | _ => false

/-- A string. -/
def asString? : Json → Option String
  | .string s => some s
  | _ => none

/-- A truth value. -/
def asBool? : Json → Option Bool
  | .bool b => some b
  | _ => none

/-- The decimal digits of a text, as the number they write. -/
def decimal? (s : List Char) : Option Nat :=
  if s.isEmpty then none
  else s.foldlM (fun n c => if '0' ≤ c ∧ c ≤ '9' then some (n * 10 + (c.toNat - 48)) else none) 0

/-- A whole number below 2^64, written without sign, fraction and exponent. -/
def asWord? : Json → Option Nat
  | .number literal =>
    match decimal? literal.toList with
    | some n => if n < Text.wordSize then some n else none
    | none => none
  | _ => none

/-- A number as a tree. -/
def ofNat (n : Nat) : Json := .number (toString n)

end Stencil.Json
