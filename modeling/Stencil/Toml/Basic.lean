import Stencil.Json.Decode

/-!
# TOML trees

What a TOML document holds. A table remembers how it came to be, because that decides whether a
later line may still add to it: a table with a header of its own takes assignments below that header
only, one that dotted keys made takes further dotted keys, and one written inline takes nothing.
-/

namespace Stencil

/-- How a table came to be. -/
inductive TableOrigin where
  /-- Written as a value, between braces. -/
  | inline
  /-- Named by a header; also the document itself. -/
  | header
  /-- Named on the way to a longer header. -/
  | implied
  /-- Named on the way to a dotted key. -/
  | dotted
  deriving DecidableEq, Repr, Inhabited

/-- A TOML value. -/
inductive Toml where
  | string (text : String)
  | integer (value : Int)
  | float (literal : String)
  | boolean (value : Bool)
  /-- A date, a time or both. -/
  | moment (literal : String)
  /-- A list written between brackets. -/
  | array (items : List Toml)
  /-- A list of tables, each under a header of its own. -/
  | tables (items : List Toml)
  | table (origin : TableOrigin) (members : List (String × Toml))
  deriving Repr, Inhabited

namespace Toml

/-- The members of a table. -/
abbrev Members := List (String × Toml)

/-- Gives a key a value, in place of the one it has. -/
def replace (key : String) (v : Toml) : Members → Members
  | [] => [(key, v)]
  | (k, x) :: rest => if k = key then (key, v) :: rest else (k, x) :: replace key v rest

/-- Changes the table that keys lead to. Tables missing on the way are made; the way goes through
the last of a list of tables, never through another value. On the way of a dotted key no table
has a header. -/
def within (isDotted : Bool) (change : TableOrigin → Members → Option Members) :
    List String → TableOrigin → Members → Option Members
  | [], origin, members => change origin members
  | key :: path, _, members =>
    match members.lookup key with
    | none =>
      let origin := if isDotted then .dotted else .implied
      (within isDotted change path origin []).map fun inner =>
        replace key (.table origin inner) members
    | some (.table origin inner) =>
      if origin = .inline ∨ (isDotted ∧ origin = .header) then none
      else
        (within isDotted change path origin inner).map fun inner =>
          replace key (.table origin inner) members
    | some (.tables items) =>
      match items.getLast? with
      | some (.table origin inner) =>
        (within isDotted change path origin inner).map fun inner =>
          replace key (.tables (items.dropLast ++ [.table origin inner])) members
      | _ => none
    | some _ => none

/-- Adds a value under a dotted key, whose last part is `key`. The key must be new, and the table
that takes it one made by dotted keys, unless there is only one part. -/
def assign (path : List String) (key : String) (v : Toml) :
    TableOrigin → Members → Option Members :=
  within true (fun origin members =>
    if origin = .dotted ↔ path = [] then none
    else if (members.lookup key).isSome then none
    else some (members ++ [(key, v)])) path

/-- Opens the table of a header, which no other header and no key has made. -/
def openTable (path : List String) (key : String) : Members → Option Members :=
  within false (fun _ members =>
    match members.lookup key with
    | none => some (members ++ [(key, .table .header [])])
    | some (.table .implied inner) => some (replace key (.table .header inner) members)
    | some _ => none) path .header

/-- Adds a table to the list of a header. -/
def openItem (path : List String) (key : String) : Members → Option Members :=
  within false (fun _ members =>
    match members.lookup key with
    | none => some (members ++ [(key, .tables [.table .header []])])
    | some (.tables items) => some (replace key (.tables (items ++ [.table .header []])) members)
    | some _ => none) path .header

mutual

/-- The JSON tree of a value, for decoders. A date or time is an object that has no member a decoder
knows. -/
def toJson : Toml → Json
  | string s => .string s
  | integer n => .number (toString n)
  | float literal => .number literal
  | boolean b => .bool b
  | moment literal => .object [("moment", .string literal)]
  | array items => .array (toJsonList items)
  | tables items => .array (toJsonList items)
  | table _ members => .object (toJsonMembers members)

/-- The JSON trees of values. -/
def toJsonList : List Toml → List Json
  | [] => []
  | x :: xs => x.toJson :: toJsonList xs

/-- The members of a JSON object. -/
def toJsonMembers : Members → List (String × Json)
  | [] => []
  | (k, x) :: ms => (k, x.toJson) :: toJsonMembers ms

end

/-- The values of a record's fields, as in a JSON tree; items of a list beyond the last field are
ignored. -/
def fields? (known : List String) : Json → Option (List (Option Json))
  | .array items => Json.fields? known (.array (items.take known.length))
  | j => Json.fields? known j

/-- What may stand under the only key of a table that means a word: nothing in brackets or
braces. -/
def isUnit : Json → Bool
  | .array [] | .object [] => true
  | _ => false

end Toml

end Stencil
