import Stencil.Address.Selector
import Stencil.Blueprint
import Stencil.Json.Decode
import Stencil.Json.Parse
import Stencil.Json.Print

/-!
# Blueprints as JSON

How tokens and blueprints are written as JSON trees and read back. A token's absent parts and its
empty list of fields are left out; an address is written as a selector and an identifier as its 32
digits. A decoder takes the number of levels it may still descend, one for each bracket.
-/

namespace Stencil

/-- A kind is written as its keyword. -/
def TokenKind.toJson (k : TokenKind) : Json := .string k.keyword

/-- A kind is read from its keyword, or from an object with the keyword as key and null below. -/
def TokenKind.ofJson? : Json → Option TokenKind
  | .string s => ofKeyword? s
  | .object [(s, .null)] => ofKeyword? s
  | _ => none

namespace Span

/-- A range is written with both ends. -/
def toJson (s : Span) : Json :=
  .object [("start", Json.ofNat s.start), ("end", Json.ofNat s.stop)]

/-- Reads a range. -/
def ofJson? (levels : Nat) (j : Json) : Option Span :=
  match levels with
  | 0 => none
  | _ + 1 =>
    match Json.fields? ["start", "end"] j with
    | some [some a, some b] => do return ⟨← Json.asWord? a, ← Json.asWord? b⟩
    | _ => none

end Span

/-- An identifier is written as its digits. -/
def MarkerId.toJson (id : MarkerId) : Json := .string id.toText

/-- An identifier is read from any of its spellings. -/
def MarkerId.ofJson? : Json → Option MarkerId
  | .string s => parse? s
  | _ => none

/-- An address is written as its selector. -/
def Address.toJson (a : Address) : Json := .string a.toText

/-- An address is read from a selector. -/
def Address.ofJson? : Json → Option Address
  | .string s => (parse s).toOption
  | _ => none

namespace Token

/-- A member for a part of a token that is there. -/
def part {α : Type} (key : String) (encode : α → Json) : Option α → List (String × Json)
  | none => []
  | some a => [(key, encode a)]

mutual

/-- A token is written with the parts it has, in declared order. -/
def toJson : Token → Json
  | ⟨kind, name, span, markerId, children, address⟩ =>
    .object
      ([("kind", kind.toJson)] ++ part "name" .string name ++ part "span" Span.toJson span ++
        part "marker_id" MarkerId.toJson markerId ++
        (match toJsonAll children with
          | [] => []
          | items => [("children", .array items)]) ++
        part "relative_address" Address.toJson address)

/-- The trees of a list. -/
def toJsonAll : List Token → List Json
  | [] => []
  | t :: ts => toJson t :: toJsonAll ts

end

/-- The members of a token. -/
def members : List String :=
  ["kind", "name", "span", "marker_id", "children", "relative_address"]

mutual

/-- Reads a token at most `levels` brackets deep. -/
def ofJson? : Nat → Json → Option Token
  | 0, _ => none
  | levels + 1, j =>
    match Json.fields? members j with
    | some [some kind, name, span, markerId, children, address] => do
      let kind ← TokenKind.ofJson? kind
      let name ← Json.optional? Json.asString? name
      let span ← Json.optional? (Span.ofJson? levels) span
      let markerId ← Json.optional? MarkerId.ofJson? markerId
      let children ← childrenOfJson? levels children
      let address ← Json.optional? Address.ofJson? address
      return ⟨kind, name, span, markerId, children, address⟩
    | _ => none

/-- Reads the list of a token's fields; an absent list is empty. -/
def childrenOfJson? : Nat → Option Json → Option (List Token)
  | _, none => some []
  | levels + 1, some (.array items) => items.mapM fun j => ofJson? levels j
  | _, _ => none

end

/-- Reads a list of tokens. -/
def listOfJson? (j : Json) : Option (List Token) := childrenOfJson? Json.maxLevels (some j)

end Token

namespace Blueprint

/-- A blueprint is written with its name and its tree. -/
def toJson (b : Blueprint) : Json :=
  .object [("name", .string b.name), ("root", b.root.toJson)]

/-- Reads a blueprint at most `levels` brackets deep. -/
def ofJsonAt? : Nat → Json → Option Blueprint
  | 0, _ => none
  | levels + 1, j =>
    match Json.fields? ["name", "root"] j with
    | some [some name, some root] => do
      return ⟨← Json.asString? name, ← Token.ofJson? levels root⟩
    | _ => none

/-- Reads a blueprint. -/
def ofJson? (j : Json) : Option Blueprint := ofJsonAt? Json.maxLevels j

/-- The text of a blueprint's file. -/
def toText (b : Blueprint) : String := b.toJson.prettyString

/-- Reads a blueprint from the text of a file. -/
def ofText? (text : String) : Option Blueprint := (Json.ofString? text).bind ofJson?

end Blueprint

end Stencil
