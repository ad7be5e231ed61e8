import Stencil.Json.Decode

/-!
# Extraction settings

How much a document may hold, when a list ends, how values are cleaned, and what happens when a
field cannot be found.
-/

namespace Stencil

/-- What to do about a field whose address leads nowhere. -/
inductive MissingField where
  /-- The extraction fails. -/
  | fail
  /-- The field is left out, and a list is empty. -/
  | skip
  deriving DecidableEq, Repr, Inhabited

/-- The word for a rule. -/
def MissingField.keyword : MissingField → String
  | fail => "fail"
  | skip => "skip"

/-- The rule of a word. -/
def MissingField.ofKeyword? (s : String) : Option MissingField :=
  if s = "fail" then some .fail else if s = "skip" then some .skip else none

/-- The settings of an extraction. -/
structure ExtractionSettings where
  /-- The most bytes a document may have. -/
  maxDocumentLength : Nat := 10 * 1024 * 1024
  /-- The most repetitions collected for one list. -/
  maxListItems : Nat := 10000
  /-- Whether a list ends at the first sibling with another tag than its first item. -/
  matchSiblingTag : Bool := true
  /-- Whether blanks around values are removed. -/
  trimValues : Bool := true
  missingField : MissingField := .fail
  deriving DecidableEq, Repr, Inhabited

/-- A limit that must not be zero. -/
inductive ZeroLimit where
  | maxDocumentLength
  | maxListItems
  deriving DecidableEq, Repr

/-- The complaint about a limit. -/
def ZeroLimit.reason : ZeroLimit → String
  | maxDocumentLength => "max_document_length must be greater than 0"
  | maxListItems => "max_list_items must be greater than 0"

namespace ExtractionSettings

/-- The settings that skip missing fields and are the default otherwise. -/
def lenient : ExtractionSettings := { missingField := .skip }

/-- The first limit that is zero. -/
def fault? (s : ExtractionSettings) : Option ZeroLimit :=
  if s.maxDocumentLength = 0 then some .maxDocumentLength
  else if s.maxListItems = 0 then some .maxListItems
  else none

/-- The names of the settings in files. -/
def members : List String :=
  ["max_document_length", "max_list_items", "match_sibling_tag", "trim_values", "missing_field"]

/-- A setting that keeps its default when it is absent. -/
def setting? {α : Type} (default : α) (decode : Json → Option α) : Option Json → Option α
  | none => some default
  | some j => decode j

/-- Reads a rule from its word, or from an object with the word as key and a value below that
`isUnit` accepts as nothing. -/
def missingFieldOfJson? (isUnit : Json → Bool) : Json → Option MissingField
  | .string s => MissingField.ofKeyword? s
  | .object [(s, j)] => if isUnit j then MissingField.ofKeyword? s else none
  | _ => none

/-- Reads settings from the values of their fields; those not given keep the values they have in
`base`. -/
def ofFields? (isUnit : Json → Bool) (base : ExtractionSettings) :
    List (Option Json) → Option ExtractionSettings
  | [length, items, siblingTag, trim, missing] => do
    return {
      maxDocumentLength := ← setting? base.maxDocumentLength Json.asWord? length
      maxListItems := ← setting? base.maxListItems Json.asWord? items
      matchSiblingTag := ← setting? base.matchSiblingTag Json.asBool? siblingTag
      trimValues := ← setting? base.trimValues Json.asBool? trim
      missingField := ← setting? base.missingField (missingFieldOfJson? isUnit) missing }
  | _ => none

/-- Reads settings; those not given have their default values. -/
def ofJson? (j : Json) : Option ExtractionSettings :=
  (Json.fields? members j).bind (ofFields? Json.isNull {})

end ExtractionSettings

end Stencil
