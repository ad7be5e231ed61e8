import Stencil.Extraction.Settings
import Stencil.Toml.Lines
import Stencil.Toml.Parse

/-!
# Extraction settings in TOML

The settings are written as five lines. A document that is read may leave out any of them and may
hold others.
-/

namespace Stencil.ExtractionSettings

/-- The settings as TOML lines, if both limits can be written. -/
def toToml? (s : ExtractionSettings) : Option String := do
  let length ← Toml.numberText? s.maxDocumentLength
  let items ← Toml.numberText? s.maxListItems
  return Toml.line "max_document_length" length ++
    Toml.line "max_list_items" items ++
    Toml.line "match_sibling_tag" (Toml.boolText s.matchSiblingTag) ++
    Toml.line "trim_values" (Toml.boolText s.trimValues) ++
    Toml.line "missing_field" (Toml.stringText s.missingField.keyword)

/-- Reads settings from the tree of a TOML table. -/
def ofTomlTree? (j : Json) : Option ExtractionSettings :=
  (Toml.fields? members j).bind (ofFields? Toml.isUnit {})

/-- Reads settings from the text of a TOML document. -/
def ofToml? (text : String) : Option ExtractionSettings :=
  (Toml.ofString? text).bind fun t => ofTomlTree? t.toJson

end Stencil.ExtractionSettings
