import Stencil.Extraction.Run
import Stencil.Html.Parse

/-!
# Extracting values from documents

The whole way from a blueprint and the text of a document to the value found there.
-/

namespace Stencil

/-- Why nothing can be extracted. -/
inductive ExtractionError where
  /-- The document does not fit the blueprint. -/
  | structural (e : StructuralError)
  /-- The document has more bytes than allowed. -/
  | documentTooLong (length most : Nat)
  /-- The settings are invalid. -/
  | settings (fault : ZeroLimit)
  deriving DecidableEq, Repr

/-- The text shown for an extraction error. -/
def ExtractionError.message : ExtractionError → String
  | structural e => e.message
  | documentTooLong length most =>
    "Document too long: " ++ toString length ++ " bytes (max: " ++ toString most ++ ")"
  | settings fault => "Configuration error: " ++ fault.reason

/-- Settings that can be used, which have no limit of zero. -/
def ExtractionSettings.validate (s : ExtractionSettings) :
    Except ExtractionError ExtractionSettings :=
  match s.fault? with
  | some fault => .error (.settings fault)
  | none => .ok s

/-- Extracts the value that a blueprint describes from the text of a document. The length of the
text is checked before it is read. -/
def extract (s : ExtractionSettings) (b : Blueprint) (document : String) :
    Except ExtractionError Json :=
  if s.maxDocumentLength < document.utf8ByteSize then
    .error (.documentTooLong document.utf8ByteSize s.maxDocumentLength)
  else
    match Extraction.extractFrom s b (Document.ofHtml document) with
    | .error e => .error (.structural e)
    | .ok v => .ok v

end Stencil
