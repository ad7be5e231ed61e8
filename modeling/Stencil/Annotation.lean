import Stencil.Text.Bytes
import Stencil.Text.Word
import Stencil.Token

/-!
# Annotations

An annotation is a pair of braces around a sign and an optional name. `classify` is the grammar of
what stands between the braces; `scan` finds the annotations of a text from left to right. Each
opening brace is paired with the nearest closing brace after it. If what they enclose is an
annotation the scan goes on after it, and if not it goes on one character after the opening brace,
since an annotation may start inside.
-/

namespace Stencil

/-- A recognized annotation. -/
structure Annotation where
  span : Span
  kind : TokenKind
  name : Option String
  deriving DecidableEq, Repr

namespace Annotation

/-- A kind together with a name, if the text is a name. -/
def named (kind : TokenKind) (name : List Char) : Option (TokenKind × Option String) :=
  if name.all Text.isNameChar then some (kind, some (String.ofList name)) else none

/-- What the text between two braces says. Two colons start a list and one an object when a name
follows and end them when nothing does; a dollar sign takes a name and marks a value. -/
def classify : List Char → Option (TokenKind × Option String)
  | [':', ':'] => some (.listEnd, none)
  | ':' :: ':' :: name => named .listStart name
  | [':'] => some (.objectEnd, none)
  | ':' :: name => named .objectStart name
  | ['$'] => none
  | '$' :: name => named .value name
  | _ => none

end Annotation

/-- What a scan finds: the annotations in order and, if the scan met an opening brace without a
closing one, its offset. -/
structure Scan where
  found : List Annotation
  unterminated : Option Nat
  deriving DecidableEq, Repr

namespace Scan

/-- A scan with one more annotation before it. -/
def cons (a : Annotation) (s : Scan) : Scan := ⟨a :: s.found, s.unterminated⟩

theorem length_dropWhile_le {α : Type} (p : α → Bool) (xs : List α) :
    (xs.dropWhile p).length ≤ xs.length :=
  (List.dropWhile_sublist p).length_le

/-- Scans a text that starts at a byte offset. -/
def scanFrom (offset : Nat) : List Char → Scan
  | [] => ⟨[], none⟩
  | c :: r =>
    if c = '\x7b' then
      match _h : r.dropWhile (· ≠ '\x7d') with
      | [] => ⟨[], some offset⟩
      | _ :: rest =>
        let inner := r.takeWhile (· ≠ '\x7d')
        match Annotation.classify inner with
        | some (kind, name) =>
          let stop := offset + Text.byteLength inner + 2
          cons ⟨⟨offset, stop⟩, kind, name⟩ (scanFrom stop rest)
        | none => scanFrom (offset + 1) r
    else scanFrom (offset + c.utf8Size) r
termination_by s => s.length
decreasing_by
  · have := length_dropWhile_le (fun c => decide (c ≠ '\x7d')) r
    rw [_h, List.length_cons] at this
    simp only [List.length_cons]
    omega
  · simp
  · simp

end Scan

/-- Scans a text for annotations. -/
def scan (s : List Char) : Scan := Scan.scanFrom 0 s

/-- Puts new text in the place of ranges of a text. The ranges are in ascending order and disjoint,
and the text starts at the given offset. -/
def replaceSpans (offset : Nat) : List (Span × List Char) → List Char → List Char
  | [], s => s
  | (span, new) :: more, s =>
    let gap := Text.splitAtByte (span.start - offset) s
    let covered := Text.splitAtByte (span.stop - span.start) gap.2
    gap.1 ++ new ++ replaceSpans span.stop more covered.2

/-- Removes ranges from a text. -/
def cutSpans (spans : List Span) (s : List Char) : List Char :=
  replaceSpans 0 (spans.map fun span => (span, [])) s

/-- Removes the annotations of a text. An opening brace that is never closed, and all after it, is
kept. -/
def removeAnnotations (s : List Char) : List Char :=
  cutSpans ((scan s).found.map (·.span)) s

end Stencil
