import Stencil.Html.Insertion.Rest
import Stencil.Html.Lexer

/-!
# Reading HTML

`Document.ofHtml` reads any text as HTML. Malformed text is repaired, so reading never fails, and a
document always has a top element with a head and a body or a set of frames.
-/

namespace Stencil.Html

/-- Applies rules to a lexeme until it is used up. The first argument bounds how often a rule may
pass it on. -/
def settle : Nat → Builder → Lexeme → Builder
  | 0, b, _ => b
  | n + 1, b, x =>
    match Insertion.dispatch b x with
    | .done b => b
    | .again b x => settle n b x

/-- How often a lexeme may be passed on: rules pass it on when they end elements or change the mode,
a few times for each open element. -/
def patience (b : Builder) : Nat :=
  8 * (b.opened.length + b.templateModes.length + 8)

/-- A text after a line feed at its start, if that is to be dropped. -/
def dropLineFeed (s : String) : String :=
  match s.toList with
  | '\n' :: r => String.ofList r
  | _ => s

/-- Processes one lexeme. -/
def process (b : Builder) (x : Lexeme) : Builder :=
  let skip := b.skipLineFeed
  let b := { b with skipLineFeed := false }
  match x with
  | .blank s =>
    let s := if skip then dropLineFeed s else s
    if s.isEmpty then b else settle (patience b) b (.blank s)
  | .text s =>
    let s := if skip then dropLineFeed s else s
    if s.isEmpty then b else settle (patience b) b (.text s)
  | x => settle (patience b) b x

/-- Whether character data sections are allowed: the innermost element is not HTML. -/
def allowsSections (b : Builder) : Bool :=
  match b.opened with
  | o :: _ => o.element.language != .html
  | [] => false

/-- Processes a text. Every step takes at least one character off it, so its length bounds their
number. -/
def consume : Nat → List Char → Builder → Builder
  | 0, _, b => b
  | _, [], b => b
  | n + 1, s, b =>
    let (lexemes, rest) := next b.model (allowsSections b) s
    consume n rest (lexemes.foldl process { b with model := .data })

/-- A text without the byte order mark at its start. -/
def withoutMark : List Char → List Char
  | c :: r => if c.toNat = 0xFEFF then r else c :: r
  | [] => []

/-- The document that a text is read as. -/
def parse (s : List Char) : Document :=
  let s := normalizeBreaks (withoutMark s)
  (process (consume (s.length + 1) s {}) .eof).forest.toDocument

end Stencil.Html

namespace Stencil

/-- Reads a text as HTML. -/
def Document.ofHtml (s : String) : Document := Html.parse s.toList

end Stencil
