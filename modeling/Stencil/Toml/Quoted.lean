import Stencil.Json.Parse
import Stencil.Json.Print

/-!
# Quoted texts in TOML

A text stands between double quotes, where a backslash starts an escape, or between single quotes,
where every character stands for itself. Three quotes on each side allow line breaks, and a line
break just after the opening is not part of the text.
-/

namespace Stencil.Toml

/-- The blanks within a line. -/
def isWide (c : Char) : Bool := c == ' ' || c == '\t'

/-- Whether a character may stand in a text as it is. Line breaks have rules of their own. -/
def isPlain (c : Char) : Bool :=
  c == '\t' || (0x20 ≤ c.toNat && c.toNat ≠ 0x7f)

/-- The rest of a text after a line break. -/
def newline? : List Char → Option (List Char)
  | '\n' :: r => some r
  | '\r' :: '\n' :: r => some r
  | _ => none

/-- The character that a one-letter escape stands for. -/
def unescape? : Char → Option Char
  | 'b' => some '\x08'
  | 't' => some '\t'
  | 'n' => some '\n'
  | 'f' => some '\x0c'
  | 'r' => some '\r'
  | '"' => some '"'
  | '\\' => some '\\'
  | _ => none

/-- The character whose number is written in hexadecimal digits. -/
def hexChar? (digits : List Char) : Option Char := do
  let n ← digits.foldlM (fun n c => (Json.hexValue? c).map (n * 16 + ·)) 0
  if n < 0xD800 ∨ (0xDFFF < n ∧ n < 0x110000) then some (Char.ofNat n) else none

/-- Puts a character in front of what was read after it. -/
def consText (c : Char) : Option (List Char × List Char) → Option (List Char × List Char)
  | some (text, rest) => some (c :: text, rest)
  | none => none

/-- Reads a text up to its closing double quote. -/
def readBasic : List Char → Option (List Char × List Char)
  | '"' :: r => some ([], r)
  | '\\' :: 'u' :: a :: b :: c :: d :: r =>
    (hexChar? [a, b, c, d]).bind fun x => consText x (readBasic r)
  | '\\' :: 'U' :: a :: b :: c :: d :: e :: f :: g :: h :: r =>
    (hexChar? [a, b, c, d, e, f, g, h]).bind fun x => consText x (readBasic r)
  | '\\' :: c :: r => (unescape? c).bind fun x => consText x (readBasic r)
  | c :: r => if isPlain c then consText c (readBasic r) else none
  | [] => none

/-- Reads a text up to its closing single quote. -/
def readLiteral : List Char → Option (List Char × List Char)
  | '\'' :: r => some ([], r)
  | c :: r => if isPlain c then consText c (readLiteral r) else none
  | [] => none

/-- Reads a text up to three double quotes, before which up to two more belong to the text. In a
`folded` place, after a backslash at the end of a line, blanks and line breaks are skipped. -/
def readLongBasic (folded : Bool) : List Char → Option (List Char × List Char)
  | '"' :: '"' :: '"' :: '"' :: '"' :: r => some (['"', '"'], r)
  | '"' :: '"' :: '"' :: '"' :: r => some (['"'], r)
  | '"' :: '"' :: '"' :: r => some ([], r)
  | '\\' :: 'u' :: a :: b :: c :: d :: r =>
    (hexChar? [a, b, c, d]).bind fun x => consText x (readLongBasic false r)
  | '\\' :: 'U' :: a :: b :: c :: d :: e :: f :: g :: h :: r =>
    (hexChar? [a, b, c, d, e, f, g, h]).bind fun x => consText x (readLongBasic false r)
  | '\\' :: c :: r =>
    match unescape? c with
    | some x => consText x (readLongBasic false r)
    | none =>
      if (newline? ((c :: r).dropWhile isWide)).isSome then readLongBasic true (c :: r) else none
  | '\r' :: '\n' :: r =>
    if folded then readLongBasic true r else consText '\n' (readLongBasic false r)
  | '\n' :: r => if folded then readLongBasic true r else consText '\n' (readLongBasic false r)
  | c :: r =>
    if folded ∧ isWide c then readLongBasic true r
    else if isPlain c then consText c (readLongBasic false r) else none
  | [] => none

/-- Reads a text up to three single quotes, before which up to two more belong to the text. -/
def readLongLiteral : List Char → Option (List Char × List Char)
  | '\'' :: '\'' :: '\'' :: '\'' :: '\'' :: r => some (['\'', '\''], r)
  | '\'' :: '\'' :: '\'' :: '\'' :: r => some (['\''], r)
  | '\'' :: '\'' :: '\'' :: r => some ([], r)
  | '\r' :: '\n' :: r => consText '\n' (readLongLiteral r)
  | '\n' :: r => consText '\n' (readLongLiteral r)
  | c :: r => if isPlain c then consText c (readLongLiteral r) else none
  | [] => none

/-- The text after an opening of three quotes, without a line break that follows it. -/
def skipFirstBreak (s : List Char) : List Char := (newline? s).getD s

/-- Reads a text on one line. -/
def readShort? : List Char → Option (List Char × List Char)
  | '"' :: r => readBasic r
  | '\'' :: r => readLiteral r
  | _ => none

/-- Reads a text in any of its four forms. -/
def readQuoted? : List Char → Option (List Char × List Char)
  | '"' :: '"' :: '"' :: r => readLongBasic false (skipFirstBreak r)
  | '\'' :: '\'' :: '\'' :: r => readLongLiteral (skipFirstBreak r)
  | r => readShort? r

/-! ## Writing -/

/-- The four forms of a quoted text. -/
inductive QuoteStyle where
  | basic
  | literal
  | longBasic
  | longLiteral
  deriving DecidableEq, Repr

/-- The longest run of a character in a text that goes on from a run of length `run`. -/
def longestRun (q : Char) (run : Nat) : List Char → Nat
  | [] => run
  | c :: r => if c = q then longestRun q (run + 1) r else max run (longestRun q 0 r)

/-- Characters that only an escape can stand for. -/
def needsEscape (c : Char) : Bool :=
  (c.toNat < 0x20 && c ≠ '\t' && c ≠ '\n') || c.toNat = 0x7f

/-- The form in which a text is written: the first of double quotes, single quotes, three double and
three single quotes that shows it without an escape; else double quotes, three of them where there
are line breaks. -/
def quoteStyle (text : List Char) : QuoteStyle :=
  let breaks := text.contains '\n'
  let escapes := text.any needsEscape
  let backslash := text.contains '\\'
  let doubles := longestRun '"' 0 text
  let singles := longestRun '\'' 0 text
  if !escapes && !backslash && doubles = 0 && !breaks then .basic
  else if !escapes && singles = 0 && !breaks then .literal
  else if !escapes && !backslash && doubles ≤ 2 then .longBasic
  else if !escapes && singles ≤ 2 then .longLiteral
  else if breaks then .longBasic
  else .basic

/-- The number of a character below U+0080 as an escape, with four upper-case digits. -/
def hexEscape (c : Char) : List Char :=
  let upper := fun n => (Json.hexDigit n).toUpper
  ['\\', 'u', '0', '0', upper (c.toNat / 16 % 16), upper (c.toNat % 16)]

/-- A character between double quotes. -/
def escape (c : Char) : List Char :=
  match c with
  | '\x08' => ['\\', 'b']
  | '\t' => ['\\', 't']
  | '\n' => ['\\', 'n']
  | '\x0c' => ['\\', 'f']
  | '\r' => ['\\', 'r']
  | '"' => ['\\', '"']
  | '\\' => ['\\', '\\']
  | c => if c.toNat < 0x20 ∨ c.toNat = 0x7f then hexEscape c else [c]

/-- A text between three double quotes: line breaks stand as they are, and so do at most two double
quotes in a row, of which `run` came before. -/
def escapeLong (run : Nat) : List Char → List Char
  | [] => []
  | '\n' :: r => '\n' :: escapeLong 0 r
  | '"' :: r => if run < 2 then '"' :: escapeLong (run + 1) r else '\\' :: '"' :: escapeLong 0 r
  | c :: r => escape c ++ escapeLong 0 r

/-- A quoted text in a form. A text with line breaks starts on a line of its own. -/
def quoteAs (style : QuoteStyle) (text : List Char) : List Char :=
  let start := if text.contains '\n' then ['\n'] else []
  let doubles := ['"', '"', '"']
  let singles := ['\'', '\'', '\'']
  match style with
  | .basic => '"' :: text.flatMap escape ++ ['"']
  | .literal => '\'' :: text ++ ['\'']
  | .longBasic => doubles ++ start ++ escapeLong 0 text ++ doubles
  | .longLiteral => singles ++ start ++ text ++ singles

/-- A text as it is written. -/
def quote (text : List Char) : List Char := quoteAs (quoteStyle text) text

end Stencil.Toml
