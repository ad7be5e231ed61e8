import Stencil.Html.Reference

/-!
# Cutting HTML into lexemes

`next` takes the next lexemes off a text. What it takes depends on the content model, which the tree
builder sets after a start tag, and on whether character data sections are allowed, which is so
inside elements of other languages. At the end of the text it yields nothing; a tag that the text
ends in is dropped.
-/

namespace Stencil.Html

/-! ## Tags -/

/-- A text without leading white space. -/
def skipSpaces (s : List Char) : List Char := s.dropWhile isSpace

/-- The attributes and the end of a tag. -/
structure TagEnd where
  attributes : List (String × String)
  selfClosing : Bool
  rest : List Char

/-- The value that follows an equals sign, and the rest. -/
def readValue (s : List Char) : Option (String × List Char) :=
  match skipSpaces s with
  | [] => none
  | '"' :: r =>
    match r.dropWhile (· ≠ '"') with
    | [] => none
    | _ :: rest => some (String.ofList (expand true (r.takeWhile (· ≠ '"'))), rest)
  | '\'' :: r =>
    match r.dropWhile (· ≠ '\'') with
    | [] => none
    | _ :: rest => some (String.ofList (expand true (r.takeWhile (· ≠ '\''))), rest)
  | '>' :: r => some ("", '>' :: r)
  | r =>
    let inValue := fun c : Char => !isSpace c && c ≠ '>'
    some (String.ofList (expand true (r.takeWhile inValue)), r.dropWhile inValue)

/-- Whether a character belongs to an attribute's name, unless it is the first one. -/
def inAttributeName (c : Char) : Bool :=
  !isSpace c && c ≠ '/' && c ≠ '>' && c ≠ '='

/-- The name of an attribute, which an equals sign may start, and the rest. -/
def readAttributeName : List Char → String × List Char
  | [] => ("", [])
  | c :: r => (lowerName (c :: r.takeWhile inAttributeName), r.dropWhile inAttributeName)

/-- Adds an attribute, unless there is one of its name. -/
def addAttribute (name value : String) (attributes : List (String × String)) :
    List (String × String) :=
  if attributes.any (·.1 == name) then attributes else attributes ++ [(name, value)]

/-- Reads attributes up to the end of a tag; none is the end of the text. The first argument bounds
the number of steps. -/
def readAttributes : Nat → List (String × String) → List Char → Option TagEnd
  | 0, _, _ => none
  | n + 1, attributes, s =>
    match skipSpaces s with
    | [] => none
    | '>' :: r => some ⟨attributes, false, r⟩
    | '/' :: '>' :: r => some ⟨attributes, true, r⟩
    | '/' :: r => readAttributes n attributes r
    | r =>
      let (name, r) := readAttributeName r
      match skipSpaces r with
      | '=' :: r =>
        match readValue r with
        | none => none
        | some (value, r) => readAttributes n (addAttribute name value attributes) r
      | r => readAttributes n (addAttribute name "" attributes) r

/-- Whether a character belongs to the name of a tag. -/
def inTagName (c : Char) : Bool :=
  !isSpace c && c ≠ '/' && c ≠ '>'

/-- Reads a tag from its name on. -/
def readTag (s : List Char) : Option (Tag × List Char) :=
  let rest := s.dropWhile inTagName
  (readAttributes (rest.length + 1) [] rest).map fun e =>
    (⟨lowerName (s.takeWhile inTagName), e.attributes, e.selfClosing⟩, e.rest)

/-! ## Comments and declarations -/

/-- Where in a comment the text is, as far as its end depends on it. -/
inductive CommentPlace where
  /-- Right after the opening. -/
  | start
  /-- After one hyphen at the start. -/
  | startDash
  | inside
  /-- After one hyphen. -/
  | dash
  /-- After two hyphens. -/
  | dashes
  /-- After two hyphens and an exclamation mark. -/
  | bang

/-- Reads a comment up to its end. `done` holds its characters in reverse. -/
def readComment (done : List Char) : CommentPlace → List Char → String × List Char
  | .bang, [] | .start, [] | .startDash, [] | .inside, [] | .dash, [] | .dashes, [] =>
    (String.ofList done.reverse, [])
  | .start, c :: r =>
    if c = '-' then readComment done .startDash r
    else if c = '>' then (String.ofList done.reverse, r)
    else readComment (withoutNull c :: done) .inside r
  | .startDash, c :: r =>
    if c = '-' then readComment done .dashes r
    else if c = '>' then (String.ofList done.reverse, r)
    else readComment (withoutNull c :: '-' :: done) .inside r
  | .inside, c :: r =>
    if c = '-' then readComment done .dash r
    else readComment (withoutNull c :: done) .inside r
  | .dash, c :: r =>
    if c = '-' then readComment done .dashes r
    else readComment (withoutNull c :: '-' :: done) .inside r
  | .dashes, c :: r =>
    if c = '>' then (String.ofList done.reverse, r)
    else if c = '!' then readComment done .bang r
    else if c = '-' then readComment ('-' :: done) .dashes r
    else readComment (withoutNull c :: '-' :: '-' :: done) .inside r
  | .bang, c :: r =>
    if c = '-' then readComment ('!' :: '-' :: '-' :: done) .dash r
    else if c = '>' then (String.ofList done.reverse, r)
    else readComment (withoutNull c :: '!' :: '-' :: '-' :: done) .inside r

/-- Reads a comment that ends at the next closing angle bracket. -/
def readBogusComment (s : List Char) : List Lexeme × List Char :=
  ([.comment (String.ofList ((s.takeWhile (· ≠ '>')).map withoutNull))],
    (s.dropWhile (· ≠ '>')).drop 1)

/-- The rest after a document type that goes on with characters of no meaning. -/
def skipDoctype (s : List Char) : List Char := (s.dropWhile (· ≠ '>')).drop 1

/-- A quoted identifier of a document type. It is cut off by a closing angle bracket or the end of
the text, and the flag tells whether it was. -/
def readIdentifier (quote : Char) (s : List Char) : String × Bool × List Char :=
  let inIdentifier := fun c : Char => c ≠ quote && c ≠ '>'
  let text := String.ofList ((s.takeWhile inIdentifier).map withoutNull)
  match s.dropWhile inIdentifier with
  | [] => (text, true, [])
  | c :: r => if c = quote then (text, false, r) else (text, true, r)

/-- Reads a document type from its system identifier on, which may be missing after a public one. -/
def readSystemId (d : Doctype) (needed : Bool) (s : List Char) : Doctype × List Char :=
  match skipSpaces s with
  | [] => ({ d with forceQuirks := true }, [])
  | c :: r =>
    if c = '>' then ({ d with forceQuirks := d.forceQuirks || needed }, r)
    else if c = '"' ∨ c = '\'' then
      match readIdentifier c r with
      | (id, true, r) => ({ d with systemId := some id, forceQuirks := true }, r)
      | (id, false, r) =>
        let d := { d with systemId := some id }
        match skipSpaces r with
        | [] => ({ d with forceQuirks := true }, [])
        | r => (d, skipDoctype r)
    else ({ d with forceQuirks := true }, skipDoctype (c :: r))

/-- Reads a document type from its public identifier on. -/
def readPublicId (d : Doctype) (s : List Char) : Doctype × List Char :=
  match skipSpaces s with
  | [] => ({ d with forceQuirks := true }, [])
  | c :: r =>
    if c = '>' then ({ d with forceQuirks := true }, r)
    else if c = '"' ∨ c = '\'' then
      match readIdentifier c r with
      | (id, true, r) => ({ d with publicId := some id, forceQuirks := true }, r)
      | (id, false, r) => readSystemId { d with publicId := some id } false r
    else ({ d with forceQuirks := true }, skipDoctype (c :: r))

/-- A text after a keyword in either case. -/
def afterKeyword? (keyword : List Char) (s : List Char) : Option (List Char) :=
  if (s.take keyword.length).map Char.toUpper = keyword then some (s.drop keyword.length) else none

/-- Reads a document type from the end of its keyword on. -/
def readDoctype (s : List Char) : Doctype × List Char :=
  match skipSpaces s with
  | [] => (⟨none, none, none, true⟩, [])
  | '>' :: r => (⟨none, none, none, true⟩, r)
  | s =>
    let inName := fun c : Char => !isSpace c && c ≠ '>'
    let d : Doctype := ⟨some (lowerName (s.takeWhile inName)), none, none, false⟩
    match skipSpaces (s.dropWhile inName) with
    | [] => ({ d with forceQuirks := true }, [])
    | '>' :: r => (d, r)
    | r =>
      match afterKeyword? "PUBLIC".toList r, afterKeyword? "SYSTEM".toList r with
      | some r, _ => readPublicId d r
      | none, some r => readSystemId d true r
      | none, none => ({ d with forceQuirks := true }, skipDoctype r)

/-- The text before the end of a character data section, and the rest after it. -/
def splitSection (done : List Char) : List Char → List Char × List Char
  | [] => (done.reverse, [])
  | ']' :: ']' :: '>' :: r => (done.reverse, r)
  | c :: r => splitSection (c :: done) r

/-- Reads what follows an opening angle bracket and an exclamation mark. -/
def readDeclaration (sections : Bool) (s : List Char) : List Lexeme × List Char :=
  match s with
  | '-' :: '-' :: r =>
    let (text, r) := readComment [] .start r
    ([.comment text], r)
  | s =>
    match afterKeyword? "DOCTYPE".toList s with
    | some r =>
      let (d, r) := readDoctype r
      ([.doctype d], r)
    | none =>
      if sections ∧ "[CDATA[".toList.isPrefixOf s then
        let (text, r) := splitSection [] (s.drop 7)
        (runs text, r)
      else readBogusComment s

/-! ## Text -/

/-- Reads what follows an opening angle bracket. -/
def readMarkup (sections : Bool) : List Char → List Lexeme × List Char
  | '!' :: r => readDeclaration sections r
  | '?' :: r => readBogusComment ('?' :: r)
  | '/' :: '>' :: r => ([], r)
  | '/' :: c :: r =>
    if isLetter c then
      match readTag (c :: r) with
      | some (tag, r) => ([.endTag tag.name], r)
      | none => ([], [])
    else readBogusComment (c :: r)
  | ['/'] => ([.text "</"], [])
  | c :: r =>
    if isLetter c then
      match readTag (c :: r) with
      | some (tag, r) => ([.startTag tag], r)
      | none => ([], [])
    else ([.text "<"], c :: r)
  | [] => ([.text "<"], [])

/-- Whether a text goes on, after an opening angle bracket, with the end tag of a name. -/
def isEndTag (name : List Char) : List Char → Bool
  | '/' :: r =>
    (r.take name.length).map Char.toLower = name &&
      (match r.drop name.length with
        | c :: _ => isSpace c || c == '/' || c == '>'
        | [] => false)
  | _ => false

/-- The text before the end tag of a name, and the rest from the end tag on. -/
def splitRaw (name : List Char) (done : List Char) : List Char → List Char × List Char
  | [] => (done.reverse, [])
  | c :: r =>
    if c = '<' ∧ isEndTag name r then (done.reverse, c :: r) else splitRaw name (c :: done) r

/-- Where in a script the text is. -/
inductive ScriptPlace where
  /-- Outside of comments. -/
  | outside
  /-- In a comment, after so many hyphens. -/
  | comment (dashes : Nat)
  /-- In a script inside a comment, after so many hyphens. -/
  | inner (dashes : Nat)

/-- Whether a text, after an opening angle bracket or a slash, goes on with the word `script` and a
sign that ends it. -/
def isScriptWord (s : List Char) : Bool :=
  (s.take 6).map Char.toLower = "script".toList &&
    (match s.drop 6 with
      | c :: _ => isSpace c || c == '/' || c == '>'
      | [] => false)

/-- The text of a script before its end tag, and the rest from the end tag on. In a comment a start
tag of a script hides the end tag that belongs to it. -/
def splitScript (done : List Char) : ScriptPlace → List Char → List Char × List Char
  | .outside, [] | .comment _, [] | .inner _, [] => (done.reverse, [])
  | .outside, c :: r =>
    if c = '<' ∧ isEndTag "script".toList r then (done.reverse, c :: r)
    else if c = '-' ∧ done.take 3 = ['-', '!', '<'] then splitScript (c :: done) (.comment 2) r
    else splitScript (c :: done) .outside r
  | .comment dashes, c :: r =>
    if c = '<' then
      if isEndTag "script".toList r then (done.reverse, c :: r)
      else if isScriptWord r then splitScript (c :: done) (.inner 0) r
      else splitScript (c :: done) (.comment 0) r
    else if c = '>' ∧ 2 ≤ dashes then splitScript (c :: done) .outside r
    else if c = '-' then splitScript (c :: done) (.comment (dashes + 1)) r
    else splitScript (c :: done) (.comment 0) r
  | .inner dashes, c :: r =>
    if c = '/' ∧ done.head? = some '<' ∧ isScriptWord r then
      splitScript (c :: done) (.comment 0) r
    else if c = '>' ∧ 2 ≤ dashes then splitScript (c :: done) .outside r
    else if c = '-' then splitScript (c :: done) (.inner (dashes + 1)) r
    else splitScript (c :: done) (.inner 0) r

/-- The lexeme of a text without markup. -/
def rawText (s : List Char) : List Lexeme :=
  if s.isEmpty then [] else [.text (String.ofList s)]

/-- Reads an end tag that is known to be there. -/
def readEndTag (s : List Char) : List Lexeme × List Char :=
  match s with
  | _ :: _ :: r =>
    match readTag r with
    | some (tag, r) => ([.endTag tag.name], r)
    | none => ([], [])
  | _ => ([], [])

/-- The lexemes of a text without markup and of the end tag after it. -/
def withEndTag (text : List Char) (rest : List Char) : List Lexeme × List Char :=
  let (close, r) := readEndTag rest
  (rawText text ++ close, r)

/-- Takes the next run of character data off a text. -/
def readRun (c : Char) (r : List Char) : List Lexeme × List Char :=
  if c = '\x00' then ([.null], r)
  else if isBlank c then
    ([.blank (String.ofList (c :: r.takeWhile isBlank))], r.dropWhile isBlank)
  else
    let inText := fun c : Char => c ≠ '\x00' && c ≠ '<' && c ≠ '&' && !isBlank c
    ([.text (String.ofList (c :: r.takeWhile inText))], r.dropWhile inText)

/-- Takes the next lexemes off a text that is not empty. -/
def next (model : ContentModel) (sections : Bool) (s : List Char) : List Lexeme × List Char :=
  match model with
  | .data =>
    match s with
    | [] => ([], [])
    | '<' :: r => readMarkup sections r
    | '&' :: r =>
      match readReference false r with
      | some (chars, rest) => (runs chars, rest)
      | none => ([.text "&"], r)
    | c :: r => readRun c r
  | .escapable name =>
    let (text, rest) := splitRaw name.toList [] s
    withEndTag (expand false text) rest
  | .raw name =>
    let (text, rest) := splitRaw name.toList [] s
    withEndTag (text.map withoutNull) rest
  | .script =>
    let (text, rest) := splitScript [] .outside s
    withEndTag (text.map withoutNull) rest
  | .plaintext => (runs (s.map withoutNull), [])

end Stencil.Html
