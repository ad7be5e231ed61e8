/-!
# Lexemes of HTML

What the text of an HTML document is cut into before the tree is built: tags, comments, document
type declarations and runs of characters. Characters come in runs of one class, since the rules of
tree building tell blank runs from others and drop some null characters.
-/

namespace Stencil.Html

/-- A start tag. -/
structure Tag where
  name : String
  /-- The attributes with their values; of several with one name the first counts. -/
  attributes : List (String × String)
  selfClosing : Bool
  deriving DecidableEq, Repr, Inhabited

/-- A start tag without attributes. -/
def Tag.plain (name : String) : Tag := ⟨name, [], false⟩

/-- The value of an attribute. -/
def Tag.attribute? (t : Tag) (name : String) : Option String :=
  t.attributes.lookup name

/-- A document type declaration. -/
structure Doctype where
  name : Option String
  publicId : Option String
  systemId : Option String
  /-- Whether the declaration is so broken that the document is in quirks mode. -/
  forceQuirks : Bool
  deriving DecidableEq, Repr, Inhabited

/-- A piece of an HTML text. -/
inductive Lexeme where
  | doctype (d : Doctype)
  | startTag (tag : Tag)
  | endTag (name : String)
  | comment (text : String)
  /-- White space. -/
  | blank (text : String)
  /-- Characters, neither white space nor null. -/
  | text (text : String)
  /-- A null character. -/
  | null
  | eof
  deriving DecidableEq, Repr, Inhabited

/-- How the text after a tag is to be read. -/
inductive ContentModel where
  /-- Tags, comments and character references. -/
  | data
  /-- Character references only, up to the end tag of the given name. -/
  | escapable (name : String)
  /-- Nothing but characters, up to the end tag of the given name. -/
  | raw (name : String)
  /-- A script, whose comments may hold end tags. -/
  | script
  /-- Nothing but characters, up to the end. -/
  | plaintext
  deriving DecidableEq, Repr, Inhabited

/-- White space between the parts of a tag. -/
def isSpace (c : Char) : Bool :=
  c == ' ' || c == '\n' || c == '\t' || c == '\x0c'

/-- White space in character data, which a reference may have put there. -/
def isBlank (c : Char) : Bool :=
  isSpace c || c == '\r'

/-- A letter of the basic alphabet. -/
def isLetter (c : Char) : Bool := c.isAlpha

/-- The character that stands for one that cannot be shown. -/
def replacement : Char := Char.ofNat 0xFFFD

/-- A character with null replaced. -/
def withoutNull (c : Char) : Char := if c = '\x00' then replacement else c

/-- A lower-case name with null replaced. -/
def lowerName (s : List Char) : String :=
  String.ofList (s.map fun c => withoutNull c.toLower)

/-- Line breaks as single line feeds, behind the characters in `done`, the last of them first. -/
def normalizeBreaksFrom (done : List Char) : List Char → List Char
  | [] => done.reverse
  | '\r' :: '\n' :: r => normalizeBreaksFrom ('\n' :: done) r
  | '\r' :: r => normalizeBreaksFrom ('\n' :: done) r
  | c :: r => normalizeBreaksFrom (c :: done) r

/-- A text with every line break as a single line feed. -/
def normalizeBreaks (s : List Char) : List Char := normalizeBreaksFrom [] s

/-- The run of characters that the next lexeme of character data takes, and the rest. -/
def takeRun : List Char → Lexeme × List Char
  | [] => (.eof, [])
  | c :: r =>
    if c = '\x00' then (.null, r)
    else if isBlank c then
      (.blank (String.ofList (c :: r.takeWhile isBlank)), r.dropWhile isBlank)
    else
      let inText := fun c : Char => c ≠ '\x00' && !isBlank c
      (.text (String.ofList (c :: r.takeWhile inText)), r.dropWhile inText)

/-- The lexemes of character data. The first argument bounds their number. -/
def runsOf : Nat → List Char → List Lexeme
  | 0, _ => []
  | _, [] => []
  | n + 1, s => (takeRun s).1 :: runsOf n (takeRun s).2

/-- The lexemes of character data. -/
def runs (s : List Char) : List Lexeme := runsOf s.length s

end Stencil.Html
