import Stencil.Html.Insertion.Table

/-!
# Insertion into templates, frames and what follows a body

The rules for the contents of templates, for sets of frames, for what stands after the end of the
body, and for elements of other languages inside an HTML document.
-/

namespace Stencil.Html.Insertion

/-! ## Templates -/

/-- Reads the contents of a template in another mode from now on. -/
def switchTemplate (b : Builder) (m : Mode) (x : Lexeme) : Turn :=
  .again { b with templateModes := m :: b.templateModes.drop 1, mode := m } x

/-- Inside a template. -/
def inTemplate (b : Builder) (x : Lexeme) : Turn :=
  match x with
  | .startTag t =>
    if headNames.contains t.name then inHead b x
    else
      match t.name with
      | "caption" | "colgroup" | "tbody" | "tfoot" | "thead" => switchTemplate b .inTable x
      | "col" => switchTemplate b .inColumnGroup x
      | "tr" => switchTemplate b .inTableBody x
      | "td" | "th" => switchTemplate b .inRow x
      | _ => switchTemplate b .inBody x
  | .endTag name => if name = "template" then endTemplate b else .done b
  | .eof => endTextInTemplate b
  | x => inBody b x

/-! ## After the body -/

/-- After the body. -/
def afterBody (b : Builder) (x : Lexeme) : Turn :=
  match x with
  | .blank _ => inBody b x
  | .comment s => .done (b.commentInHtml s)
  | .doctype _ | .eof => .done b
  | .startTag t => if t.name = "html" then mergeHtml b t else .again (b.toMode .inBody) x
  | .endTag name =>
    if name = "html" then .done (b.toMode .afterAfterBody) else .again (b.toMode .inBody) x
  | x => .again (b.toMode .inBody) x

/-- After the end of the top element. -/
def afterAfterBody (b : Builder) (x : Lexeme) : Turn :=
  match x with
  | .blank _ => inBody b x
  | .comment s => .done (b.commentIn Forest.documentCell s)
  | .doctype _ | .eof => .done b
  | .startTag t => if t.name = "html" then mergeHtml b t else .again (b.toMode .inBody) x
  | x => .again (b.toMode .inBody) x

/-! ## Frames -/

/-- Inside a set of frames. -/
def inFrameset (b : Builder) (x : Lexeme) : Turn :=
  match x with
  | .blank s => .done (b.insertText s)
  | .comment s => .done (b.insertComment s)
  | .startTag t =>
    match t.name with
    | "html" => mergeHtml b t
    | "frameset" => .done (b.insert t)
    | "frame" => .done (b.insertVoid t)
    | "noframes" => inHead b x
    | _ => .done b
  | .endTag name =>
    if name = "frameset" then
      if b.opened.length ≤ 1 then .done b
      else
        let b := b.pop
        .done (if b.currentIs ["frameset"] then b else b.toMode .afterFrameset)
    else .done b
  | _ => .done b

/-- After a set of frames. -/
def afterFrameset (b : Builder) (x : Lexeme) : Turn :=
  match x with
  | .blank s => .done (b.insertText s)
  | .comment s => .done (b.insertComment s)
  | .startTag t =>
    match t.name with
    | "html" => mergeHtml b t
    | "noframes" => inHead b x
    | _ => .done b
  | .endTag name => .done (if name = "html" then b.toMode .afterAfterFrameset else b)
  | _ => .done b

/-- After the end of the top element, when it holds frames. -/
def afterAfterFrameset (b : Builder) (x : Lexeme) : Turn :=
  match x with
  | .blank _ => inBody b x
  | .comment s => .done (b.commentIn Forest.documentCell s)
  | .startTag t =>
    match t.name with
    | "html" => mergeHtml b t
    | "noframes" => inHead b x
    | _ => .done b
  | _ => .done b

end Insertion

/-- The rules of a mode. -/
def Insertion.rules : Mode → Builder → Lexeme → Turn
  | .initial => initial
  | .beforeHtml => beforeHtml
  | .beforeHead => beforeHead
  | .inHead => inHead
  | .afterHead => afterHead
  | .inBody => inBody
  | .text => Insertion.text
  | .inTable => inTable
  | .inTableText => inTableText
  | .inCaption => inCaption
  | .inColumnGroup => inColumnGroup
  | .inTableBody => inTableBody
  | .inRow => inRow
  | .inCell => inCell
  | .inSelect => inSelect
  | .inSelectInTable => inSelectInTable
  | .inTemplate => inTemplate
  | .afterBody => afterBody
  | .inFrameset => inFrameset
  | .afterFrameset => afterFrameset
  | .afterAfterBody => afterAfterBody
  | .afterAfterFrameset => afterAfterFrameset

namespace Insertion

/-! ## Other languages -/

/-- HTML elements that end the elements of other languages around them. -/
def breakoutNames : List String :=
  ["b", "big", "blockquote", "body", "br", "center", "code", "dd", "div", "dl", "dt", "em", "embed",
   "h1", "h2", "h3", "h4", "h5", "h6", "head", "hr", "i", "img", "li", "listing", "menu", "meta",
   "nobr", "ol", "p", "pre", "ruby", "s", "small", "span", "strong", "strike", "sub", "sup",
   "table", "tt", "u", "ul", "var"]

/-- Whether an element of MathML holds text, which may contain HTML. -/
def isMathmlText (e : Element) : Bool :=
  e.language == .mathml && ["mi", "mo", "mn", "ms", "mtext"].contains e.name

/-- Whether an element of SVG holds HTML. -/
def isSvgHtml (e : Element) : Bool :=
  e.language == .svg && ["foreignObject", "desc", "title"].contains e.name

/-- Whether an element of MathML is an annotation in XML. -/
def isAnnotation (e : Element) : Bool :=
  e.language == .mathml && e.name == "annotation-xml"

/-- Whether an annotation says that it holds HTML. -/
def holdsHtml (e : Element) : Bool :=
  match e.attributes.lookup "encoding" with
  | some s => ["text/html", "application/xhtml+xml"].contains (s.map Char.toLower)
  | none => false

/-- Whether a lexeme is a run of characters. -/
def isCharacters : Lexeme → Bool
  | .blank _ | .text _ | .null => true
  | _ => false

/-- Whether a lexeme is a start tag. -/
def isStart : Lexeme → Bool
  | .startTag _ => true
  | _ => false

/-- Whether a lexeme is a start tag of one of the names. -/
def startsOne (names : List String) : Lexeme → Bool
  | .startTag t => names.contains t.name
  | _ => false

/-- Whether a lexeme belongs to an element of another language, the innermost one. -/
def isForeign (e : Element) (x : Lexeme) : Bool :=
  if e.language = .html then false
  else if isMathmlText e && (isCharacters x || (isStart x && !startsOne ["mglyph", "malignmark"] x))
  then false
  else if isSvgHtml e && (isCharacters x || isStart x) then false
  else if isAnnotation e then
    if startsOne ["svg"] x then false
    else if isCharacters x || isStart x then !holdsHtml e
    else true
  else true

/-- Ends the elements of other languages and applies the rules of HTML. -/
def leaveForeign (b : Builder) (x : Lexeme) : Turn :=
  let opened := b.opened.dropWhile fun o =>
    o.element.language != .html && !isMathmlText o.element && !isSvgHtml o.element
  rules b.mode { b with opened := opened } x

/-- An end tag inside an element of another language: it ends the innermost element of its name, and
the rules of HTML apply from the first HTML element outwards. -/
def endForeign (b : Builder) (name : String) : Bool → List Opened → Turn
  | _, [] | _, [_] => .done b
  | first, o :: rest =>
    if !first && o.element.language = .html then rules b.mode b (.endTag name)
    else if o.element.name.map Char.toLower = name then .done { b with opened := rest }
    else endForeign b name false rest

/-- Whether a start tag ends the elements of other languages. -/
def breaksOut (t : Tag) : Bool :=
  breakoutNames.contains t.name ||
    (t.name == "font" && t.attributes.any fun a => ["color", "face", "size"].contains a.1)

/-- Inside an element of another language. -/
def foreign (b : Builder) (language : Language) (x : Lexeme) : Turn :=
  match x with
  | .null => .done (b.insertText "\uFFFD")
  | .blank s => .done (b.insertText s)
  | .text s => .done { b.insertText s with framesetOk := false }
  | .comment s => .done (b.insertComment s)
  | .doctype _ | .eof => .done b
  | .startTag t => if breaksOut t then leaveForeign b x else .done (insertForeign b language t)
  | .endTag name =>
    if name = "br" ∨ name = "p" then leaveForeign b x else endForeign b name true b.opened

/-- The rules that apply to a lexeme. -/
def dispatch (b : Builder) (x : Lexeme) : Turn :=
  match x, b.opened with
  | .eof, _ | _, [] => rules b.mode b x
  | x, o :: _ => if isForeign o.element x then foreign b o.element.language x else rules b.mode b x

end Insertion

end Stencil.Html
