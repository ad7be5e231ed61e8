import Stencil.Html.Forest
import Stencil.Html.Lexeme

/-!
# Building a tree from lexemes

The state in which lexemes are turned into a tree, and what the rules of tree building do to it:
inserting elements and text at the appropriate place, closing elements, and looking for elements
that are open within a scope.
-/

namespace Stencil.Html

/-- Which part of a document the next lexeme belongs to. -/
inductive Mode where
  | initial
  | beforeHtml
  | beforeHead
  | inHead
  | afterHead
  | inBody
  | text
  | inTable
  | inTableText
  | inCaption
  | inColumnGroup
  | inTableBody
  | inRow
  | inCell
  | inSelect
  | inSelectInTable
  | inTemplate
  | afterBody
  | inFrameset
  | afterFrameset
  | afterAfterBody
  | afterAfterFrameset
  deriving DecidableEq, Repr, Inhabited

/-- An element that has a start tag and no end tag yet. -/
structure Opened where
  node : Nat
  element : Element
  /-- The cell that takes its children: its own, or that of a template's contents. -/
  inside : Nat
  deriving DecidableEq, Repr, Inhabited

/-- An entry of the list of formatting elements. -/
inductive Formatting where
  /-- Separates the entries inside a table cell, a caption or the like from those outside. -/
  | marker
  | element (o : Opened)
  deriving DecidableEq, Repr, Inhabited

/-- The state of tree building. -/
structure Builder where
  forest : Forest := .empty
  mode : Mode := .initial
  /-- The mode to return to after a text. -/
  returnMode : Mode := .initial
  /-- The modes of the open templates, the innermost first. -/
  templateModes : List Mode := []
  /-- The open elements, the innermost first. -/
  opened : List Opened := []
  /-- The formatting elements that may have to be opened again, the last one first. -/
  formatting : List Formatting := []
  head : Option Opened := none
  /-- The form that a start tag of a form was seen for. -/
  form : Option Nat := none
  framesetOk : Bool := true
  /-- Whether the document is in quirks mode. -/
  quirks : Bool := false
  /-- Whether content that a table cannot hold goes in front of the table. -/
  fostering : Bool := false
  /-- The characters seen inside a table, the last ones first. -/
  tableText : List Lexeme := []
  /-- Whether a line feed at the start of the next text is dropped. -/
  skipLineFeed : Bool := false
  /-- How the text after the last tag is to be read. -/
  model : ContentModel := .data
  deriving Inhabited

/-! ## Kinds of elements -/

namespace Element

/-- Whether an element is an HTML element with one of the names. -/
def isHtml (e : Element) (names : List String) : Bool :=
  e.language == .html && names.contains e.name

/-- Whether an element ends every scope. -/
def endsScope (e : Element) : Bool :=
  match e.language with
  | .html =>
    ["applet", "caption", "html", "table", "td", "th", "marquee", "object", "template"].contains
      e.name
  | .mathml => ["mi", "mo", "mn", "ms", "mtext", "annotation-xml"].contains e.name
  | .svg => ["foreignObject", "desc", "title"].contains e.name

/-- Whether an element ends the scope of list items. -/
def endsListScope (e : Element) : Bool :=
  e.endsScope || e.isHtml ["ol", "ul"]

/-- Whether an element ends the scope of buttons. -/
def endsButtonScope (e : Element) : Bool :=
  e.endsScope || e.isHtml ["button"]

/-- Whether an element ends the scope of tables. -/
def endsTableScope (e : Element) : Bool :=
  e.isHtml ["html", "table", "template"]

/-- Whether an element ends the scope of selections. -/
def endsSelectScope (e : Element) : Bool :=
  !e.isHtml ["optgroup", "option"]

/-- Whether the rules of tree building treat an element in a way of its own. -/
def isSpecial (e : Element) : Bool :=
  match e.language with
  | .html =>
    ["address", "applet", "area", "article", "aside", "base", "basefont", "bgsound", "blockquote",
      "body", "br", "button", "caption", "center", "col", "colgroup", "dd", "details", "dir", "div",
      "dl", "dt", "embed", "fieldset", "figcaption", "figure", "footer", "form", "frame",
      "frameset", "h1", "h2", "h3", "h4", "h5", "h6", "head", "header", "hgroup", "hr", "html",
      "iframe", "img", "input", "keygen", "li", "link", "listing", "main", "marquee", "menu",
      "meta", "nav", "noembed", "noframes", "noscript", "object", "ol", "p", "param", "plaintext",
      "pre", "script", "search", "section", "select", "source", "style", "summary", "table",
      "tbody", "td", "template", "textarea", "tfoot", "th", "thead", "title", "tr", "track", "ul",
      "wbr", "xmp"].contains e.name
  | .mathml => ["mi", "mo", "mn", "ms", "mtext", "annotation-xml"].contains e.name
  | .svg => ["foreignObject", "desc", "title"].contains e.name

end Element

/-- The elements whose end tags may be left out almost everywhere. -/
def impliedEnds : List String :=
  ["dd", "dt", "li", "option", "optgroup", "p", "rb", "rp", "rt", "rtc"]

/-- The elements whose end tags may be left out before the end of a template. -/
def impliedEndsInTemplate : List String :=
  impliedEnds ++ ["caption", "colgroup", "tbody", "td", "tfoot", "th", "thead", "tr"]

/-- Where a node is inserted. -/
inductive Spot where
  /-- Behind the children of a cell. -/
  | last (cell : Nat)
  /-- In front of a node. -/
  | before (sibling : Nat)

namespace Builder

/-- The innermost open element. -/
def current? (b : Builder) : Option Opened := b.opened.head?

/-- Whether the innermost open element is an HTML element with one of the names. -/
def currentIs (b : Builder) (names : List String) : Bool :=
  match b.opened with
  | o :: _ => o.element.isHtml names
  | [] => false

/-- Whether an HTML element with the name is open. -/
def isOpen (b : Builder) (name : String) : Bool :=
  b.opened.any fun o => o.element.isHtml [name]

/-- Whether a wanted element is open and no element that ends the scope is inside it. -/
def inScope (stops wanted : Element → Bool) : List Opened → Bool
  | [] => false
  | o :: rest =>
    if wanted o.element then true else if stops o.element then false else inScope stops wanted rest

/-- Whether an HTML element with one of the names is open in a scope. -/
def hasInScope (b : Builder) (stops : Element → Bool) (names : List String) : Bool :=
  inScope stops (·.isHtml names) b.opened

/-! ## Inserting -/

/-- Where content goes that does not fit into a table: into the innermost template's contents, or in
front of the innermost table, or where that would have been. -/
def fosterSpot : List Opened → Spot → Forest → Spot
  | [], html, _ => html
  | o :: rest, html, f =>
    if o.element.isHtml ["template"] then .last o.inside
    else if o.element.isHtml ["table"] then
      if (f.parent? o.node).isSome then .before o.node
      else
        match rest with
        | below :: _ => .last below.inside
        | [] => html
    else fosterSpot rest html f

/-- Where a node is inserted that belongs into the given element. -/
def spotIn (b : Builder) (target : Opened) : Spot :=
  if b.fostering && target.element.isHtml ["table", "tbody", "tfoot", "thead", "tr"] then
    let top := match b.opened.getLast? with
      | some html => Spot.last html.inside
      | none => .last Forest.documentCell
    fosterSpot b.opened top b.forest
  else .last target.inside

/-- Where the next node is inserted. -/
def spot (b : Builder) : Spot :=
  match b.opened with
  | o :: _ => b.spotIn o
  | [] => .last Forest.documentCell

/-- Puts a node without a place at a spot. -/
def put (b : Builder) (n : Nat) : Spot → Builder
  | .last cell => { b with forest := b.forest.append cell n }
  | .before sibling => { b with forest := b.forest.insertBefore sibling n }

/-- Inserts characters. -/
def insertText (b : Builder) (s : String) : Builder :=
  match b.spot with
  | .last cell => { b with forest := b.forest.appendText cell s }
  | .before sibling => { b with forest := b.forest.insertTextBefore sibling s }

/-- Inserts a comment behind the children of a cell. -/
def commentIn (b : Builder) (cell : Nat) (s : String) : Builder :=
  { b with forest := (b.forest.create (.comment s)).append cell b.forest.nextCell }

/-- Inserts a comment. -/
def insertComment (b : Builder) (s : String) : Builder :=
  ({ b with forest := b.forest.create (.comment s) } : Builder).put b.forest.nextCell b.spot

/-- Inserts a comment behind the top element's children. -/
def commentInHtml (b : Builder) (s : String) : Builder :=
  match b.opened.getLast? with
  | some html => b.commentIn html.inside s
  | none => b

/-- A new element without a place. A template gets a cell for its contents. -/
def create (b : Builder) (e : Element) : Builder × Opened :=
  let n := b.forest.nextCell
  let forest := b.forest.create (.element e)
  if e.isHtml ["template"] then
    ({ b with forest := forest.create .fragment }, ⟨n, e, n + 1⟩)
  else ({ b with forest := forest }, ⟨n, e, n⟩)

/-- Adds an element to the open ones. -/
def push (b : Builder) (o : Opened) : Builder := { b with opened := o :: b.opened }

/-- Ends the innermost open element. -/
def pop (b : Builder) : Builder := { b with opened := b.opened.drop 1 }

/-- Inserts an element and leaves it open. -/
def insertElement (b : Builder) (e : Element) : Builder :=
  let spot := b.spot
  let (b, o) := b.create e
  (b.put o.node spot).push o

/-- Inserts the HTML element of a start tag and leaves it open. -/
def insert (b : Builder) (t : Tag) : Builder :=
  b.insertElement ⟨.html, t.name, t.attributes⟩

/-- Inserts the HTML element of a start tag, which has no content. -/
def insertVoid (b : Builder) (t : Tag) : Builder := (b.insert t).pop

/-- Inserts the top element. -/
def insertRoot (b : Builder) (attributes : List (String × String)) : Builder :=
  let (b, o) := b.create ⟨.html, "html", attributes⟩
  (b.put o.node (.last Forest.documentCell)).push o

/-- Changes the mode. -/
def toMode (b : Builder) (m : Mode) : Builder := { b with mode := m }

/-- Inserts an element whose content is text, and reads that text. -/
def insertTextElement (b : Builder) (t : Tag) (model : ContentModel) : Builder :=
  { b.insert t with returnMode := b.mode, mode := .text, model := model }

/-! ## Closing -/

/-- What is left of the open elements when they are closed up to one that satisfies `p`. -/
def closeThrough (p : Element → Bool) : List Opened → List Opened
  | [] => []
  | o :: rest => if p o.element then rest else closeThrough p rest

/-- Ends elements up to one of the names. -/
def popThrough (b : Builder) (names : List String) : Builder :=
  { b with opened := closeThrough (·.isHtml names) b.opened }

/-- Ends elements until the innermost one has one of the names. -/
def popTo (b : Builder) (names : List String) : Builder :=
  { b with opened := b.opened.dropWhile fun o => !o.element.isHtml names }

/-- Ends elements whose end tags are implied, but for one name. -/
def closeImplied (b : Builder) (implied : List String) (except : String) : Builder :=
  { b with opened := b.opened.dropWhile fun o => o.element.isHtml implied && o.element.name != except }

/-- Ends the open paragraph. -/
def closeParagraph (b : Builder) : Builder :=
  (b.closeImplied impliedEnds "p").popThrough ["p"]

/-- Ends an open paragraph, if there is one in the scope of buttons. -/
def closeOpenParagraph (b : Builder) : Builder :=
  if b.hasInScope Element.endsButtonScope ["p"] then b.closeParagraph else b

/-- Takes an element out of the open ones. -/
def removeOpened (b : Builder) (node : Nat) : Builder :=
  { b with opened := b.opened.filter (·.node ≠ node) }

/-! ## Modes -/

/-- The mode of a selection, given the elements around it. -/
def selectMode : List Opened → Mode
  | [] => .inSelect
  | o :: rest =>
    if o.element.isHtml ["template"] then .inSelect
    else if o.element.isHtml ["table"] then .inSelectInTable
    else selectMode rest

/-- The mode that the open elements call for. -/
def modeFor (templateModes : List Mode) (hasHead : Bool) : List Opened → Mode
  | [] => .inBody
  | o :: rest =>
    let last := rest.isEmpty
    if o.element.language ≠ .html then modeFor templateModes hasHead rest
    else
      match o.element.name with
      | "select" => selectMode rest
      | "td" | "th" => if last then modeFor templateModes hasHead rest else .inCell
      | "tr" => .inRow
      | "tbody" | "thead" | "tfoot" => .inTableBody
      | "caption" => .inCaption
      | "colgroup" => .inColumnGroup
      | "table" => .inTable
      | "template" => templateModes.head?.getD .inBody
      | "head" => if last then modeFor templateModes hasHead rest else .inHead
      | "body" => .inBody
      | "frameset" => .inFrameset
      | "html" => if hasHead then .afterHead else .beforeHead
      | _ => modeFor templateModes hasHead rest

/-- Sets the mode that the open elements call for. -/
def resetMode (b : Builder) : Builder :=
  { b with mode := modeFor b.templateModes b.head.isSome b.opened }

end Builder

/-- What a rule leads to. -/
inductive Turn where
  /-- The lexeme is used up. -/
  | done (b : Builder)
  /-- The lexeme is processed again in the new state. -/
  | again (b : Builder) (x : Lexeme)

end Stencil.Html
