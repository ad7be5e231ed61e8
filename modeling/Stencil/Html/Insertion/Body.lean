import Stencil.Html.Insertion.Head

/-!
# Insertion into the body

The rules for the body of a document. Blocks end an open paragraph; list items, definitions and
options end the ones before them; formatting elements are opened again where they go on; and an end
tag ends the elements inside its own, unless it stands outside of its scope.
-/

namespace Stencil.Html.Insertion

/-! ## Groups of names -/

/-- Blocks that end an open paragraph. -/
def blockNames : List String :=
  ["address", "article", "aside", "blockquote", "center", "details", "dialog", "dir", "div", "dl",
   "fieldset", "figcaption", "figure", "footer", "header", "hgroup", "main", "menu", "nav", "ol",
   "p", "search", "section", "summary", "ul"]

/-- Blocks whose end tag ends all that is open inside them. -/
def closableBlockNames : List String :=
  ["address", "article", "aside", "blockquote", "button", "center", "details", "dialog", "dir",
   "div", "dl", "fieldset", "figcaption", "figure", "footer", "header", "hgroup", "listing", "main",
   "menu", "nav", "ol", "pre", "search", "section", "summary", "ul"]

/-- Headings. -/
def headingNames : List String := ["h1", "h2", "h3", "h4", "h5", "h6"]

/-- Formatting elements, but for links and `nobr`. -/
def formattingNames : List String :=
  ["b", "big", "code", "em", "font", "i", "s", "small", "strike", "strong", "tt", "u"]

/-- Elements that keep formatting elements inside. -/
def enclosingNames : List String := ["applet", "marquee", "object"]

/-- Parts of tables and frames, which have no place in a body. -/
def misplacedNames : List String :=
  ["caption", "col", "colgroup", "frame", "head", "tbody", "td", "tfoot", "th", "thead", "tr"]

/-! ## Start tags -/

/-- Whether a tag is that of a hidden input. -/
def isHiddenInput (t : Tag) : Bool :=
  match t.attribute? "type" with
  | some s => s.map Char.toLower = "hidden"
  | none => false

/-- The name of the item that a new item ends: the innermost open one, unless a special element
other than `address`, `div` and `p` is inside it. -/
def itemToClose (names : List String) : List Opened → Option String
  | [] => none
  | o :: rest =>
    if o.element.isHtml names then some o.element.name
    else if o.element.isSpecial && !o.element.isHtml ["address", "div", "p"] then none
    else itemToClose names rest

/-- Starts a list item or a part of a definition list. -/
def startItem (b : Builder) (t : Tag) (names : List String) : Builder :=
  let b := { b with framesetOk := false }
  let b :=
    match itemToClose names b.opened with
    | some name => (b.closeImplied impliedEnds name).popThrough [name]
    | none => b
  b.closeOpenParagraph.insert t

/-- Starts a form, unless one is open. -/
def startForm (b : Builder) (t : Tag) : Builder :=
  if b.form.isSome && !b.isOpen "template" then b
  else
    let b := b.closeOpenParagraph.insert t
    if b.isOpen "template" then b else { b with form := b.current?.map (·.node) }

/-- Starts a link; a link that is open ends first. -/
def startLink (b : Builder) (t : Tag) : Builder :=
  let b :=
    match b.recentFormatting.find? (·.element.name == "a") with
    | none => b
    | some o => ((b.adopt "a").removeFormatting o.node).removeOpened o.node
  b.reconstruct.insertFormatting t

/-- Starts a `nobr`; one that is open ends first. -/
def startNobr (b : Builder) (t : Tag) : Builder :=
  let b := b.reconstruct
  let b :=
    if b.hasInScope Element.endsScope ["nobr"] then (b.adopt "nobr").reconstruct else b
  b.insertFormatting t

/-- Starts a selection. -/
def startSelect (b : Builder) (t : Tag) : Builder :=
  let inTable := [Mode.inTable, .inCaption, .inTableBody, .inRow, .inCell].contains b.mode
  { b.reconstruct.insert t with
    framesetOk := false, mode := if inTable then .inSelectInTable else .inSelect }

/-- Gives the body the attributes of another start tag for it. -/
def mergeBody (b : Builder) (t : Tag) : Builder :=
  match b.opened.reverse with
  | _ :: body :: _ =>
    if body.element.isHtml ["body"] && !b.isOpen "template" then
      { b with framesetOk := false, forest := b.forest.addAttributes body.node t.attributes }
    else b
  | _ => b

/-- Replaces a body that is still empty by a set of frames. -/
def startFrameset (b : Builder) (t : Tag) : Builder :=
  match b.opened.reverse with
  | html :: body :: _ =>
    if b.framesetOk && body.element.isHtml ["body"] then
      let b := { b with forest := b.forest.detach body.node, opened := [html] }
      (b.insert t).toMode .inFrameset
    else b
  | _ => b

/-- The name of an element of SVG as it is written there. -/
def svgName (name : String) : String :=
  (["altGlyph", "altGlyphDef", "altGlyphItem", "animateColor", "animateMotion",
    "animateTransform", "clipPath", "feBlend", "feColorMatrix", "feComponentTransfer",
    "feComposite", "feConvolveMatrix", "feDiffuseLighting", "feDisplacementMap",
    "feDistantLight", "feDropShadow", "feFlood", "feFuncA", "feFuncB", "feFuncG", "feFuncR",
    "feGaussianBlur", "feImage", "feMerge", "feMergeNode", "feMorphology", "feOffset",
    "fePointLight", "feSpecularLighting", "feSpotLight", "feTile", "feTurbulence",
    "foreignObject", "glyphRef", "linearGradient", "radialGradient", "textPath"].find?
      fun s => s.map Char.toLower == name).getD name

/-- Inserts an element of another language. -/
def insertForeign (b : Builder) (language : Language) (t : Tag) : Builder :=
  let name := if language = .svg then svgName t.name else t.name
  let b := b.insertElement ⟨language, name, t.attributes⟩
  if t.selfClosing then b.pop else b

/-- An element without content that may stand among text. -/
def insertInlineVoid (b : Builder) (t : Tag) : Builder :=
  { b.reconstruct.insertVoid t with framesetOk := false }

/-- A start tag in a body, if its name is one of blocks and items. -/
def startBlock? (b : Builder) (t : Tag) : Option Builder :=
  if blockNames.contains t.name then some (b.closeOpenParagraph.insert t)
  else if headingNames.contains t.name then
    let b := b.closeOpenParagraph
    some ((if b.currentIs headingNames then b.pop else b).insert t)
  else
    match t.name with
    | "pre" | "listing" =>
      some { b.closeOpenParagraph.insert t with skipLineFeed := true, framesetOk := false }
    | "form" => some (startForm b t)
    | "li" => some (startItem b t ["li"])
    | "dd" | "dt" => some (startItem b t ["dd", "dt"])
    | "plaintext" => some { b.closeOpenParagraph.insert t with model := .plaintext }
    | "button" =>
      let b :=
        if b.hasInScope Element.endsScope ["button"] then
          (b.closeImplied impliedEnds "").popThrough ["button"]
        else b
      some { b.reconstruct.insert t with framesetOk := false }
    | "table" =>
      let b := if b.quirks then b else b.closeOpenParagraph
      some { b.insert t with framesetOk := false, mode := .inTable }
    | "hr" => some { b.closeOpenParagraph.insertVoid t with framesetOk := false }
    | "xmp" =>
      some (({ b.closeOpenParagraph.reconstruct with framesetOk := false } :
        Builder).insertTextElement t (.raw "xmp"))
    | _ => none

/-- A start tag in a body, if its name is one of inline elements with rules of their own. -/
def startInline? (b : Builder) (t : Tag) : Option Builder :=
  if formattingNames.contains t.name then some (b.reconstruct.insertFormatting t)
  else if enclosingNames.contains t.name then
    some { (b.reconstruct.insert t).pushMarker with framesetOk := false }
  else
    match t.name with
    | "a" => some (startLink b t)
    | "nobr" => some (startNobr b t)
    | "area" | "br" | "embed" | "img" | "keygen" | "wbr" => some (insertInlineVoid b t)
    | "image" => some (insertInlineVoid b { t with name := "img" })
    | "input" =>
      some { b.reconstruct.insertVoid t with framesetOk := b.framesetOk && isHiddenInput t }
    | "param" | "source" | "track" => some (b.insertVoid t)
    | "textarea" =>
      some { b.insertTextElement t (.escapable "textarea") with
        skipLineFeed := true, framesetOk := false }
    | "iframe" => some { b.insertTextElement t (.raw "iframe") with framesetOk := false }
    | "noembed" | "noscript" => some (b.insertTextElement t (.raw t.name))
    | "select" => some (startSelect b t)
    | "optgroup" | "option" =>
      some ((if b.currentIs ["option"] then b.pop else b).reconstruct.insert t)
    | "rb" | "rtc" =>
      some ((if b.hasInScope Element.endsScope ["ruby"] then b.closeImplied impliedEnds ""
        else b).insert t)
    | "rp" | "rt" =>
      some ((if b.hasInScope Element.endsScope ["ruby"] then b.closeImplied impliedEnds "rtc"
        else b).insert t)
    | "math" => some (insertForeign b.reconstruct .mathml t)
    | "svg" => some (insertForeign b.reconstruct .svg t)
    | _ => none

/-- A start tag in a body. -/
def startInBody (b : Builder) (t : Tag) : Turn :=
  if t.name = "html" then mergeHtml b t
  else if headNames.contains t.name then inHead b (.startTag t)
  else if t.name = "body" then .done (mergeBody b t)
  else if t.name = "frameset" then .done (startFrameset b t)
  else if misplacedNames.contains t.name then .done b
  else
    match (startBlock? b t).or (startInline? b t) with
    | some b => .done b
    | none => .done (b.reconstruct.insert t)

/-! ## End tags -/

/-- Ends a block and all that is open inside it, if the block is open in a scope. -/
def endScoped (b : Builder) (stops : Element → Bool) (name except : String) : Builder :=
  if b.hasInScope stops [name] then (b.closeImplied impliedEnds except).popThrough [name] else b

/-- Ends the form that is open. -/
def endForm (b : Builder) : Builder :=
  if b.isOpen "template" then endScoped b Element.endsScope "form" ""
  else
    match b.form with
    | none => b
    | some node =>
      let b := { b with form := none }
      if Builder.nodeInScope node b.opened then
        (b.closeImplied impliedEnds "").removeOpened node
      else b

/-- The end tag of a body, which is kept open for content that follows. -/
def endBody (b : Builder) (x : Lexeme) (name : String) : Turn :=
  if b.hasInScope Element.endsScope ["body"] then
    if name = "html" then .again (b.toMode .afterBody) x else .done (b.toMode .afterBody)
  else .done b

/-- An end tag in a body. -/
def endInBody (b : Builder) (name : String) : Turn :=
  if name = "template" then endTemplate b
  else if name = "body" ∨ name = "html" then endBody b (.endTag name) name
  else if closableBlockNames.contains name then .done (endScoped b Element.endsScope name "")
  else if headingNames.contains name then
    .done (if b.hasInScope Element.endsScope headingNames then
      (b.closeImplied impliedEnds "").popThrough headingNames else b)
  else if name = "a" ∨ name = "nobr" ∨ formattingNames.contains name then .done (b.adopt name)
  else if enclosingNames.contains name then
    .done (if b.hasInScope Element.endsScope [name] then
      ((b.closeImplied impliedEnds "").popThrough [name]).clearFormatting else b)
  else
    match name with
    | "form" => .done (endForm b)
    | "p" =>
      .done (if b.hasInScope Element.endsButtonScope ["p"] then b.closeParagraph
        else (b.insert (.plain "p")).closeParagraph)
    | "li" => .done (endScoped b Element.endsListScope "li" "li")
    | "dd" | "dt" => .done (endScoped b Element.endsScope name name)
    | "br" => .done (insertInlineVoid b (.plain "br"))
    | _ => .done (b.endOther name)

/-- Inside the body. -/
def inBody (b : Builder) (x : Lexeme) : Turn :=
  match x with
  | .blank s => .done (b.reconstruct.insertText s)
  | .text s => .done { b.reconstruct.insertText s with framesetOk := false }
  | .null => .done b
  | .comment s => .done (b.insertComment s)
  | .doctype _ => .done b
  | .startTag t => startInBody b t
  | .endTag name => endInBody b name
  | .eof => if b.templateModes.isEmpty then .done b else endTextInTemplate b

end Stencil.Html.Insertion
