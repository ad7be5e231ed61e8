import Stencil.Html.Formatting

/-!
# Insertion before the body

The rules for what comes before the body of a document: its type, the top element and the head.
Everything that is missing there is supplied, so any text ends up in a body.
-/

namespace Stencil.Html

/-! ## The document type -/

/-- Public identifiers that put a document in quirks mode. -/
def quirksPublicIds : List String :=
  ["-//w3o//dtd w3 html strict 3.0//en//", "-/w3c/dtd html 4.0 transitional/en", "html"]

/-- Beginnings of public identifiers that put a document in quirks mode. -/
def quirksPublicPrefixes : List String :=
  ["-//advasoft ltd//dtd html 3.0 aswedit + extensions//",
   "-//as//dtd html 3.0 aswedit + extensions//", "-//ietf//dtd html 2.0 level 1//",
   "-//ietf//dtd html 2.0 level 2//", "-//ietf//dtd html 2.0 strict level 1//",
   "-//ietf//dtd html 2.0 strict level 2//", "-//ietf//dtd html 2.0 strict//",
   "-//ietf//dtd html 2.0//", "-//ietf//dtd html 2.1e//", "-//ietf//dtd html 3.0//",
   "-//ietf//dtd html 3.2 final//", "-//ietf//dtd html 3.2//", "-//ietf//dtd html 3//",
   "-//ietf//dtd html level 0//", "-//ietf//dtd html level 1//", "-//ietf//dtd html level 2//",
   "-//ietf//dtd html level 3//", "-//ietf//dtd html strict level 0//",
   "-//ietf//dtd html strict level 1//", "-//ietf//dtd html strict level 2//",
   "-//ietf//dtd html strict level 3//", "-//ietf//dtd html strict//", "-//ietf//dtd html//",
   "-//metrius//dtd metrius presentational//",
   "-//microsoft//dtd internet explorer 2.0 html strict//",
   "-//microsoft//dtd internet explorer 2.0 html//",
   "-//microsoft//dtd internet explorer 2.0 tables//",
   "-//microsoft//dtd internet explorer 3.0 html strict//",
   "-//microsoft//dtd internet explorer 3.0 html//",
   "-//microsoft//dtd internet explorer 3.0 tables//",
   "-//netscape comm. corp.//dtd html//", "-//netscape comm. corp.//dtd strict html//",
   "-//o'reilly and associates//dtd html 2.0//",
   "-//o'reilly and associates//dtd html extended 1.0//",
   "-//o'reilly and associates//dtd html extended relaxed 1.0//",
   "-//softquad software//dtd hotmetal pro 6.0::19990601::extensions to html 4.0//",
   "-//softquad//dtd hotmetal pro 4.0::19971010::extensions to html 4.0//",
   "-//spyglass//dtd html 2.0 extended//", "-//sq//dtd html 2.0 hotmetal + extensions//",
   "-//sun microsystems corp.//dtd hotjava html//",
   "-//sun microsystems corp.//dtd hotjava strict html//", "-//w3c//dtd html 3 1995-03-24//",
   "-//w3c//dtd html 3.2 draft//", "-//w3c//dtd html 3.2 final//", "-//w3c//dtd html 3.2//",
   "-//w3c//dtd html 3.2s draft//", "-//w3c//dtd html 4.0 frameset//",
   "-//w3c//dtd html 4.0 transitional//", "-//w3c//dtd html experimental 19960712//",
   "-//w3c//dtd html experimental 970421//", "-//w3c//dtd w3 html//", "-//w3o//dtd w3 html 3.0//",
   "-//webtechs//dtd mozilla html 2.0//", "-//webtechs//dtd mozilla html//"]

/-- Beginnings of public identifiers that put a document without a system identifier in quirks
mode. -/
def quirksUnlessSystemId : List String :=
  ["-//w3c//dtd html 4.01 frameset//", "-//w3c//dtd html 4.01 transitional//"]

/-- The parts between slashes of the system identifier that puts a document in quirks mode. -/
def quirksSystemId : List String :=
  ["http:", "", "www.ibm.com", "data", "dtd", "v11", "ibmxhtml1-transitional.dtd"]

/-- Whether a document of this type is in quirks mode. -/
def Doctype.isQuirky (d : Doctype) : Bool :=
  let publicId := d.publicId.map (String.map Char.toLower)
  let startsWith := fun (fronts : List String) =>
    match publicId with
    | some id => fronts.any fun front => front.toList.isPrefixOf id.toList
    | none => false
  d.forceQuirks || d.name != some "html" || publicId.any quirksPublicIds.contains ||
    startsWith quirksPublicPrefixes || (d.systemId.isNone && startsWith quirksUnlessSystemId) ||
    d.systemId.any fun id =>
      id.toList.map Char.toLower == ['/'].intercalate (quirksSystemId.map String.toList)

namespace Insertion

/-- Before anything but comments. -/
def initial (b : Builder) (x : Lexeme) : Turn :=
  match x with
  | .blank _ => .done b
  | .comment s => .done (b.commentIn Forest.documentCell s)
  | .doctype d =>
    let forest := (b.forest.create (.doctype (d.name.getD ""))).append Forest.documentCell
      b.forest.nextCell
    .done { b with forest := forest, quirks := d.isQuirky, mode := .beforeHtml }
  | x => .again { b with quirks := true, mode := .beforeHtml } x

/-- Before the top element. -/
def beforeHtml (b : Builder) (x : Lexeme) : Turn :=
  let supplied := Turn.again { b.insertRoot [] with mode := .beforeHead } x
  match x with
  | .blank _ => .done b
  | .comment s => .done (b.commentIn Forest.documentCell s)
  | .doctype _ => .done b
  | .startTag t =>
    if t.name = "html" then .done { b.insertRoot t.attributes with mode := .beforeHead }
    else supplied
  | .endTag name => if ["head", "body", "html", "br"].contains name then supplied else .done b
  | _ => supplied

/-- Gives the top element the attributes of another start tag for it. -/
def mergeHtml (b : Builder) (t : Tag) : Turn :=
  match b.opened.getLast? with
  | some html =>
    .done (if b.isOpen "template" then b
      else { b with forest := b.forest.addAttributes html.node t.attributes })
  | none => .done b

/-- Inserts the head. -/
def insertHead (b : Builder) (t : Tag) : Builder :=
  let b := b.insert t
  { b with head := b.current?, mode := .inHead }

/-- Before the head. -/
def beforeHead (b : Builder) (x : Lexeme) : Turn :=
  let supplied := Turn.again (insertHead b (.plain "head")) x
  match x with
  | .blank _ => .done b
  | .comment s => .done (b.insertComment s)
  | .doctype _ => .done b
  | .startTag t =>
    if t.name = "html" then mergeHtml b t
    else if t.name = "head" then .done (insertHead b t)
    else supplied
  | .endTag name => if ["head", "body", "html", "br"].contains name then supplied else .done b
  | _ => supplied

/-- Starts a template. -/
def startTemplate (b : Builder) (t : Tag) : Turn :=
  .done { b.pushMarker.insert t with
    framesetOk := false, mode := .inTemplate, templateModes := .inTemplate :: b.templateModes }

/-- Ends the innermost template. -/
def closeTemplate (b : Builder) : Builder :=
  let b := ((b.closeImplied impliedEndsInTemplate "").popThrough ["template"]).clearFormatting
  ({ b with templateModes := b.templateModes.drop 1 } : Builder).resetMode

/-- The end tag of a template. -/
def endTemplate (b : Builder) : Turn :=
  .done (if b.isOpen "template" then closeTemplate b else b)

/-- The end of the text inside a template. -/
def endTextInTemplate (b : Builder) : Turn :=
  if b.isOpen "template" then
    let b := (b.popThrough ["template"]).clearFormatting
    .again ({ b with templateModes := b.templateModes.drop 1 } : Builder).resetMode .eof
  else .done b

/-- Inside the head. -/
def inHead (b : Builder) (x : Lexeme) : Turn :=
  let leave := Turn.again (b.pop.toMode .afterHead) x
  match x with
  | .blank s => .done (b.insertText s)
  | .comment s => .done (b.insertComment s)
  | .doctype _ => .done b
  | .startTag t =>
    match t.name with
    | "html" => mergeHtml b t
    | "base" | "basefont" | "bgsound" | "link" | "meta" => .done (b.insertVoid t)
    | "title" => .done (b.insertTextElement t (.escapable "title"))
    | "noframes" | "style" | "noscript" => .done (b.insertTextElement t (.raw t.name))
    | "script" => .done (b.insertTextElement t .script)
    | "template" => startTemplate b t
    | "head" => .done b
    | _ => leave
  | .endTag name =>
    match name with
    | "head" => .done (b.pop.toMode .afterHead)
    | "template" => endTemplate b
    | "body" | "html" | "br" => leave
    | _ => .done b
  | _ => leave

/-- Elements that belong into the head even when they stand after it. -/
def headNames : List String :=
  ["base", "basefont", "bgsound", "link", "meta", "noframes", "script", "style", "template",
   "title"]

/-- Puts an element that stands after the head into it. -/
def backInHead (b : Builder) (x : Lexeme) : Turn :=
  match b.head with
  | none => .done b
  | some head =>
    match inHead (b.push head) x with
    | .done b => .done (b.removeOpened head.node)
    | .again b x => .again (b.removeOpened head.node) x

/-- After the head. -/
def afterHead (b : Builder) (x : Lexeme) : Turn :=
  let supplied := Turn.again ((b.insert (.plain "body")).toMode .inBody) x
  match x with
  | .blank s => .done (b.insertText s)
  | .comment s => .done (b.insertComment s)
  | .doctype _ => .done b
  | .startTag t =>
    if t.name = "html" then mergeHtml b t
    else if t.name = "body" then
      .done { b.insert t with framesetOk := false, mode := .inBody }
    else if t.name = "frameset" then .done ((b.insert t).toMode .inFrameset)
    else if headNames.contains t.name then backInHead b x
    else if t.name = "head" then .done b
    else supplied
  | .endTag name =>
    if name = "template" then endTemplate b
    else if ["body", "html", "br"].contains name then supplied
    else .done b
  | _ => supplied

/-- Inside an element whose content is text. -/
def text (b : Builder) (x : Lexeme) : Turn :=
  match x with
  | .blank s | .text s => .done (b.insertText s)
  | .null => .done (b.insertText "\uFFFD")
  | .eof => .again (b.pop.toMode b.returnMode) .eof
  | .endTag _ => .done (b.pop.toMode b.returnMode)
  | _ => .done b

end Insertion

end Stencil.Html
