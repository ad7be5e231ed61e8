import Stencil.Html.Insertion.Body

/-!
# Insertion into tables

The rules for tables and their parts. Rows and bodies that are missing are supplied, and content
that a table cannot hold is put in front of it.
-/

namespace Stencil.Html.Insertion

/-- What follows a rule that is applied with foster parenting. -/
def unfoster : Turn → Turn
  | .done b => .done { b with fostering := false }
  | .again b x => .again { b with fostering := false } x

/-- Puts content in front of the table. -/
def foster (b : Builder) (x : Lexeme) : Turn :=
  unfoster (inBody { b with fostering := true } x)

/-- Ends elements up to the table. -/
def backToTable (b : Builder) : Builder := b.popTo ["table", "template", "html"]

/-- Ends elements up to the body of a table. -/
def backToTableBody (b : Builder) : Builder :=
  b.popTo ["tbody", "tfoot", "thead", "template", "html"]

/-- Ends elements up to a row. -/
def backToRow (b : Builder) : Builder := b.popTo ["tr", "template", "html"]

/-- Ends a table, if one is open in its scope. -/
def closeTable (b : Builder) : Option Builder :=
  if b.hasInScope Element.endsTableScope ["table"] then
    some (b.popThrough ["table"]).resetMode
  else none

/-- Collects characters inside a table, or puts them in front when the innermost element is no part
of a table. -/
def tableCharacters (b : Builder) (x : Lexeme) : Turn :=
  if b.currentIs ["table", "tbody", "tfoot", "thead", "tr"] then
    .again { b with returnMode := b.mode, mode := .inTableText, tableText := [] } x
  else foster b x

/-- A start tag inside a table. -/
def startInTable (b : Builder) (t : Tag) : Turn :=
  match t.name with
  | "caption" => .done (((backToTable b).pushMarker.insert t).toMode .inCaption)
  | "colgroup" => .done (((backToTable b).insert t).toMode .inColumnGroup)
  | "col" =>
    .again (((backToTable b).insert (.plain "colgroup")).toMode .inColumnGroup) (.startTag t)
  | "tbody" | "tfoot" | "thead" => .done (((backToTable b).insert t).toMode .inTableBody)
  | "td" | "th" | "tr" =>
    .again (((backToTable b).insert (.plain "tbody")).toMode .inTableBody) (.startTag t)
  | "table" =>
    match closeTable b with
    | some b => .again b (.startTag t)
    | none => .done b
  | "style" | "script" | "template" => inHead b (.startTag t)
  | "input" => if isHiddenInput t then .done (b.insertVoid t) else foster b (.startTag t)
  | "form" =>
    if b.isOpen "template" || b.form.isSome then .done b
    else
      let b := b.insert t
      .done ({ b with form := b.current?.map (·.node) } : Builder).pop
  | _ => foster b (.startTag t)

/-- End tags that mean nothing inside a table. -/
def strayInTable : List String :=
  ["body", "caption", "col", "colgroup", "html", "tbody", "td", "tfoot", "th", "thead", "tr"]

/-- Inside a table. -/
def inTable (b : Builder) (x : Lexeme) : Turn :=
  match x with
  | .blank _ | .text _ | .null => tableCharacters b x
  | .comment s => .done (b.insertComment s)
  | .doctype _ => .done b
  | .startTag t => startInTable b t
  | .endTag name =>
    if name = "table" then .done ((closeTable b).getD b)
    else if strayInTable.contains name then .done b
    else if name = "template" then endTemplate b
    else foster b x
  | .eof => inBody b x

/-- Puts collected characters into the tree: into the table if all are blank, else in front. -/
def flushTableText (b : Builder) : Builder :=
  let collected := b.tableText.reverse
  let b := { b with tableText := [] }
  let isText := fun
    | Lexeme.text _ => true
    | _ => false
  if collected.any isText then
    collected.foldl (fun b x =>
      match foster b x with
      | .done b => b
      | .again b _ => b) b
  else
    collected.foldl (fun b x =>
      match x with
      | .blank s => b.insertText s
      | _ => b) b

/-- Among characters inside a table. -/
def inTableText (b : Builder) (x : Lexeme) : Turn :=
  match x with
  | .null | .doctype _ => .done b
  | .blank _ | .text _ => .done { b with tableText := x :: b.tableText }
  | x => .again ((flushTableText b).toMode b.returnMode) x

/-- Start tags that end a caption or a cell. -/
def tablePartNames : List String :=
  ["caption", "col", "colgroup", "tbody", "td", "tfoot", "th", "thead", "tr"]

/-- Ends the caption, if it is open. -/
def closeCaption (b : Builder) : Option Builder :=
  if b.hasInScope Element.endsTableScope ["caption"] then
    some ((((b.closeImplied impliedEnds "").popThrough ["caption"]).clearFormatting).toMode .inTable)
  else none

/-- Inside a caption. -/
def inCaption (b : Builder) (x : Lexeme) : Turn :=
  let leave := match closeCaption b with
    | some b => Turn.again b x
    | none => .done b
  match x with
  | .startTag t => if tablePartNames.contains t.name then leave else inBody b x
  | .endTag name =>
    if name = "caption" then .done ((closeCaption b).getD b)
    else if name = "table" then leave
    else if strayInTable.contains name then .done b
    else inBody b x
  | x => inBody b x

/-- Inside a group of columns. -/
def inColumnGroup (b : Builder) (x : Lexeme) : Turn :=
  let leave :=
    if b.currentIs ["colgroup"] then Turn.again (b.pop.toMode .inTable) x else .done b
  match x with
  | .blank s => .done (b.insertText s)
  | .comment s => .done (b.insertComment s)
  | .doctype _ => .done b
  | .startTag t =>
    match t.name with
    | "html" => mergeHtml b t
    | "col" => .done (b.insertVoid t)
    | "template" => startTemplate b t
    | _ => leave
  | .endTag name =>
    match name with
    | "colgroup" =>
      .done (if b.currentIs ["colgroup"] then b.pop.toMode .inTable else b)
    | "col" => .done b
    | "template" => endTemplate b
    | _ => leave
  | .eof => inBody b x
  | _ => leave

/-- Inside the body of a table. -/
def inTableBody (b : Builder) (x : Lexeme) : Turn :=
  let leave :=
    if b.hasInScope Element.endsTableScope ["tbody", "tfoot", "thead"] then
      Turn.again ((backToTableBody b).pop.toMode .inTable) x
    else .done b
  match x with
  | .startTag t =>
    match t.name with
    | "tr" => .done (((backToTableBody b).insert t).toMode .inRow)
    | "th" | "td" => .again (((backToTableBody b).insert (.plain "tr")).toMode .inRow) x
    | "caption" | "col" | "colgroup" | "tbody" | "tfoot" | "thead" => leave
    | _ => inTable b x
  | .endTag name =>
    match name with
    | "tbody" | "tfoot" | "thead" =>
      .done (if b.hasInScope Element.endsTableScope [name] then
        (backToTableBody b).pop.toMode .inTable else b)
    | "table" => leave
    | "body" | "caption" | "col" | "colgroup" | "html" | "td" | "th" | "tr" => .done b
    | _ => inTable b x
  | x => inTable b x

/-- Ends the row, if it is open. -/
def closeRow (b : Builder) : Option Builder :=
  if b.hasInScope Element.endsTableScope ["tr"] then
    some ((backToRow b).pop.toMode .inTableBody)
  else none

/-- Inside a row. -/
def inRow (b : Builder) (x : Lexeme) : Turn :=
  let leave := match closeRow b with
    | some b => Turn.again b x
    | none => .done b
  match x with
  | .startTag t =>
    match t.name with
    | "th" | "td" => .done (((backToRow b).insert t).toMode .inCell).pushMarker
    | "caption" | "col" | "colgroup" | "tbody" | "tfoot" | "thead" | "tr" => leave
    | _ => inTable b x
  | .endTag name =>
    match name with
    | "tr" => .done ((closeRow b).getD b)
    | "table" => leave
    | "tbody" | "tfoot" | "thead" =>
      if b.hasInScope Element.endsTableScope [name] then leave else .done b
    | "body" | "caption" | "col" | "colgroup" | "html" | "td" | "th" => .done b
    | _ => inTable b x
  | x => inTable b x

/-- Ends the cell that is open. -/
def closeCell (b : Builder) : Builder :=
  (((b.closeImplied impliedEnds "").popThrough ["td", "th"]).clearFormatting).toMode .inRow

/-- Inside a cell. -/
def inCell (b : Builder) (x : Lexeme) : Turn :=
  match x with
  | .startTag t =>
    if tablePartNames.contains t.name then
      if b.hasInScope Element.endsTableScope ["td", "th"] then .again (closeCell b) x else .done b
    else inBody b x
  | .endTag name =>
    match name with
    | "td" | "th" =>
      .done (if b.hasInScope Element.endsTableScope [name] then
        (((b.closeImplied impliedEnds "").popThrough [name]).clearFormatting).toMode .inRow else b)
    | "body" | "caption" | "col" | "colgroup" | "html" => .done b
    | "table" | "tbody" | "tfoot" | "thead" | "tr" =>
      if b.hasInScope Element.endsTableScope [name] then .again (closeCell b) x else .done b
    | _ => inBody b x
  | x => inBody b x

/-- Ends the selection, if it is open. -/
def closeSelect (b : Builder) : Option Builder :=
  if b.hasInScope Element.endsSelectScope ["select"] then
    some (b.popThrough ["select"]).resetMode
  else none

/-- Ends the option and then the group of options that the innermost element is. -/
def closeOption (b : Builder) : Builder := if b.currentIs ["option"] then b.pop else b

/-- Ends the group of options that the innermost element is. -/
def closeOptionGroup (b : Builder) : Builder := if b.currentIs ["optgroup"] then b.pop else b

/-- The end tag of a group of options, which also ends an option in it. -/
def endOptionGroup (b : Builder) : Builder :=
  match b.opened with
  | o :: group :: _ =>
    if o.element.isHtml ["option"] && group.element.isHtml ["optgroup"] then closeOptionGroup b.pop
    else closeOptionGroup b
  | _ => closeOptionGroup b

/-- Inside a selection. -/
def inSelect (b : Builder) (x : Lexeme) : Turn :=
  match x with
  | .blank s | .text s => .done (b.insertText s)
  | .null => .done b
  | .comment s => .done (b.insertComment s)
  | .doctype _ => .done b
  | .startTag t =>
    match t.name with
    | "html" => mergeHtml b t
    | "option" => .done ((closeOption b).insert t)
    | "optgroup" => .done ((closeOptionGroup (closeOption b)).insert t)
    | "hr" => .done ((closeOptionGroup (closeOption b)).insertVoid t)
    | "select" => .done ((closeSelect b).getD b)
    | "input" | "keygen" | "textarea" =>
      match closeSelect b with
      | some b => .again b x
      | none => .done b
    | "script" | "template" => inHead b x
    | _ => .done b
  | .endTag name =>
    match name with
    | "optgroup" => .done (endOptionGroup b)
    | "option" => .done (closeOption b)
    | "select" => .done ((closeSelect b).getD b)
    | "template" => endTemplate b
    | _ => .done b
  | .eof => inBody b x

/-- Inside a selection in a table. -/
def inSelectInTable (b : Builder) (x : Lexeme) : Turn :=
  let parts := ["caption", "table", "tbody", "tfoot", "thead", "tr", "td", "th"]
  let leave := Turn.again (b.popThrough ["select"]).resetMode x
  match x with
  | .startTag t => if parts.contains t.name then leave else inSelect b x
  | .endTag name =>
    if parts.contains name then
      if b.hasInScope Element.endsTableScope [name] then leave else .done b
    else inSelect b x
  | x => inSelect b x

end Stencil.Html.Insertion
