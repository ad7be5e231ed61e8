import Stencil.Html.Insertion.Table
import Stencil.Proofs.Html.SketchBody

/-!
# Sketches in tables

The modes of tables hand most lexemes on to each other, after they close what is open
(`turn_inTable`, `turn_inTableBody`, `turn_inRow`, `turn_inCell`), and keep the text in a table until
they know where it goes. That text may be empty in a sketch, but where it goes depends on its kind
alone (`builder_flushTableText`). The modes of a select are here as well, for the one in a table.
-/

namespace Stencil.Html

namespace Sketch

open Insertion

variable (σ : Sketch) (b : Builder)

/-! ## Tables -/

theorem turn_unfoster (t : Turn) : σ.turn (unfoster t) = unfoster (σ.turn t) := by
  cases t <;> rfl

theorem turn_foster (x : Lexeme) : σ.turn (foster b x) = foster (σ.builder b) (σ.lexeme x) := by
  rw [foster, foster, turn_unfoster, turn_inBody]
  rfl

theorem builder_closeTable :
    (closeTable b).map σ.builder = closeTable (σ.builder b) := by
  rw [closeTable, closeTable, σ.hasInScope_builder b fun _ => rfl]
  split
  · rw [Option.map_some, builder_resetMode, builder_popThrough]
  · rfl

theorem turn_tableCharacters (x : Lexeme) :
    σ.turn (tableCharacters b x) = tableCharacters (σ.builder b) (σ.lexeme x) := by
  rw [tableCharacters, tableCharacters, currentIs_builder]
  split
  · rfl
  · exact σ.turn_foster b x

theorem builder_backToTable : σ.builder (backToTable b) = backToTable (σ.builder b) :=
  σ.builder_popTo b _

theorem turn_startInTable (t : Tag) :
    σ.turn (startInTable b t) = startInTable (σ.builder b) (σ.tag t) := by
  have hinsert (t : Tag) : (backToTable (σ.builder b)).insert (σ.tag t) =
      σ.builder ((backToTable b).insert t) := by
    rw [builder_insert, builder_backToTable]
  unfold startInTable
  dsimp only [tag_name]
  split
  case h_1 =>
    rw [← builder_backToTable, ← builder_pushMarker, ← builder_insert]
    rfl
  case h_2 | h_4 | h_5 | h_6 =>
    rw [hinsert]
    rfl
  case h_3 | h_7 | h_8 | h_9 =>
    rw [← σ.tag_plain, hinsert]
    rfl
  case h_10 =>
    rw [← builder_closeTable]
    cases closeTable b <;> rfl
  case h_11 | h_12 | h_13 => exact σ.turn_inHead b (.startTag t)
  case h_14 =>
    rw [isHiddenInput_tag]
    split
    · exact congrArg Turn.done (σ.builder_insertVoid b t)
    · exact σ.turn_foster b (.startTag t)
  case h_15 =>
    rw [isOpen_builder, builder_form]
    split
    · rfl
    · rw [← builder_insert, current?_builder, Option.map_map, turn, builder_pop]
      rfl
  case h_16 => exact σ.turn_foster b (.startTag t)

theorem turn_inTable (x : Lexeme) : σ.turn (inTable b x) = inTable (σ.builder b) (σ.lexeme x) := by
  cases x with
  | blank s | text s | null => exact σ.turn_tableCharacters b _
  | comment s => exact congrArg Turn.done (σ.builder_insertComment b s)
  | doctype d => rfl
  | startTag t => exact σ.turn_startInTable b t
  | endTag name =>
    dsimp only [inTable, lexeme]
    split
    · rw [← builder_closeTable]
      cases closeTable b <;> rfl
    · split
      · rfl
      · split
        · exact σ.turn_endTemplate b
        · exact σ.turn_foster b (.endTag name)
  | eof => exact σ.turn_inBody b .eof

theorem builder_foldl {f : Builder → Lexeme → Builder}
    (hf : ∀ b x, σ.builder (f b x) = f (σ.builder b) (σ.lexeme x)) (xs : List Lexeme) :
    ∀ b, σ.builder (xs.foldl f b) = (xs.map σ.lexeme).foldl f (σ.builder b) := by
  induction xs with
  | nil => exact fun _ => rfl
  | cons x xs ih =>
    intro b
    rw [List.map_cons, List.foldl_cons, List.foldl_cons, ih, hf]

theorem builder_foster (x : Lexeme) :
    σ.builder (match foster b x with
      | .done b => b
      | .again b _ => b) =
    match foster (σ.builder b) (σ.lexeme x) with
      | .done b => b
      | .again b _ => b := by
  rw [← turn_foster]
  cases foster b x <;> rfl

theorem builder_insertBlank (x : Lexeme) :
    σ.builder (match x with
      | .blank s => b.insertText s
      | _ => b) =
    match σ.lexeme x with
      | .blank s => (σ.builder b).insertText s
      | _ => σ.builder b := by
  cases x with
  | blank s => exact σ.builder_insertText b s
  | _ => rfl

theorem builder_flushTableText :
    σ.builder (flushTableText b) = flushTableText (σ.builder b) := by
  have hkind {p : Lexeme → Bool} (hp : ∀ x, p (σ.lexeme x) = p x) (xs : List Lexeme) :
      (xs.map σ.lexeme).any p = xs.any p := by
    rw [List.any_map]
    exact congrArg xs.any (funext hp)
  rw [flushTableText, flushTableText, builder_tableText, ← List.map_reverse,
    hkind fun x => by cases x <;> rfl]
  split
  · exact σ.builder_foldl σ.builder_foster _ _
  · exact σ.builder_foldl σ.builder_insertBlank _ _

theorem turn_inTableText (x : Lexeme) :
    σ.turn (inTableText b x) = inTableText (σ.builder b) (σ.lexeme x) := by
  have hflush (x : Lexeme) : σ.turn (.again ((flushTableText b).toMode b.returnMode) x) =
      .again ((flushTableText (σ.builder b)).toMode (σ.builder b).returnMode) (σ.lexeme x) := by
    rw [turn, builder_toMode, builder_flushTableText, builder_returnMode]
  cases x with
  | null | doctype d | blank s | text s => rfl
  | _ => exact hflush _

theorem builder_closeCaption : (closeCaption b).map σ.builder = closeCaption (σ.builder b) := by
  rw [closeCaption, closeCaption, σ.hasInScope_builder b fun _ => rfl]
  split
  · rw [Option.map_some, builder_toMode, builder_clearFormatting, builder_popThrough,
      builder_closeImplied]
  · rfl

/-- What is done with a lexeme when something can be closed first. -/
theorem turn_again_or_done (x : Lexeme) (closed : Option Builder) :
    σ.turn (match closed with
      | some b => Turn.again b x
      | none => .done b) =
    match closed.map σ.builder with
      | some b => Turn.again b (σ.lexeme x)
      | none => .done (σ.builder b) := by
  cases closed <;> rfl

theorem turn_done_getD (closed : Option Builder) :
    σ.turn (.done (closed.getD b)) = .done ((closed.map σ.builder).getD (σ.builder b)) := by
  cases closed <;> rfl

theorem turn_inCaption (x : Lexeme) :
    σ.turn (inCaption b x) = inCaption (σ.builder b) (σ.lexeme x) := by
  have hleave (x : Lexeme) := σ.turn_again_or_done b x (closeCaption b)
  simp only [builder_closeCaption] at hleave
  have hbody := σ.turn_inBody b x
  cases x with
  | startTag t =>
    dsimp only [inCaption, lexeme]
    rw [tag_name]
    split
    · exact hleave (.startTag t)
    · exact hbody
  | endTag name =>
    dsimp only [inCaption, lexeme]
    split
    · rw [turn_done_getD, builder_closeCaption]
    · split
      · exact hleave (.endTag name)
      · split
        · rfl
        · exact hbody
  | _ => exact hbody

theorem turn_inColumnGroup (x : Lexeme) :
    σ.turn (inColumnGroup b x) = inColumnGroup (σ.builder b) (σ.lexeme x) := by
  have hclose : σ.builder (b.pop.toMode .inTable) = (σ.builder b).pop.toMode .inTable := by
    rw [builder_toMode, builder_pop]
  have hleave (x : Lexeme) :
      σ.turn (if b.currentIs ["colgroup"] then .again (b.pop.toMode .inTable) x else .done b) =
        if (σ.builder b).currentIs ["colgroup"] then
          .again ((σ.builder b).pop.toMode .inTable) (σ.lexeme x)
        else .done (σ.builder b) := by
    rw [currentIs_builder, ← hclose]
    split <;> rfl
  cases x with
  | blank s => exact congrArg Turn.done (σ.builder_insertText b s)
  | comment s => exact congrArg Turn.done (σ.builder_insertComment b s)
  | doctype d => rfl
  | startTag t =>
    dsimp only [inColumnGroup, lexeme, tag_name]
    split
    case h_1 => exact σ.turn_mergeHtml b t
    case h_2 => exact congrArg Turn.done (σ.builder_insertVoid b t)
    case h_3 => exact σ.turn_startTemplate b t
    case h_4 => exact hleave (.startTag t)
  | endTag name =>
    dsimp only [inColumnGroup, lexeme]
    split
    case h_1 =>
      rw [currentIs_builder, ← hclose]
      split <;> rfl
    case h_2 => rfl
    case h_3 => exact σ.turn_endTemplate b
    case h_4 => exact hleave (.endTag name)
  | eof => exact σ.turn_inBody b .eof
  | _ => exact hleave _

theorem builder_backToTableBody : σ.builder (backToTableBody b) = backToTableBody (σ.builder b) :=
  σ.builder_popTo b _

theorem builder_backToRow : σ.builder (backToRow b) = backToRow (σ.builder b) :=
  σ.builder_popTo b _

theorem turn_inTableBody (x : Lexeme) :
    σ.turn (inTableBody b x) = inTableBody (σ.builder b) (σ.lexeme x) := by
  have hinsert (t : Tag) : σ.builder (((backToTableBody b).insert t).toMode .inRow) =
      ((backToTableBody (σ.builder b)).insert (σ.tag t)).toMode .inRow := by
    rw [builder_toMode, builder_insert, builder_backToTableBody]
  have hclose : σ.builder ((backToTableBody b).pop.toMode .inTable) =
      (backToTableBody (σ.builder b)).pop.toMode .inTable := by
    rw [builder_toMode, builder_pop, builder_backToTableBody]
  have hleave (x : Lexeme) :
      σ.turn (if b.hasInScope Element.endsTableScope ["tbody", "tfoot", "thead"] then
          .again ((backToTableBody b).pop.toMode .inTable) x else .done b) =
        if (σ.builder b).hasInScope Element.endsTableScope ["tbody", "tfoot", "thead"] then
          .again ((backToTableBody (σ.builder b)).pop.toMode .inTable) (σ.lexeme x)
        else .done (σ.builder b) := by
    rw [σ.hasInScope_builder b fun _ => rfl, ← hclose]
    split <;> rfl
  have htable := σ.turn_inTable b x
  cases x with
  | startTag t =>
    dsimp only [inTableBody, lexeme, tag_name] at htable ⊢
    split
    case h_1 => exact congrArg Turn.done (hinsert t)
    case h_2 | h_3 => exact congrArg (Turn.again · (.startTag (σ.tag t))) (hinsert (.plain "tr"))
    case h_4 | h_5 | h_6 | h_7 | h_8 | h_9 => exact hleave (.startTag t)
    case h_10 => exact htable
  | endTag name =>
    dsimp only [inTableBody, lexeme] at htable ⊢
    split
    case h_1 | h_2 | h_3 =>
      rw [σ.hasInScope_builder b fun _ => rfl, ← hclose]
      split <;> rfl
    case h_4 => exact hleave (.endTag _)
    case h_13 => exact htable
    all_goals rfl
  | _ => exact htable

theorem builder_closeRow : (closeRow b).map σ.builder = closeRow (σ.builder b) := by
  rw [closeRow, closeRow, σ.hasInScope_builder b fun _ => rfl]
  split
  · rw [Option.map_some, builder_toMode, builder_pop, builder_backToRow]
  · rfl

theorem turn_inRow (x : Lexeme) : σ.turn (inRow b x) = inRow (σ.builder b) (σ.lexeme x) := by
  have hleave (x : Lexeme) := σ.turn_again_or_done b x (closeRow b)
  simp only [builder_closeRow] at hleave
  have htable := σ.turn_inTable b x
  cases x with
  | startTag t =>
    have hcell : σ.builder (((backToRow b).insert t).toMode .inCell).pushMarker =
        (((backToRow (σ.builder b)).insert (σ.tag t)).toMode .inCell).pushMarker := by
      rw [builder_pushMarker, builder_toMode, builder_insert, builder_backToRow]
    dsimp only [inRow, lexeme, tag_name] at htable ⊢
    split
    case h_1 | h_2 => exact congrArg Turn.done hcell
    case h_3 | h_4 | h_5 | h_6 | h_7 | h_8 | h_9 => exact hleave (.startTag t)
    case h_10 => exact htable
  | endTag name =>
    dsimp only [inRow, lexeme] at htable ⊢
    split
    case h_1 => rw [turn_done_getD, builder_closeRow]
    case h_2 => exact hleave (.endTag _)
    case h_3 | h_4 | h_5 =>
      rw [σ.hasInScope_builder b fun _ => rfl]
      split
      · exact hleave (.endTag _)
      · rfl
    case h_13 => exact htable
    all_goals rfl
  | _ => exact htable

theorem builder_closeCell : σ.builder (closeCell b) = closeCell (σ.builder b) := by
  rw [closeCell, closeCell, builder_toMode, builder_clearFormatting, builder_popThrough,
    builder_closeImplied]

theorem turn_inCell (x : Lexeme) : σ.turn (inCell b x) = inCell (σ.builder b) (σ.lexeme x) := by
  have hleave (names : List String) (x : Lexeme) :
      σ.turn (if b.hasInScope Element.endsTableScope names then .again (closeCell b) x
        else .done b) =
      if (σ.builder b).hasInScope Element.endsTableScope names then
        .again (closeCell (σ.builder b)) (σ.lexeme x)
      else .done (σ.builder b) := by
    rw [σ.hasInScope_builder b fun _ => rfl, ← builder_closeCell]
    split <;> rfl
  have hbody := σ.turn_inBody b x
  cases x with
  | startTag t =>
    dsimp only [inCell, lexeme]
    rw [tag_name]
    split
    · exact hleave ["td", "th"] (.startTag t)
    · exact hbody
  | endTag name =>
    dsimp only [inCell, lexeme] at hbody ⊢
    split
    case h_1 | h_2 =>
      rw [σ.hasInScope_builder b fun _ => rfl, ← builder_closeImplied, ← builder_popThrough,
        ← builder_clearFormatting, ← builder_toMode]
      split <;> rfl
    case h_8 | h_9 | h_10 | h_11 | h_12 => exact hleave _ (.endTag _)
    case h_13 => exact hbody
    all_goals rfl
  | _ => exact hbody

theorem builder_closeSelect : (closeSelect b).map σ.builder = closeSelect (σ.builder b) := by
  rw [closeSelect, closeSelect, σ.hasInScope_builder b fun _ => rfl]
  split
  · rw [Option.map_some, builder_resetMode, builder_popThrough]
  · rfl

theorem builder_closeOption : σ.builder (closeOption b) = closeOption (σ.builder b) := by
  rw [closeOption, closeOption, currentIs_builder, ← builder_pop]
  split <;> rfl

theorem builder_closeOptionGroup :
    σ.builder (closeOptionGroup b) = closeOptionGroup (σ.builder b) := by
  rw [closeOptionGroup, closeOptionGroup, currentIs_builder, ← builder_pop]
  split <;> rfl

theorem builder_endOptionGroup :
    σ.builder (endOptionGroup b) = endOptionGroup (σ.builder b) := by
  rw [endOptionGroup, endOptionGroup, builder_opened, ← builder_pop, ← builder_closeOptionGroup,
    ← builder_closeOptionGroup]
  cases b.opened with
  | nil => rfl
  | cons o rest =>
    cases rest with
    | nil => rfl
    | cons group rest =>
      rw [List.map_cons, List.map_cons]
      dsimp only
      rw [opened_element, opened_element, isHtml_element, isHtml_element]
      split <;> rfl

theorem turn_inSelect (x : Lexeme) :
    σ.turn (inSelect b x) = inSelect (σ.builder b) (σ.lexeme x) := by
  cases x with
  | blank s => exact congrArg Turn.done (σ.builder_insertText b s)
  | text s => exact congrArg Turn.done (σ.builder_insertText b s)
  | null => rfl
  | comment s => exact congrArg Turn.done (σ.builder_insertComment b s)
  | doctype d => rfl
  | startTag t =>
    have hhead := σ.turn_inHead b (.startTag t)
    have hleave := σ.turn_again_or_done b (.startTag t) (closeSelect b)
    rw [builder_closeSelect] at hleave
    dsimp only [inSelect, lexeme, tag_name] at hhead hleave ⊢
    split
    case h_1 => exact σ.turn_mergeHtml b t
    case h_2 => rw [turn, builder_insert, builder_closeOption]
    case h_3 => rw [turn, builder_insert, builder_closeOptionGroup, builder_closeOption]
    case h_4 => rw [turn, builder_insertVoid, builder_closeOptionGroup, builder_closeOption]
    case h_5 => rw [turn_done_getD, builder_closeSelect]
    case h_6 | h_7 | h_8 => exact hleave
    case h_9 | h_10 => exact hhead
    case h_11 => rfl
  | endTag name =>
    dsimp only [inSelect, lexeme]
    split
    case h_1 => exact congrArg Turn.done (σ.builder_endOptionGroup b)
    case h_2 => exact congrArg Turn.done (σ.builder_closeOption b)
    case h_3 => rw [turn_done_getD, builder_closeSelect]
    case h_4 => exact σ.turn_endTemplate b
    case h_5 => rfl
  | eof => exact σ.turn_inBody b .eof

theorem turn_inSelectInTable (x : Lexeme) :
    σ.turn (inSelectInTable b x) = inSelectInTable (σ.builder b) (σ.lexeme x) := by
  have hleave (x : Lexeme) : σ.turn (.again (b.popThrough ["select"]).resetMode x) =
      .again ((σ.builder b).popThrough ["select"]).resetMode (σ.lexeme x) := by
    rw [turn, builder_resetMode, builder_popThrough]
  have hselect := σ.turn_inSelect b x
  cases x with
  | startTag t =>
    dsimp only [inSelectInTable, lexeme]
    rw [tag_name]
    split
    · exact hleave (.startTag t)
    · exact hselect
  | endTag name =>
    dsimp only [inSelectInTable, lexeme]
    rw [σ.hasInScope_builder b fun _ => rfl]
    split
    · split
      · exact hleave (.endTag name)
      · rfl
    · exact hselect
  | _ => exact hselect

end Sketch

end Stencil.Html
