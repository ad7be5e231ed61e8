import Stencil.Html.Insertion.Head
import Stencil.Proofs.Html.SketchFormatting

/-!
# Sketches in the modes up to the head

From here on there is one lemma for each insertion mode, with one case for each of its rules: the
turn that a mode takes has for its sketch the turn that it takes for the sketches of the builder and
the lexeme. This module has the modes up to the end of the head (`turn_initial`, `turn_beforeHtml`,
`turn_beforeHead`, `turn_inHead`, `turn_afterHead`). The elements whose content is text keep their
names in a sketch (`contentModel_raw`), so the lexer is left in the same state.
-/

namespace Stencil.Html

namespace Sketch

open Insertion

variable (σ : Sketch) (b : Builder)

theorem contentModel_raw {name : String} (h : name ∈ textNames) :
    σ.contentModel (.raw name) = .raw name :=
  congrArg ContentModel.raw (σ.fixes name h)

theorem contentModel_escapable {name : String} (h : name ∈ textNames) :
    σ.contentModel (.escapable name) = .escapable name :=
  congrArg ContentModel.escapable (σ.fixes name h)

theorem turn_mergeHtml (t : Tag) : σ.turn (mergeHtml b t) = mergeHtml (σ.builder b) (σ.tag t) := by
  rw [mergeHtml, mergeHtml, builder_opened, List.getLast?_map]
  cases b.opened.getLast? with
  | none => rfl
  | some html =>
    rw [Option.map_some]
    dsimp only
    rw [isOpen_builder]
    split
    · rfl
    · simp only [turn, builder, forest_addAttributes]
      rfl

theorem builder_insertHead (t : Tag) :
    σ.builder (insertHead b t) = insertHead (σ.builder b) (σ.tag t) := by
  rw [insertHead, insertHead, ← builder_insert, current?_builder]
  rfl

theorem turn_startTemplate (t : Tag) :
    σ.turn (startTemplate b t) = startTemplate (σ.builder b) (σ.tag t) := by
  rw [startTemplate, startTemplate, ← builder_pushMarker, ← builder_insert]
  rfl

theorem builder_closeTemplate :
    σ.builder (closeTemplate b) = closeTemplate (σ.builder b) := by
  have h := σ.builder_clearFormatting
    ((b.closeImplied impliedEndsInTemplate "").popThrough ["template"])
  rw [builder_popThrough, builder_closeImplied] at h
  rw [closeTemplate, closeTemplate, builder_resetMode, ← h]
  rfl

theorem turn_endTemplate : σ.turn (endTemplate b) = endTemplate (σ.builder b) := by
  rw [endTemplate, endTemplate, isOpen_builder]
  split
  · exact congrArg Turn.done (σ.builder_closeTemplate b)
  · rfl

theorem turn_endTextInTemplate :
    σ.turn (endTextInTemplate b) = endTextInTemplate (σ.builder b) := by
  have h := σ.builder_clearFormatting (b.popThrough ["template"])
  rw [builder_popThrough] at h
  rw [endTextInTemplate, endTextInTemplate, isOpen_builder]
  split
  · dsimp only [turn]
    rw [builder_resetMode, ← h]
    rfl
  · rfl

/-- Of a document type only the mode it puts a document in is kept. -/
theorem isQuirky_doctype (d : Doctype) : (doctype d).isQuirky = d.isQuirky := by
  rw [doctype, Doctype.isQuirky]
  simp

theorem turn_initial (x : Lexeme) : σ.turn (initial b x) = initial (σ.builder b) (σ.lexeme x) := by
  cases x with
  | comment s => exact congrArg Turn.done (σ.builder_commentIn b Forest.documentCell s)
  | doctype d =>
    dsimp only [initial, lexeme]
    rw [isQuirky_doctype, turn, builder_forest, nextCell_forest]
    simp only [builder, forest_append, forest_create, content]
    rfl
  | _ => rfl

theorem turn_beforeHtml (x : Lexeme) :
    σ.turn (beforeHtml b x) = beforeHtml (σ.builder b) (σ.lexeme x) := by
  have hroot (as : List (String × String)) :
      σ.builder { b.insertRoot as with mode := .beforeHead } =
        { (σ.builder b).insertRoot (σ.attributes as) with mode := .beforeHead } := by
    rw [← builder_insertRoot]
    rfl
  have hsupplied (x : Lexeme) : σ.turn (.again { b.insertRoot [] with mode := .beforeHead } x) =
      .again { (σ.builder b).insertRoot [] with mode := .beforeHead } (σ.lexeme x) := by
    rw [turn, hroot, attributes_nil]
  cases x with
  | blank s => rfl
  | comment s => exact congrArg Turn.done (σ.builder_commentIn b Forest.documentCell s)
  | doctype d => rfl
  | startTag t =>
    dsimp only [beforeHtml, lexeme]
    rw [tag_name]
    split
    · exact congrArg Turn.done (hroot t.attributes)
    · exact hsupplied (.startTag t)
  | endTag name =>
    dsimp only [beforeHtml, lexeme]
    split
    · exact hsupplied (.endTag name)
    · rfl
  | _ => exact hsupplied _

theorem turn_beforeHead (x : Lexeme) :
    σ.turn (beforeHead b x) = beforeHead (σ.builder b) (σ.lexeme x) := by
  have hsupplied (x : Lexeme) : σ.turn (.again (insertHead b (.plain "head")) x) =
      .again (insertHead (σ.builder b) (.plain "head")) (σ.lexeme x) := by
    rw [turn, builder_insertHead, tag_plain]
  cases x with
  | blank s => rfl
  | comment s => exact congrArg Turn.done (σ.builder_insertComment b s)
  | doctype d => rfl
  | startTag t =>
    dsimp only [beforeHead, lexeme]
    rw [tag_name]
    split
    · exact σ.turn_mergeHtml b t
    · split
      · exact congrArg Turn.done (σ.builder_insertHead b t)
      · exact hsupplied (.startTag t)
  | endTag name =>
    dsimp only [beforeHead, lexeme]
    split
    · exact hsupplied (.endTag name)
    · rfl
  | _ => exact hsupplied _

theorem turn_inHead (x : Lexeme) : σ.turn (inHead b x) = inHead (σ.builder b) (σ.lexeme x) := by
  have hafter : σ.builder (b.pop.toMode .afterHead) = (σ.builder b).pop.toMode .afterHead := by
    rw [builder_toMode, builder_pop]
  have hleave (x : Lexeme) : σ.turn (.again (b.pop.toMode .afterHead) x) =
      .again ((σ.builder b).pop.toMode .afterHead) (σ.lexeme x) := by
    rw [turn, hafter]
  cases x with
  | blank s => exact congrArg Turn.done (σ.builder_insertText b s)
  | comment s => exact congrArg Turn.done (σ.builder_insertComment b s)
  | doctype d => rfl
  | startTag t =>
    dsimp only [inHead, lexeme, tag_name]
    split
    case h_1 => exact σ.turn_mergeHtml b t
    case h_2 | h_3 | h_4 | h_5 | h_6 => exact congrArg Turn.done (σ.builder_insertVoid b t)
    case h_7 =>
      exact congrArg Turn.done
        (σ.builder_insertTextElement b t (σ.contentModel_escapable (by decide)))
    case h_8 h | h_9 h | h_10 h =>
      exact congrArg Turn.done
        (σ.builder_insertTextElement b t (σ.contentModel_raw (by rw [h]; decide)))
    case h_11 => exact congrArg Turn.done (σ.builder_insertTextElement b t rfl)
    case h_12 => exact σ.turn_startTemplate b t
    case h_13 => rfl
    case h_14 => exact hleave (.startTag t)
  | endTag name =>
    dsimp only [inHead, lexeme]
    split
    case h_1 => exact congrArg Turn.done hafter
    case h_2 => exact σ.turn_endTemplate b
    case h_3 | h_4 | h_5 => exact hleave (.endTag _)
    case h_6 => rfl
  | _ => exact hleave _

theorem turn_backInHead (x : Lexeme) :
    σ.turn (backInHead b x) = backInHead (σ.builder b) (σ.lexeme x) := by
  rw [backInHead, backInHead, builder_head]
  cases b.head with
  | none => rfl
  | some head =>
    rw [Option.map_some]
    dsimp only
    rw [← builder_push, ← turn_inHead]
    cases inHead (b.push head) x with
    | done b' => exact congrArg Turn.done (σ.builder_removeOpened b' head.node)
    | again b' x' =>
      exact congrArg (Turn.again · (σ.lexeme x')) (σ.builder_removeOpened b' head.node)

theorem turn_afterHead (x : Lexeme) :
    σ.turn (afterHead b x) = afterHead (σ.builder b) (σ.lexeme x) := by
  have hsupplied (x : Lexeme) : σ.turn (.again ((b.insert (.plain "body")).toMode .inBody) x) =
      .again (((σ.builder b).insert (.plain "body")).toMode .inBody) (σ.lexeme x) := by
    rw [turn, builder_toMode, builder_insert, tag_plain]
  cases x with
  | blank s => exact congrArg Turn.done (σ.builder_insertText b s)
  | comment s => exact congrArg Turn.done (σ.builder_insertComment b s)
  | doctype d => rfl
  | startTag t =>
    have hinsert := σ.builder_insert b t
    have hback := σ.turn_backInHead b (.startTag t)
    dsimp only [afterHead, lexeme] at hback ⊢
    rw [tag_name]
    split
    · exact σ.turn_mergeHtml b t
    · split
      · rw [← hinsert]
        rfl
      · split
        · rw [← hinsert]
          rfl
        · split
          · exact hback
          · split
            · rfl
            · exact hsupplied (.startTag t)
  | endTag name =>
    dsimp only [afterHead, lexeme]
    split
    · exact σ.turn_endTemplate b
    · split
      · exact hsupplied (.endTag name)
      · rfl
  | _ => exact hsupplied _

end Sketch

end Stencil.Html
