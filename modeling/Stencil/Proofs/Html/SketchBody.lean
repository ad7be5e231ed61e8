import Stencil.Html.Insertion.Body
import Stencil.Proofs.Html.SketchHead

/-!
# Sketches in the body

The mode of the body has the most rules, in families by the names of tags. Those of start tags are
`startBlock?` and `startInline?`, and `turn_startInBody` puts them together; `turn_endInBody` has
those of end tags, and `turn_inBody` is the whole mode. One rule reads the value of an attribute, the
type of an input, and compares it with a short text, which is told from its sketch by nothing
(`word_iff`).
-/

namespace Stencil.Html

namespace Sketch

open Insertion

variable (σ : Sketch)

/-! ## Texts of attributes -/

/-- A property of short texts does not tell a text from its sketch. -/
theorem word_iff {p : String → Prop} (h : ∀ s, p s → s.length < 32) (s : String) :
    p (σ.word s) ↔ p s := by
  constructor
  · intro hs
    rwa [σ.injective (σ.short _ (h _ hs))] at hs
  · intro hs
    rwa [σ.short s (h s hs)]

theorem lookup_attributes {name : String} (h : name.length < 32) (as : List (String × String)) :
    (σ.attributes as).lookup name = (as.lookup name).map σ.word := by
  induction as with
  | nil => rfl
  | cons a as ih =>
    obtain ⟨x, v⟩ := a
    have hname : (name == σ.word x) = (name == x) := by
      rw [← σ.short name h, word_beq, σ.short name h]
    rw [attributes, List.map_cons, List.lookup_cons, List.lookup_cons, hname]
    split
    · rfl
    · exact ih

theorem length_of_map_toLower {s x : String} (h : s.map Char.toLower = x) :
    s.length = x.length := by
  rw [← h, String.length_map]

theorem isHiddenInput_tag (t : Tag) : isHiddenInput (σ.tag t) = isHiddenInput t := by
  rw [isHiddenInput, isHiddenInput, Tag.attribute?, tag_attributes,
    σ.lookup_attributes (by decide), Tag.attribute?]
  cases t.attributes.lookup "type" with
  | none => rfl
  | some s =>
    have hiff := σ.word_iff (p := fun s => s.map Char.toLower = "hidden")
      (fun s hs => length_of_map_toLower hs ▸ by decide) s
    exact decide_eq_decide.2 hiff

/-! ## Start tags -/

section
variable (b : Builder) (t : Tag)

theorem itemToClose_opened (names : List String) (os : List Opened) :
    itemToClose names (os.map σ.opened) = itemToClose names os := by
  induction os with
  | nil => rfl
  | cons o os ih =>
    rw [List.map_cons, itemToClose, itemToClose, ih]
    rfl

theorem builder_startItem (names : List String) :
    σ.builder (startItem b t names) = startItem (σ.builder b) (σ.tag t) names := by
  rw [startItem, startItem, builder_insert, builder_closeOpenParagraph]
  dsimp only
  rw [builder_opened, itemToClose_opened]
  cases itemToClose names b.opened with
  | none => rfl
  | some name =>
    dsimp only
    rw [builder_popThrough, builder_closeImplied]
    rfl

theorem builder_startForm : σ.builder (startForm b t) = startForm (σ.builder b) (σ.tag t) := by
  rw [startForm, startForm, builder_form, isOpen_builder]
  split
  · rfl
  · dsimp only
    rw [← builder_closeOpenParagraph, ← builder_insert, isOpen_builder, current?_builder]
    split
    · rfl
    · rw [Option.map_map]
      rfl

theorem builder_startLink : σ.builder (startLink b t) = startLink (σ.builder b) (σ.tag t) := by
  rw [startLink, startLink, builder_insertFormatting, builder_reconstruct,
    recentFormatting_builder, σ.find?_opened fun _ => rfl]
  cases b.recentFormatting.find? (·.element.name == "a") with
  | none => rfl
  | some o =>
    rw [Option.map_some]
    dsimp only
    rw [builder_removeOpened, builder_removeFormatting, builder_adopt]
    rfl

theorem builder_startNobr : σ.builder (startNobr b t) = startNobr (σ.builder b) (σ.tag t) := by
  rw [startNobr, startNobr, builder_insertFormatting, ← builder_reconstruct,
    σ.hasInScope_builder _ fun _ => rfl]
  split
  · rw [builder_reconstruct, builder_adopt]
  · rfl

theorem builder_startSelect :
    σ.builder (startSelect b t) = startSelect (σ.builder b) (σ.tag t) := by
  rw [startSelect, startSelect, ← builder_reconstruct, ← builder_insert]
  rfl

theorem builder_mergeBody : σ.builder (mergeBody b t) = mergeBody (σ.builder b) (σ.tag t) := by
  rw [mergeBody, mergeBody, builder_opened, ← List.map_reverse]
  cases b.opened.reverse with
  | nil => rfl
  | cons html rest =>
    cases rest with
    | nil => rfl
    | cons body rest =>
      rw [List.map_cons, List.map_cons]
      dsimp only
      rw [opened_element, isHtml_element, isOpen_builder]
      split
      · simp only [builder, forest_addAttributes]
        rfl
      · rfl

theorem builder_startFrameset :
    σ.builder (startFrameset b t) = startFrameset (σ.builder b) (σ.tag t) := by
  rw [startFrameset, startFrameset, builder_opened, ← List.map_reverse]
  cases b.opened.reverse with
  | nil => rfl
  | cons html rest =>
    cases rest with
    | nil => rfl
    | cons body rest =>
      rw [List.map_cons, List.map_cons]
      dsimp only
      rw [opened_element, isHtml_element, builder_framesetOk]
      split
      · rw [builder_toMode, builder_insert]
        simp only [builder, forest_detach]
        rfl
      · rfl

theorem builder_insertForeign (language : Language) :
    σ.builder (insertForeign b language t) =
      insertForeign (σ.builder b) language (σ.tag t) := by
  have hinsert (name : String) :
      σ.builder (b.insertElement ⟨language, name, t.attributes⟩) =
        (σ.builder b).insertElement ⟨language, name, σ.attributes t.attributes⟩ :=
    σ.builder_insertElement b _
  rw [insertForeign, insertForeign, tag_name, tag_attributes, tag_selfClosing, ← hinsert]
  split
  · exact σ.builder_pop _
  · rfl

theorem builder_insertInlineVoid :
    σ.builder (insertInlineVoid b t) = insertInlineVoid (σ.builder b) (σ.tag t) := by
  rw [insertInlineVoid, insertInlineVoid, ← builder_reconstruct, ← builder_insertVoid]
  rfl

theorem startBlock?_builder :
    startBlock? (σ.builder b) (σ.tag t) = (startBlock? b t).map σ.builder := by
  have hinsert : (σ.builder b).closeOpenParagraph.insert (σ.tag t) =
      σ.builder (b.closeOpenParagraph.insert t) := by
    rw [builder_insert, builder_closeOpenParagraph]
  have hbutton (b : Builder) :
      some { (σ.builder b).reconstruct.insert (σ.tag t) with framesetOk := false } =
        some (σ.builder { b.reconstruct.insert t with framesetOk := false }) := by
    rw [← builder_reconstruct, ← builder_insert]
    rfl
  have htable (b : Builder) :
      some { (σ.builder b).insert (σ.tag t) with framesetOk := false, mode := .inTable } =
        some (σ.builder { b.insert t with framesetOk := false, mode := .inTable }) := by
    rw [← builder_insert]
    rfl
  rw [startBlock?, startBlock?, tag_name]
  split
  · exact congrArg some hinsert
  · split
    · dsimp only
      rw [Option.map_some, ← builder_closeOpenParagraph, currentIs_builder, builder_insert]
      split
      · rw [builder_pop]
      · rfl
    · split
      case h_1 | h_2 =>
        rw [hinsert]
        rfl
      case h_3 => exact congrArg some (σ.builder_startForm b t).symm
      case h_4 => exact congrArg some (σ.builder_startItem b t _).symm
      case h_5 | h_6 => exact congrArg some (σ.builder_startItem b t _).symm
      case h_7 =>
        rw [hinsert]
        rfl
      case h_8 =>
        rw [σ.hasInScope_builder b fun _ => rfl]
        split
        · rw [← builder_closeImplied, ← builder_popThrough]
          exact hbutton _
        · exact hbutton b
      case h_9 =>
        rw [builder_quirks]
        split
        · exact htable b
        · rw [← builder_closeOpenParagraph]
          exact htable _
      case h_10 =>
        rw [← builder_closeOpenParagraph, ← builder_insertVoid]
        rfl
      case h_11 =>
        have htext := σ.builder_insertTextElement
          { b.closeOpenParagraph.reconstruct with framesetOk := false } t
          (σ.contentModel_raw (show "xmp" ∈ textNames by decide))
        rw [Option.map_some, htext, ← builder_closeOpenParagraph, ← builder_reconstruct]
        rfl
      case h_12 => rfl

theorem startInline?_builder :
    startInline? (σ.builder b) (σ.tag t) = (startInline? b t).map σ.builder := by
  have hruby (except : String) :
      (if (σ.builder b).hasInScope Element.endsScope ["ruby"] then
          (σ.builder b).closeImplied impliedEnds except
        else σ.builder b).insert (σ.tag t) =
      σ.builder ((if b.hasInScope Element.endsScope ["ruby"] then b.closeImplied impliedEnds except
        else b).insert t) := by
    rw [σ.hasInScope_builder b fun _ => rfl, builder_insert]
    split
    · rw [builder_closeImplied]
    · rfl
  have hoption : (if (σ.builder b).currentIs ["option"] then (σ.builder b).pop
        else σ.builder b).reconstruct.insert (σ.tag t) =
      σ.builder ((if b.currentIs ["option"] then b.pop else b).reconstruct.insert t) := by
    rw [currentIs_builder, builder_insert, builder_reconstruct]
    split
    · rw [builder_pop]
    · rfl
  rw [startInline?, startInline?, tag_name]
  split
  · rw [Option.map_some, builder_insertFormatting, builder_reconstruct]
  · split
    · rw [← builder_reconstruct, ← builder_insert, ← builder_pushMarker]
      rfl
    · split
      case h_1 => exact congrArg some (σ.builder_startLink b t).symm
      case h_2 => exact congrArg some (σ.builder_startNobr b t).symm
      case h_3 | h_4 | h_5 | h_6 | h_7 | h_8 =>
        exact congrArg some (σ.builder_insertInlineVoid b t).symm
      case h_9 => exact congrArg some (σ.builder_insertInlineVoid b { t with name := "img" }).symm
      case h_10 =>
        rw [isHiddenInput_tag, ← builder_reconstruct, ← builder_insertVoid]
        rfl
      case h_11 | h_12 | h_13 => exact congrArg some (σ.builder_insertVoid b t).symm
      case h_14 =>
        rw [← builder_insertTextElement _ _ _ (σ.contentModel_escapable (by decide))]
        rfl
      case h_15 =>
        rw [← builder_insertTextElement _ _ _ (σ.contentModel_raw (by decide))]
        rfl
      case h_16 h | h_17 h =>
        exact congrArg some
          (σ.builder_insertTextElement b t (σ.contentModel_raw (by rw [h]; decide))).symm
      case h_18 => exact congrArg some (σ.builder_startSelect b t).symm
      case h_19 | h_20 => exact congrArg some hoption
      case h_21 | h_22 => exact congrArg some (hruby "")
      case h_23 | h_24 => exact congrArg some (hruby "rtc")
      case h_25 | h_26 =>
        rw [Option.map_some, builder_insertForeign, builder_reconstruct]
      case h_27 => rfl

theorem turn_startInBody :
    σ.turn (startInBody b t) = startInBody (σ.builder b) (σ.tag t) := by
  have hhead := σ.turn_inHead b (.startTag t)
  rw [startInBody, startInBody, startBlock?_builder, startInline?_builder, tag_name]
  split
  · exact σ.turn_mergeHtml b t
  · split
    · exact hhead
    · split
      · exact congrArg Turn.done (σ.builder_mergeBody b t)
      · split
        · exact congrArg Turn.done (σ.builder_startFrameset b t)
        · split
          · rfl
          · rw [← Option.map_or]
            cases (startBlock? b t).or (startInline? b t) with
            | none =>
              rw [Option.map_none, ← builder_reconstruct, ← builder_insert]
              rfl
            | some b' => rfl

end

/-! ## End tags -/

section
variable (b : Builder)

theorem builder_endScoped {stops : Element → Bool} (h : ∀ e, stops (σ.element e) = stops e)
    (name except : String) :
    σ.builder (endScoped b stops name except) = endScoped (σ.builder b) stops name except := by
  rw [endScoped, endScoped, σ.hasInScope_builder b h]
  split
  · rw [builder_popThrough, builder_closeImplied]
  · rfl

theorem builder_endForm : σ.builder (endForm b) = endForm (σ.builder b) := by
  rw [endForm, endForm, isOpen_builder, builder_form]
  split
  · exact σ.builder_endScoped b (fun _ => rfl) _ _
  · cases b.form with
    | none => rfl
    | some node =>
      dsimp only
      rw [builder_opened, nodeInScope_opened]
      split
      · rw [builder_removeOpened, builder_closeImplied]
        rfl
      · rfl

theorem turn_endBody (x : Lexeme) (name : String) :
    σ.turn (endBody b x name) = endBody (σ.builder b) (σ.lexeme x) name := by
  rw [endBody, endBody, σ.hasInScope_builder b fun _ => rfl]
  split
  · split <;> rfl
  · rfl

theorem turn_endInBody (name : String) :
    σ.turn (endInBody b name) = endInBody (σ.builder b) name := by
  unfold endInBody
  split
  · exact σ.turn_endTemplate b
  · split
    · exact σ.turn_endBody b (.endTag name) name
    · split
      · exact congrArg Turn.done (σ.builder_endScoped b (fun _ => rfl) _ _)
      · split
        · rw [σ.hasInScope_builder b fun _ => rfl, turn]
          split
          · rw [builder_popThrough, builder_closeImplied]
          · rfl
        · split
          · exact congrArg Turn.done (σ.builder_adopt b name)
          · split
            · rw [σ.hasInScope_builder b fun _ => rfl, turn]
              split
              · rw [builder_clearFormatting, builder_popThrough, builder_closeImplied]
              · rfl
            · split
              case h_1 => exact congrArg Turn.done (σ.builder_endForm b)
              case h_2 =>
                rw [σ.hasInScope_builder b fun _ => rfl, turn]
                split
                · rw [builder_closeParagraph]
                · rw [builder_closeParagraph, builder_insert, tag_plain]
              case h_3 | h_4 | h_5 =>
                exact congrArg Turn.done (σ.builder_endScoped b (fun _ => rfl) _ _)
              case h_6 => exact congrArg Turn.done (σ.builder_insertInlineVoid b (.plain "br"))
              case h_7 => exact congrArg Turn.done (σ.builder_endOther b name)

theorem turn_inBody (x : Lexeme) : σ.turn (inBody b x) = inBody (σ.builder b) (σ.lexeme x) := by
  have htext (s : String) : σ.builder (b.reconstruct.insertText s) =
      (σ.builder b).reconstruct.insertText "" := by
    rw [builder_insertText, builder_reconstruct]
  cases x with
  | blank s => exact congrArg Turn.done (htext s)
  | text s =>
    exact congrArg (fun b : Builder => Turn.done { b with framesetOk := false }) (htext s)
  | null => rfl
  | comment s => exact congrArg Turn.done (σ.builder_insertComment b s)
  | doctype d => rfl
  | startTag t => exact σ.turn_startInBody b t
  | endTag name => exact σ.turn_endInBody b name
  | eof =>
    dsimp only [inBody, lexeme]
    rw [builder_templateModes]
    split
    · rfl
    · exact σ.turn_endTextInTemplate b

end

end Sketch

end Stencil.Html
