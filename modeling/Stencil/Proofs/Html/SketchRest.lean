import Stencil.Html.Insertion.Rest
import Stencil.Proofs.Html.SketchTable

/-!
# Sketches in all modes

The last modes are those of templates, of frames and of what follows a body. With them every mode
has its lemma (`turn_rules`), and the elements of other languages have theirs (`turn_foreign`), so
the step that chooses between them commutes with a sketch too (`turn_dispatch`). A sketch that keeps
attributes does nothing to a sketch (`textless_builder`), which is how a step is compared with one
on a builder that is a sketch already.
-/

namespace Stencil.Html

namespace Sketch

open Insertion

/-! ## Sketches of sketches -/

variable (σ : Sketch)

theorem textless_attributes (as : List (String × String)) : textless.attributes as = as :=
  List.map_id as

theorem textless_element (e : Element) : textless.element e = e := by
  rw [element, textless_attributes]

theorem textless_opened (o : Opened) : textless.opened o = o := by
  rw [opened, textless_element]

theorem textless_opened_map (os : List Opened) : os.map textless.opened = os :=
  (congrArg (os.map ·) (funext textless_opened)).trans (List.map_id os)

theorem textless_tag (t : Tag) : textless.tag t = t := by
  rw [tag, textless_attributes]

theorem textless_lexeme (x : Lexeme) : textless.lexeme (σ.lexeme x) = σ.lexeme x := by
  cases x with
  | doctype d =>
    rw [lexeme, lexeme, doctype, isQuirky_doctype]
    rfl
  | startTag t =>
    rw [lexeme, lexeme, textless_tag]
  | _ => rfl

theorem textless_cell (c : Cell) : textless.cell (σ.cell c) = σ.cell c := by
  obtain ⟨content, parent, children⟩ := c
  cases content with
  | element e => rw [cell, cell, content, content, textless_element]
  | _ => rfl

theorem textless_forest (f : Forest) : textless.forest (σ.forest f) = σ.forest f := by
  rw [forest, forest, Array.map_map]
  exact congrArg (fun g => Forest.mk (f.cells.map g)) (funext σ.textless_cell)

theorem textless_formatting (e : Formatting) : textless.formatting e = e := by
  cases e with
  | marker => rfl
  | element o => rw [formatting, textless_opened]

theorem textless_contentModel (m : ContentModel) : textless.contentModel m = m := by
  cases m <;> rfl

theorem textless_builder (b : Builder) : textless.builder (σ.builder b) = σ.builder b := by
  have hformatting : ((σ.builder b).formatting).map textless.formatting =
      (σ.builder b).formatting := by
    rw [funext textless_formatting]
    exact List.map_id _
  have hhead : ((σ.builder b).head).map textless.opened = (σ.builder b).head := by
    rw [funext textless_opened]
    exact Option.map_id'
  have htext : ((σ.builder b).tableText).map textless.lexeme = (σ.builder b).tableText := by
    rw [builder_tableText, List.map_map]
    exact congrArg (b.tableText.map ·) (funext σ.textless_lexeme)
  rw [builder, hformatting, hhead, htext, builder_forest, textless_forest, textless_opened_map,
    textless_contentModel]
  rfl

theorem textless_turn (t : Turn) : textless.turn (σ.turn t) = σ.turn t := by
  cases t with
  | done b => exact congrArg Turn.done (σ.textless_builder b)
  | again b x => rw [turn, turn, textless_builder, textless_lexeme]

theorem turn_textless {t t' : Turn} (h : σ.turn t = t') : σ.turn t = textless.turn t' := by
  rw [← h, textless_turn]

section
variable (b : Builder)

/-! ## Templates, frames and what follows a body -/

theorem turn_inTemplate (x : Lexeme) :
    σ.turn (inTemplate b x) = inTemplate (σ.builder b) (σ.lexeme x) := by
  have hbody := σ.turn_inBody b x
  cases x with
  | startTag t =>
    have hhead := σ.turn_inHead b (.startTag t)
    dsimp only [inTemplate, lexeme] at hhead ⊢
    rw [tag_name]
    split
    · exact hhead
    · split <;> rfl
  | endTag name =>
    dsimp only [inTemplate, lexeme]
    split
    · exact σ.turn_endTemplate b
    · rfl
  | eof => exact σ.turn_endTextInTemplate b
  | _ => exact hbody

theorem turn_afterBody (x : Lexeme) :
    σ.turn (afterBody b x) = afterBody (σ.builder b) (σ.lexeme x) := by
  have hbody := σ.turn_inBody b x
  cases x with
  | blank s => exact hbody
  | comment s => exact congrArg Turn.done (σ.builder_commentInHtml b s)
  | startTag t =>
    dsimp only [afterBody, lexeme]
    rw [tag_name]
    split
    · exact σ.turn_mergeHtml b t
    · rfl
  | endTag name =>
    dsimp only [afterBody, lexeme]
    split <;> rfl
  | _ => rfl

theorem turn_afterAfterBody (x : Lexeme) :
    σ.turn (afterAfterBody b x) = afterAfterBody (σ.builder b) (σ.lexeme x) := by
  have hbody := σ.turn_inBody b x
  cases x with
  | blank s => exact hbody
  | comment s => exact congrArg Turn.done (σ.builder_commentIn b Forest.documentCell s)
  | startTag t =>
    dsimp only [afterAfterBody, lexeme]
    rw [tag_name]
    split
    · exact σ.turn_mergeHtml b t
    · rfl
  | _ => rfl

theorem turn_inFrameset (x : Lexeme) :
    σ.turn (inFrameset b x) = inFrameset (σ.builder b) (σ.lexeme x) := by
  cases x with
  | blank s => exact congrArg Turn.done (σ.builder_insertText b s)
  | comment s => exact congrArg Turn.done (σ.builder_insertComment b s)
  | startTag t =>
    have hhead := σ.turn_inHead b (.startTag t)
    dsimp only [inFrameset, lexeme, tag_name] at hhead ⊢
    split
    case h_1 => exact σ.turn_mergeHtml b t
    case h_2 => exact congrArg Turn.done (σ.builder_insert b t)
    case h_3 => exact congrArg Turn.done (σ.builder_insertVoid b t)
    case h_4 => exact hhead
    case h_5 => rfl
  | endTag name =>
    dsimp only [inFrameset, lexeme]
    rw [builder_opened, List.length_map, ← builder_pop, currentIs_builder]
    split
    · split
      · rfl
      · split <;> rfl
    · rfl
  | _ => rfl

theorem turn_afterFrameset (x : Lexeme) :
    σ.turn (afterFrameset b x) = afterFrameset (σ.builder b) (σ.lexeme x) := by
  cases x with
  | blank s => exact congrArg Turn.done (σ.builder_insertText b s)
  | comment s => exact congrArg Turn.done (σ.builder_insertComment b s)
  | startTag t =>
    have hhead := σ.turn_inHead b (.startTag t)
    dsimp only [afterFrameset, lexeme, tag_name] at hhead ⊢
    split
    case h_1 => exact σ.turn_mergeHtml b t
    case h_2 => exact hhead
    case h_3 => rfl
  | endTag name =>
    dsimp only [afterFrameset, lexeme]
    split <;> rfl
  | _ => rfl

theorem turn_afterAfterFrameset (x : Lexeme) :
    σ.turn (afterAfterFrameset b x) = afterAfterFrameset (σ.builder b) (σ.lexeme x) := by
  have hbody := σ.turn_inBody b x
  cases x with
  | blank s => exact hbody
  | comment s => exact congrArg Turn.done (σ.builder_commentIn b Forest.documentCell s)
  | startTag t =>
    have hhead := σ.turn_inHead b (.startTag t)
    dsimp only [afterAfterFrameset, lexeme, tag_name] at hhead ⊢
    split
    case h_1 => exact σ.turn_mergeHtml b t
    case h_2 => exact hhead
    case h_3 => rfl
  | _ => rfl

/-! ## All modes -/

/-- In a text a null character leaves a text behind, which a sketch of the result forgets. -/
theorem turn_text (x : Lexeme) :
    σ.turn (Insertion.text b x) = textless.turn (Insertion.text (σ.builder b) (σ.lexeme x)) := by
  have hreturn : σ.builder (b.pop.toMode b.returnMode) =
      (σ.builder b).pop.toMode (σ.builder b).returnMode := by
    rw [builder_toMode, builder_pop, builder_returnMode]
  have hinsert (s s' : String) : σ.builder (b.insertText s) =
      textless.builder ((σ.builder b).insertText s') := by
    rw [builder_insertText, builder_insertText, textless_builder]
  cases x with
  | blank s => exact congrArg Turn.done (hinsert s "")
  | text s => exact congrArg Turn.done (hinsert s "")
  | null => exact congrArg Turn.done (hinsert "\uFFFD" "\uFFFD")
  | eof => exact σ.turn_textless (congrArg (Turn.again · .eof) hreturn)
  | endTag name => exact σ.turn_textless (congrArg Turn.done hreturn)
  | _ => exact σ.turn_textless rfl

theorem turn_rules (m : Mode) (x : Lexeme) :
    σ.turn (rules m b x) = textless.turn (rules m (σ.builder b) (σ.lexeme x)) := by
  cases m with
  | initial => exact σ.turn_textless (σ.turn_initial b x)
  | beforeHtml => exact σ.turn_textless (σ.turn_beforeHtml b x)
  | beforeHead => exact σ.turn_textless (σ.turn_beforeHead b x)
  | inHead => exact σ.turn_textless (σ.turn_inHead b x)
  | afterHead => exact σ.turn_textless (σ.turn_afterHead b x)
  | inBody => exact σ.turn_textless (σ.turn_inBody b x)
  | text => exact σ.turn_text b x
  | inTable => exact σ.turn_textless (σ.turn_inTable b x)
  | inTableText => exact σ.turn_textless (σ.turn_inTableText b x)
  | inCaption => exact σ.turn_textless (σ.turn_inCaption b x)
  | inColumnGroup => exact σ.turn_textless (σ.turn_inColumnGroup b x)
  | inTableBody => exact σ.turn_textless (σ.turn_inTableBody b x)
  | inRow => exact σ.turn_textless (σ.turn_inRow b x)
  | inCell => exact σ.turn_textless (σ.turn_inCell b x)
  | inSelect => exact σ.turn_textless (σ.turn_inSelect b x)
  | inSelectInTable => exact σ.turn_textless (σ.turn_inSelectInTable b x)
  | inTemplate => exact σ.turn_textless (σ.turn_inTemplate b x)
  | afterBody => exact σ.turn_textless (σ.turn_afterBody b x)
  | inFrameset => exact σ.turn_textless (σ.turn_inFrameset b x)
  | afterFrameset => exact σ.turn_textless (σ.turn_afterFrameset b x)
  | afterAfterBody => exact σ.turn_textless (σ.turn_afterAfterBody b x)
  | afterAfterFrameset => exact σ.turn_textless (σ.turn_afterAfterFrameset b x)

/-! ## Other languages -/

@[simp] theorem isCharacters_lexeme (x : Lexeme) : isCharacters (σ.lexeme x) = isCharacters x := by
  cases x <;> rfl

@[simp] theorem isStart_lexeme (x : Lexeme) : isStart (σ.lexeme x) = isStart x := by
  cases x <;> rfl

@[simp] theorem startsOne_lexeme (names : List String) (x : Lexeme) :
    startsOne names (σ.lexeme x) = startsOne names x := by
  cases x <;> rfl

theorem holdsHtml_element (e : Element) : holdsHtml (σ.element e) = holdsHtml e := by
  rw [holdsHtml, holdsHtml, element_attributes, σ.lookup_attributes (by decide)]
  cases e.attributes.lookup "encoding" with
  | none => rfl
  | some s =>
    have hshort (s : String)
        (hs : ["text/html", "application/xhtml+xml"].contains (s.map Char.toLower) = true) :
        s.length < 32 := by
      rw [List.contains_iff_mem] at hs
      have hall : ∀ x ∈ ["text/html", "application/xhtml+xml"], x.length < 32 := by decide
      have hlt := hall _ hs
      rwa [String.length_map] at hlt
    exact Bool.eq_iff_iff.2 (σ.word_iff hshort s)

theorem isForeign_sketch (e : Element) (x : Lexeme) :
    isForeign (σ.element e) (σ.lexeme x) = isForeign e x := by
  rw [isForeign, isForeign, holdsHtml_element, isCharacters_lexeme, isStart_lexeme,
    startsOne_lexeme, startsOne_lexeme]
  rfl

theorem breaksOut_tag (t : Tag) : breaksOut (σ.tag t) = breaksOut t := by
  have hname (a : String × String) : ["color", "face", "size"].contains (σ.word a.1) =
      ["color", "face", "size"].contains a.1 := by
    have hshort (s : String) (hs : ["color", "face", "size"].contains s = true) :
        s.length < 32 := by
      rw [List.contains_iff_mem] at hs
      have hall : ∀ x ∈ ["color", "face", "size"], x.length < 32 := by decide
      exact hall s hs
    exact Bool.eq_iff_iff.2 (σ.word_iff hshort a.1)
  rw [breaksOut, breaksOut, tag_name, tag_attributes, attributes, List.any_map]
  exact congrArg
    (fun p => breakoutNames.contains t.name || (t.name == "font" && t.attributes.any p))
    (funext hname)

theorem turn_leaveForeign (x : Lexeme) :
    σ.turn (leaveForeign b x) = textless.turn (leaveForeign (σ.builder b) (σ.lexeme x)) := by
  rw [leaveForeign, turn_rules, leaveForeign, builder_opened, σ.dropWhile_opened fun _ => rfl]
  rfl

theorem endForeign_cons (name : String) (first : Bool) (o o' : Opened) (os : List Opened) :
    endForeign b name first (o :: o' :: os) =
      if !first && o.element.language = .html then rules b.mode b (.endTag name)
      else if o.element.name.map Char.toLower = name then .done { b with opened := o' :: os }
      else endForeign b name false (o' :: os) := by
  cases first <;> rfl

theorem turn_endForeign (name : String) (os : List Opened) : ∀ first : Bool,
    σ.turn (endForeign b name first os) =
      textless.turn (endForeign (σ.builder b) name first (os.map σ.opened)) := by
  induction os with
  | nil =>
    intro first
    cases first <;> exact σ.turn_textless rfl
  | cons o os ih =>
    intro first
    cases os with
    | nil => cases first <;> exact σ.turn_textless rfl
    | cons o' os =>
      have hrules := σ.turn_rules b b.mode (.endTag name)
      rw [endForeign_cons, List.map_cons, List.map_cons, endForeign_cons]
      rw [opened_element, element_language, element_name]
      split
      · exact hrules
      · split
        · exact σ.turn_textless rfl
        · exact ih false

theorem turn_foreign (language : Language) (x : Lexeme) :
    σ.turn (foreign b language x) =
      textless.turn (foreign (σ.builder b) language (σ.lexeme x)) := by
  have hinsert (s s' : String) : σ.builder (b.insertText s) =
      textless.builder ((σ.builder b).insertText s') := by
    rw [builder_insertText, builder_insertText, textless_builder]
  cases x with
  | null => exact congrArg Turn.done (hinsert "\uFFFD" "\uFFFD")
  | blank s => exact congrArg Turn.done (hinsert s "")
  | text s =>
    exact congrArg (fun b : Builder => Turn.done { b with framesetOk := false }) (hinsert s "")
  | comment s => exact σ.turn_textless (congrArg Turn.done (σ.builder_insertComment b s))
  | doctype d => exact σ.turn_textless rfl
  | eof => exact σ.turn_textless rfl
  | startTag t =>
    have hleave := σ.turn_leaveForeign b (.startTag t)
    dsimp only [foreign, lexeme] at hleave ⊢
    rw [breaksOut_tag]
    split
    · exact hleave
    · exact σ.turn_textless (congrArg Turn.done (σ.builder_insertForeign b t language))
  | endTag name =>
    dsimp only [foreign, lexeme]
    split
    · exact σ.turn_leaveForeign b (.endTag name)
    · exact σ.turn_endForeign b name b.opened true

theorem turn_dispatch (x : Lexeme) :
    σ.turn (dispatch b x) = textless.turn (dispatch (σ.builder b) (σ.lexeme x)) := by
  have hrules := σ.turn_rules b b.mode x
  rw [dispatch.eq_def, dispatch.eq_def, builder_opened]
  cases b.opened with
  | nil => cases x <;> exact hrules
  | cons o os =>
    have hforeign : σ.turn (if isForeign o.element x then foreign b o.element.language x
          else rules b.mode b x) =
        textless.turn (if isForeign (σ.element o.element) (σ.lexeme x) then
          foreign (σ.builder b) o.element.language (σ.lexeme x)
          else rules b.mode (σ.builder b) (σ.lexeme x)) := by
      rw [isForeign_sketch]
      split
      · exact σ.turn_foreign b _ x
      · exact hrules
    cases x with
    | eof => exact hrules
    | _ => exact hforeign

end

end Sketch

end Stencil.Html
