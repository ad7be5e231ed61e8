import Stencil.Proofs.Html.Sketch

/-!
# Sketches of builders

The queries of a builder answer the same of its sketch, and each of its operations commutes with the
sketch: inserting (`builder_insert`, `builder_insertText`), closing (`builder_popThrough`,
`builder_closeParagraph`) and finding the mode to go on in (`builder_resetMode`). Where an operation
walks the open elements, what it asks of each is asked of its name, which a sketch keeps.
-/

namespace Stencil.Html

open Builder

namespace Sketch

variable (σ : Sketch)

section
variable (b : Builder)

/-! ## Queries -/

@[simp] theorem current?_builder : (σ.builder b).current? = b.current?.map σ.opened :=
  List.head?_map

@[simp] theorem currentIs_builder (names : List String) :
    (σ.builder b).currentIs names = b.currentIs names := by
  rw [currentIs, currentIs, builder_opened]
  cases b.opened <;> rfl

theorem any_opened {p : Opened → Bool} (h : ∀ o, p (σ.opened o) = p o) (os : List Opened) :
    (os.map σ.opened).any p = os.any p := by
  rw [List.any_map]
  exact congrArg os.any (funext h)

@[simp] theorem isOpen_builder (name : String) : (σ.builder b).isOpen name = b.isOpen name :=
  σ.any_opened (fun _ => rfl) b.opened

theorem inScope_opened {stops wanted : Element → Bool} (hstops : ∀ e, stops (σ.element e) = stops e)
    (hwanted : ∀ e, wanted (σ.element e) = wanted e) (os : List Opened) :
    inScope stops wanted (os.map σ.opened) = inScope stops wanted os := by
  induction os with
  | nil => rfl
  | cons o os ih =>
    rw [List.map_cons, inScope, inScope, ih, opened_element, hstops, hwanted]

@[simp] theorem hasInScope_builder {stops : Element → Bool}
    (hstops : ∀ e, stops (σ.element e) = stops e) (names : List String) :
    (σ.builder b).hasInScope stops names = b.hasInScope stops names :=
  σ.inScope_opened hstops (fun _ => rfl) b.opened

/-! ## Inserting -/

@[simp] theorem fosterSpot_opened (os : List Opened) (html : Spot) (f : Forest) :
    fosterSpot (os.map σ.opened) html (σ.forest f) = fosterSpot os html f := by
  induction os with
  | nil => rfl
  | cons o os ih =>
    simp only [List.map_cons, fosterSpot, ih, opened_element, isHtml_element, opened_node,
      opened_inside, parent?_forest]
    cases os <;> rfl

@[simp] theorem spotIn_builder (o : Opened) : (σ.builder b).spotIn (σ.opened o) = b.spotIn o := by
  rw [spotIn, spotIn, builder_fostering, opened_element, isHtml_element, builder_opened,
    List.getLast?_map, builder_forest, fosterSpot_opened]
  cases b.opened.getLast? <;> rfl

@[simp] theorem spot_builder : (σ.builder b).spot = b.spot := by
  rw [spot, spot, builder_opened]
  cases b.opened with
  | nil => rfl
  | cons o os => exact σ.spotIn_builder b o

theorem builder_put (n : Nat) (s : Spot) : σ.builder (b.put n s) = (σ.builder b).put n s := by
  cases s with
  | last cell => simp only [put, builder, forest_append]
  | before sibling => simp only [put, builder, forest_insertBefore]

theorem builder_insertText (s : String) :
    σ.builder (b.insertText s) = (σ.builder b).insertText "" := by
  rw [insertText, insertText, spot_builder]
  cases b.spot with
  | last cell => simp only [builder, forest_appendText]
  | before sibling => simp only [builder, forest_insertTextBefore]

theorem builder_commentIn (cell : Nat) (s : String) :
    σ.builder (b.commentIn cell s) = (σ.builder b).commentIn cell "" := by
  simp only [commentIn, builder, forest_append, forest_create, nextCell_forest, content]

theorem builder_insertComment (s : String) :
    σ.builder (b.insertComment s) = (σ.builder b).insertComment "" := by
  rw [insertComment, insertComment, builder_put, spot_builder, builder_forest, nextCell_forest]
  simp only [builder, forest_create, content]

theorem builder_commentInHtml (s : String) :
    σ.builder (b.commentInHtml s) = (σ.builder b).commentInHtml "" := by
  rw [commentInHtml, commentInHtml, builder_opened, List.getLast?_map]
  cases b.opened.getLast? with
  | none => rfl
  | some html => exact σ.builder_commentIn b html.inside s

theorem create_builder (e : Element) :
    (σ.builder b).create (σ.element e) = (σ.builder (b.create e).1, σ.opened (b.create e).2) := by
  rw [Builder.create, Builder.create, isHtml_element, builder_forest, nextCell_forest]
  split <;> simp only [builder, forest_create, content, opened]

theorem builder_push (o : Opened) : σ.builder (b.push o) = (σ.builder b).push (σ.opened o) := rfl

theorem builder_pop : σ.builder b.pop = (σ.builder b).pop := by
  simp only [pop, builder, List.map_drop]

theorem builder_insertElement (e : Element) :
    σ.builder (b.insertElement e) = (σ.builder b).insertElement (σ.element e) := by
  rw [insertElement, insertElement, create_builder, spot_builder]
  dsimp only
  rw [builder_push, builder_put, opened_node]

theorem builder_insert (t : Tag) : σ.builder (b.insert t) = (σ.builder b).insert (σ.tag t) :=
  σ.builder_insertElement b _

theorem builder_insertVoid (t : Tag) :
    σ.builder (b.insertVoid t) = (σ.builder b).insertVoid (σ.tag t) := by
  rw [insertVoid, insertVoid, builder_pop, builder_insert]

theorem builder_insertRoot (as : List (String × String)) :
    σ.builder (b.insertRoot as) = (σ.builder b).insertRoot (σ.attributes as) := by
  have hcreate := σ.create_builder b ⟨.html, "html", as⟩
  rw [insertRoot, insertRoot]
  dsimp only
  rw [show (⟨.html, "html", σ.attributes as⟩ : Element) = σ.element ⟨.html, "html", as⟩ from rfl,
    hcreate, builder_push, builder_put]
  rfl

theorem builder_toMode (m : Mode) : σ.builder (b.toMode m) = (σ.builder b).toMode m := rfl

theorem builder_insertTextElement (t : Tag) {model : ContentModel}
    (h : σ.contentModel model = model) :
    σ.builder (b.insertTextElement t model) = (σ.builder b).insertTextElement (σ.tag t) model := by
  have hinsert := σ.builder_insert b t
  rw [insertTextElement, insertTextElement, ← hinsert]
  simp only [builder, h]

/-! ## Closing -/

theorem closeThrough_opened {p : Element → Bool} (h : ∀ e, p (σ.element e) = p e)
    (os : List Opened) : closeThrough p (os.map σ.opened) = (closeThrough p os).map σ.opened := by
  induction os with
  | nil => rfl
  | cons o os ih =>
    rw [List.map_cons, closeThrough, closeThrough, ih, opened_element, h]
    split <;> rfl

theorem builder_popThrough (names : List String) :
    σ.builder (b.popThrough names) = (σ.builder b).popThrough names :=
  congrArg (fun os => { σ.builder b with opened := os })
    (σ.closeThrough_opened (fun _ => rfl) b.opened).symm

theorem dropWhile_opened {p : Opened → Bool} (h : ∀ o, p (σ.opened o) = p o) (os : List Opened) :
    (os.map σ.opened).dropWhile p = (os.dropWhile p).map σ.opened := by
  rw [List.dropWhile_map]
  exact congrArg (fun q => (os.dropWhile q).map σ.opened) (funext h)

theorem takeWhile_opened {p : Opened → Bool} (h : ∀ o, p (σ.opened o) = p o) (os : List Opened) :
    (os.map σ.opened).takeWhile p = (os.takeWhile p).map σ.opened := by
  rw [List.takeWhile_map]
  exact congrArg (fun q => (os.takeWhile q).map σ.opened) (funext h)

theorem filter_opened {p : Opened → Bool} (h : ∀ o, p (σ.opened o) = p o) (os : List Opened) :
    (os.map σ.opened).filter p = (os.filter p).map σ.opened := by
  rw [List.filter_map]
  exact congrArg (fun q => (os.filter q).map σ.opened) (funext h)

theorem builder_popTo (names : List String) :
    σ.builder (b.popTo names) = (σ.builder b).popTo names :=
  congrArg (fun os => { σ.builder b with opened := os })
    (σ.dropWhile_opened (fun _ => rfl) b.opened).symm

theorem builder_closeImplied (implied : List String) (except : String) :
    σ.builder (b.closeImplied implied except) = (σ.builder b).closeImplied implied except :=
  congrArg (fun os => { σ.builder b with opened := os })
    (σ.dropWhile_opened (fun _ => rfl) b.opened).symm

theorem builder_closeParagraph : σ.builder b.closeParagraph = (σ.builder b).closeParagraph := by
  rw [closeParagraph, closeParagraph, builder_popThrough, builder_closeImplied]

theorem builder_closeOpenParagraph :
    σ.builder b.closeOpenParagraph = (σ.builder b).closeOpenParagraph := by
  rw [closeOpenParagraph, closeOpenParagraph, σ.hasInScope_builder b fun _ => rfl]
  split
  · exact σ.builder_closeParagraph b
  · rfl

theorem builder_removeOpened (node : Nat) :
    σ.builder (b.removeOpened node) = (σ.builder b).removeOpened node :=
  congrArg (fun os => { σ.builder b with opened := os })
    (σ.filter_opened (fun _ => rfl) b.opened).symm

/-! ## Modes -/

@[simp] theorem selectMode_opened (os : List Opened) :
    selectMode (os.map σ.opened) = selectMode os := by
  induction os with
  | nil => rfl
  | cons o os ih =>
    rw [List.map_cons, selectMode, selectMode, ih]
    rfl

@[simp] theorem modeFor_opened (modes : List Mode) (hasHead : Bool) (os : List Opened) :
    modeFor modes hasHead (os.map σ.opened) = modeFor modes hasHead os := by
  induction os with
  | nil => rfl
  | cons o os ih =>
    rw [List.map_cons, modeFor, modeFor, ih, selectMode_opened, List.isEmpty_map]
    rfl

theorem builder_resetMode : σ.builder b.resetMode = (σ.builder b).resetMode := by
  simp only [resetMode, builder, modeFor_opened, Option.isSome_map]

end

end Sketch

end Stencil.Html
