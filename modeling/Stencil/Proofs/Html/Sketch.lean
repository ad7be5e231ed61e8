import Stencil.Html.Parse

/-!
# Sketches of trees under construction

The construction of a tree hardly looks at texts: it copies them, it tells attributes apart by their
names, and it compares an attribute with a few short texts. So what it builds stays the same in
shape when the texts of attributes are changed by an injective function that keeps short ones, and
all other texts are dropped. That is a `Sketch`. It is taken of everything that the construction
holds, down to the cells of the forest and up to the builder. The steps of the forest commute with
it, with a text to insert replaced by an empty one (`forest_appendText`).
-/

namespace Stencil.Html

/-- The names of the elements whose content is text. -/
def textNames : List String :=
  ["title", "textarea", "noframes", "style", "noscript", "xmp", "iframe", "noembed"]

/-- What a sketch puts in the place of attributes and of the names of content models. -/
structure Sketch where
  /-- The text in the place of an attribute's name or value. -/
  word : String → String
  injective : Function.Injective word
  /-- Texts shorter than an identifier stay as they are. -/
  short (s : String) (h : s.length < 32) : word s = s
  /-- The name in the place of that of a content model. -/
  model : String → String
  fixes (name : String) (h : name ∈ textNames) : model name = name

namespace Sketch

/-- The sketch that keeps attributes and names. -/
def textless : Sketch where
  word := id
  injective := Function.injective_id
  short _ _ := rfl
  model := id
  fixes _ _ := rfl

variable (σ : Sketch)

/-! ## Sketches -/

/-- Attributes with their names and values changed. -/
def attributes (as : List (String × String)) : List (String × String) :=
  as.map fun a => (σ.word a.1, σ.word a.2)

/-- An element with other attributes. -/
def element (e : Element) : Element := { e with attributes := σ.attributes e.attributes }

/-- The content of a node without its text. -/
def content : Content → Content
  | .element e => .element (σ.element e)
  | .text _ => .text ""
  | .comment _ => .comment ""
  | .doctype _ => .doctype "html"
  | .document => .document
  | .fragment => .fragment

/-- A cell in its place, with the sketch of its content. -/
def cell (c : Cell) : Cell := { c with content := σ.content c.content }

/-- A forest of the same shape. -/
def forest (f : Forest) : Forest := ⟨f.cells.map σ.cell⟩

/-- An open element in its place. -/
def opened (o : Opened) : Opened := { o with element := σ.element o.element }

/-- An entry of the list of formatting elements. -/
def formatting : Formatting → Formatting
  | .marker => .marker
  | .element o => .element (σ.opened o)

/-- A tag with other attributes. -/
def tag (t : Tag) : Tag := { t with attributes := σ.attributes t.attributes }

/-- A document type with nothing left but whether it asks for quirks. -/
def doctype (d : Doctype) : Doctype := ⟨some "html", none, none, d.isQuirky⟩

/-- A lexeme without its text. -/
def lexeme : Lexeme → Lexeme
  | .doctype d => .doctype (doctype d)
  | .startTag t => .startTag (σ.tag t)
  | .endTag name => .endTag name
  | .comment _ => .comment ""
  | .blank _ => .blank ""
  | .text _ => .text ""
  | .null => .null
  | .eof => .eof

/-- A content model with another name. -/
def contentModel : ContentModel → ContentModel
  | .data => .data
  | .escapable name => .escapable (σ.model name)
  | .raw name => .raw (σ.model name)
  | .script => .script
  | .plaintext => .plaintext

/-- A builder with the sketches of all that it holds. -/
def builder (b : Builder) : Builder :=
  { b with
    forest := σ.forest b.forest
    opened := b.opened.map σ.opened
    formatting := b.formatting.map σ.formatting
    head := b.head.map σ.opened
    tableText := b.tableText.map σ.lexeme
    model := σ.contentModel b.model }

/-- What an insertion mode does next, with the sketches of the builder and the lexeme. -/
def turn : Turn → Turn
  | .done b => .done (σ.builder b)
  | .again b x => .again (σ.builder b) (σ.lexeme x)

/-! ## Fields -/

section
variable (e : Element) (o : Opened) (t : Tag) (b : Builder) (c : Cell)

@[simp] theorem element_language : (σ.element e).language = e.language := rfl
@[simp] theorem element_name : (σ.element e).name = e.name := rfl
@[simp] theorem element_attributes : (σ.element e).attributes = σ.attributes e.attributes := rfl
@[simp] theorem opened_node : (σ.opened o).node = o.node := rfl
@[simp] theorem opened_element : (σ.opened o).element = σ.element o.element := rfl
@[simp] theorem opened_inside : (σ.opened o).inside = o.inside := rfl
@[simp] theorem tag_name : (σ.tag t).name = t.name := rfl
@[simp] theorem tag_attributes : (σ.tag t).attributes = σ.attributes t.attributes := rfl
@[simp] theorem tag_selfClosing : (σ.tag t).selfClosing = t.selfClosing := rfl
@[simp] theorem tag_plain (name : String) : σ.tag (.plain name) = .plain name := rfl
@[simp] theorem attributes_nil : σ.attributes [] = [] := rfl

@[simp] theorem word_beq (x y : String) : (σ.word x == σ.word y) = (x == y) := by
  rw [Bool.eq_iff_iff, beq_iff_eq, beq_iff_eq, σ.injective.eq_iff]

end

@[simp] theorem isHtml_element (e : Element) (names : List String) :
    (σ.element e).isHtml names = e.isHtml names := rfl

section
variable (b : Builder)

@[simp] theorem builder_forest : (σ.builder b).forest = σ.forest b.forest := rfl
@[simp] theorem builder_returnMode : (σ.builder b).returnMode = b.returnMode := rfl
@[simp] theorem builder_templateModes : (σ.builder b).templateModes = b.templateModes := rfl
@[simp] theorem builder_opened : (σ.builder b).opened = b.opened.map σ.opened := rfl
@[simp] theorem builder_formatting :
    (σ.builder b).formatting = b.formatting.map σ.formatting := rfl
@[simp] theorem builder_head : (σ.builder b).head = b.head.map σ.opened := rfl
@[simp] theorem builder_form : (σ.builder b).form = b.form := rfl
@[simp] theorem builder_framesetOk : (σ.builder b).framesetOk = b.framesetOk := rfl
@[simp] theorem builder_quirks : (σ.builder b).quirks = b.quirks := rfl
@[simp] theorem builder_fostering : (σ.builder b).fostering = b.fostering := rfl
@[simp] theorem builder_tableText : (σ.builder b).tableText = b.tableText.map σ.lexeme := rfl
@[simp] theorem builder_skipLineFeed : (σ.builder b).skipLineFeed = b.skipLineFeed := rfl

end

/-! ## Forests -/

section
variable (f : Forest)

@[simp] theorem nextCell_forest : (σ.forest f).nextCell = f.nextCell := by
  simp [Forest.nextCell, forest]

@[simp] theorem parent?_forest (n : Nat) : (σ.forest f).parent? n = f.parent? n := by
  simp only [Forest.parent?, forest, Array.getElem?_map]
  cases f.cells[n]? <;> rfl

@[simp] theorem children_forest (n : Nat) : (σ.forest f).children n = f.children n := by
  simp only [Forest.children, forest, Array.getElem?_map, Option.map_map]
  rfl

/-- A change of cells that the sketch of a cell follows. -/
theorem forest_modify_of {change change' : Cell → Cell} (n : Nat)
    (h : ∀ c, σ.cell (change c) = change' (σ.cell c)) :
    σ.forest (f.modify n change) = (σ.forest f).modify n change' := by
  rw [Forest.modify, Forest.modify, forest, forest, Forest.mk.injEq]
  refine Array.ext_getElem? fun i => ?_
  rw [Array.getElem?_map, Array.getElem?_modify, Array.getElem?_modify, Array.getElem?_map]
  split
  · cases f.cells[i]? with
    | none => rfl
    | some c => exact congrArg some (h c)
  · rfl

/-- A change of the places of nodes is the same in a sketch. -/
theorem forest_modify {change : Cell → Cell} (n : Nat)
    (h : ∀ c, σ.cell (change c) = change (σ.cell c)) :
    σ.forest (f.modify n change) = (σ.forest f).modify n change :=
  σ.forest_modify_of f n h

theorem forest_create (c : Content) :
    σ.forest (f.create c) = (σ.forest f).create (σ.content c) := by
  simp only [Forest.create, forest, Array.map_push]
  rfl

theorem forest_detach (n : Nat) : σ.forest (f.detach n) = (σ.forest f).detach n := by
  rw [Forest.detach, Forest.detach, parent?_forest]
  cases f.parent? n with
  | none => rfl
  | some p =>
    dsimp only
    rw [forest_modify, forest_modify] <;> exact fun _ => rfl

theorem forest_append (parent n : Nat) :
    σ.forest (f.append parent n) = (σ.forest f).append parent n := by
  rw [Forest.append, Forest.append, forest_modify, forest_modify] <;> exact fun _ => rfl

theorem forest_insertBefore (sibling n : Nat) :
    σ.forest (f.insertBefore sibling n) = (σ.forest f).insertBefore sibling n := by
  rw [Forest.insertBefore, Forest.insertBefore, parent?_forest]
  cases f.parent? sibling with
  | none => rfl
  | some p =>
    dsimp only
    rw [forest_modify, forest_modify] <;> exact fun _ => rfl

@[simp] theorem isText_forest (n : Nat) : (σ.forest f).isText n = f.isText n := by
  rw [Forest.isText, Forest.isText, forest, Array.getElem?_map]
  cases f.cells[n]? with
  | none => rfl
  | some c =>
    obtain ⟨content, parent, children⟩ := c
    cases content <;> rfl

theorem forest_extendText (n : Nat) (s : String) :
    σ.forest (f.extendText n s) = (σ.forest f).extendText n "" := by
  refine σ.forest_modify_of f n fun c => ?_
  obtain ⟨content, parent, children⟩ := c
  cases content <;> rfl

theorem forest_appendText (parent : Nat) (s : String) :
    σ.forest (f.appendText parent s) = (σ.forest f).appendText parent "" := by
  rw [Forest.appendText, Forest.appendText, children_forest]
  cases (f.children parent).back? with
  | none =>
    dsimp only
    rw [forest_append, forest_create, nextCell_forest]
    rfl
  | some last =>
    dsimp only
    rw [isText_forest]
    split
    · exact σ.forest_extendText f last s
    · rw [forest_append, forest_create, nextCell_forest]
      rfl

theorem forest_insertTextBefore (sibling : Nat) (s : String) :
    σ.forest (f.insertTextBefore sibling s) = (σ.forest f).insertTextBefore sibling "" := by
  rw [Forest.insertTextBefore, Forest.insertTextBefore, parent?_forest]
  cases f.parent? sibling with
  | none => rfl
  | some p =>
    dsimp only
    rw [children_forest]
    cases ((f.children p).toList.takeWhile (· ≠ sibling)).getLast? with
    | none =>
      dsimp only
      rw [forest_insertBefore, forest_create, nextCell_forest]
      rfl
    | some previous =>
      dsimp only
      rw [isText_forest]
      split
      · exact σ.forest_extendText f previous s
      · rw [forest_insertBefore, forest_create, nextCell_forest]
        rfl

theorem forest_moveChildren (source target : Nat) :
    σ.forest (f.moveChildren source target) = (σ.forest f).moveChildren source target := by
  have hfold (moved : List Nat) : ∀ f : Forest,
      σ.forest (moved.foldl (fun f n => f.modify n fun c => { c with parent := some target }) f) =
        moved.foldl (fun f n => f.modify n fun c => { c with parent := some target })
          (σ.forest f) := by
    induction moved with
    | nil => exact fun _ => rfl
    | cons n moved ih =>
      intro f
      rw [List.foldl_cons, List.foldl_cons, ih, forest_modify]
      exact fun _ => rfl
  rw [Forest.moveChildren, Forest.moveChildren, children_forest]
  rw [← Array.foldl_toList, ← Array.foldl_toList, hfold, forest_modify, forest_modify] <;>
    exact fun _ => rfl

/-- The attributes that an element lacks are told by their names, which a sketch tells apart. -/
theorem forest_addAttributes (n : Nat) (as : List (String × String)) :
    σ.forest (f.addAttributes n as) = (σ.forest f).addAttributes n (σ.attributes as) := by
  refine σ.forest_modify_of f n fun c => ?_
  obtain ⟨content, parent, children⟩ := c
  cases content with
  | element e =>
    simp [cell, content, element, attributes, List.filter_map, Function.comp_def, word_beq]
  | _ => rfl

end

end Sketch

end Stencil.Html
