import Stencil.Html.Formatting
import Stencil.Proofs.Html.SketchBuilder

/-!
# Sketches of formatting elements

The list of formatting elements is the one part of a builder that compares attributes with each
other: of four alike the earliest is forgotten. A sketch tells attributes apart as they are told
apart themselves, so it forgets the same one (`builder_forgetAlike`). Opening again what was closed
out of order commutes with a sketch (`builder_reconstruct`), and so does adoption, round by round
(`adoptOnce_builder`, `builder_adopt`).
-/

namespace Stencil.Html

namespace Builder

/-- Forgets the earliest of three formatting elements that are like the one of a start tag. -/
def forgetAlike (b : Builder) (t : Tag) : Builder :=
  let alike := fun o : Opened =>
    o.element.name == t.name && sameAttributes o.element.attributes t.attributes
  if (b.recentFormatting.filter alike).length < 3 then b
  else
    let recent := b.formatting.takeWhile (· ≠ .marker)
    { b with formatting := removeEarliest alike recent ++ b.formatting.drop recent.length }

/-- Adds the innermost open element to the formatting elements. -/
def noteOpened (b : Builder) : Builder :=
  match b.opened with
  | o :: _ => { b with formatting := .element o :: b.formatting }
  | [] => b

theorem insertFormatting_eq (b : Builder) (t : Tag) :
    b.insertFormatting t = ((b.forgetAlike t).insert t).noteOpened := rfl

/-- Opens a formatting element again. -/
def reopen (b : Builder) : Formatting → Builder
  | .marker => b
  | .element o => (b.insertElement o.element).noteOpened

/-- The adoption with the element looked at replaced by a copy, which takes the node to be moved. -/
def Adoption.copy (a : Adoption) (furthest : Nat) (o : Opened) (outer : List Opened) : Adoption :=
  let (b, new) := a.builder.create o.element
  let b := b.replaceFormatting o.node new
  let bookmark := if a.last = furthest then .after new.node else a.bookmark
  let forest := (b.forest.detach a.last).append new.inside a.last
  ⟨{ b with forest := forest }, outer, new :: a.inner, new.node, bookmark⟩

theorem adoptBetween_cons (subject furthest fuel count : Nat) (b : Builder) (o : Opened)
    (outer inner : List Opened) (last : Nat) (bookmark : Bookmark) :
    adoptBetween subject furthest (fuel + 1) count ⟨b, o :: outer, inner, last, bookmark⟩ =
      if o.node = subject then ⟨b, o :: outer, inner, last, bookmark⟩
      else if 3 ≤ count then
        adoptBetween subject furthest fuel (count + 1)
          ⟨b.removeFormatting o.node, outer, inner, last, bookmark⟩
      else if !b.isFormatting o.node then
        adoptBetween subject furthest fuel (count + 1) ⟨b, outer, inner, last, bookmark⟩
      else
        adoptBetween subject furthest fuel (count + 1)
          (Adoption.copy ⟨b, o :: outer, inner, last, bookmark⟩ furthest o outer) := rfl

/-- Moves a node to where it belongs inside an element, if there is one. -/
def moveInto (b : Builder) (node : Nat) (target : Option Opened) : Builder :=
  let b := { b with forest := b.forest.detach node }
  match target with
  | some o => b.put node (b.spotIn o)
  | none => b

/-- What is left to do after the inner loop of the adoption. -/
def Adoption.finish (a : Adoption) (common : Option Opened) (subject furthest : Opened)
    (inside : List Opened) : Builder :=
  let (b, new) := (a.builder.moveInto a.last common).create subject.element
  let forest := (b.forest.moveChildren furthest.node new.node).append furthest.node new.node
  let b := ({ b with forest := forest } : Builder).placeFormatting subject.node new a.bookmark
  let rest := a.outer.filter (·.node ≠ subject.node)
  { b with opened := inside ++ new :: furthest :: (a.inner.reverse ++ rest) }

theorem split_eq (b : Builder) (subject furthest : Opened) :
    b.split subject furthest =
      let inside := b.opened.takeWhile (·.node ≠ furthest.node)
      let outside := b.opened.drop (inside.length + 1)
      let a := adoptBetween subject.node furthest.node outside.length 0
        ⟨b, outside, [], furthest.node, .inPlaceOf subject.node⟩
      a.finish ((outside.dropWhile (·.node ≠ subject.node)).drop 1).head? subject furthest
        inside := rfl

theorem reconstruct_eq (b : Builder) :
    b.reconstruct =
      (b.formatting.takeWhile fun e => !b.isSettled e).reverse.foldl reopen
        { b with formatting :=
            b.formatting.drop (b.formatting.takeWhile fun e => !b.isSettled e).length } := by
  rw [reconstruct]
  refine congrArg (fun g => List.foldl g _ _) (funext fun b => funext fun e => ?_)
  cases e <;> rfl

end Builder

open Builder

namespace Sketch

variable (σ : Sketch)

/-! ## Lists of formatting elements -/

theorem decide_formatting_ne_marker (e : Formatting) :
    decide (σ.formatting e ≠ .marker) = decide (e ≠ .marker) := by
  cases e <;> rfl

theorem takeWhile_formatting {p : Formatting → Bool} (h : ∀ e, p (σ.formatting e) = p e)
    (es : List Formatting) :
    (es.map σ.formatting).takeWhile p = (es.takeWhile p).map σ.formatting := by
  rw [List.takeWhile_map]
  exact congrArg (fun q => (es.takeWhile q).map σ.formatting) (funext h)

theorem dropWhile_formatting {p : Formatting → Bool} (h : ∀ e, p (σ.formatting e) = p e)
    (es : List Formatting) :
    (es.map σ.formatting).dropWhile p = (es.dropWhile p).map σ.formatting := by
  rw [List.dropWhile_map]
  exact congrArg (fun q => (es.dropWhile q).map σ.formatting) (funext h)

theorem filter_formatting {p : Formatting → Bool} (h : ∀ e, p (σ.formatting e) = p e)
    (es : List Formatting) :
    (es.map σ.formatting).filter p = (es.filter p).map σ.formatting := by
  rw [List.filter_map]
  exact congrArg (fun q => (es.filter q).map σ.formatting) (funext h)

theorem any_formatting {p : Formatting → Bool} (h : ∀ e, p (σ.formatting e) = p e)
    (es : List Formatting) : (es.map σ.formatting).any p = es.any p := by
  rw [List.any_map]
  exact congrArg es.any (funext h)

theorem find?_opened {p : Opened → Bool} (h : ∀ o, p (σ.opened o) = p o) (os : List Opened) :
    (os.map σ.opened).find? p = (os.find? p).map σ.opened := by
  rw [List.find?_map]
  exact congrArg (fun q => (os.find? q).map σ.opened) (funext h)

section
variable (b : Builder)

theorem recentFormatting_builder :
    (σ.builder b).recentFormatting = b.recentFormatting.map σ.opened := by
  rw [recentFormatting, recentFormatting, builder_formatting,
    σ.takeWhile_formatting σ.decide_formatting_ne_marker, List.filterMap_map, List.map_filterMap]
  refine congrArg (fun g => (b.formatting.takeWhile (· ≠ .marker)).filterMap g)
    (funext fun e => ?_)
  cases e <;> rfl

/-- Attributes are compared as sets of pairs, which a sketch tells apart. -/
theorem sameAttributes_attributes (xs ys : List (String × String)) :
    sameAttributes (σ.attributes xs) (σ.attributes ys) = sameAttributes xs ys := by
  have hinj : Function.Injective fun a : String × String => (σ.word a.1, σ.word a.2) :=
    fun a a' h => Prod.ext (σ.injective (Prod.ext_iff.1 h).1) (σ.injective (Prod.ext_iff.1 h).2)
  rw [sameAttributes, sameAttributes, attributes, attributes, List.length_map, List.length_map,
    List.all_map]
  refine congrArg (fun p => xs.length == ys.length && xs.all p) (funext fun a => ?_)
  rw [Function.comp_apply, Bool.eq_iff_iff, List.contains_iff_mem, List.contains_iff_mem,
    List.mem_map]
  constructor
  · rintro ⟨a', ha', he⟩
    exact hinj he ▸ ha'
  · exact fun ha => ⟨a, ha, rfl⟩

theorem removeEarliest_formatting {p q : Opened → Bool} (h : ∀ o, q (σ.opened o) = p o)
    (es : List Formatting) :
    removeEarliest q (es.map σ.formatting) = (removeEarliest p es).map σ.formatting := by
  rw [removeEarliest, removeEarliest, ← List.map_reverse, List.eraseP_map, List.map_reverse]
  refine congrArg (fun g => ((es.reverse.eraseP g).map σ.formatting).reverse) (funext fun e => ?_)
  cases e with
  | marker => rfl
  | element o => exact h o

theorem builder_removeFormatting (node : Nat) :
    σ.builder (b.removeFormatting node) = (σ.builder b).removeFormatting node := by
  refine congrArg (fun es => { σ.builder b with formatting := es })
    (σ.filter_formatting (fun e => ?_) b.formatting).symm
  cases e <;> rfl

theorem builder_forgetAlike (t : Tag) :
    σ.builder (b.forgetAlike t) = (σ.builder b).forgetAlike (σ.tag t) := by
  have halike (o : Opened) :
      ((σ.opened o).element.name == (σ.tag t).name &&
        sameAttributes (σ.opened o).element.attributes (σ.tag t).attributes) =
      (o.element.name == t.name && sameAttributes o.element.attributes t.attributes) := by
    rw [opened_element, element_attributes, tag_attributes, sameAttributes_attributes]
    rfl
  have hcount : (((σ.builder b).recentFormatting.filter fun o =>
        o.element.name == (σ.tag t).name &&
          sameAttributes o.element.attributes (σ.tag t).attributes)).length =
      (b.recentFormatting.filter fun o =>
        o.element.name == t.name && sameAttributes o.element.attributes t.attributes).length := by
    rw [recentFormatting_builder, List.filter_map, List.length_map]
    exact congrArg (fun p => (b.recentFormatting.filter p).length) (funext halike)
  rw [forgetAlike, forgetAlike]
  dsimp only
  rw [hcount]
  split
  · rfl
  · refine congrArg (fun es => { σ.builder b with formatting := es }) ?_
    rw [builder_formatting, σ.takeWhile_formatting σ.decide_formatting_ne_marker,
      σ.removeEarliest_formatting halike, List.length_map, ← List.map_drop, ← List.map_append]

theorem builder_noteOpened : σ.builder b.noteOpened = (σ.builder b).noteOpened := by
  obtain ⟨_, _, _, _, opened, _, _, _, _, _, _, _, _, _⟩ := b
  cases opened <;> rfl

theorem builder_insertFormatting (t : Tag) :
    σ.builder (b.insertFormatting t) = (σ.builder b).insertFormatting (σ.tag t) := by
  rw [insertFormatting_eq, insertFormatting_eq, builder_noteOpened, builder_insert,
    builder_forgetAlike]

theorem builder_reopen (e : Formatting) :
    σ.builder (b.reopen e) = (σ.builder b).reopen (σ.formatting e) := by
  cases e with
  | marker => rfl
  | element o =>
    rw [reopen, builder_noteOpened, builder_insertElement]
    rfl

@[simp] theorem isSettled_builder (e : Formatting) :
    (σ.builder b).isSettled (σ.formatting e) = b.isSettled e := by
  cases e with
  | marker => rfl
  | element o => exact σ.any_opened (fun _ => rfl) b.opened

theorem builder_reconstruct : σ.builder b.reconstruct = (σ.builder b).reconstruct := by
  have hfold (es : List Formatting) : ∀ b : Builder,
      σ.builder (es.foldl reopen b) = (es.map σ.formatting).foldl reopen (σ.builder b) := by
    induction es with
    | nil => exact fun _ => rfl
    | cons e es ih =>
      intro b
      rw [List.map_cons, List.foldl_cons, List.foldl_cons, ih, builder_reopen]
  have hclosed : ((σ.builder b).formatting.takeWhile fun e => !(σ.builder b).isSettled e) =
      (b.formatting.takeWhile fun e => !b.isSettled e).map σ.formatting := by
    rw [builder_formatting, List.takeWhile_map]
    refine congrArg (fun p => (b.formatting.takeWhile p).map σ.formatting) (funext fun e => ?_)
    rw [Function.comp_apply, isSettled_builder]
  rw [reconstruct_eq, reconstruct_eq, hclosed, hfold, List.map_reverse, List.length_map]
  refine congrArg (fun es => List.foldl reopen { σ.builder b with formatting := es } _) ?_
  rw [builder_formatting, List.map_drop]

theorem builder_clearFormatting : σ.builder b.clearFormatting = (σ.builder b).clearFormatting := by
  have hdrop : ((b.formatting.dropWhile (· ≠ .marker)).drop 1).map σ.formatting =
      ((b.formatting.map σ.formatting).dropWhile (· ≠ .marker)).drop 1 := by
    rw [σ.dropWhile_formatting σ.decide_formatting_ne_marker, List.map_drop]
  exact congrArg (fun es => { σ.builder b with formatting := es }) hdrop

theorem builder_pushMarker : σ.builder b.pushMarker = (σ.builder b).pushMarker := rfl

theorem builder_endOther (name : String) :
    σ.builder (b.endOther name) = (σ.builder b).endOther name := by
  rw [endOther, endOther, builder_opened, σ.inScope_opened (fun _ => rfl) fun _ => rfl]
  split
  · rw [builder_popThrough, builder_closeImplied]
  · rfl

theorem builder_replaceFormatting (node : Nat) (o : Opened) :
    σ.builder (b.replaceFormatting node o) =
      (σ.builder b).replaceFormatting node (σ.opened o) := by
  have hmap : ((b.replaceFormatting node o).formatting).map σ.formatting =
      ((σ.builder b).replaceFormatting node (σ.opened o)).formatting := by
    rw [replaceFormatting, replaceFormatting, builder_formatting, List.map_map, List.map_map]
    refine congrArg (fun g => b.formatting.map g) (funext fun e => ?_)
    cases e with
    | marker => rfl
    | element old =>
      simp only [Function.comp_apply, formatting]
      by_cases h : old.node = node
      · rw [if_pos h, if_pos (show (σ.opened old).node = node from h)]
      · rw [if_neg h, if_neg (show ¬ (σ.opened old).node = node from h)]
  exact congrArg (fun es => { σ.builder b with formatting := es }) hmap

@[simp] theorem isFormatting_builder (node : Nat) :
    (σ.builder b).isFormatting node = b.isFormatting node := by
  refine σ.any_formatting (fun e => ?_) b.formatting
  cases e <;> rfl

end

/-! ## Adoption -/

/-- The sketch of what the inner loop of the adoption works on. -/
def adoption (a : Adoption) : Adoption :=
  ⟨σ.builder a.builder, a.outer.map σ.opened, a.inner.map σ.opened, a.last, a.bookmark⟩

theorem adoption_copy (a : Adoption) (furthest : Nat) (o : Opened) (outer : List Opened) :
    σ.adoption (a.copy furthest o outer) =
      (σ.adoption a).copy furthest (σ.opened o) (outer.map σ.opened) := by
  have hcreate := σ.create_builder a.builder o.element
  have hreplace := σ.builder_replaceFormatting (a.builder.create o.element).1 o.node
    (a.builder.create o.element).2
  rw [Adoption.copy, Adoption.copy, opened_element]
  simp only [adoption] at hcreate ⊢
  rw [hcreate]
  dsimp only
  rw [opened_node, ← hreplace]
  simp only [builder, forest_append, forest_detach, List.map_cons, opened_node, opened_inside]
  rfl

theorem adoption_adoptBetween (subject furthest fuel : Nat) : ∀ (count : Nat) (a : Adoption),
    σ.adoption (adoptBetween subject furthest fuel count a) =
      adoptBetween subject furthest fuel count (σ.adoption a) := by
  induction fuel with
  | zero => exact fun _ _ => rfl
  | succ fuel ih =>
    intro count a
    obtain ⟨b, outer, inner, last, bookmark⟩ := a
    cases outer with
    | nil => rfl
    | cons o outer =>
      have hcons := adoptBetween_cons subject furthest fuel count (σ.builder b) (σ.opened o)
        (outer.map σ.opened) (inner.map σ.opened) last bookmark
      rw [adoptBetween_cons]
      refine Eq.trans ?_ hcons.symm
      rw [opened_node, isFormatting_builder, ← builder_removeFormatting]
      split
      · rfl
      · split
        · exact ih _ _
        · split
          · exact ih _ _
          · rw [ih, adoption_copy]
            rfl

section
variable (b : Builder)

theorem builder_placeFormatting (subject : Nat) (new : Opened) (bookmark : Bookmark) :
    σ.builder (b.placeFormatting subject new bookmark) =
      (σ.builder b).placeFormatting subject (σ.opened new) bookmark := by
  cases bookmark with
  | inPlaceOf node => exact σ.builder_replaceFormatting b node new
  | after node =>
    have hmap : ((b.placeFormatting subject new (.after node)).formatting).map σ.formatting =
        ((σ.builder b).placeFormatting subject (σ.opened new) (.after node)).formatting := by
      rw [placeFormatting, placeFormatting, builder_formatting, List.map_flatMap,
        List.flatMap_map]
      refine congrArg (fun g => b.formatting.flatMap g) (funext fun e => ?_)
      cases e with
      | marker => rfl
      | element o =>
        by_cases h : o.node = node
        · exact (congrArg (List.map σ.formatting) (if_pos h)).trans (if_pos h).symm
        · by_cases h' : o.node = subject
          · exact (congrArg (List.map σ.formatting) ((if_neg h).trans (if_pos h'))).trans
              ((if_neg h).trans (if_pos h')).symm
          · exact (congrArg (List.map σ.formatting) ((if_neg h).trans (if_neg h'))).trans
              ((if_neg h).trans (if_neg h')).symm
    exact congrArg (fun es => { σ.builder b with formatting := es }) hmap

theorem builder_moveInto (node : Nat) (target : Option Opened) :
    σ.builder (b.moveInto node target) =
      (σ.builder b).moveInto node (target.map σ.opened) := by
  have hdetach : σ.builder { b with forest := b.forest.detach node } =
      { σ.builder b with forest := (σ.forest b.forest).detach node } := by
    simp only [builder, forest_detach]
  cases target with
  | none => exact hdetach
  | some o =>
    rw [Option.map_some, moveInto, moveInto, builder_put, hdetach, ← σ.spotIn_builder, hdetach]
    rfl

theorem builder_finish (a : Adoption) (common : Option Opened) (subject furthest : Opened)
    (inside : List Opened) :
    σ.builder (a.finish common subject furthest inside) =
      (σ.adoption a).finish (common.map σ.opened) (σ.opened subject) (σ.opened furthest)
        (inside.map σ.opened) := by
  have hcreate := σ.create_builder (a.builder.moveInto a.last common) subject.element
  have hbuilder : (σ.adoption a).builder = σ.builder a.builder := rfl
  have hlast : (σ.adoption a).last = a.last := rfl
  rw [Adoption.finish, Adoption.finish, hbuilder, hlast, ← builder_moveInto, opened_element,
    hcreate]
  dsimp only
  obtain ⟨b, new⟩ := (a.builder.moveInto a.last common).create subject.element
  have hmoved : σ.builder { b with
        forest := (b.forest.moveChildren furthest.node new.node).append furthest.node new.node } =
      { σ.builder b with
        forest := ((σ.forest b.forest).moveChildren furthest.node new.node).append furthest.node
          new.node } := by
    simp only [builder, forest_append, forest_moveChildren]
  have hplaced := σ.builder_placeFormatting { b with
    forest := (b.forest.moveChildren furthest.node new.node).append furthest.node new.node }
    subject.node new a.bookmark
  have hopened : (inside ++ new :: furthest ::
        (a.inner.reverse ++ a.outer.filter (·.node ≠ subject.node))).map σ.opened =
      inside.map σ.opened ++ σ.opened new :: σ.opened furthest ::
        ((a.inner.map σ.opened).reverse ++
          (a.outer.map σ.opened).filter (·.node ≠ subject.node)) := by
    rw [σ.filter_opened fun _ => rfl, List.map_append, List.map_cons, List.map_cons,
      List.map_append, List.map_reverse]
  rw [hmoved] at hplaced
  exact congr (congrArg (fun (b : Builder) os => { b with opened := os }) hplaced) hopened

theorem builder_split (subject furthest : Opened) :
    σ.builder (b.split subject furthest) =
      (σ.builder b).split (σ.opened subject) (σ.opened furthest) := by
  have hloop := σ.adoption_adoptBetween subject.node furthest.node
  rw [split_eq, split_eq]
  dsimp only
  rw [builder_opened, σ.takeWhile_opened fun _ => rfl, List.length_map, ← List.map_drop,
    σ.dropWhile_opened fun _ => rfl, ← List.map_drop, List.head?_map, List.length_map,
    builder_finish, hloop]
  rfl

theorem nodeInScope_opened (node : Nat) (os : List Opened) :
    nodeInScope node (os.map σ.opened) = nodeInScope node os := by
  induction os with
  | nil => rfl
  | cons o os ih =>
    rw [List.map_cons, nodeInScope, nodeInScope, ih]
    rfl

theorem adoptOnce_builder (name : String) :
    (σ.builder b).adoptOnce name = (σ.builder (b.adoptOnce name).1, (b.adoptOnce name).2) := by
  rw [adoptOnce, adoptOnce, recentFormatting_builder, σ.find?_opened fun _ => rfl]
  cases b.recentFormatting.find? (·.element.name == name) with
  | none => rw [Option.map_none, builder_endOther]
  | some subject =>
    rw [Option.map_some]
    dsimp only
    rw [builder_opened, σ.any_opened fun _ => rfl, opened_node, nodeInScope_opened,
      σ.takeWhile_opened fun _ => rfl, ← List.map_reverse, σ.find?_opened fun _ => rfl]
    split
    · rw [builder_removeFormatting]
    · split
      · rfl
      · cases (b.opened.takeWhile (·.node ≠ subject.node)).reverse.find? (·.element.isSpecial) with
        | none =>
          rw [Option.map_none]
          dsimp only
          rw [builder_removeFormatting]
          simp only [builder, List.map_drop, List.length_map]
        | some furthest =>
          rw [Option.map_some]
          dsimp only
          rw [builder_split]

end

theorem builder_adoptRounds (name : String) (n : Nat) : ∀ b : Builder,
    σ.builder (adoptRounds name n b) = adoptRounds name n (σ.builder b) := by
  induction n with
  | zero => exact fun _ => rfl
  | succ n ih =>
    intro b
    rw [adoptRounds, adoptRounds, adoptOnce_builder]
    obtain ⟨b', more⟩ := b.adoptOnce name
    cases more with
    | true => exact ih b'
    | false => rfl

theorem builder_adopt (b : Builder) (name : String) :
    σ.builder (b.adopt name) = (σ.builder b).adopt name := by
  rw [adopt, adopt, builder_opened]
  cases b.opened with
  | nil => rfl
  | cons o os =>
    rw [List.map_cons]
    dsimp only
    rw [opened_element, isHtml_element, opened_node, isFormatting_builder]
    split
    · exact σ.builder_pop b
    · exact σ.builder_adoptRounds name 8 b

end Sketch

end Stencil.Html
