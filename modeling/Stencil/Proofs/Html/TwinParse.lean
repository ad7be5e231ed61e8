import Stencil.Proofs.Html.TwinRaw

/-!
# Documents read with two supplies of identifiers

The reader lets the lexer and the builder take turns: the builder tells the content model and
whether sections are allowed, which twins agree on, since their builders have the same sketch. The
names in the content model are those of elements whose content is text (`Known`), which is shown
with a sketch that changes all others. `builder_consume` is the loop, by induction on its bound, and
`relabel_read` says what it comes to for the documents.
-/

namespace Stencil.Html

open Glyph

/-! ## Names of content models -/

/-- The sketch that changes a content model if its name is not one of an element whose content is
text, and nothing else but texts. -/
def Sketch.checked : Sketch :=
  { textless with
    model := fun name => if textNames.contains name then name else "title"
    fixes := fun _ h => if_pos (List.contains_iff_mem.2 h) }

/-- There are no texts and attributes before anything is read. -/
theorem Sketch.builder_empty (σ : Sketch) : σ.builder {} = {} := by
  have hforest : σ.forest .empty = .empty := by
    rw [forest, Forest.empty, List.map_toArray]
    rfl
  rw [builder, hforest]
  rfl

/-- Only known names have come into the content model. -/
def Known (b : Builder) : Prop := Sketch.checked.builder b = Sketch.textless.builder b

theorem Known.isKnown {b : Builder} (h : Known b) : IsKnown b.model := by
  have hmodel : Sketch.checked.contentModel b.model = Sketch.textless.contentModel b.model :=
    congrArg Builder.model h
  have hname {name : String} (hn : (if textNames.contains name then name else "title") = name) :
      name ∈ textNames := by
    rw [← List.contains_iff_mem]
    split at hn
    · next hmem => exact hmem
    · rw [← hn]
      decide
  cases hm : b.model with
  | escapable name =>
    rw [hm] at hmodel
    exact hname (ContentModel.escapable.inj hmodel)
  | raw name =>
    rw [hm] at hmodel
    exact hname (ContentModel.raw.inj hmodel)
  | data | script | plaintext => trivial

theorem Known.foldl_process {b : Builder} (h : Known b) (xs : List Lexeme) :
    Known (xs.foldl process { b with model := .data }) := by
  have hclear : Sketch.checked.builder { b with model := .data } =
      Sketch.textless.builder { b with model := .data } :=
    congrArg (fun b : Builder => { b with model := .data }) h
  exact Sketch.builder_foldl_process (List.forall₂_same.2 fun x _ _ => by rfl) hclear

/-! ## Reading -/

section
variable {π : Equiv.Perm MarkerId} {ids ids' : IdSupply}

theorem consume_nil (n : Nat) (b : Builder) : consume n [] b = b := by
  cases n <;> rfl

theorem consume_cons (n : Nat) (c : Char) (r : List Char) (b : Builder) :
    consume (n + 1) (c :: r) b =
      consume n (next b.model (allowsSections b) (c :: r)).2
        ((next b.model (allowsSections b) (c :: r)).1.foldl process { b with model := .data }) :=
  rfl

theorem contentModel_renamed (m : ContentModel) : (Sketch.renamed π).contentModel m = m := by
  cases m <;> rfl

/-- Two readings of a text take two builders with the same sketch to such builders. -/
theorem builder_consume (n : Nat) : ∀ {t : List Glyph} {b b' : Builder}, Whole π ids ids' t →
    Known b → (Sketch.renamed π).builder b = Sketch.textless.builder b' →
    (Sketch.renamed π).builder (consume n (t.map (read ids)) b) =
      Sketch.textless.builder (consume n (t.map (read ids')) b') := by
  induction n with
  | zero => exact fun _ _ hb => hb
  | succ n ih =>
    intro t b b' h hk hb
    cases t with
    | nil =>
      rw [List.map_nil, List.map_nil, consume_nil, consume_nil]
      exact hb
    | cons g t =>
      have hmodel : (Sketch.renamed π).contentModel b.model =
          Sketch.textless.contentModel b'.model := congrArg Builder.model hb
      rw [contentModel_renamed, Sketch.textless_contentModel] at hmodel
      obtain ⟨hlexemes, u, hu, hrest, hrest'⟩ := next_twin hk.isKnown (allowsSections b) h
      rw [List.map_cons, List.map_cons, consume_cons, consume_cons, ← hmodel,
        ← Sketch.allowsSections_eq hb, ← List.map_cons, ← List.map_cons, hrest, hrest']
      refine ih hu (hk.foldl_process _) (Sketch.builder_foldl_process hlexemes ?_)
      exact congrArg (fun b : Builder => { b with model := .data }) hb

/-- A document is read from a text up to the texts in it, and the identifiers in its attributes
follow the renaming. -/
theorem relabel_read {t : List Glyph} (h : Whole π ids ids' t) :
    (process (consume (t.length + 1) (t.map (read ids)) {}) .eof).forest.toDocument.relabel
        (Sketch.renamed π).word (fun _ => "") =
      (process (consume (t.length + 1) (t.map (read ids')) {}) .eof).forest.toDocument.relabel id
        fun _ => "" := by
  have hempty (σ τ : Sketch) : σ.builder {} = τ.builder {} := by
    rw [Sketch.builder_empty, Sketch.builder_empty]
  have hconsume := builder_consume (t.length + 1) h (hempty ..) (hempty ..)
  have hbuilder := Sketch.builder_process hconsume like_eof
  have hforest := congrArg Builder.forest hbuilder
  rw [Sketch.builder_forest, Sketch.builder_forest] at hforest
  rw [← Sketch.relabel_toDocument, hforest, Sketch.relabel_toDocument]
  rfl

end

end Stencil.Html
