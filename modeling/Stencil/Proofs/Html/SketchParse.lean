import Mathlib.Data.List.Forall2
import Stencil.Html.Parse
import Stencil.Proofs.Document.Relabeling
import Stencil.Proofs.Html.SketchRest

/-!
# Trees with the same sketch

Two builders with the same sketch, maybe under two ways to sketch, are led to builders with the same
sketch again by lexemes that are alike. A step that is not settled goes on with the same lexeme
(`builder_settle`), and of a lexeme only what is processed has to be alike, since a line feed may be
dropped (`Alike`). So it is for every list of lexemes (`builder_foldl_process`). The document that is
built is then determined up to texts (`relabel_toDocument`).
-/

namespace Stencil.Html

/-- What is processed of a lexeme, if anything: a line feed at the start of its text may be
dropped, and an empty text is none. -/
def Lexeme.trim? (skip : Bool) : Lexeme → Option Lexeme
  | .blank s =>
    let s := if skip then dropLineFeed s else s
    if s.isEmpty then none else some (.blank s)
  | .text s =>
    let s := if skip then dropLineFeed s else s
    if s.isEmpty then none else some (.text s)
  | x => some x

theorem process_eq (b : Builder) (x : Lexeme) :
    process b x =
      match x.trim? b.skipLineFeed with
      | none => { b with skipLineFeed := false }
      | some x =>
        settle (patience { b with skipLineFeed := false }) { b with skipLineFeed := false } x := by
  cases x with
  | blank s | text s =>
    dsimp only [process, Lexeme.trim?]
    generalize (if b.skipLineFeed = true then dropLineFeed s else s) = rest
    split <;> rfl
  | _ => rfl

namespace Sketch

/-- Two lexemes are alike in two sketches: what is processed of them is sketched as the same. -/
def Alike (σ τ : Sketch) (x y : Lexeme) : Prop :=
  ∀ skip, (x.trim? skip).map σ.lexeme = (y.trim? skip).map τ.lexeme

variable {σ τ : Sketch}

section
variable (σ)

theorem builder_settle (n : Nat) : ∀ (σ : Sketch) (b : Builder) (x : Lexeme),
    σ.builder (settle n b x) = textless.builder (settle n (σ.builder b) (σ.lexeme x)) := by
  induction n with
  | zero => exact fun σ b _ => (σ.textless_builder b).symm
  | succ n ih =>
    intro σ b x
    have hturn := σ.turn_dispatch b x
    rw [settle, settle]
    cases hd : Insertion.dispatch b x with
    | done b₁ =>
      cases hd' : Insertion.dispatch (σ.builder b) (σ.lexeme x) with
      | done b₂ =>
        rw [hd, hd'] at hturn
        exact Turn.done.inj hturn
      | again b₂ x₂ =>
        rw [hd, hd'] at hturn
        cases hturn
    | again b₁ x₁ =>
      cases hd' : Insertion.dispatch (σ.builder b) (σ.lexeme x) with
      | done b₂ =>
        rw [hd, hd'] at hturn
        cases hturn
      | again b₂ x₂ =>
        rw [hd, hd'] at hturn
        obtain ⟨hb, hx⟩ := Turn.again.inj hturn
        dsimp only
        rw [ih σ, hb, hx, ← ih textless]

end

section
variable {b b' : Builder}

theorem builder_settle_eq (h : σ.builder b = τ.builder b') {x y : Lexeme}
    (hx : σ.lexeme x = τ.lexeme y) (n : Nat) :
    σ.builder (settle n b x) = τ.builder (settle n b' y) := by
  rw [builder_settle n σ, builder_settle n τ, h, hx]

theorem patience_eq (h : σ.builder b = τ.builder b') : patience b = patience b' := by
  have hopened := congrArg (fun b : Builder => b.opened.length) h
  have hmodes := congrArg Builder.templateModes h
  simp only [builder_opened, List.length_map, builder_templateModes] at hopened hmodes
  rw [patience, patience, hopened, hmodes]

theorem builder_process (h : σ.builder b = τ.builder b') {x y : Lexeme} (hx : Alike σ τ x y) :
    σ.builder (process b x) = τ.builder (process b' y) := by
  have hskip : (σ.builder b).skipLineFeed = (τ.builder b').skipLineFeed :=
    congrArg Builder.skipLineFeed h
  have hclear : σ.builder { b with skipLineFeed := false } =
      τ.builder { b' with skipLineFeed := false } :=
    congrArg (fun b : Builder => { b with skipLineFeed := false }) h
  have htrim := hx b.skipLineFeed
  rw [builder_skipLineFeed, builder_skipLineFeed] at hskip
  rw [process_eq, process_eq, ← hskip, patience_eq hclear]
  cases hx' : x.trim? b.skipLineFeed with
  | none =>
    rw [hx', Option.map_none, eq_comm, Option.map_eq_none_iff] at htrim
    rw [htrim]
    exact hclear
  | some x' =>
    cases hy' : y.trim? b.skipLineFeed with
    | none =>
      rw [hx', hy'] at htrim
      cases htrim
    | some y' =>
      rw [hx', hy', Option.map_some, Option.map_some, Option.some.injEq] at htrim
      exact builder_settle_eq hclear htrim _

theorem builder_foldl_process {xs ys : List Lexeme} (hxs : List.Forall₂ (Alike σ τ) xs ys) :
    ∀ {b b' : Builder}, σ.builder b = τ.builder b' →
      σ.builder (xs.foldl process b) = τ.builder (ys.foldl process b') := by
  induction hxs with
  | nil => exact fun h => h
  | cons hx _ ih => exact fun h => ih (builder_process h hx)

theorem allowsSections_eq (h : σ.builder b = τ.builder b') :
    allowsSections b = allowsSections b' := by
  have hopened := congrArg (fun b : Builder => b.opened.map fun o => o.element.language) h
  simp only [builder_opened, List.map_map] at hopened
  rw [allowsSections, allowsSections]
  cases hb : b.opened with
  | nil =>
    cases hb' : b'.opened with
    | nil => rfl
    | cons o' _ =>
      rw [hb, hb'] at hopened
      cases hopened
  | cons o _ =>
    cases hb' : b'.opened with
    | nil =>
      rw [hb, hb'] at hopened
      cases hopened
    | cons o' _ =>
      rw [hb, hb'] at hopened
      have hlanguage : o.element.language = o'.element.language := (List.cons.inj hopened).1
      dsimp only
      rw [hlanguage]

end

/-! ## Finished documents -/

variable (σ : Sketch)

theorem relabel_toNode (f : Forest) (depth : Nat) : ∀ n,
    ((σ.forest f).toNode depth n).map (Node.relabel id fun _ => "") =
      (f.toNode depth n).map (Node.relabel σ.word fun _ => "") := by
  induction depth with
  | zero => exact fun _ => rfl
  | succ depth ih =>
    intro n
    have hcell : (σ.forest f).cells[n]? = f.cells[n]?.map σ.cell := Array.getElem?_map
    rw [Forest.toNode, Forest.toNode, hcell]
    cases f.cells[n]? with
    | none => rfl
    | some c =>
      obtain ⟨content, parent, children⟩ := c
      cases content with
      | element e =>
        have hmark := σ.lookup_attributes (show markerAttribute.length < 32 by decide)
          e.attributes
        have hchildren : (children.toList.filterMap ((σ.forest f).toNode depth)).map
              (Node.relabel id fun _ => "") =
            (children.toList.filterMap (f.toNode depth)).map
              (Node.relabel σ.word fun _ => "") := by
          rw [List.map_filterMap, List.map_filterMap]
          exact congrArg (fun g => children.toList.filterMap g) (funext ih)
        simp only [Option.map_some, cell, content, Node.relabel, Node.relabelAll_eq_map, hchildren,
          element_attributes, element_name, hmark, Option.map_map, Function.id_comp]
      | text s => rfl
      | comment s => rfl
      | doctype s => rfl
      | document => rfl
      | fragment => rfl

theorem relabel_toDocument (f : Forest) :
    (σ.forest f).toDocument.relabel id (fun _ => "") =
      f.toDocument.relabel σ.word fun _ => "" := by
  have hsize : (σ.forest f).cells.size = f.cells.size := Array.size_map
  rw [Document.relabel, Document.relabel, Forest.toDocument, Forest.toDocument, children_forest,
    hsize, Node.relabelAll_eq_map, Node.relabelAll_eq_map, List.map_filterMap, List.map_filterMap]
  exact congrArg (fun g => Document.mk ((f.children Forest.documentCell).toList.filterMap g))
    (funext (σ.relabel_toNode f f.cells.size))

end Sketch

end Stencil.Html
