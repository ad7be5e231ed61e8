import Stencil.Proofs.Token.Shape

/-!
# Renaming identifiers

`Token.renameIds` puts other identifiers in the place of those in a token tree. A renamed tree has
the shape of the old one, whatever the renaming is (`sameShape_renameIds`).
-/

namespace Stencil

namespace Token

mutual

/-- The tree with its identifiers renamed. -/
def renameIds (f : MarkerId → MarkerId) : Token → Token
  | ⟨kind, name, span, markerId, children, address⟩ =>
    ⟨kind, name, span, markerId.map f, renameIdsAll f children, address⟩

/-- The trees of a list with their identifiers renamed. -/
def renameIdsAll (f : MarkerId → MarkerId) : List Token → List Token
  | [] => []
  | t :: ts => renameIds f t :: renameIdsAll f ts

end

section
variable (f : MarkerId → MarkerId) (t : Token)

theorem renameIdsAll_eq_map (ts : List Token) : renameIdsAll f ts = ts.map (renameIds f) := by
  induction ts with
  | nil => rfl
  | cons t ts ih => rw [renameIdsAll, ih, List.map_cons]

theorem renameIds_eq :
    t.renameIds f =
      { t with markerId := t.markerId.map f, children := t.children.map (renameIds f) } := by
  cases t
  rw [renameIds, renameIdsAll_eq_map]

@[simp] theorem kind_renameIds : (t.renameIds f).kind = t.kind := by rw [renameIds_eq]

@[simp] theorem name_renameIds : (t.renameIds f).name = t.name := by rw [renameIds_eq]

@[simp] theorem span_renameIds : (t.renameIds f).span = t.span := by rw [renameIds_eq]

@[simp] theorem markerId_renameIds : (t.renameIds f).markerId = t.markerId.map f := by
  rw [renameIds_eq]

@[simp] theorem children_renameIds :
    (t.renameIds f).children = t.children.map (renameIds f) := by
  rw [renameIds_eq]

@[simp] theorem label_renameIds : (t.renameIds f).label = t.label := by
  rw [label, label, name_renameIds]

end

mutual

theorem renameIds_id : ∀ t : Token, t.renameIds id = t
  | ⟨_, _, _, _, children, _⟩ => by rw [renameIds, Option.map_id, renameIdsAll_id children, id]

theorem renameIdsAll_id : ∀ ts : List Token, renameIdsAll id ts = ts
  | [] => rfl
  | t :: ts => by rw [renameIdsAll, renameIds_id t, renameIdsAll_id ts]

end

theorem map_renameIds_id (ts : List Token) : ts.map (renameIds id) = ts := by
  rw [← renameIdsAll_eq_map, renameIdsAll_id]

/-! ## Shape -/

section
variable (f : MarkerId → MarkerId) (t : Token)

/-- Nothing but the identifiers of a tree is renamed. -/
theorem eraseIds_renameIds : (t.renameIds f).eraseIds = t.eraseIds := by
  induction t using Branching.induction with
  | h t ih =>
    rw [eraseIds_eq, eraseIds_eq t, renameIds_eq, List.map_map]
    exact congrArg (fun children => { t with markerId := none, children })
      (List.map_congr_left ih)

/-- **A renamed tree has the shape of the old one.** -/
theorem sameShape_renameIds : t.sameShape (t.renameIds f) = true :=
  sameShape_eq_true_iff.2 (eraseIds_renameIds f t).symm

end

end Token

namespace Blueprint

/-- The blueprint with the identifiers of its tree renamed. -/
def renameIds (f : MarkerId → MarkerId) (b : Blueprint) : Blueprint :=
  ⟨b.name, b.root.renameIds f⟩

theorem renameIds_id (b : Blueprint) : b.renameIds id = b := by
  rw [renameIds, Token.renameIds_id]

theorem sameShape_renameIds (f : MarkerId → MarkerId) (b : Blueprint) :
    b.sameShape (b.renameIds f) = true := by
  rw [sameShape, renameIds, Token.sameShape_renameIds, beq_self_eq_true, Bool.and_self]

end Blueprint

end Stencil
