import Stencil.Blueprint
import Stencil.Proofs.Positions

/-!
# Shape is all but the identifiers

Two trees have one shape if they are equal without their identifiers. Each pair on the work list
stands for that question about its two trees, and taking a pair off the list puts the same questions
about the fields in its place (`eraseIds_eq_iff`); the fields can be compared in pairs because their
numbers have been compared before. So the order in which pairs are taken off the list does not
matter: every run of the list comes to the same answer (`Compares`).
-/

namespace Stencil

open Branching (at?)

/-- Lists have the same images if they are of one length and their elements agree in pairs. -/
theorem map_eq_map_iff_zip {α β : Type} {f : α → β} {xs ys : List α} :
    xs.map f = ys.map f ↔ xs.length = ys.length ∧ ∀ p ∈ xs.zip ys, f p.1 = f p.2 := by
  induction xs generalizing ys with
  | nil => cases ys <;> simp
  | cons x xs ih =>
    cases ys with
    | nil => simp
    | cons y ys => simp [ih, and_left_comm]

namespace Token

theorem eraseIdsAll_eq_map (ts : List Token) : eraseIdsAll ts = ts.map eraseIds := by
  induction ts with
  | nil => rfl
  | cons t ts ih => rw [eraseIdsAll, ih, List.map_cons]

theorem eraseIds_eq (t : Token) :
    t.eraseIds = { t with markerId := none, children := t.children.map eraseIds } := by
  cases t
  rw [eraseIds, eraseIdsAll_eq_map]

theorem agrees_iff {a b : Token} : agrees a b = true ↔
    a.kind = b.kind ∧ a.name = b.name ∧ a.span = b.span ∧ a.address = b.address ∧
      a.children.length = b.children.length := by
  simp [agrees, and_assoc]

/-- Trees are equal without their identifiers if they agree at the top and their fields are equal
without identifiers in pairs. -/
theorem eraseIds_eq_iff {a b : Token} : a.eraseIds = b.eraseIds ↔
    agrees a b = true ∧ ∀ p ∈ a.children.zip b.children, p.1.eraseIds = p.2.eraseIds := by
  rw [eraseIds_eq a, eraseIds_eq b, Token.mk.injEq, agrees_iff, map_eq_map_iff_zip]
  constructor
  · rintro ⟨hkind, hname, hspan, -, ⟨hlength, hfields⟩, haddress⟩
    exact ⟨⟨hkind, hname, hspan, haddress, hlength⟩, hfields⟩
  · rintro ⟨⟨hkind, hname, hspan, haddress, hlength⟩, hfields⟩
    exact ⟨hkind, hname, hspan, rfl, ⟨hlength, hfields⟩, haddress⟩

/-- What a work list is to find out: whether the trees of all its pairs are equal without their
identifiers. -/
def AllShaped (work : List (Token × Token)) : Prop := ∀ p ∈ work, p.1.eraseIds = p.2.eraseIds

theorem allShaped_cons {a b : Token} {rest : List (Token × Token)} :
    AllShaped ((a, b) :: rest) ↔
      agrees a b = true ∧ AllShaped (a.children.zip b.children ++ rest) := by
  rw [AllShaped, AllShaped, List.forall_mem_cons, List.forall_mem_append, ← and_assoc,
    ← eraseIds_eq_iff]

theorem sameShapeList_eq_true_iff {work : List (Token × Token)} :
    sameShapeList work = true ↔ AllShaped work := by
  fun_induction sameShapeList work with
  | case1 => exact ⟨fun _ => List.forall_mem_nil _, fun _ => rfl⟩
  | case2 a b rest hagree ih => rw [ih, allShaped_cons, and_iff_right hagree]
  | case3 a b rest hdiffer => simp [allShaped_cons, hdiffer]

theorem sameShape_eq_true_iff {a b : Token} :
    a.sameShape b = true ↔ a.eraseIds = b.eraseIds := by
  rw [sameShape, sameShapeList_eq_true_iff]
  exact List.forall_mem_singleton

/-- The answers of a work list whose pairs may be taken off in any order. -/
inductive Compares : List (Token × Token) → Bool → Prop where
  | done : Compares [] true
  | differ {work rest : List (Token × Token)} {a b : Token} (hpair : work.Perm ((a, b) :: rest))
    (h : agrees a b = false) : Compares work false
  | agree {work rest : List (Token × Token)} {a b : Token} {answer : Bool}
    (hpair : work.Perm ((a, b) :: rest)) (h : agrees a b = true)
    (hrest : Compares (a.children.zip b.children ++ rest) answer) : Compares work answer

theorem AllShaped.perm_iff {work work' : List (Token × Token)} (h : work.Perm work') :
    AllShaped work ↔ AllShaped work' :=
  forall_congr' fun _ => imp_congr_left h.mem_iff

/-- A run in any order finds out what the list is to find out. -/
theorem Compares.iff {work : List (Token × Token)} {answer : Bool} (h : Compares work answer) :
    answer = true ↔ AllShaped work := by
  induction h with
  | done => exact ⟨fun _ => List.forall_mem_nil _, fun _ => rfl⟩
  | differ hpair h => simp [AllShaped.perm_iff hpair, allShaped_cons, h]
  | agree hpair h _ ih => rw [ih, AllShaped.perm_iff hpair, allShaped_cons, and_iff_right h]

/-- Taking the pairs off at the front is one of the orders. -/
theorem compares_sameShapeList (work : List (Token × Token)) :
    Compares work (sameShapeList work) := by
  fun_induction sameShapeList work with
  | case1 => exact .done
  | case2 a b rest hagree ih => exact .agree (List.Perm.refl _) hagree ih
  | case3 a b rest hdiffer => exact .differ (List.Perm.refl _) (Bool.eq_false_iff.2 hdiffer)

/-- Trees with one shape and the same identifiers at the same positions are equal. -/
theorem eq_of_eraseIds_eq {a b : Token} (h : a.eraseIds = b.eraseIds)
    (hids : ∀ p u v, at? a p = some u → at? b p = some v → u.markerId = v.markerId) : a = b := by
  induction a using Branching.induction generalizing b with
  | h a ih =>
    have hid : a.markerId = b.markerId := hids [] a b rfl rfl
    rw [eraseIds_eq a, eraseIds_eq b, Token.mk.injEq] at h
    obtain ⟨hkind, hname, hspan, -, hmap, haddress⟩ := h
    have hchildren : a.children = b.children := by
      refine List.ext_getElem (map_eq_map_iff_zip.1 hmap).1 fun i hi hj => ?_
      have herased : (a.children[i]).eraseIds = (b.children[i]).eraseIds := by
        simpa [hi, hj] using congrArg (·[i]?) hmap
      refine ih _ (List.getElem_mem hi) herased fun p u v hu hv => hids (i :: p) u v ?_ ?_
      · exact Branching.at?_cons_eq_some_iff.2 ⟨_, List.getElem?_eq_getElem hi, hu⟩
      · exact Branching.at?_cons_eq_some_iff.2 ⟨_, List.getElem?_eq_getElem hj, hv⟩
    cases a
    cases b
    cases hkind
    cases hname
    cases hspan
    cases hid
    cases hchildren
    cases haddress
    rfl

/-- **Shape is equality without identifiers.** The loop over a work list answers that two trees have
one shape exactly when they are equal once the identifiers of all their tokens are erased, and it
would answer the same if the pairs were taken off the list in any other order. So it is an
equivalence, and two trees are equal exactly when they have one shape and carry the same identifiers
at the same positions. -/
theorem sameShape_ignores_identifiers :
    (∀ a b : Token, (a.sameShape b = true ↔ a.eraseIds = b.eraseIds) ∧
      ∀ answer, Compares [(a, b)] answer ↔ answer = a.sameShape b) ∧
    Equivalence (fun a b : Token => a.sameShape b = true) ∧
    ∀ a b : Token, a = b ↔ a.sameShape b = true ∧
      ∀ p u v, at? a p = some u → at? b p = some v → u.markerId = v.markerId := by
  refine ⟨fun a b => ⟨sameShape_eq_true_iff, fun answer => ⟨fun h => ?_, ?_⟩⟩, ?_, fun a b => ?_⟩
  · exact Bool.eq_iff_iff.2 (h.iff.trans sameShapeList_eq_true_iff.symm)
  · rintro rfl
    exact compares_sameShapeList _
  · simp only [sameShape_eq_true_iff]
    exact ⟨fun a => rfl, Eq.symm, Eq.trans⟩
  · rw [sameShape_eq_true_iff]
    constructor
    · rintro rfl
      exact ⟨rfl, fun p u v hu hv => by cases hu.symm.trans hv; rfl⟩
    · rintro ⟨hshape, hids⟩
      exact eq_of_eraseIds_eq hshape hids

end Token

/-- Blueprints have one shape if they have one name and trees that are equal without identifiers. -/
theorem Blueprint.sameShape_eq_true_iff {a b : Blueprint} :
    a.sameShape b = true ↔ a.name = b.name ∧ a.root.eraseIds = b.root.eraseIds := by
  rw [sameShape, Bool.and_eq_true, beq_iff_eq, Token.sameShape_eq_true_iff]

end Stencil
