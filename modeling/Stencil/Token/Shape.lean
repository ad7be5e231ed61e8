import Stencil.Token

/-!
# Shape of token trees

Two compilations of one sample differ in their marker identifiers only. `sameShape` compares two
trees part by part with a work list and leaves the identifiers out; `eraseIds` removes them from a
tree, so that the same comparison is an equality.
-/

namespace Stencil.Token

/-- Whether two tokens agree in all but their identifiers and what their fields hold. -/
def agrees (a b : Token) : Bool :=
  a.kind == b.kind && a.name == b.name && a.span == b.span && a.address == b.address &&
    a.children.length == b.children.length

theorem sizeAll_map_fst_zip_le (xs ys : List Token) :
    sizeAll ((xs.zip ys).map (·.1)) ≤ sizeAll xs := by
  induction xs generalizing ys with
  | nil => simp
  | cons x xs ih =>
    cases ys with
    | nil => simp [sizeAll]
    | cons y ys => simpa [sizeAll] using ih ys

/-- Compares the pairs on a work list; the fields of an agreeing pair are compared in pairs. -/
def sameShapeList : List (Token × Token) → Bool
  | [] => true
  | (a, b) :: rest =>
    if agrees a b then sameShapeList (a.children.zip b.children ++ rest) else false
termination_by work => sizeAll (work.map (·.1))
decreasing_by
  have := sizeAll_map_fst_zip_le a.children b.children
  simp only [List.map_append, sizeAll_append, List.map_cons, sizeAll, size_eq]
  omega

/-- Whether two trees are equal but for their identifiers. -/
def sameShape (a b : Token) : Bool := sameShapeList [(a, b)]

mutual

/-- The tree without its identifiers. -/
def eraseIds : Token → Token
  | ⟨kind, name, span, _, children, address⟩ =>
    ⟨kind, name, span, none, eraseIdsAll children, address⟩

/-- The trees of a list without their identifiers. -/
def eraseIdsAll : List Token → List Token
  | [] => []
  | t :: ts => eraseIds t :: eraseIdsAll ts

end

end Stencil.Token
