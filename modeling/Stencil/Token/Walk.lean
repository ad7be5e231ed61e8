import Stencil.Token

/-!
# Visiting a token tree

`walk` visits a tree with an explicit stack, so its depth is not limited by the recursion that runs
it; `preorder` says by recursion what it visits, a token before its fields and the fields in
declared order. A token on the stack is paired with its depth.
-/

namespace Stencil.Token

/-- What the tokens on a stack still have below them, themselves included. -/
def pendingSize (stack : List (Token × Nat)) : Nat :=
  sizeAll (stack.map (·.1))

/-- The fields of a token, each with the depth they stand at. -/
def fieldsAt (t : Token) (depth : Nat) : List (Token × Nat) :=
  t.children.map (·, depth)

theorem pendingSize_push (t : Token) (d : Nat) (rest : List (Token × Nat)) :
    pendingSize (t.fieldsAt d ++ rest) + 1 = pendingSize ((t, d) :: rest) := by
  have : (t.fieldsAt d).map (·.1) = t.children := by
    simp [fieldsAt, List.map_map, Function.comp_def]
  simp only [pendingSize, List.map_append, this, sizeAll_append, List.map_cons, sizeAll, size_eq]
  omega

/-- Visits the tokens on a stack, the top first; the fields of a visited token come next. -/
def walkStack : List (Token × Nat) → List (Token × Nat)
  | [] => []
  | (t, d) :: rest => (t, d) :: walkStack (t.fieldsAt (d + 1) ++ rest)
termination_by stack => pendingSize stack
decreasing_by
  have := pendingSize_push t (d + 1) rest
  simp only [pendingSize, List.map_cons, sizeAll] at this ⊢
  omega

/-- The tokens of a tree in the order of visit, each with its depth below the top. -/
def walk (t : Token) : List (Token × Nat) := walkStack [(t, 0)]

mutual

/-- A token at a depth, then its fields and what they hold. -/
def preorder (depth : Nat) : Token → List (Token × Nat)
  | ⟨kind, name, span, markerId, children, address⟩ =>
    (⟨kind, name, span, markerId, children, address⟩, depth) :: preorderAll (depth + 1) children

/-- The trees of a list one after the other. -/
def preorderAll (depth : Nat) : List Token → List (Token × Nat)
  | [] => []
  | t :: ts => preorder depth t ++ preorderAll depth ts

end

end Stencil.Token
