import Stencil.Proofs.Token.Places

/-!
# The walk is the order of the tree

The walk over a token tree keeps the tokens it has still to visit on a stack. Each of them stands
for its whole tree, so the walk visits the trees on the stack one after the other, each in the order
`preorder` gives (`walkStack_eq_flatMap`).
-/

namespace Stencil.Token

@[simp] theorem preorderAll_append (depth : Nat) (xs ys : List Token) :
    preorderAll depth (xs ++ ys) = preorderAll depth xs ++ preorderAll depth ys := by
  induction xs with
  | nil => rfl
  | cons x xs ih => rw [List.cons_append, preorderAll, preorderAll, ih, List.append_assoc]

@[simp] theorem preorderAll_singleton (depth : Nat) (t : Token) :
    preorderAll depth [t] = t.preorder depth := by
  rw [preorderAll, preorderAll, List.append_nil]

/-- A field is no root and no end of a container, and it holds nothing if it is a value. -/
theorem IsField.kind_cases {t : Token} (h : IsField t) :
    t.kind ≠ .root ∧ t.kind.isClosing = false ∧ (t.kind = .value → t.children = []) := by
  rcases (isField_iff t).1 h with ⟨hvalue, hempty⟩ | ⟨hobject | hlist, _⟩
  · rw [hvalue]
    exact ⟨nofun, rfl, fun _ => hempty⟩
  · rw [hobject]
    exact ⟨nofun, rfl, nofun⟩
  · rw [hlist]
    exact ⟨nofun, rfl, nofun⟩

mutual

/-- Every token of a field's tree is a field. -/
theorem isField_of_mem_preorder {v : Token × Nat} : (t : Token) → IsField t → ∀ {depth : Nat},
    v ∈ preorder depth t → IsField v.1
  | ⟨kind, name, span, markerId, children, address⟩, h, depth, hv => by
    rw [preorder] at hv
    rcases List.mem_cons.1 hv with rfl | hv
    · exact h
    · rw [IsField] at h
      rcases h with ⟨_, rfl⟩ | ⟨_, hchildren⟩
      · cases hv
      · exact isField_of_mem_preorderAll children hchildren hv

/-- The same of a list of fields. -/
theorem isField_of_mem_preorderAll {v : Token × Nat} : (ts : List Token) → AreFields ts →
    ∀ {depth : Nat}, v ∈ preorderAll depth ts → IsField v.1
  | [], _, _, hv => by cases hv
  | t :: ts, h, depth, hv => by
    rw [preorderAll] at hv
    rcases List.mem_append.1 hv with hv | hv
    · exact isField_of_mem_preorder t h.1 hv
    · exact isField_of_mem_preorderAll ts h.2 hv

end

/-- Trees at one depth are put on the stack together. -/
theorem preorderAll_eq_flatMap (depth : Nat) (ts : List Token) :
    preorderAll depth ts = (ts.map (·, depth)).flatMap fun v => v.1.preorder v.2 := by
  induction ts with
  | nil => rfl
  | cons t ts ih => rw [preorderAll, ih, List.map_cons, List.flatMap_cons]

theorem mem_preorderAll_of_mem {t : Token} {ts : List Token} (h : t ∈ ts) (depth : Nat) :
    (t, depth) ∈ preorderAll depth ts := by
  rw [preorderAll_eq_flatMap, List.mem_flatMap]
  refine ⟨(t, depth), List.mem_map_of_mem h, ?_⟩
  rw [preorder_eq]
  exact List.mem_cons_self

/-- A walk visits the trees on its stack in turn. -/
theorem walkStack_eq_flatMap (stack : List (Token × Nat)) :
    walkStack stack = stack.flatMap fun v => v.1.preorder v.2 := by
  fun_induction walkStack stack with
  | case1 => rfl
  | case2 t depth rest ih =>
    rw [ih, List.flatMap_append, List.flatMap_cons, preorder_eq, fieldsAt,
      ← preorderAll_eq_flatMap, List.cons_append]

/-- **The walk over a tree visits it in the order of the tree.** -/
theorem walk_eq_preorder (t : Token) : t.walk = t.preorder 0 := by
  rw [walk, walkStack_eq_flatMap, List.flatMap_singleton]

end Stencil.Token
