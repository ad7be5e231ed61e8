import Mathlib.Data.List.Forall2
import Stencil.Proofs.Positions
import Stencil.Proofs.Token.Preorder
import Stencil.Report.FieldRows

/-!
# Walks, field listings and leaves go through the positions

Three loops keep a stack of trees, each with what was handed down to it: the walk over a token tree
hands down the depth, the field listing and the search for leaves the path. The trees on a stack are
visited in turn, each by the recursion that says what the loop finds (`walkStack_eq_flatMap`,
`rowsStack_eq_flatMap`, `leavesStack_eq_flatMap`). All three recursions are visits in the sense of
`Branching.visit_eq_flatMap`, so they go through the positions in ascending order, each once.
-/

namespace Stencil

open Branching (at? inherited positioned)

/-! ## Depths -/

namespace Token

/-- The depth handed down to a position is its length. -/
theorem inherited_depth {t u : Token} {p : Position} (h : at? t p = some u) (depth : Nat) :
    inherited (fun d (_ : Token) _ _ => d + 1) depth t p = depth + p.length := by
  induction p generalizing t depth with
  | nil => rfl
  | cons i p ih =>
    obtain ⟨c, hc, hu⟩ := Branching.at?_cons_eq_some_iff.1 h
    simp only [inherited, hc, ih hu, List.length_cons]
    omega

/-- The walk in the order of the tree lists the positions, each with its length as the depth. -/
theorem preorder_eq_map_positioned (t : Token) (depth : Nat) :
    t.preorder depth = (positioned t).map fun v => (v.2, depth + v.1.length) := by
  have hvisit := Branching.visit_eq_flatMap (fun d (_ : Token) _ _ => d + 1)
    (fun d t => [(t, d)]) preorder (fun d t => ?_) depth t
  · rw [hvisit, List.map_eq_flatMap]
    refine List.flatMap_congr fun v hv => ?_
    rw [inherited_depth (Branching.mem_positioned_iff.1 hv)]
  · rw [preorder_eq, flatten_mapIdx_const, preorderAll_eq_flatMap, List.flatMap_map]
    rfl

theorem mem_preorder_of_at? {t u : Token} {p : Position} (h : at? t p = some u) {depth : Nat} :
    (u, depth + p.length) ∈ t.preorder depth := by
  rw [preorder_eq_map_positioned]
  exact List.mem_map_of_mem (Branching.mem_positioned_iff.2 h)

/-! ## Rows -/

theorem rowsOfAll_eq_flatMap (above : String) (ts : List Token) :
    rowsOfAll above ts = ts.flatMap (rowsBelow above) := by
  induction ts with
  | nil => rfl
  | cons t ts ih => rw [rowsOfAll, ih, List.flatMap_cons]

theorem rowsBelow_eq (above : String) (t : Token) :
    rowsBelow above t = t.fieldRow above :: rowsOfAll (t.fieldPath above) t.children := by
  cases t
  rw [rowsBelow]

/-- The loop lists the rows of the fields on its stack in turn. -/
theorem rowsStack_eq_flatMap (stack : List (String × Token)) :
    rowsStack stack = stack.flatMap fun v => rowsBelow v.1 v.2 := by
  fun_induction rowsStack stack with
  | case1 => rfl
  | case2 above t rest ih =>
    rw [ih, List.flatMap_append, List.flatMap_cons, rowsBelow_eq, fieldsUnder, List.flatMap_map,
      ← rowsOfAll_eq_flatMap, List.cons_append]

/-- The listing has the rows of the fields below the root. -/
theorem fieldRows_eq_rowsOfAll (root : Token) : root.fieldRows = rowsOfAll "" root.children := by
  rw [fieldRows, rowsStack_eq_flatMap, fieldsUnder, List.flatMap_map, ← rowsOfAll_eq_flatMap]

/-- A row of a token for a path. -/
def rowAt (path : String) (t : Token) : FieldRow := ⟨path, t.kind, t.address⟩

/-- The paths of the rows of a token tree: that of a field is its parent's path and its own name
with a dot between them, which is left out after the empty path, and brackets after a list. -/
structure RowPaths (root : Token) (path : Position → String) : Prop where
  nil : path [] = ""
  concat : ∀ p i t, at? root (p ++ [i]) = some t →
    path (p ++ [i]) = (if path p = "" then t.label else path p ++ "." ++ t.label) ++
      if t.kind = .listStart then "[]" else ""

/-- The path handed down to a position of a token tree. -/
def pathAt (root : Token) : Position → String :=
  inherited (fun above (_ : Token) _ t => t.fieldPath above) "" root

theorem rowPaths_pathAt (root : Token) : RowPaths root root.pathAt where
  nil := rfl
  concat p i t h := by
    obtain ⟨y, hy, ht⟩ := Branching.at?_concat_eq_some_iff.1 h
    rw [pathAt, Branching.inherited_concat _ hy ht, fieldPath]

/-- The root and the rows list the positions, each with the path handed down to it. -/
theorem rowAt_cons_fieldRows (root : Token) :
    rowAt "" root :: root.fieldRows =
      (positioned root).map fun v => rowAt (root.pathAt v.1) v.2 := by
  have hvisit := Branching.visit_eq_flatMap (fun above (_ : Token) _ t => fieldPath above t)
    (fun path t => [rowAt path t]) (fun path t => rowAt path t :: rowsOfAll path t.children)
    (fun path t => ?_) "" root
  · rw [fieldRows_eq_rowsOfAll, hvisit, List.map_eq_flatMap]
    rfl
  · rw [flatten_mapIdx_const (fun c => rowAt (fieldPath path c) c :: _), rowsOfAll_eq_flatMap]
    refine congrArg (rowAt path t :: ·) (List.flatMap_congr fun c _ => ?_)
    rw [rowsBelow_eq]
    rfl

end Token

/-! ## Leaves -/

namespace Json

/-- Whether a tree is a text, a number, a truth value or null. -/
def IsScalar : Json → Prop
  | .string _ | .number _ | .bool _ | .null => True
  | .array _ | .object _ => False

theorem isSome_leafText?_iff {j : Json} : j.leafText?.isSome = true ↔ j.IsScalar := by
  cases j <;> simp [leafText?, IsScalar]

theorem leavesOfItems_eq_flatten (path : String) (i : Nat) (items : List Json) :
    leavesOfItems path i items =
      (items.mapIdx fun k j => leavesBelow (itemPath path (i + k)) j).flatten := by
  induction items generalizing i with
  | nil => rfl
  | cons j js ih =>
    rw [leavesOfItems, ih, List.mapIdx_cons, List.flatten_cons]
    simp only [Nat.add_zero, Nat.add_right_comm, Nat.add_assoc]

theorem leavesOfMembers_eq_flatMap (path : String) (ms : List (String × Json)) :
    leavesOfMembers path ms = ms.flatMap fun m => leavesBelow (memberPath path m.1) m.2 := by
  induction ms with
  | nil => rfl
  | cons m ms ih =>
    obtain ⟨k, j⟩ := m
    rw [leavesOfMembers, ih, List.flatMap_cons]

theorem leavesBelow_of_leafText? {j : Json} {text : String} (h : j.leafText? = some text)
    (path : String) : leavesBelow path j = [(path, text)] := by
  cases j <;> simp_all [leafText?, leavesBelow]

/-- A list or an object has the leaves of its parts. -/
theorem leavesBelow_of_leafText?_eq_none {j : Json} (h : j.leafText? = none) (path : String) :
    leavesBelow path j = (j.parts path).flatMap fun m => leavesBelow m.1 m.2 := by
  cases j with
  | array items =>
    rw [leavesBelow, leavesOfItems_eq_flatten, parts, List.flatMap_def, map_mapIdx]
    simp only [Nat.zero_add]
  | object ms =>
    rw [leavesBelow, leavesOfMembers_eq_flatMap, parts, List.flatMap_map]
  | _ => cases h

/-- The loop finds the leaves of the trees on its stack in turn. -/
theorem leavesStack_eq_flatMap (stack : List (String × Json)) :
    leavesStack stack = stack.flatMap fun m => leavesBelow m.1 m.2 := by
  fun_induction leavesStack stack with
  | case1 => rfl
  | case2 path j rest text h ih =>
    rw [ih, List.flatMap_cons, leavesBelow_of_leafText? h, List.singleton_append]
  | case3 path j rest h ih =>
    rw [ih, List.flatMap_append, List.flatMap_cons, leavesBelow_of_leafText?_eq_none h]

/-- The leaves of a tree are those that the recursion finds. -/
theorem leaves_eq_leavesBelow (j : Json) : j.leaves = j.leavesBelow "" := by
  rw [leaves, leavesStack_eq_flatMap, List.flatMap_singleton]

/-- The paths of the trees in a JSON tree: that of an item is its list's path and the index in
brackets, that of a member is its object's path and the key with a dot between them, which is left
out after the empty path. -/
structure LeafPaths (top : Json) (path : Position → String) : Prop where
  nil : path [] = ""
  item : ∀ p i items j, at? top p = some (.array items) → items[i]? = some j →
    path (p ++ [i]) = path p ++ "[" ++ toString i ++ "]"
  member : ∀ p i ms key j, at? top p = some (.object ms) → ms[i]? = some (key, j) →
    path (p ++ [i]) = if path p = "" then key else path p ++ "." ++ key

/-- The path of the part of a tree with an index. -/
def partPath (path : String) : Json → Nat → Json → String
  | .object ms, i, _ => memberPath path ((ms[i]?.map (·.1)).getD "")
  | _, i, _ => itemPath path i

theorem parts_eq_mapIdx (path : String) (j : Json) :
    j.parts path = j.children.mapIdx fun i x => (partPath path j i x, x) := by
  cases j with
  | array items => rfl
  | object ms =>
    refine List.ext_getElem? fun i => ?_
    rw [parts, children, List.getElem?_map, List.getElem?_mapIdx, List.getElem?_map]
    cases h : ms[i]? with
    | none => rfl
    | some m =>
      simp only [Option.map_some, partPath, h, Option.getD_some]
  | _ => rfl

/-- The path handed down to a position of a JSON tree. -/
def pathAt (top : Json) : Position → String := inherited partPath "" top

theorem leafPaths_pathAt (top : Json) : LeafPaths top top.pathAt where
  nil := rfl
  item p i items j h hj := by
    rw [pathAt, Branching.inherited_concat _ h hj, partPath, itemPath]
    exact nofun
  member p i ms key j h hj := by
    have hpart : (Json.object ms).children[i]? = some j := by
      rw [children, List.getElem?_map, hj]
      rfl
    rw [pathAt, Branching.inherited_concat _ h hpart, partPath, hj, memberPath]
    rfl

/-- What the leaves at positions say: the path handed down to each of them and its text. -/
theorem leaves_eq_map_positioned (top : Json) :
    top.leaves = ((positioned top).filter fun v => v.2.leafText?.isSome).map fun v =>
      (top.pathAt v.1, v.2.leafText?.getD "") := by
  have hvisit := Branching.visit_eq_flatMap partPath
    (fun path j => j.leafText?.toList.map (path, ·)) leavesBelow (fun path j => ?_) "" top
  · rw [leaves_eq_leavesBelow, hvisit, ← pathAt]
    induction positioned top with
    | nil => rfl
    | cons v vs ih =>
      rw [List.flatMap_cons, ih]
      cases h : v.2.leafText? <;> simp [h]
  · cases h : j.leafText? with
    | none =>
      rw [leavesBelow_of_leafText?_eq_none h, parts_eq_mapIdx, List.flatMap_def, map_mapIdx]
      rfl
    | some text =>
      have hnil : j.children = [] := by cases j <;> first | rfl | cases h
      rw [leavesBelow_of_leafText? h]
      show _ = _ ++ (j.children.mapIdx _).flatten
      rw [hnil]
      rfl

end Json

/-! ## The three loops -/

/-- **The loops follow the recursion, and it follows the positions.** The walk over a token tree is
its recursion, a token before its fields in declared order. There is a row for each token below the
root. Both list the positions of the tree in ascending order, each once and the root's only in the
walk: the walk tells the token there and the length of the position as its depth, and a row the kind
and the address of the token and the path that follows from its parent's. The leaves of a JSON tree
are those of its recursion. They list the positions of its texts, numbers, truth values and nulls
in ascending order, each once and with the path that keys and indexes give. -/
theorem loops_follow_positions :
    (∀ t : Token, t.walk = t.preorder 0 ∧ t.fieldRows = Token.rowsOfAll "" t.children ∧
      ∃ ps path, Branching.Lists t (fun _ => True) ([] :: ps) ∧ t.RowPaths path ∧
        List.Forall₂ (fun p v => at? t p = some v.1 ∧ v.2 = p.length) ([] :: ps) t.walk ∧
        List.Forall₂ (fun p row => ∃ u, at? t p = some u ∧ row = ⟨path p, u.kind, u.address⟩) ps
          t.fieldRows) ∧
    ∀ j : Json, j.leaves = j.leavesBelow "" ∧
      ∃ ps path, Branching.Lists j Json.IsScalar ps ∧ j.LeafPaths path ∧
        List.Forall₂ (fun p leaf => leaf.1 = path p ∧
          ∃ y, at? j p = some y ∧ y.leafText? = some leaf.2) ps j.leaves := by
  refine ⟨fun t => ⟨t.walk_eq_preorder, t.fieldRows_eq_rowsOfAll, ?_⟩,
    fun j => ⟨j.leaves_eq_leavesBelow, ?_⟩⟩
  · obtain ⟨vs, hvs⟩ : ∃ vs, positioned t = ([], t) :: vs := ⟨_, Branching.positioned_eq t⟩
    have hat : ∀ v ∈ positioned t, at? t v.1 = some v.2 := fun v hv =>
      Branching.mem_positioned_iff.1 hv
    have hlists := Branching.lists_positioned t
    have hwalk : List.Forall₂ (fun p v => at? t p = some v.1 ∧ v.2 = p.length)
        ((positioned t).map (·.1)) t.walk := by
      rw [t.walk_eq_preorder, t.preorder_eq_map_positioned, List.forall₂_map_left_iff,
        List.forall₂_map_right_iff, List.forall₂_same]
      exact fun v hv => ⟨hat v hv, Nat.zero_add _⟩
    have hrows := t.rowAt_cons_fieldRows
    rw [hvs, List.map_cons] at hlists hwalk hrows
    refine ⟨vs.map (·.1), t.pathAt, hlists, t.rowPaths_pathAt, hwalk, ?_⟩
    rw [(List.cons.inj hrows).2, List.forall₂_map_left_iff, List.forall₂_map_right_iff,
      List.forall₂_same]
    exact fun v hv => ⟨v.2, hat v (hvs ▸ List.mem_cons_of_mem _ hv), rfl⟩
  · have hlists := Branching.lists_filter j fun y => y.leafText?.isSome
    simp only [Json.isSome_leafText?_iff] at hlists
    refine ⟨_, j.pathAt, hlists, j.leafPaths_pathAt, ?_⟩
    rw [j.leaves_eq_map_positioned, List.forall₂_map_left_iff, List.forall₂_map_right_iff,
      List.forall₂_same]
    intro v hv
    obtain ⟨hv, hsome⟩ := List.mem_filter.1 hv
    obtain ⟨text, htext⟩ := Option.isSome_iff_exists.1 hsome
    exact ⟨rfl, v.2, Branching.mem_positioned_iff.1 hv, by rw [htext]; rfl⟩

end Stencil
