import Stencil.Json.Print

/-!
# Leaves of a value

The texts, numbers, truth values and nulls in a JSON tree, each with the keys and indexes that lead
to it: `a.b[0].c`. `leaves` finds them with an explicit stack; `leavesBelow` says by recursion what
it finds, in document order.
-/

namespace Stencil.Json

/-- The text of a leaf: a string as it is, anything else as JSON. Lists and objects are no
leaves. -/
def leafText? : Json → Option String
  | .string text => some text
  | .array _ | .object _ => none
  | j => some j.compactString

/-- The path of a member of the object at a path. -/
def memberPath (path key : String) : String :=
  if path = "" then key else path ++ "." ++ key

/-- The path of an item of the list at a path. -/
def itemPath (path : String) (i : Nat) : String := path ++ "[" ++ toString i ++ "]"

/-- The trees directly below a tree, each with its path. -/
def parts (path : String) : Json → List (String × Json)
  | .array items => items.mapIdx fun i j => (itemPath path i, j)
  | .object members => members.map fun m => (memberPath path m.1, m.2)
  | _ => []

mutual

/-- The number of trees in a tree, itself included. -/
def size : Json → Nat
  | .array items => 1 + sizeItems items
  | .object members => 1 + sizeMembers members
  | _ => 1

/-- The number of trees in items. -/
def sizeItems : List Json → Nat
  | [] => 0
  | j :: js => size j + sizeItems js

/-- The number of trees in members. -/
def sizeMembers : List (String × Json) → Nat
  | [] => 0
  | (_, j) :: ms => size j + sizeMembers ms

end

/-- A tree has at least one tree in it. -/
theorem size_pos (j : Json) : 0 < j.size := by
  cases j with
  | array items => rw [size]; omega
  | object members => rw [size]; omega
  | _ => simp [size]

/-- What the trees on a stack hold. -/
def pendingTrees (stack : List (String × Json)) : Nat := sizeMembers stack

@[simp] theorem sizeMembers_append (a b : List (String × Json)) :
    sizeMembers (a ++ b) = sizeMembers a + sizeMembers b := by
  induction a with
  | nil => simp [sizeMembers]
  | cons m a ih =>
    obtain ⟨k, j⟩ := m
    simp [sizeMembers, ih, Nat.add_assoc]

theorem sizeMembers_mapIdx (f : Nat → Json → String) (items : List Json) :
    sizeMembers (items.mapIdx fun i j => (f i j, j)) = sizeItems items := by
  induction items generalizing f with
  | nil => rfl
  | cons j js ih => simp [List.mapIdx_cons, sizeMembers, sizeItems, ih]

theorem sizeMembers_map (f : String → String) (members : List (String × Json)) :
    sizeMembers (members.map fun m => (f m.1, m.2)) = sizeMembers members := by
  induction members with
  | nil => rfl
  | cons m ms ih =>
    obtain ⟨k, j⟩ := m
    simp [sizeMembers, ih]

/-- A tree is larger than its parts together. -/
theorem sizeMembers_parts_lt (path : String) (j : Json) :
    sizeMembers (j.parts path) < j.size := by
  cases j with
  | array items => simp [parts, size, sizeMembers_mapIdx fun i _ => itemPath path i]
  | object members => simp [parts, size, sizeMembers_map fun k => memberPath path k]
  | _ => simp [parts, size, sizeMembers]

/-- The leaves of the trees on a stack, the top first. The parts of a tree take its place. -/
def leavesStack : List (String × Json) → List (String × String)
  | [] => []
  | (path, j) :: rest =>
    match j.leafText? with
    | some text => (path, text) :: leavesStack rest
    | none => leavesStack (j.parts path ++ rest)
termination_by stack => pendingTrees stack
decreasing_by
  · have := size_pos j
    simp only [pendingTrees, sizeMembers]
    omega
  · have := sizeMembers_parts_lt path j
    simp only [pendingTrees, sizeMembers_append, sizeMembers]
    omega

/-- The leaves of a tree in document order, each with its path. -/
def leaves (j : Json) : List (String × String) := leavesStack [("", j)]

mutual

/-- The leaves of the tree at a path. -/
def leavesBelow (path : String) : Json → List (String × String)
  | .string text => [(path, text)]
  | .array items => leavesOfItems path 0 items
  | .object members => leavesOfMembers path members
  | j => [(path, j.compactString)]

/-- The leaves of the items from an index on. -/
def leavesOfItems (path : String) (i : Nat) : List Json → List (String × String)
  | [] => []
  | j :: js => leavesBelow (itemPath path i) j ++ leavesOfItems path (i + 1) js

/-- The leaves of members. -/
def leavesOfMembers (path : String) : List (String × Json) → List (String × String)
  | [] => []
  | (k, j) :: ms => leavesBelow (memberPath path k) j ++ leavesOfMembers path ms

end

end Stencil.Json
