import Stencil.Address.Selector
import Stencil.Token.Walk

/-!
# Field listings

A row for each field of a token tree: `list[].field` with its kind and its address. `fieldRows` makes
the rows with an explicit stack; `rowsBelow` says by recursion which rows it makes, a field before
the fields in it.
-/

namespace Stencil

/-- What a listing says about a field. -/
structure FieldRow where
  path : String
  kind : TokenKind
  address : Option Address
  deriving DecidableEq, Repr

namespace FieldRow

/-- The text for an address. -/
def addressText (row : FieldRow) : String :=
  match row.address with
  | none => "-"
  | some a => if a.steps.isEmpty then "(anchor)" else a.toText

end FieldRow

namespace Token

/-- The path of a field whose parent's path is `above`. -/
def fieldPath (above : String) (t : Token) : String :=
  (if above = "" then t.label else above ++ "." ++ t.label) ++
    if t.kind = .listStart then "[]" else ""

/-- The row of a field. -/
def fieldRow (above : String) (t : Token) : FieldRow := ⟨t.fieldPath above, t.kind, t.address⟩

/-- What the fields on a stack hold. -/
def pendingFields (stack : List (String × Token)) : Nat := sizeAll (stack.map (·.2))

/-- The fields of a token, each with the path they stand under. -/
def fieldsUnder (path : String) (t : Token) : List (String × Token) := t.children.map (path, ·)

theorem pendingFields_push (path : String) (t : Token) (rest : List (String × Token)) :
    pendingFields (t.fieldsUnder path ++ rest) + 1 = pendingFields ((path, t) :: rest) := by
  have : (t.fieldsUnder path).map (·.2) = t.children := by
    simp [fieldsUnder, List.map_map, Function.comp_def]
  simp only [pendingFields, List.map_append, this, sizeAll_append, List.map_cons, sizeAll, size_eq]
  omega

/-- The rows of the fields on a stack, the top first; the fields in a field come after it. -/
def rowsStack : List (String × Token) → List FieldRow
  | [] => []
  | (above, t) :: rest =>
    t.fieldRow above :: rowsStack (t.fieldsUnder (t.fieldPath above) ++ rest)
termination_by stack => pendingFields stack
decreasing_by
  have := pendingFields_push (t.fieldPath above) t rest
  simp only [pendingFields, List.map_cons] at this ⊢
  omega

/-- The rows of the fields below a root. -/
def fieldRows (root : Token) : List FieldRow := rowsStack (root.fieldsUnder "")

mutual

/-- The row of a field and those of the fields in it. -/
def rowsBelow (above : String) : Token → List FieldRow
  | ⟨kind, name, span, markerId, children, address⟩ =>
    let t : Token := ⟨kind, name, span, markerId, children, address⟩
    t.fieldRow above :: rowsOfAll (t.fieldPath above) children

/-- The rows of fields whose parent has a path. -/
def rowsOfAll (above : String) : List Token → List FieldRow
  | [] => []
  | t :: ts => rowsBelow above t ++ rowsOfAll above ts

end

end Token

end Stencil
