import Stencil.Address.Selector
import Stencil.TokenKind

/-!
# Structural errors

What can be wrong between annotations and the document they stand in, and between a blueprint and
the document it is applied to.
-/

namespace Stencil

/-- How ends of containers fail to match their starts. -/
inductive Imbalance where
  /-- An end stands where no container is open. -/
  | nothingOpen
  /-- An end of one kind stands where a container of another kind is open. -/
  | mismatch (closing opened : TokenKind) (name : String)
  /-- A container is never closed. -/
  | unclosed (opened : TokenKind) (name : String)
  deriving DecidableEq, Repr

/-- What went wrong, in words. -/
def Imbalance.reason : Imbalance → String
  | .nothingOpen => "no open container to close"
  | .mismatch closing opened name =>
    (if closing = .listEnd then "list" else "object") ++ " end annotation closes " ++
      opened.label ++ " '" ++ name ++ "'"
  | .unclosed opened name => opened.label ++ " '" ++ name ++ "' is never closed"

/-- Why a blueprint cannot be learned or applied. -/
inductive StructuralError where
  /-- Starts and ends of containers do not pair; the offset is that of the annotation at fault. -/
  | unbalanced (offset : Option Nat) (what : Imbalance)
  /-- No element carries the identifier of a field. -/
  | markerNotFound (field : String)
  /-- A container has no element between its start and its end. -/
  | emptyContainer (name : String)
  /-- A field's element is not inside its container's. -/
  | detached (field container : String)
  /-- The address of a field leads nowhere. -/
  | nodeNotFound (field : String) (address : Address)
  deriving DecidableEq, Repr

/-- The text shown for a structural error. -/
def StructuralError.message : StructuralError → String
  | .unbalanced offset what =>
    "Unbalanced container" ++
      (match offset with
        | some n => " at offset " ++ toString n
        | none => "") ++
      ": " ++ what.reason
  | .markerNotFound field => "Marker for field '" ++ field ++ "' not found in the parsed sample"
  | .emptyContainer name => "Container '" ++ name ++ "' does not enclose any element"
  | .detached field container =>
    "Field '" ++ field ++ "' is not inside the element anchoring '" ++ container ++ "'"
  | .nodeNotFound field address =>
    "No node found for field '" ++ field ++ "' at '" ++ address.toText ++ "'"

end Stencil
