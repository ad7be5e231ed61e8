import Stencil.Token.Shape
import Stencil.Token.Walk

/-!
# Blueprints

A blueprint is what a sample teaches: the name under which it is kept and the tree of its fields.
-/

namespace Stencil

/-- A named tree of fields. -/
structure Blueprint where
  name : String
  root : Token
  deriving DecidableEq, Repr, Inhabited

namespace Blueprint

/-- The number of tokens of a tree that are not roots. -/
def fieldCount (b : Blueprint) : Nat :=
  (b.root.walk.filter fun v => v.1.kind ≠ .root).length

/-- Whether two blueprints are equal but for their marker identifiers. -/
def sameShape (a b : Blueprint) : Bool :=
  a.name == b.name && a.root.sameShape b.root

end Blueprint

end Stencil
