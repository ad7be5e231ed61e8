import Stencil.Blueprint.Codec
import Stencil.FileSystem
import Stencil.Text.Ascending

/-!
# Blueprint stores

A store keeps blueprints under their names. The names that can also be file names are the valid
ones.
-/

namespace Stencil

/-- Characters of valid names. -/
def isStoreNameChar (c : Char) : Bool :=
  c.isAlphanum || c == '.' || c == '_' || c == '-'

/-- Whether a text can be a file name on every system and does not stand for a directory. -/
def isValidName (name : String) : Bool :=
  name.toList.all isStoreNameChar && name ≠ "" && name ≠ "." && name ≠ ".."

/-- Why a store fails. -/
inductive StoreError where
  | io (e : IoError)
  /-- A text that should be a blueprint is none. -/
  | serialization
  | invalidName (name : String)
  deriving DecidableEq, Repr

/-- The text shown for a failure. -/
def StoreError.message : StoreError → String
  | io e => "I/O error: " ++ e.message
  | serialization => "Serialization error"
  | invalidName name => "Invalid blueprint name: '" ++ name ++ "'"

/-- What can be done with a store. An operation that changes it gives its new state, also when the
operation fails. -/
class BlueprintStore (σ : Type) where
  /-- Keeps a blueprint under its name, in place of one that was there. -/
  put : σ → Blueprint → Except StoreError Unit × σ
  /-- The blueprint of a name, if there is one. -/
  get : σ → String → Except StoreError (Option Blueprint)
  /-- Drops the blueprint of a name and tells whether there was one. -/
  remove : σ → String → Except StoreError Bool × σ
  /-- The names in ascending order. -/
  names : σ → Except StoreError (List String)

end Stencil
