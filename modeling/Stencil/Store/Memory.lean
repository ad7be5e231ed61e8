import Stencil.Store

/-!
# Stores in memory

A list of blueprints, at most one of each name. Any text can be a name.
-/

namespace Stencil

/-- Blueprints kept in memory. -/
structure MemoryStore where
  blueprints : List Blueprint := []
  deriving DecidableEq, Repr, Inhabited

namespace MemoryStore

/-- The blueprint of a name. -/
def get? (store : MemoryStore) (name : String) : Option Blueprint :=
  store.blueprints.find? (·.name = name)

/-- The store without the blueprint of a name. -/
def erase (store : MemoryStore) (name : String) : MemoryStore :=
  ⟨store.blueprints.filter (·.name ≠ name)⟩

/-- The store with a blueprint under its name. -/
def insert (store : MemoryStore) (b : Blueprint) : MemoryStore :=
  ⟨b :: (store.erase b.name).blueprints⟩

/-- The names in ascending order. -/
def names (store : MemoryStore) : List String :=
  ascending (store.blueprints.map (·.name))

/-- The number of blueprints. -/
def size (store : MemoryStore) : Nat := store.blueprints.length

/-- Whether there is no blueprint. -/
def isEmpty (store : MemoryStore) : Bool := store.blueprints.isEmpty

instance : BlueprintStore MemoryStore where
  put store b := (.ok (), store.insert b)
  get store name := .ok (store.get? name)
  remove store name := (.ok (store.get? name).isSome, store.erase name)
  names store := .ok store.names

end MemoryStore

end Stencil
