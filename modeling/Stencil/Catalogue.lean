import Stencil.Compile
import Stencil.Extraction
import Stencil.Store

/-!
# Catalogues

A catalogue compiles samples into the blueprints of a store and extracts values from documents with
them, always with the same settings.
-/

namespace Stencil

/-- Why a catalogue fails. -/
inductive CatalogueError where
  | compiling (e : CompileError)
  | extracting (e : ExtractionError)
  /-- No blueprint has the name. -/
  | unknownBlueprint (name : String)
  | storing (e : StoreError)
  deriving DecidableEq, Repr

/-- What kind of failure a caller has to deal with. -/
inductive CatalogueErrorKind where
  /-- Annotations that cannot be read. -/
  | syntactic
  /-- Annotations or documents of the wrong structure. -/
  | structural
  /-- A name without a blueprint. -/
  | lookup
  /-- A failure of the store. -/
  | store
  /-- A document that is too long. -/
  | limit
  /-- Settings that are not valid. -/
  | settings
  deriving DecidableEq, Repr

namespace CatalogueError

/-- The text shown for a failure. -/
def message : CatalogueError → String
  | compiling e => e.message
  | extracting e => e.message
  | unknownBlueprint name => "Unknown blueprint: " ++ name
  | storing e => "Store error: " ++ e.message

/-- The kind of a failure. -/
def kind : CatalogueError → CatalogueErrorKind
  | compiling (.scanning _) => .syntactic
  | compiling (.structural _) | extracting (.structural _) => .structural
  | extracting (.documentTooLong _ _) => .limit
  | extracting (.settings _) => .settings
  | unknownBlueprint _ => .lookup
  | storing _ => .store

end CatalogueError

/-- A store with the settings for extracting. -/
structure Catalogue (σ : Type) where
  store : σ
  settings : ExtractionSettings

namespace Catalogue

variable {σ : Type} [BlueprintStore σ]

/-- A catalogue over a store, if the settings are valid. -/
def ofStore (store : σ) (settings : ExtractionSettings) : Except CatalogueError (Catalogue σ) :=
  match settings.validate with
  | .error e => .error (.extracting e)
  | .ok settings => .ok ⟨store, settings⟩

/-- Compiles a sample and keeps the blueprint under a name. If the sample does not compile, the
store is as before. -/
def compile (c : Catalogue σ) (ids : IdSupply) (name sample : String) :
    Except CatalogueError Unit × Catalogue σ :=
  match Stencil.compile ids name sample with
  | .error e => (.error (.compiling e), c)
  | .ok b =>
    match BlueprintStore.put c.store b with
    | (.error e, store) => (.error (.storing e), { c with store })
    | (.ok (), store) => (.ok (), { c with store })

/-- The blueprint of a name. -/
def blueprint (c : Catalogue σ) (name : String) : Except CatalogueError (Option Blueprint) :=
  match BlueprintStore.get c.store name with
  | .error e => .error (.storing e)
  | .ok b => .ok b

/-- Extracts a document with the blueprint of a name. -/
def extract (c : Catalogue σ) (name document : String) : Except CatalogueError Json :=
  match c.blueprint name with
  | .error e => .error e
  | .ok none => .error (.unknownBlueprint name)
  | .ok (some b) =>
    match Stencil.extract c.settings b document with
    | .error e => .error (.extracting e)
    | .ok v => .ok v

/-- Removes the blueprint of a name and tells whether there was one. -/
def remove (c : Catalogue σ) (name : String) : Except CatalogueError Bool × Catalogue σ :=
  match BlueprintStore.remove c.store name with
  | (.error e, store) => (.error (.storing e), { c with store })
  | (.ok found, store) => (.ok found, { c with store })

/-- The names of all blueprints in ascending order. -/
def names (c : Catalogue σ) : Except CatalogueError (List String) :=
  match BlueprintStore.names c.store with
  | .error e => .error (.storing e)
  | .ok names => .ok names

end Catalogue

end Stencil
