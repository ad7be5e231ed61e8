import Stencil.Store

/-!
# Stores on disk

One directory with a JSON file for each blueprint. A blueprint is written to a temporary file first,
which then takes the place of the old file, so that a reader never sees half of one. The directory
is told by any path. At the empty path blueprints are put, read and removed in the directory where
all paths start, but the path itself names no directory, so that no names are listed.
-/

namespace Stencil

/-- Blueprints kept in a directory. -/
structure FileStore where
  /-- The parts of the directory's path. -/
  directory : Way
  disk : FileSystem
  deriving DecidableEq, Repr, Inhabited

namespace FileStore

/-- The file of a name. -/
def fileName (name : String) : String := name ++ ".json"

/-- The file in which the blueprint of a name is written first. -/
def temporaryName (name : String) : String := name ++ ".json.tmp"

/-- The valid name whose file a file is. -/
def nameOf? (file : String) : Option String :=
  let stem := String.ofList (file.toList.take (file.toList.length - 5))
  if fileName stem = file ∧ isValidName stem then some stem else none

/-- The way to the file of a name. -/
def way (store : FileStore) (name : String) : Way := store.directory ++ [fileName name]

/-- The route to the file of a name. -/
def route (store : FileStore) (name : String) : Route :=
  store.directory.route ++ [fileName name]

/-- A change as a step of a store. -/
def step (change : FileSystem.Change IoError) : FileSystem.Change StoreError := fun disk =>
  match change disk with
  | (.ok (), disk) => (.ok (), disk)
  | (.error e, disk) => (.error (.io e), disk)

/-- Fails for a name that is not valid. -/
def checkName (name : String) : FileSystem.Change StoreError := fun disk =>
  if isValidName name then (.ok (), disk) else (.error (.invalidName name), disk)

/-- The steps that put a blueprint into a directory. -/
def putSteps (directory : Way) (b : Blueprint) : List (FileSystem.Change StoreError) :=
  [checkName b.name,
    step (FileSystem.makeDirectories directory),
    step (FileSystem.write directory (temporaryName b.name) b.toText),
    step (FileSystem.rename directory (temporaryName b.name) (fileName b.name))]

/-- Makes steps one after the other until one fails. -/
def runSteps : List (FileSystem.Change StoreError) → FileSystem.Change StoreError
  | [], disk => (.ok (), disk)
  | s :: rest, disk =>
    match s disk with
    | (.ok (), disk) => runSteps rest disk
    | (.error e, disk) => (.error e, disk)

/-- Writes a blueprint. -/
def put (store : FileStore) (b : Blueprint) : Except StoreError Unit × FileStore :=
  let (answer, disk) := runSteps (putSteps store.directory b) store.disk
  (answer, { store with disk })

/-- Reads the blueprint of a name. A file that is not there is no failure. -/
def get (store : FileStore) (name : String) : Except StoreError (Option Blueprint) :=
  if isValidName name then
    match store.disk.read (store.way name) with
    | .error .notFound => .ok none
    | .error e => .error (.io e)
    | .ok text =>
      match Blueprint.ofText? text with
      | none => .error .serialization
      | some b => .ok (some b)
  else .error (.invalidName name)

/-- Removes the file of a name. A file that is not there is no failure. -/
def remove (store : FileStore) (name : String) : Except StoreError Bool × FileStore :=
  if isValidName name then
    match FileSystem.remove (store.way name) store.disk with
    | (.ok (), disk) => (.ok true, { store with disk })
    | (.error .notFound, disk) => (.ok false, { store with disk })
    | (.error e, disk) => (.error (.io e), { store with disk })
  else (.error (.invalidName name), store)

/-- The names of the files in the directory, which may be missing. -/
def names (store : FileStore) : Except StoreError (List String) :=
  match store.disk.list store.directory with
  | .error .notFound => .ok []
  | .error e => .error (.io e)
  | .ok files => .ok (ascending (files.filterMap nameOf?))

instance : BlueprintStore FileStore := ⟨put, get, remove, names⟩

end FileStore

end Stencil
