import Stencil.Catalogue
import Stencil.CommandLine.Arguments
import Stencil.CommandLine.Preferences
import Stencil.Report
import Stencil.Store.File

/-!
# Running commands

What the program does with a command line: it loads the preferences, opens the store and runs the
command on it. A run is a function from the files and the input to the files and the output, so a
failed one shows what it had done before it failed.
-/

namespace Stencil.CommandLine

/-- What a run finds around it. -/
structure Surroundings where
  /-- The home directory. -/
  home : String := ""
  /-- The store that the environment names. -/
  storeVariable : Option String := none
  /-- Whether output may be colored. -/
  colorAllowed : Bool := false
  /-- The text on standard input. -/
  input : String := ""

/-- Whether output may be colored: forcing it wins over forbidding it, and only a terminal has colors
by default. -/
def isColorAllowed (forced forbidden wanted : Option String) (isTerminal : Bool) : Bool :=
  if forced.any (· ≠ "0") then true
  else if forbidden.isSome then false
  else wanted.all (· ≠ "0") && isTerminal

/-- Why a command fails. -/
inductive Failure where
  | preferences (e : PreferencesError)
  | io (e : IoError)
  | emptySample
  | scanning (e : SyntaxError)
  | catalogue (e : CatalogueError)
  | notFound (name : String)
  deriving DecidableEq, Repr

/-- The text shown for a failure. -/
def Failure.message : Failure → String
  | preferences e => e.message
  | io e => "I/O error: " ++ e.message
  | emptySample => "Invalid input: Sample is empty"
  | scanning e => e.message
  | catalogue e => e.message
  | notFound name => "Blueprint not found: " ++ name

/-- What a run leaves behind. -/
structure Outcome where
  disk : FileSystem
  output : String := ""
  failure : Option Failure := none

/-- An outcome that shows a text on lines of its own. -/
def Outcome.lines (disk : FileSystem) (text : String) : Outcome :=
  { disk, output := text ++ "\n" }

/-- An outcome without output. -/
def Outcome.failed (disk : FileSystem) (failure : Failure) : Outcome :=
  { disk, failure := some failure }

/-- The text on standard error. -/
def Outcome.complaint (o : Outcome) : String :=
  match o.failure with
  | none => ""
  | some failure => Report.error {} failure.message ++ "\n"

/-- The exit code of a run. -/
def Outcome.exitCode (o : Outcome) : Nat := if o.failure.isSome then 1 else 0

/-- The text of a file, or of standard input for no file and for a hyphen. -/
def readInput (around : Surroundings) (disk : FileSystem) : Option String → Except IoError String
  | none => .ok around.input
  | some path => if path = "-" then .ok around.input else disk.readAt path

/-! ## Commands -/

/-- Compiles a sample and tells how many fields the stored blueprint has. -/
def runCompile (around : Surroundings) (report : Report) (ids : IdSupply) (c : Catalogue FileStore)
    (name : String) (file : Option String) : Outcome :=
  let disk := c.store.disk
  match readInput around disk file with
  | .error e => .failed disk (.io e)
  | .ok sample =>
    if (Text.trim sample.toList).isEmpty then .failed disk .emptySample
    else
      match c.compile ids name sample with
      | (.error e, c) => .failed c.store.disk (.catalogue e)
      | (.ok (), c) =>
        match c.blueprint name with
        | .error e => .failed c.store.disk (.catalogue e)
        | .ok b => .lines c.store.disk (report.compiled name ((b.map (·.fieldCount)).getD 0))

/-- The settings of an extraction: those of the preferences, changed by options. -/
def effectiveSettings (s : ExtractionSettings) (lenient : Bool) (maxItems : Option Nat) :
    ExtractionSettings :=
  { s with
    missingField := if lenient then .skip else s.missingField
    maxListItems := maxItems.getD s.maxListItems }

/-- Extracts a document and shows the value. -/
def runExtract (around : Surroundings) (report : Report) (store : FileStore)
    (settings : ExtractionSettings) (name : String) (file : Option String) : Outcome :=
  match Catalogue.ofStore store settings with
  | .error e => .failed store.disk (.catalogue e)
  | .ok c =>
    match readInput around store.disk file with
    | .error e => .failed store.disk (.io e)
    | .ok document =>
      match c.extract name document with
      | .error e => .failed store.disk (.catalogue e)
      | .ok v => .lines store.disk (report.value v)

/-- Shows all names. -/
def runList (report : Report) (c : Catalogue FileStore) : Outcome :=
  match c.names with
  | .error e => .failed c.store.disk (.catalogue e)
  | .ok names => .lines c.store.disk (report.names names)

/-- Shows a blueprint. -/
def runInspect (report : Report) (c : Catalogue FileStore) (name : String) : Outcome :=
  match c.blueprint name with
  | .error e => .failed c.store.disk (.catalogue e)
  | .ok none => .failed c.store.disk (.notFound name)
  | .ok (some b) => .lines c.store.disk (report.blueprint b)

/-- Removes blueprints one after the other and counts those that were there. -/
def removeAll (c : Catalogue FileStore) (count : Nat) :
    List String → Except CatalogueError Nat × Catalogue FileStore
  | [] => (.ok count, c)
  | name :: names =>
    match c.remove name with
    | (.error e, c) => (.error e, c)
    | (.ok found, c) => removeAll c (if found then count + 1 else count) names

/-- The question before blueprints are removed. -/
def removalQuestion (names : List String) : String :=
  "About to remove " ++ toString names.length ++ " blueprint(s):\n" ++
    String.join (names.map fun name => "  - " ++ name ++ "\n") ++ "Continue? [y/N] "

/-- Whether the first line of the input says yes. -/
def isConsent (input : String) : Bool :=
  let answer := Text.trim (input.toList.takeWhile (· ≠ '\n'))
  answer = ['y'] ∨ answer = ['Y']

/-- The message after removing blueprints. -/
def removalMessage (report : Report) (removed all : Nat) : String :=
  if removed = all then report.success ("Removed " ++ toString removed ++ " blueprint(s)")
  else
    report.warning ("Removed " ++ toString removed ++ " of " ++ toString all ++
      " blueprint(s); the rest did not exist")

/-- Removes blueprints, after asking unless told not to. -/
def runRemove (around : Surroundings) (report : Report) (c : Catalogue FileStore)
    (names : List String) (yes : Bool) : Outcome :=
  let question := if yes then "" else removalQuestion names
  if yes ∨ isConsent around.input then
    match removeAll c 0 names with
    | (.error e, c) =>
      { disk := c.store.disk, output := question, failure := some (.catalogue e) }
    | (.ok removed, c) =>
      .lines c.store.disk (question ++ removalMessage report removed names.length)
  else .lines c.store.disk (question ++ report.info "Operation cancelled")

/-- Shows a sample without its annotations. -/
def runStrip (around : Surroundings) (disk : FileSystem) (file : Option String) : Outcome :=
  match readInput around disk file with
  | .error e => .failed disk (.io e)
  | .ok sample =>
    match Sample.strip sample.toList with
    | .error e => .failed disk (.scanning e)
    | .ok text => { disk, output := String.ofList text }

/-! ## Runs -/

/-- The directory with the preferences and the blueprints of a user. -/
def userDirectory (home : String) : String := home ++ "/.schemee"

/-- The preferences in a file, which may be missing. -/
def loadPreferences (disk : FileSystem) (path : String) : Except Failure Preferences :=
  match disk.readAt path with
  | .error .isADirectory => .error (.io .isADirectory)
  | .error _ => .ok {}
  | .ok text =>
    match Preferences.ofToml text with
    | .error e => .error (.preferences e)
    | .ok p => .ok p

/-- Why preferences cannot be saved. -/
inductive SaveError where
  | io (e : IoError)
  /-- A limit is above the largest whole number of a file. -/
  | unwritable
  deriving DecidableEq, Repr

/-- Saves preferences in a file, below directories that are made where they are missing. -/
def savePreferences (p : Preferences) (path : String) : FileSystem.Change SaveError := fun disk =>
  match FileSystem.makeDirectories (Way.ofText path).parent disk with
  | (.error e, disk) => (.error (.io e), disk)
  | (.ok (), disk) =>
    match p.toToml? with
    | none => (.error .unwritable, disk)
    | some text =>
      match FileSystem.writeAt path text disk with
      | (.error e, disk) => (.error (.io e), disk)
      | (.ok (), disk) => (.ok (), disk)

/-- The path of the preferences. -/
def preferencesPath (around : Surroundings) (a : Arguments) : String :=
  a.config.getD (userDirectory around.home ++ "/config.toml")

/-- The path of the store. -/
def storePath (around : Surroundings) (a : Arguments) (p : Preferences) : String :=
  (a.store.or p.storeDirectory).getD (userDirectory around.home ++ "/blueprints")

/-- Runs a command on the store. -/
def runOn (around : Surroundings) (ids : IdSupply) (a : Arguments) (p : Preferences)
    (disk : FileSystem) : Outcome :=
  let store : FileStore := ⟨Way.ofText (storePath around a p), disk⟩
  let c : Catalogue FileStore := ⟨store, p.extraction⟩
  let report : Report :=
    ⟨a.format.getD p.display.format, !a.noColor && p.display.color && around.colorAllowed⟩
  match a.command with
  | .strip file => runStrip around disk file
  | .extract name file lenient maxItems =>
    runExtract around report store (effectiveSettings p.extraction lenient maxItems) name file
  | .compile name file => runCompile around report ids c name file
  | .list => runList report c
  | .inspect name => runInspect report c name
  | .remove names yes => runRemove around report c names yes

/-- Runs the program. -/
def runArguments (around : Surroundings) (ids : IdSupply) (a : Arguments) (disk : FileSystem) :
    Outcome :=
  match loadPreferences disk (preferencesPath around a) with
  | .error e => .failed disk e
  | .ok p => runOn around ids a p disk

end Stencil.CommandLine
