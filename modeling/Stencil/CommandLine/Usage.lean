import Stencil.Report.Format
import Stencil.Text.Count

/-!
# Reading command lines

How the words of a command line fall into options, values, operands and the name of a command. An
option is written out after two hyphens or as a letter after one; letters can share a hyphen, and a
value follows its option as the next word or in the same one. After two hyphens alone only operands
follow. An option waits for its value until the next word that is an option or an operand, and only
then is it checked: so of two mistakes the first one reached is reported.
-/

namespace Stencil.CommandLine

/-- Why a command line is refused, or answered without running a command. -/
inductive UsageError where
  | displayHelp
  | displayVersion
  /-- There are no words at all. -/
  | noArguments
  | missingCommand
  | invalidCommand
  | unknownArgument
  /-- A value that is missing or none of those allowed. -/
  | invalidValue
  /-- A value that is not a number. -/
  | invalidNumber
  /-- A value for an option that takes none. -/
  | tooManyValues
  /-- An option that may occur once and occurs twice. -/
  | repeatedOption
  | missingOperand
  deriving DecidableEq, Repr

/-- The exit code after a command line that is not run. Help and the version are what was asked for. -/
def UsageError.exitCode : UsageError → Nat
  | displayHelp | displayVersion => 0
  | _ => 2

/-- The options. -/
inductive OptionName where
  | format
  | noColor
  | config
  | store
  | verbose
  | file
  | lenient
  | maxItems
  | yes
  | help
  | version
  deriving DecidableEq, Repr

/-- What an option is for. -/
inductive OptionKind where
  /-- It occurs once. -/
  | flag
  /-- Its occurrences are counted. -/
  | counter
  /-- It takes a value. -/
  | value
  /-- It ends the reading. -/
  | answer (e : UsageError)
  deriving DecidableEq, Repr

namespace OptionName

/-- The word for an option. -/
def word : OptionName → String
  | format => "format"
  | noColor => "no-color"
  | config => "config"
  | store => "store"
  | verbose => "verbose"
  | file => "file"
  | lenient => "lenient"
  | maxItems => "max-items"
  | yes => "yes"
  | help => "help"
  | version => "version"

/-- The letter for an option. -/
def letter? : OptionName → Option Char
  | format => some 'f'
  | config => some 'c'
  | store => some 's'
  | verbose => some 'v'
  | file => some 'i'
  | yes => some 'y'
  | help => some 'h'
  | version => some 'V'
  | noColor | lenient | maxItems => none

/-- What an option is for. -/
def kind : OptionName → OptionKind
  | format | config | store | file | maxItems => .value
  | noColor | lenient | yes => .flag
  | verbose => .counter
  | help => .answer .displayHelp
  | version => .answer .displayVersion

/-- What is wrong with a value. -/
def fault? (o : OptionName) (value : String) : Option UsageError :=
  match o with
  | format => if (OutputFormat.ofKeyword? value).isNone then some .invalidValue else none
  | maxItems => if (Text.readCount? value.toList).isNone then some .invalidNumber else none
  | _ => none

end OptionName

/-- The commands. -/
inductive CommandName where
  | compile
  | extract
  | list
  | inspect
  | remove
  | strip
  deriving DecidableEq, Repr

namespace CommandName

/-- The word for a command. -/
def word : CommandName → String
  | compile => "compile"
  | extract => "extract"
  | list => "list"
  | inspect => "show"
  | remove => "remove"
  | strip => "strip"

/-- The command of a word. -/
def ofWord? (s : String) : Option CommandName :=
  [compile, extract, list, inspect, remove, strip].find? (·.word = s)

end CommandName

/-- What may follow on one level of a command line: the top, or below a command. -/
structure Grammar where
  options : List OptionName
  /-- The most operands there may be, if there is a bound. -/
  mostOperands : Option Nat
  /-- Whether a command is expected. -/
  hasCommands : Bool

namespace Grammar

/-- The options allowed on both levels. -/
def shared : List OptionName := [.format, .noColor, .config, .store, .verbose, .help]

/-- The grammar of the top level. -/
def top : Grammar := ⟨.version :: shared, some 0, true⟩

/-- The grammar below a command. -/
def below : CommandName → Grammar
  | .compile => ⟨.file :: shared, some 1, false⟩
  | .extract => ⟨.file :: .lenient :: .maxItems :: shared, some 1, false⟩
  | .list => ⟨shared, some 0, false⟩
  | .inspect => ⟨shared, some 1, false⟩
  | .remove => ⟨.yes :: shared, none, false⟩
  | .strip => ⟨.file :: shared, some 0, false⟩

end Grammar

/-- What has been read on a level. -/
structure Reading where
  values : List (OptionName × String) := []
  flags : List OptionName := []
  verbosity : Nat := 0
  operands : List String := []
  /-- The last option that takes a value, with the value once that has been read. -/
  waiting : Option (OptionName × Option String) := none
  deriving DecidableEq, Repr

namespace Reading

/-- Occurrences are counted up to here. -/
def mostVerbose : Nat := 255

/-- Adds an option with its value. -/
def addValue (r : Reading) (o : OptionName) (value : String) : Except UsageError Reading :=
  if (r.values.lookup o).isSome then .error .repeatedOption
  else
    match o.fault? value with
    | some e => .error e
    | none => .ok { r with values := r.values ++ [(o, value)] }

/-- Adds the option that is waiting. -/
def settle (r : Reading) : Except UsageError Reading :=
  match r.waiting with
  | none => .ok r
  | some (_, none) => .error .invalidValue
  | some (o, some value) => { r with waiting := none }.addValue o value

/-- Adds an option that takes no value. -/
def addFlag (r : Reading) (o : OptionName) : Except UsageError Reading := do
  let r ← r.settle
  match o.kind with
  | .answer e => .error e
  | .counter => .ok { r with verbosity := min mostVerbose (r.verbosity + 1) }
  | _ => if o ∈ r.flags then .error .repeatedOption else .ok { r with flags := o :: r.flags }

/-- Adds an option with a value in the same word, or lets it wait for the next one. -/
def addOption (r : Reading) (o : OptionName) (value : Option String) :
    Except UsageError Reading := do
  let r ← r.settle
  match value with
  | some value => r.addValue o value
  | none => .ok { r with waiting := some (o, none) }

/-- Whether the next word is the value of an option. -/
def expectsValue (r : Reading) : Bool :=
  match r.waiting with
  | some (_, none) => true
  | _ => false

/-- Whether the level has no words of its own. -/
def isBlank (r : Reading) : Bool := r.values.isEmpty && r.flags.isEmpty && r.verbosity == 0

end Reading

/-! ## Words -/

/-- What a word looks like. -/
inductive Spelling where
  /-- Two hyphens. -/
  | separator
  /-- A word after two hyphens, and what stands after an equals sign. -/
  | long (word : String) (value : Option String)
  /-- Letters after a hyphen. -/
  | short (letters : List Char)
  /-- Anything else. -/
  | plain
  deriving DecidableEq, Repr

/-- What a word looks like. -/
def spelling (s : String) : Spelling :=
  match s.toList with
  | ['-', '-'] => .separator
  | '-' :: '-' :: r =>
    .long (String.ofList (r.takeWhile (· ≠ '=')))
      (match r.dropWhile (· ≠ '=') with
        | _ :: value => some (String.ofList value)
        | [] => none)
  | '-' :: c :: r => .short (c :: r)
  | _ => .plain

/-- Reads a word after two hyphens. -/
def readLong (g : Grammar) (r : Reading) (word : String) (value : Option String) :
    Except UsageError Reading :=
  match g.options.find? (·.word = word) with
  | none => .error .unknownArgument
  | some o =>
    if o.kind = .value then r.addOption o value
    else if value.isSome then .error .tooManyValues
    else r.addFlag o

/-- Reads letters after a hyphen. What follows the letter of an option with a value is the value; an
equals sign before it is not part of it. -/
def readLetters (g : Grammar) (r : Reading) : List Char → Except UsageError Reading
  | [] => .ok r
  | c :: rest =>
    match g.options.find? (·.letter? = some c) with
    | none => .error .unknownArgument
    | some o =>
      if o.kind = .value then
        match rest with
        | [] => r.addOption o none
        | '=' :: value => r.addOption o (some (String.ofList value))
        | value => r.addOption o (some (String.ofList value))
      else
        match r.addFlag o with
        | .error e => .error e
        | .ok r => readLetters g r rest

/-- Reads an operand. -/
def readOperand (g : Grammar) (afterSeparator : Bool) (r : Reading) (s : String) :
    Except UsageError Reading :=
  if g.mostOperands.all (r.operands.length < ·) then do
    let r ← r.settle
    return { r with operands := r.operands ++ [s] }
  else if g.hasCommands then
    if afterSeparator ∧ ((CommandName.ofWord? s).isSome ∨ s = "help") then .error .unknownArgument
    else .error .invalidCommand
  else .error .unknownArgument

/-- The answer to words that ask for help about a command. -/
def helpAbout : List String → UsageError
  | [] => .displayHelp
  | [s] => if (CommandName.ofWord? s).isSome ∨ s = "help" then .displayHelp else .invalidCommand
  | _ => .invalidCommand

/-- Reads the words of a level, up to the name of a command. Gives what was read and, if there is a
command, its name and the words after it. -/
def readWords (g : Grammar) : Bool → Reading → List String →
    Except UsageError (Reading × Option (CommandName × List String))
  | _, r, [] => .ok (r, none)
  | true, r, s :: rest =>
    match readOperand g true r s with
    | .error e => .error e
    | .ok r => readWords g true r rest
  | false, r, s :: rest =>
    if g.hasCommands ∧ ¬ r.expectsValue ∧ s = "help" then .error (helpAbout rest)
    else
      match (if g.hasCommands ∧ ¬ r.expectsValue then CommandName.ofWord? s else none) with
      | some name => .ok (r, some (name, rest))
      | none =>
        match spelling s with
        | .separator => readWords g true r rest
        | .long word value =>
          match readLong g r word value with
          | .error e => .error e
          | .ok r => readWords g false r rest
        | .short letters =>
          match readLetters g r letters with
          | .error e => .error e
          | .ok r => readWords g false r rest
        | .plain =>
          match r.waiting with
          | some (o, none) => readWords g false { r with waiting := some (o, some s) } rest
          | _ =>
            match readOperand g false r s with
            | .error e => .error e
            | .ok r => readWords g false r rest

end Stencil.CommandLine
