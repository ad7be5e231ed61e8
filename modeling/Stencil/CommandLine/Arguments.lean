import Stencil.CommandLine.Usage

/-!
# Arguments

What a command line asks for: a command with what it needs, and the options that hold for all
commands. Such an option may stand before the command or after it; if it does both, the one after
counts. The directory of the store can also come from the environment.
-/

namespace Stencil.CommandLine

/-- A command with its operands and options. -/
inductive Command where
  | compile (name : String) (file : Option String)
  | extract (name : String) (file : Option String) (lenient : Bool) (maxItems : Option Nat)
  | list
  | inspect (name : String)
  | remove (names : List String) (yes : Bool)
  | strip (file : Option String)
  deriving DecidableEq, Repr

/-- A whole command line. -/
structure Arguments where
  format : Option OutputFormat
  noColor : Bool
  config : Option String
  store : Option String
  verbosity : Nat
  command : Command
  deriving DecidableEq, Repr

/-- The command of what was read below its name. -/
def Command.ofReading (name : CommandName) (r : Reading) : Except UsageError Command :=
  match name, r.operands with
  | .compile, n :: _ => .ok (.compile n (r.values.lookup .file))
  | .extract, n :: _ =>
    .ok (.extract n (r.values.lookup .file) (.lenient ∈ r.flags)
      ((r.values.lookup .maxItems).bind fun s => Text.readCount? s.toList))
  | .list, _ => .ok .list
  | .inspect, n :: _ => .ok (.inspect n)
  | .remove, n :: names => .ok (.remove (n :: names) (.yes ∈ r.flags))
  | .strip, _ => .ok (.strip (r.values.lookup .file))
  | _, [] => .error .missingOperand

/-- Reads the words after the name of a command. -/
def readCommand (name : CommandName) (words : List String) :
    Except UsageError (Command × Reading) := do
  let (r, _) ← readWords (.below name) false {} words
  let r ← r.settle
  return (← Command.ofReading name r, r)

/-- Reads a command line, given the store that the environment names. A mistake below the command is
reported before one that an option in front of the command still waits to show. -/
def Arguments.ofWords (storeVariable : Option String) (words : List String) :
    Except UsageError Arguments := do
  let (front, rest) ← readWords .top false {} words
  match rest with
  | none =>
    let front ← front.settle
    if front.isBlank ∧ storeVariable.isNone then .error .noArguments else .error .missingCommand
  | some (name, words) =>
    let (command, back) ← readCommand name words
    let front ← front.settle
    let value := fun o => (back.values.lookup o).or (front.values.lookup o)
    return {
      format := (value .format).bind OutputFormat.ofKeyword?
      noColor := .noColor ∈ back.flags ++ front.flags
      config := value .config
      store := (value .store).or storeVariable
      verbosity := if back.verbosity = 0 then front.verbosity else back.verbosity
      command }

end Stencil.CommandLine
