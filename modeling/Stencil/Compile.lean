import Stencil.Html.Parse
import Stencil.Learning
import Stencil.Sample

/-!
# Compiling samples

A sample is compiled in three steps: its annotations are listed as tokens, markers are put in their
place, and the blueprint is learned from the tokens and the marked document.
-/

namespace Stencil

/-- Why a sample cannot be compiled. -/
inductive CompileError where
  /-- Its annotations cannot be listed. -/
  | scanning (e : SyntaxError)
  /-- Its annotations do not fit the document. -/
  | structural (e : StructuralError)
  deriving DecidableEq, Repr

/-- The text shown for a compile error. -/
def CompileError.message : CompileError → String
  | scanning e => e.message
  | structural e => e.message

/-- Compiles a sample into a blueprint of the given name. -/
def compile (ids : IdSupply) (name : String) (sample : String) : Except CompileError Blueprint :=
  match Sample.tokenize ids sample.toList with
  | .error e => .error (.scanning e)
  | .ok tokens =>
    let marked := Html.parse (Sample.inject tokens sample.toList)
    match learn (ids 0) name tokens marked with
    | .error e => .error (.structural e)
    | .ok b => .ok b

end Stencil
