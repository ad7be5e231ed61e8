import Stencil.Address
import Stencil.Text.Blank
import Stencil.Text.Count

/-!
# Selectors

The written form of addresses: the steps joined by ` > `, each a tag with `:first-child`,
`:nth-child(n)`, `:last-child` or nothing after it. The reader allows blanks around steps and
numbers, takes tags in either case and lets a text of blanks be the empty address.
-/

namespace Stencil

/-- Why a text is not a selector. -/
inductive SelectorError where
  /-- The part of this step before its first colon is not a tag. -/
  | invalidTag (step : String)
  /-- The part of a step after its first colon is none of the known places. -/
  | invalidPlace (text : String)
  deriving DecidableEq, Repr

/-- The text shown for a selector error. -/
def SelectorError.message : SelectorError → String
  | .invalidTag step => "Invalid tag in selector step '" ++ step ++ "'"
  | .invalidPlace text =>
    "Unsupported position '" ++ text ++ "' (expected first-child, last-child or nth-child(n))"

namespace Selector

/-- The text of a place, with the colon. The place before the last word has no successor to be
counted by and prints as zero. -/
def placeText : Place → List Char
  | .at 0 => ":first-child".toList
  | .at i => ":nth-child(".toList ++ (toString ((i + 1) % Text.wordSize)).toList ++ [')']
  | .last => ":last-child".toList

/-- The text of a step. -/
def stepText (s : Step) : List Char :=
  s.tag.toList ++ (match s.place with
    | none => []
    | some place => placeText place)

/-- The sign between steps. -/
def separator : List Char := [' ', '>', ' ']

/-- The text of a list of steps. -/
def stepsText : List Step → List Char
  | [] => []
  | [s] => stepText s
  | s :: t :: rest => stepText s ++ (separator ++ stepsText (t :: rest))

/-- The characters of a tag. -/
def isTagChar (c : Char) : Bool :=
  c.isAlphanum || c == '-' || c == '_'

/-- The text between a leading and a trailing part. -/
def between? (front back s : List Char) : Option (List Char) :=
  if front.isPrefixOf s ∧ back.isSuffixOf (s.drop front.length) then
    some ((s.drop front.length).take (s.length - front.length - back.length))
  else none

/-- Reads a place, without the colon. -/
def readPlace? (s : List Char) : Option Place :=
  if s = "first-child".toList then some (.at 0)
  else if s = "last-child".toList then some .last
  else
    match ((between? "nth-child(".toList [')'] s).map Text.trim).bind Text.readCount? with
    | some (n + 1) => some (.at n)
    | _ => none

/-- Reads a step. -/
def readStep (s : List Char) : Except SelectorError Step :=
  let s := Text.trim s
  let tag := s.takeWhile (· ≠ ':')
  if tag.isEmpty ∨ ¬ tag.all isTagChar then .error (.invalidTag (String.ofList s))
  else
    let tag := String.ofList (tag.map Char.toLower)
    match s.dropWhile (· ≠ ':') with
    | [] => .ok ⟨tag, none⟩
    | _ :: place =>
      match readPlace? place with
      | some place => .ok ⟨tag, some place⟩
      | none => .error (.invalidPlace (String.ofList place))

/-- The pieces of a text between the occurrences of a character. -/
def pieces (sep : Char) : List Char → List (List Char)
  | [] => [[]]
  | c :: r =>
    if c = sep then [] :: pieces sep r
    else
      match pieces sep r with
      | [] => [[c]]
      | p :: ps => (c :: p) :: ps

/-- Reads a list of steps; the first one that cannot be read decides the error. -/
def readSteps : List (List Char) → Except SelectorError (List Step)
  | [] => .ok []
  | p :: ps => do
    let s ← readStep p
    let rest ← readSteps ps
    return s :: rest

end Selector

namespace Address

/-- The selector of an address. -/
def toChars (a : Address) : List Char := Selector.stepsText a.steps

/-- The selector of an address as a string. -/
def toText (a : Address) : String := String.ofList a.toChars

/-- Reads a selector. -/
def ofChars (s : List Char) : Except SelectorError Address :=
  if (Text.trim s).isEmpty then .ok empty
  else (Selector.readSteps (Selector.pieces '>' s)).map .mk

/-- Reads a selector from a string. -/
def parse (s : String) : Except SelectorError Address := ofChars s.toList

end Address

end Stencil
