/-!
# Addresses

An address leads from an element of a document down to another one. Each step takes a child
element, at a position, as the last one or as the first one of its tag, and says which tag that
child has. The empty address stays where it is. `Stencil.Address.Selector` writes addresses as
selectors.
-/

namespace Stencil

/-- Where a step finds its child among the child elements. -/
inductive Place where
  /-- The child with this many siblings before it. -/
  | at (index : Nat)
  /-- The last child. -/
  | last
  deriving DecidableEq, Repr

/-- One step down. -/
structure Step where
  /-- The tag the child must have. -/
  tag : String
  /-- The place of the child; without one it is the first child with the tag. -/
  place : Option Place
  deriving DecidableEq, Repr

/-- A path of steps from an element to one below it. -/
structure Address where
  steps : List Step
  deriving DecidableEq, Repr

namespace Address

/-- The address that stays where it is. -/
def empty : Address := ⟨[]⟩

instance : Inhabited Address := ⟨empty⟩

/-- One address after the other. -/
def append (a b : Address) : Address := ⟨a.steps ++ b.steps⟩

instance : Append Address := ⟨append⟩

/-- What is left of a list after a leading part, if it has that part. -/
def rest? : (front list : List Step) → Option (List Step)
  | [], list => some list
  | _ :: _, [] => none
  | x :: front, y :: list => if x = y then rest? front list else none

/-- The address relative to one that leads there in part, if it does. -/
def stripPrefix? (a front : Address) : Option Address :=
  (rest? front.steps a.steps).map .mk

/-- Whether an address begins with another. -/
def startsWith (a front : Address) : Bool :=
  (a.stripPrefix? front).isSome

theorem rest?_eq_some_iff {front list r : List Step} :
    rest? front list = some r ↔ list = front ++ r := by
  induction front generalizing list with
  | nil => simp [rest?, eq_comm]
  | cons x front ih =>
    cases list with
    | nil => simp [rest?]
    | cons y list =>
      by_cases h : x = y
      · simp [rest?, h, ih]
      · have h' : ¬ y = x := fun e => h e.symm
        simp [rest?, h, h']

/-- A relative address is what has to follow the leading part. -/
theorem stripPrefix?_eq_some_iff {a front r : Address} :
    a.stripPrefix? front = some r ↔ a = front ++ r := by
  obtain ⟨a⟩ := a
  obtain ⟨front⟩ := front
  obtain ⟨r⟩ := r
  show (rest? front a).map Address.mk = some ⟨r⟩ ↔ Address.mk a = ⟨front ++ r⟩
  simp [rest?_eq_some_iff]

end Address

end Stencil
