import Stencil.Html.Builder

/-!
# Formatting elements

Elements such as `b` and `i` go on after an element that ends before them. They are kept in a list
with markers at the borders they do not cross. `reconstruct` opens those again that are not open any
more, and `adopt` ends one whose end tag stands inside other elements, splitting it between them.
-/

namespace Stencil.Html.Builder

/-- The entries after the last marker. -/
def recentFormatting (b : Builder) : List Opened :=
  (b.formatting.takeWhile (· ≠ .marker)).filterMap fun
    | .element o => some o
    | .marker => none

/-- Whether two lists hold the same attributes. -/
def sameAttributes (xs ys : List (String × String)) : Bool :=
  xs.length == ys.length && xs.all ys.contains

/-- Removes the earliest entry that satisfies `p`. -/
def removeEarliest (p : Opened → Bool) (entries : List Formatting) : List Formatting :=
  (entries.reverse.eraseP fun
    | .element o => p o
    | .marker => false).reverse

/-- Takes an element out of the list of formatting elements. -/
def removeFormatting (b : Builder) (node : Nat) : Builder :=
  { b with formatting := b.formatting.filter fun
      | .element o => o.node ≠ node
      | .marker => true }

/-- Inserts a formatting element. Of four alike after the last marker the earliest is forgotten. -/
def insertFormatting (b : Builder) (t : Tag) : Builder :=
  let alike := fun o : Opened =>
    o.element.name == t.name && sameAttributes o.element.attributes t.attributes
  let b :=
    if (b.recentFormatting.filter alike).length < 3 then b
    else
      let recent := b.formatting.takeWhile (· ≠ .marker)
      { b with formatting := removeEarliest alike recent ++ b.formatting.drop recent.length }
  let b := b.insert t
  match b.opened with
  | o :: _ => { b with formatting := .element o :: b.formatting }
  | [] => b

/-- Whether an entry stays closed: it is a marker or its element is open. -/
def isSettled (b : Builder) : Formatting → Bool
  | .marker => true
  | .element o => b.opened.any (·.node == o.node)

/-- Opens the formatting elements again that are not open any more. -/
def reconstruct (b : Builder) : Builder :=
  let closed := b.formatting.takeWhile fun e => !b.isSettled e
  let settled := b.formatting.drop closed.length
  closed.reverse.foldl (fun b e =>
    match e with
    | .marker => b
    | .element o =>
      let b := b.insertElement o.element
      match b.opened with
      | new :: _ => { b with formatting := .element new :: b.formatting }
      | [] => b) { b with formatting := settled }

/-- Forgets the entries up to the last marker and the marker. -/
def clearFormatting (b : Builder) : Builder :=
  { b with formatting := (b.formatting.dropWhile (· ≠ .marker)).drop 1 }

/-- Adds a marker. -/
def pushMarker (b : Builder) : Builder :=
  { b with formatting := .marker :: b.formatting }

/-- What an end tag ends that no rule treats in a way of its own: the innermost element of the name,
unless a special element is inside it. -/
def endOther (b : Builder) (name : String) : Builder :=
  if inScope Element.isSpecial (·.isHtml [name]) b.opened then
    (b.closeImplied impliedEnds name).popThrough [name]
  else b

/-- Where the copy of a split formatting element goes in the list. -/
inductive Bookmark where
  /-- In the place of this entry. -/
  | inPlaceOf (node : Nat)
  /-- Right after this entry. -/
  | after (node : Nat)

/-- What the inner loop of the adoption works on. -/
structure Adoption where
  builder : Builder
  /-- The open elements outside the one looked at last. -/
  outer : List Opened
  /-- The open elements from it inwards, that one first. -/
  inner : List Opened
  /-- The node that is to be moved. -/
  last : Nat
  bookmark : Bookmark

/-- Replaces an element in the list of formatting elements. -/
def replaceFormatting (b : Builder) (node : Nat) (o : Opened) : Builder :=
  { b with formatting := b.formatting.map fun
      | .element old => if old.node = node then .element o else .element old
      | .marker => .marker }

/-- Whether an element is in the list of formatting elements. -/
def isFormatting (b : Builder) (node : Nat) : Bool :=
  b.formatting.any fun
    | .element o => o.node == node
    | .marker => false

/-- Copies the formatting elements between the furthest block and the element that ends, from the
inside out, and drops the other elements between them. The first three are copied at most. -/
def adoptBetween (subject furthest : Nat) : Nat → Nat → Adoption → Adoption
  | 0, _, a => a
  | fuel + 1, count, a =>
    match a.outer with
    | [] => a
    | o :: outer =>
      if o.node = subject then a
      else if 3 ≤ count then
        adoptBetween subject furthest fuel (count + 1)
          { a with builder := a.builder.removeFormatting o.node, outer := outer }
      else if !a.builder.isFormatting o.node then
        adoptBetween subject furthest fuel (count + 1) { a with outer := outer }
      else
        let (b, new) := a.builder.create o.element
        let b := b.replaceFormatting o.node new
        let bookmark := if a.last = furthest then .after new.node else a.bookmark
        let forest := (b.forest.detach a.last).append new.inside a.last
        adoptBetween subject furthest fuel (count + 1)
          ⟨{ b with forest := forest }, outer, new :: a.inner, new.node, bookmark⟩

/-- Puts a new entry where a bookmark says, in the place of the element that ends. -/
def placeFormatting (b : Builder) (subject : Nat) (new : Opened) : Bookmark → Builder
  | .inPlaceOf node => b.replaceFormatting node new
  | .after node =>
    let formatting := b.formatting.flatMap fun
      | .element o =>
        if o.node = node then [.element new, .element o]
        else if o.node = subject then []
        else [.element o]
      | .marker => [.marker]
    { b with formatting := formatting }

/-- Splits the formatting element `subject`, inside which the furthest block is open. -/
def split (b : Builder) (subject furthest : Opened) : Builder :=
  let inside := b.opened.takeWhile (·.node ≠ furthest.node)
  let outside := b.opened.drop (inside.length + 1)
  let common := ((outside.dropWhile (·.node ≠ subject.node)).drop 1).head?
  let a := adoptBetween subject.node furthest.node outside.length 0
    ⟨b, outside, [], furthest.node, .inPlaceOf subject.node⟩
  let b := a.builder
  let b := { b with forest := b.forest.detach a.last }
  let b := match common with
    | some o => b.put a.last (b.spotIn o)
    | none => b
  let (b, new) := b.create subject.element
  let forest := (b.forest.moveChildren furthest.node new.node).append furthest.node new.node
  let b := ({ b with forest := forest } : Builder).placeFormatting subject.node new a.bookmark
  let rest := a.outer.filter (·.node ≠ subject.node)
  { b with opened := inside ++ new :: furthest :: (a.inner.reverse ++ rest) }

/-- Whether an element is open and nothing that ends a scope is inside it. -/
def nodeInScope (node : Nat) : List Opened → Bool
  | [] => false
  | o :: rest =>
    if o.node = node then true else if o.element.endsScope then false else nodeInScope node rest

/-- One round of ending a formatting element, and whether another one may follow. -/
def adoptOnce (b : Builder) (name : String) : Builder × Bool :=
  match b.recentFormatting.find? (·.element.name == name) with
  | none => (b.endOther name, false)
  | some subject =>
    if !b.opened.any (·.node == subject.node) then (b.removeFormatting subject.node, false)
    else if !nodeInScope subject.node b.opened then (b, false)
    else
      let inside := b.opened.takeWhile (·.node ≠ subject.node)
      match inside.reverse.find? (·.element.isSpecial) with
      | none =>
        (({ b with opened := b.opened.drop (inside.length + 1) } : Builder).removeFormatting
          subject.node, false)
      | some furthest => (b.split subject furthest, true)

/-- Rounds of ending a formatting element. -/
def adoptRounds (name : String) : Nat → Builder → Builder
  | 0, b => b
  | n + 1, b =>
    match b.adoptOnce name with
    | (b, true) => adoptRounds name n b
    | (b, false) => b

/-- Ends the formatting element of a name, in eight rounds at most. -/
def adopt (b : Builder) (name : String) : Builder :=
  match b.opened with
  | o :: _ =>
    if o.element.isHtml [name] && !b.isFormatting o.node then b.pop else adoptRounds name 8 b
  | [] => b

end Stencil.Html.Builder
