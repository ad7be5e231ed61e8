import Stencil.Blueprint
import Stencil.Document
import Stencil.StructuralError

/-!
# Learning a blueprint

`learn` turns the tokens of a sample and the marked document into a blueprint. It first checks that
starts and ends of containers pair, whatever the document holds. Then it nests the tokens and finds
for each the element it is anchored on: a container on the first element inside its marker, a value
on the element around its marker. A token's address leads from its container's anchor to its own.
-/

namespace Stencil

/-! ## Pairing -/

namespace Pairing

/-- The place of a token in its sample. -/
def offset (t : Token) : Option Nat := t.span.map (·.start)

/-- Reads one token; `opened` holds the containers that are open, the innermost first. -/
def step (opened : List Token) (t : Token) : Except StructuralError (List Token) :=
  if t.kind.isOpening then .ok (t :: opened)
  else if t.kind.isClosing then
    match opened with
    | [] => .error (.unbalanced (offset t) .nothingOpen)
    | o :: rest =>
      if t.kind.closes o.kind then .ok rest
      else .error (.unbalanced (offset t) (.mismatch t.kind o.kind o.label))
  else .ok opened

/-- Reads tokens from a state of open containers. -/
def run (opened : List Token) : List Token → Except StructuralError (List Token)
  | [] => .ok opened
  | t :: rest =>
    match step opened t with
    | .error e => .error e
    | .ok opened => run opened rest

/-- Checks that every end closes the innermost open container of its kind and that no container
stays open. -/
def check (tokens : List Token) : Except StructuralError Unit :=
  match run [] tokens with
  | .error e => .error e
  | .ok [] => .ok ()
  | .ok (o :: _) => .error (.unbalanced (offset o) (.unclosed o.kind o.label))

end Pairing

/-! ## Anchors -/

namespace Learning

/-- The element that a token is anchored on. -/
def anchor (d : Document) (t : Token) : Except StructuralError Path :=
  match t.markerId.bind d.findMarker? with
  | none => .error (.markerNotFound t.label)
  | some marker =>
    if t.kind.isContainer then
      match d.firstChild? marker with
      | some p => .ok p
      | none => .error (.emptyContainer t.label)
    else
      match (d.logicalParent? marker).or d.root? with
      | some p => .ok p
      | none => .error (.markerNotFound t.label)

/-- The address of a token's anchor from the top element. -/
def locate (d : Document) (t : Token) : Except StructuralError Address :=
  (anchor d t).map d.addressOf

/-! ## Nesting -/

/-- A container that is being filled: its token and the address of its anchor. -/
structure Opened where
  token : Token
  anchor : Address
  deriving Repr

/-- Adds a field to a container. -/
def Opened.add (o : Opened) (t : Token) : Opened :=
  { o with token := { o.token with children := o.token.children ++ [t] } }

/-- The containers being filled: the root and those inside it, the innermost first. -/
structure Nest where
  root : Opened
  opened : List Opened
  deriving Repr

namespace Nest

/-- The innermost container. -/
def innermost (n : Nest) : Opened := n.opened.head?.getD n.root

/-- Adds a field to the innermost container. -/
def add (n : Nest) (t : Token) : Nest :=
  match n.opened with
  | [] => { n with root := n.root.add t }
  | o :: rest => { n with opened := o.add t :: rest }

/-- Ends the innermost container and adds it to the one around it. -/
def close (n : Nest) : Nest :=
  match n.opened with
  | [] => n
  | o :: rest => ({ n with opened := rest } : Nest).add o.token

/-- Starts a container. -/
def push (n : Nest) (o : Opened) : Nest := { n with opened := o :: n.opened }

end Nest

/-- Takes up one token. -/
def step (d : Document) (n : Nest) (t : Token) : Except StructuralError Nest :=
  if t.kind.isClosing then .ok n.close
  else
    match locate d t with
    | .error e => .error e
    | .ok absolute =>
      match absolute.stripPrefix? n.innermost.anchor with
      | none => .error (.detached t.label n.innermost.token.label)
      | some relative =>
        let t := { t with address := some relative }
        if t.kind.isContainer then .ok (n.push ⟨t, absolute⟩) else .ok (n.add t)

/-- Takes up tokens in order. -/
def run (d : Document) (n : Nest) : List Token → Except StructuralError Nest
  | [] => .ok n
  | t :: rest =>
    match step d n t with
    | .error e => .error e
    | .ok n => run d n rest

/-- The token for the whole sample, which leads the list or else is made with the given identifier,
and the tokens after it. -/
def splitRoot (fresh : MarkerId) : List Token → Token × List Token
  | [] => (.root fresh, [])
  | t :: rest => if t.kind = .root then (t, rest) else (.root fresh, t :: rest)

end Learning

/-- Learns a blueprint from the tokens of a sample and the marked document. The identifier is that
of the root, should the tokens have none. -/
def learn (fresh : MarkerId) (name : String) (tokens : List Token) (d : Document) :
    Except StructuralError Blueprint :=
  match Pairing.check tokens with
  | .error e => .error e
  | .ok () =>
    let (root, rest) := Learning.splitRoot fresh tokens
    match Learning.run d ⟨⟨root, .empty⟩, []⟩ rest with
    | .error e => .error e
    | .ok n => .ok ⟨name, n.root.token⟩

end Stencil
