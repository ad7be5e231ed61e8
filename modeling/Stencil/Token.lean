import Stencil.Address
import Stencil.MarkerId
import Stencil.TokenKind

/-!
# Tokens

A token is what an annotation says: its kind and name, where in the sample it stands and the
identifier of its marker. The scanner yields a flat list of tokens; in a blueprint they form a tree,
each with the address of its element relative to its parent's.
-/

namespace Stencil

/-- A range of bytes of a text, the end excluded. -/
structure Span where
  start : Nat
  stop : Nat
  deriving DecidableEq, Repr, Inhabited

/-- The number of bytes in a range. -/
def Span.length (s : Span) : Nat := s.stop - s.start

/-- A token with the tokens nested in it. -/
structure Token where
  kind : TokenKind
  /-- The field's name; ends of containers and the root have none. -/
  name : Option String
  /-- Where the annotation stands; the root stands nowhere. -/
  span : Option Span
  /-- The identifier of the marker; ends of containers have none. -/
  markerId : Option MarkerId
  /-- The fields of a container in declared order. -/
  children : List Token
  /-- The way from the parent's element to this token's. -/
  address : Option Address
  deriving BEq, Repr, Inhabited

namespace Token

mutual

/-- Equality of token trees is decided part by part. -/
def decEq : (a b : Token) → Decidable (a = b)
  | ⟨k, n, s, m, c, a⟩, ⟨k', n', s', m', c', a'⟩ =>
    if h : k = k' ∧ n = n' ∧ s = s' ∧ m = m' ∧ a = a' then
      match decEqAll c c' with
      | isTrue hc => isTrue (by obtain ⟨rfl, rfl, rfl, rfl, rfl⟩ := h; rw [hc])
      | isFalse hc => isFalse fun e => hc (Token.mk.inj e).2.2.2.2.1
    else
      isFalse fun e => h (by cases e; exact ⟨rfl, rfl, rfl, rfl, rfl⟩)

/-- Equality of lists of token trees. -/
def decEqAll : (a b : List Token) → Decidable (a = b)
  | [], [] => isTrue rfl
  | [], _ :: _ => isFalse nofun
  | _ :: _, [] => isFalse nofun
  | x :: xs, y :: ys =>
    match decEq x y with
    | isFalse h => isFalse fun e => h (List.cons.inj e).1
    | isTrue h =>
      match decEqAll xs ys with
      | isFalse h' => isFalse fun e => h' (List.cons.inj e).2
      | isTrue h' => isTrue (by rw [h, h'])

end

instance : DecidableEq Token := decEq

/-- A token without fields. -/
def leaf (kind : TokenKind) (name : Option String) (span : Option Span)
    (markerId : Option MarkerId) : Token :=
  ⟨kind, name, span, markerId, [], none⟩

/-- The token for a whole sample. -/
def root (markerId : MarkerId) : Token :=
  leaf .root none none (some markerId)

/-- The name, empty where there is none. -/
def label (t : Token) : String := t.name.getD ""

/-- The address, which without one of its own is that of the parent. -/
def way (t : Token) : Address := t.address.getD .empty

/-- The field of a container with a name: the last one declared. -/
def field? (t : Token) (name : String) : Option Token :=
  t.children.reverse.find? fun c => c.name == some name

mutual

/-- The number of tokens in a tree. -/
def size : Token → Nat
  | ⟨_, _, _, _, children, _⟩ => 1 + sizeAll children

/-- The number of tokens in a list of trees. -/
def sizeAll : List Token → Nat
  | [] => 0
  | t :: ts => size t + sizeAll ts

end

theorem size_eq (t : Token) : t.size = 1 + sizeAll t.children := by
  cases t; rw [size]

@[simp] theorem sizeAll_append (xs ys : List Token) :
    sizeAll (xs ++ ys) = sizeAll xs + sizeAll ys := by
  induction xs with
  | nil => simp [sizeAll]
  | cons x xs ih => simp [sizeAll, ih, Nat.add_assoc]

end Token

end Stencil
