/-!
# Offsets in bytes

Places in a text are counted in the bytes of its UTF-8 form. `byteLength` measures a list of
characters and `splitAtByte` cuts it at a byte offset; a cut inside a character falls before it.
-/

namespace Stencil.Text

/-- The number of bytes of a text in UTF-8. -/
def byteLength (s : List Char) : Nat :=
  s.foldl (fun n c => n + c.utf8Size) 0

theorem foldl_utf8Size (s : List Char) (n : Nat) :
    s.foldl (fun n c => n + c.utf8Size) n = n + byteLength s := by
  unfold byteLength
  induction s generalizing n with
  | nil => simp
  | cons c r ih =>
    rw [List.foldl_cons, ih, List.foldl_cons, ih (0 + c.utf8Size)]
    omega

@[simp] theorem byteLength_nil : byteLength [] = 0 := rfl

@[simp] theorem byteLength_cons (c : Char) (r : List Char) :
    byteLength (c :: r) = c.utf8Size + byteLength r := by
  rw [byteLength, List.foldl_cons, foldl_utf8Size]
  omega

@[simp] theorem byteLength_append (s t : List Char) :
    byteLength (s ++ t) = byteLength s + byteLength t := by
  induction s with
  | nil => simp
  | cons c r ih => simp [ih, Nat.add_assoc]

/-- The part of a text before a byte offset, in reverse and before `front`, and the part from it on. -/
def splitAtByte.go (front : List Char) : Nat → List Char → List Char × List Char
  | _, [] => (front.reverse, [])
  | n, c :: r =>
    if n < c.utf8Size then (front.reverse, c :: r)
    else go (c :: front) (n - c.utf8Size) r

/-- Cuts a text at a byte offset. -/
def splitAtByte (n : Nat) (s : List Char) : List Char × List Char :=
  splitAtByte.go [] n s

theorem splitAtByte_go_append (front : List Char) (n : Nat) (s : List Char) :
    (splitAtByte.go front n s).1 ++ (splitAtByte.go front n s).2 = front.reverse ++ s := by
  induction s generalizing front n with
  | nil => simp [splitAtByte.go]
  | cons c r ih =>
    rw [splitAtByte.go]
    split
    · rfl
    · simp [ih]

/-- Nothing is lost by a cut. -/
theorem splitAtByte_append (n : Nat) (s : List Char) :
    (splitAtByte n s).1 ++ (splitAtByte n s).2 = s := by
  simpa [splitAtByte] using splitAtByte_go_append [] n s

end Stencil.Text
