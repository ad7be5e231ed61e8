import Stencil.Json.Decode
import Stencil.Json.Print

/-!
# One layout for both printers

`layAt` puts what `line` says before every item, member and closing sign, and `gap` after every
colon. With line breaks and a space it prints as `prettyAt` (`prettyAt_eq_layAt`), with nothing it
prints as `compact` (`compact_eq_layAt`), so what is proved of it holds of both.
-/

namespace Stencil.Json

/-! ## Trees whose numbers are whole -/

mutual

/-- Whether the numbers of a tree are whole ones in decimal digits. -/
def Whole : Json → Prop
  | .number literal => ∃ n : Nat, literal = toString n
  | .array items => WholeItems items
  | .object members => WholeMembers members
  | .null => True
  | .bool _ => True
  | .string _ => True

/-- The same of items. -/
def WholeItems : List Json → Prop
  | [] => True
  | x :: xs => Whole x ∧ WholeItems xs

/-- The same of members. -/
def WholeMembers : List (String × Json) → Prop
  | [] => True
  | (_, v) :: ms => Whole v ∧ WholeMembers ms

end

theorem whole_ofNat (n : Nat) : (ofNat n).Whole := ⟨n, rfl⟩

theorem wholeMembers_append (xs ys : List (String × Json)) :
    WholeMembers (xs ++ ys) ↔ WholeMembers xs ∧ WholeMembers ys := by
  induction xs with
  | nil => simp [WholeMembers]
  | cons x xs ih => simp [WholeMembers, ih, and_assoc]

/-! ## One layout -/

section
variable (line : Nat → List Char) (gap : List Char)

mutual

/-- The text of a tree at a level, with blanks before its parts as given. -/
def layAt (level : Nat) : Json → List Char
  | .null => nullText
  | .bool b => boolText b
  | .number literal => literal.toList
  | .string s => quote s
  | .array [] => ['[', ']']
  | .array (x :: xs) =>
    '[' :: (line (level + 1) ++ (layAt (level + 1) x ++ layItems level xs))
  | .object [] => ['\x7b', '\x7d']
  | .object ((k, v) :: ms) =>
    '\x7b' :: (line (level + 1) ++ (quote k ++ (':' :: (gap ++
      (layAt (level + 1) v ++ layMembers level ms)))))

/-- The items after the first, and the closing bracket. -/
def layItems (level : Nat) : List Json → List Char
  | [] => line level ++ [']']
  | x :: xs => ',' :: (line (level + 1) ++ (layAt (level + 1) x ++ layItems level xs))

/-- The members after the first, and the closing brace. -/
def layMembers (level : Nat) : List (String × Json) → List Char
  | [] => line level ++ ['\x7d']
  | (k, v) :: ms =>
    ',' :: (line (level + 1) ++ (quote k ++ (':' :: (gap ++
      (layAt (level + 1) v ++ layMembers level ms)))))

end

end

mutual

theorem prettyAt_eq_layAt (level : Nat) : (j : Json) →
    prettyAt level j = layAt breakLine [' '] level j
  | .null => rfl
  | .bool _ => rfl
  | .number _ => rfl
  | .string _ => rfl
  | .array [] => rfl
  | .array (x :: xs) => by
    rw [prettyAt, layAt, prettyAt_eq_layAt, prettyItems_eq_layItems]
  | .object [] => rfl
  | .object ((k, v) :: ms) => by
    rw [prettyAt, layAt, prettyAt_eq_layAt, prettyMembers_eq_layMembers]
    rfl

theorem prettyItems_eq_layItems (level : Nat) : (xs : List Json) →
    prettyItems level xs = layItems breakLine [' '] level xs
  | [] => rfl
  | x :: xs => by rw [prettyItems, layItems, prettyAt_eq_layAt, prettyItems_eq_layItems]

theorem prettyMembers_eq_layMembers (level : Nat) : (ms : List (String × Json)) →
    prettyMembers level ms = layMembers breakLine [' '] level ms
  | [] => rfl
  | (k, v) :: ms => by
    rw [prettyMembers, layMembers, prettyAt_eq_layAt, prettyMembers_eq_layMembers]
    rfl

end

mutual

theorem compact_eq_layAt (level : Nat) : (j : Json) →
    compact j = layAt (fun _ => []) [] level j
  | .null => rfl
  | .bool _ => rfl
  | .number _ => rfl
  | .string _ => rfl
  | .array [] => rfl
  | .array (x :: xs) => by
    rw [compact, layAt, compact_eq_layAt (level + 1), compactItems_eq_layItems level]
    rfl
  | .object [] => rfl
  | .object ((k, v) :: ms) => by
    rw [compact, layAt, compact_eq_layAt (level + 1), compactMembers_eq_layMembers level]
    rfl

theorem compactItems_eq_layItems (level : Nat) : (xs : List Json) →
    compactItems xs = layItems (fun _ => []) [] level xs
  | [] => rfl
  | x :: xs => by
    rw [compactItems, layItems, compact_eq_layAt (level + 1), compactItems_eq_layItems level]
    rfl

theorem compactMembers_eq_layMembers (level : Nat) : (ms : List (String × Json)) →
    compactMembers ms = layMembers (fun _ => []) [] level ms
  | [] => rfl
  | (k, v) :: ms => by
    rw [compactMembers, layMembers, compact_eq_layAt (level + 1),
      compactMembers_eq_layMembers level]
    rfl

end

end Stencil.Json
