import Stencil.Token.Walk

/-!
# Where the fields of a tree stand

`Token.placesAll` lists the fields of a tree in declared order, a container before what it holds,
and puts to each the addresses on the way down to it, one after the other. It is the view that
learning and extraction share: learning appends to it, and an extraction that meets each field once
goes through it from the front. In the list a field is told without its own fields (`Token.bare`),
so that a container in it does not change when fields are added.
-/

namespace Stencil

namespace Token

/-- A token without its fields. -/
def bare (t : Token) : Token := { t with children := [] }

@[simp] theorem bare_kind (t : Token) : t.bare.kind = t.kind := rfl

theorem bare_eq_self {t : Token} (h : t.children = []) : t.bare = t := by
  cases t
  cases h
  rfl

mutual

/-- The fields at and below a token whose parent has the address `base`, each with its address. -/
def places (base : Address) : Token → List (Token × Address)
  | ⟨kind, name, span, markerId, children, address⟩ =>
    (⟨kind, name, span, markerId, [], address⟩, base ++ address.getD .empty) ::
      placesAll (base ++ address.getD .empty) children

/-- The fields at and below the tokens of a list. -/
def placesAll (base : Address) : List Token → List (Token × Address)
  | [] => []
  | t :: ts => places base t ++ placesAll base ts

end

theorem places_eq (base : Address) (t : Token) :
    t.places base = (t.bare, base ++ t.way) :: placesAll (base ++ t.way) t.children := by
  cases t
  rw [places]
  rfl

/-- A token that holds no fields is alone in its list. -/
theorem places_of_flat (base : Address) {t : Token} (h : t.children = []) :
    t.places base = [(t, base ++ t.way)] := by
  rw [places_eq, bare_eq_self h, h, placesAll]

@[simp] theorem placesAll_append (base : Address) (xs ys : List Token) :
    placesAll base (xs ++ ys) = placesAll base xs ++ placesAll base ys := by
  induction xs with
  | nil => rfl
  | cons x xs ih => rw [List.cons_append, placesAll, placesAll, ih, List.append_assoc]

@[simp] theorem placesAll_singleton (base : Address) (t : Token) :
    placesAll base [t] = t.places base := by
  rw [placesAll, placesAll, List.append_nil]

theorem preorder_eq (depth : Nat) (t : Token) :
    t.preorder depth = (t, depth) :: preorderAll (depth + 1) t.children := by
  cases t
  rw [preorder]

mutual

/-- The places of a tree are its tokens in the order of visit. -/
theorem map_bare_preorder (depth : Nat) (base : Address) : (t : Token) →
    (preorder depth t).map (fun v => v.1.bare) = (places base t).map (·.1)
  | ⟨kind, name, span, markerId, children, address⟩ => by
    rw [preorder, places, List.map_cons, List.map_cons, map_bare_preorderAll]
    rfl

theorem map_bare_preorderAll (depth : Nat) (base : Address) : (ts : List Token) →
    (preorderAll depth ts).map (fun v => v.1.bare) = (placesAll base ts).map (·.1)
  | [] => rfl
  | t :: ts => by
    rw [preorderAll, placesAll, List.map_append, List.map_append, map_bare_preorder depth base,
      map_bare_preorderAll depth base]

end

mutual

/-- A token is a field, as learning makes them: a value holds nothing, and an object or a list holds
fields. -/
def IsField : Token → Prop
  | ⟨kind, _, _, _, children, _⟩ =>
    kind = .value ∧ children = [] ∨ (kind = .objectStart ∨ kind = .listStart) ∧ AreFields children

/-- All tokens of a list are fields. -/
def AreFields : List Token → Prop
  | [] => True
  | t :: ts => IsField t ∧ AreFields ts

end

theorem isField_iff (t : Token) :
    IsField t ↔ t.kind = .value ∧ t.children = [] ∨
      (t.kind = .objectStart ∨ t.kind = .listStart) ∧ AreFields t.children := by
  cases t
  rw [IsField]

theorem areFields_append (xs ys : List Token) :
    AreFields (xs ++ ys) ↔ AreFields xs ∧ AreFields ys := by
  induction xs with
  | nil => simp [AreFields]
  | cons x xs ih => simp [AreFields, ih, and_assoc]

/-- The tokens of a sample as the scanner lists them: the root leads, no other token is one, none
holds fields yet, and all but the ends of containers have an identifier. -/
structure IsListing (tokens : List Token) : Prop where
  leads : ∃ root rest, tokens = root :: rest ∧ root.kind = .root ∧ ∀ t ∈ rest, t.kind ≠ .root
  flat : ∀ t ∈ tokens, t.children = []
  identified : ∀ t ∈ tokens, t.kind.isClosing = false → t.markerId.isSome = true

/-- No token after the first one is a root. -/
theorem IsListing.ne_root {tokens : List Token} (h : IsListing tokens) :
    ∀ t ∈ tokens.tail, t.kind ≠ .root := by
  obtain ⟨_, _, rfl, _, hne⟩ := h.leads
  exact hne

end Token

end Stencil
