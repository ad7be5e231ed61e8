import Stencil.Blueprint
import Stencil.Proofs.Learning.Nest
import Stencil.Proofs.Learning.Pairing
import Stencil.Proofs.Token.Preorder

/-!
# The order and the levels of a learned tree

A container joins its parent only when its end is met, yet in the tree every field stands where the
sample has it. `learned_tree_lists_sample` says this of the walk over the tree: without the root it
goes through the tokens of the sample that end no container, one for one and in their order, each at
the level that the containers open at its place make. The order comes from the places of the tree
(`placesAll_of_learn`). For the levels, `Nest.levels` reads the root and the waiting containers as
one list once more: taking up a token appends one level, the end of a container changes none
(`levels_of_step`), and how many containers wait is a matter of counting (`length_eq_openCount`).
-/

namespace Stencil

open Token (AreFields IsListing)

/-! ## Counting starts and ends -/

/-- The number of containers that tokens start and do not end. -/
def openCount (tokens : List Token) : Nat :=
  tokens.countP (·.kind.isOpening) - tokens.countP (·.kind.isClosing)

/-- The tokens that end no container, each with the number of containers open at its place; the
tokens in `before` come before all of them. -/
def fieldsAfter (before : List Token) : List Token → List (Token × Nat)
  | [] => []
  | t :: rest =>
    (if t.kind.isClosing then [] else [(t, openCount before)]) ++ fieldsAfter (before ++ [t]) rest

theorem map_fst_fieldsAfter (before tokens : List Token) :
    (fieldsAfter before tokens).map (·.1) = Learning.fieldTokens tokens := by
  induction tokens generalizing before with
  | nil => rfl
  | cons t rest ih =>
    rw [fieldsAfter, List.map_append, ih, Learning.fieldTokens, Learning.fieldTokens,
      List.filter_cons]
    cases t.kind.isClosing <;> rfl

namespace Pairing

/-- Over tokens that pair, what is open is what was started and not ended. -/
theorem length_of_run {opened opened' tokens : List Token} (h : run opened tokens = .ok opened') :
    opened'.length + tokens.countP (·.kind.isClosing) =
      opened.length + tokens.countP (·.kind.isOpening) := by
  induction tokens generalizing opened with
  | nil =>
    cases h
    rfl
  | cons t rest ih =>
    obtain ⟨o, hs, hmore⟩ := run_cons_eq_ok_iff.1 h
    have hrest := ih hmore
    have hfirst := length_of_step hs
    rw [List.countP_cons, List.countP_cons]
    omega

theorem length_eq_openCount {opened tokens : List Token} (h : run [] tokens = .ok opened) :
    opened.length = openCount tokens := by
  have := length_of_run h
  rw [List.length_nil] at this
  rw [openCount]
  omega

end Pairing

namespace Learning

/-! ## Levels -/

namespace Nest

/-- The levels of the fields of the root and of waiting containers, which stand one in the other. -/
def levelsFrom (root : Opened) : List Opened → List Nat
  | [] => (Token.preorderAll 1 root.token.children).map (·.2)
  | o :: rest => levelsFrom root rest ++ (o.token.preorder (rest.length + 1)).map (·.2)

/-- The levels of the fields taken up so far, in their order. -/
def levels (n : Nest) : List Nat := levelsFrom n.root n.opened

theorem levels_add (n : Nest) (t : Token) :
    (n.add t).levels = n.levels ++ (t.preorder (n.opened.length + 1)).map (·.2) := by
  obtain ⟨root, opened⟩ := n
  cases opened with
  | nil => simp [add, levels, levelsFrom, Opened.add]
  | cons o rest => simp [add, levels, levelsFrom, Opened.add, Token.preorder_eq]

theorem levels_push (n : Nest) {o : Opened} (h : o.token.children = []) :
    (n.push o).levels = n.levels ++ [n.opened.length + 1] := by
  rw [levels, push, levelsFrom, Token.preorder_eq, h, Token.preorderAll]
  rfl

/-- Ending a container moves it to where it has been counted before. -/
theorem levels_close (n : Nest) : n.close.levels = n.levels := by
  obtain ⟨root, opened⟩ := n
  cases opened with
  | nil => rfl
  | cons o rest =>
    rw [close, levels_add]
    rfl

end Nest

section
variable {d : Document}

/-- Taking up a token adds the level of its place, unless the token ends a container. -/
theorem levels_of_step {n n' : Nest} {t : Token} (hflat : t.children = [])
    (h : step d n t = .ok n') :
    n'.levels = n.levels ++ if t.kind.isClosing then [] else [n.opened.length + 1] := by
  cases taken_of_step h with
  | closes hclosing => rw [if_pos hclosing, Nest.levels_close, List.append_nil]
  | opens hclosing _ _ _ =>
    rw [if_neg hclosing]
    exact Nest.levels_push n hflat
  | adds hclosing _ _ _ =>
    rw [if_neg hclosing, Nest.levels_add, Token.preorder_eq, hflat, Token.preorderAll]
    rfl

/-- Taking up tokens in order adds the levels of their places. -/
theorem levels_of_run {n n' : Nest} {before opened opened' tokens : List Token}
    (hbefore : Pairing.run [] before = .ok opened) (hlen : n.opened.length = opened.length)
    (hroot : ∀ t ∈ tokens, t.kind ≠ .root) (hflat : ∀ t ∈ tokens, t.children = [])
    (hpair : Pairing.run opened tokens = .ok opened') (h : run d n tokens = .ok n') :
    n'.levels = n.levels ++ (fieldsAfter before tokens).map fun x => x.2 + 1 := by
  induction tokens generalizing n before opened with
  | nil =>
    cases h
    exact (List.append_nil _).symm
  | cons t rest ih =>
    obtain ⟨m, hs, hrest⟩ := run_cons_eq_ok_iff.1 h
    obtain ⟨o, hp, hprest⟩ := Pairing.run_cons_eq_ok_iff.1 hpair
    have hone : Pairing.run [] (before ++ [t]) = .ok o :=
      Pairing.run_append_eq_ok_iff.2 ⟨opened, hbefore, (Pairing.run_singleton opened t).trans hp⟩
    have hnext := length_opened_of_step (hroot t (List.mem_cons_self ..)) hlen hp hs
    rw [ih hone hnext
        (fun t ht => hroot t (List.mem_cons_of_mem _ ht))
        (fun t ht => hflat t (List.mem_cons_of_mem _ ht)) hprest hrest,
      levels_of_step (hflat t (List.mem_cons_self ..)) hs, fieldsAfter, List.map_append,
      List.append_assoc, hlen, Pairing.length_eq_openCount hbefore]
    cases t.kind.isClosing <;> rfl

end

/-! ## The learned tree -/

/-- The levels of a learned tree are those of its tokens' places in the sample. -/
theorem levels_of_learn {d : Document} {fresh : MarkerId} {name : String} {tokens : List Token}
    {b : Blueprint} (hl : IsListing tokens) (h : learn fresh name tokens d = .ok b) :
    (Token.preorderAll 1 b.root.children).map (·.2) =
      (fieldsAfter [] tokens.tail).map fun x => x.2 + 1 := by
  obtain ⟨root, rest, n, rfl, hpair, hrun, hclosed, rfl⟩ := exists_run_of_learn hl h
  have hrootflat : root.children = [] := hl.flat root (List.mem_cons_self ..)
  have hstart : Pairing.run [] [] = .ok [] := rfl
  have hlevels := levels_of_run hstart rfl hl.ne_root
    (fun t ht => hl.flat t (List.mem_cons_of_mem _ ht)) hpair hrun
  rw [Nest.levels, hclosed, Nest.levelsFrom, Nest.levels, Nest.levelsFrom, hrootflat,
    Token.preorderAll] at hlevels
  exact hlevels

/-- What a field of the sample, with the number of containers open at its place, becomes on a walk
over the learned tree. -/
structure Becomes (field v : Token × Nat) : Prop where
  kind : v.1.kind = field.1.kind
  name : v.1.name = field.1.name
  span : v.1.span = field.1.span
  markerId : v.1.markerId = field.1.markerId
  address : v.1.address.isSome = true
  level : v.2 = field.2 + 1

/-- The fields of a sample stand in the learned tree one for one. Their parts and their levels are
known apart, the ones from the places of the tree, and are put together here. -/
theorem becomes_of_learn {d : Document} {fresh : MarkerId} {name : String} {tokens : List Token}
    {b : Blueprint} (hl : IsListing tokens) (h : learn fresh name tokens d = .ok b) :
    List.Forall₂ Becomes (fieldsAfter [] tokens.tail) (Token.preorderAll 1 b.root.children) := by
  obtain ⟨hsettles, _⟩ := placesAll_of_learn hl h
  have hparts : List.Forall₂ (fun t x => ∃ r, x = { t with address := some r })
      (fieldTokens tokens.tail) ((Token.placesAll .empty b.root.children).map (·.1)) :=
    List.forall₂_map_right_iff.2 (hsettles.imp fun _ _ h => h.1)
  rw [← Token.map_bare_preorderAll 1, ← map_fst_fieldsAfter [], List.forall₂_map_left_iff,
    List.forall₂_map_right_iff] at hparts
  have hlevels := (levels_of_learn hl h).symm
  rw [← List.forall₂_eq_eq_eq, List.forall₂_map_left_iff, List.forall₂_map_right_iff] at hlevels
  refine hparts.mp ?_ hlevels
  rintro ⟨t, opened⟩ ⟨⟨kind, name, span, markerId, children, address⟩, level⟩ ⟨r, hr⟩ hlevel
  simp only [Token.bare, Token.mk.injEq] at hr
  obtain ⟨hkind, hname, hspan, hid, _, rfl⟩ := hr
  exact ⟨hkind, hname, hspan, hid, rfl, hlevel.symm⟩

/-- **Learning loses, repeats and reorders nothing.** The walk over a learned tree goes from the root
of the sample through the tokens that end no container, one for one and in their order. Each has the
kind, the name, the range and the identifier it had, a relative address, and a level one below the
containers that are open at its place. No token below the root is a root or an end, values hold
nothing, and the fields are counted right. -/
theorem learned_tree_lists_sample {d : Document} {fresh : MarkerId} {name : String}
    {tokens : List Token} {b : Blueprint} (hl : IsListing tokens)
    (hb : learn fresh name tokens d = .ok b) :
    tokens.head? = some b.root.bare ∧ b.root.walk.head? = some (b.root, 0) ∧
      List.Forall₂ Becomes (fieldsAfter [] tokens.tail) b.root.walk.tail ∧
      (∀ v ∈ b.root.walk.tail, v.1.kind ≠ .root ∧ v.1.kind.isClosing = false ∧
        (v.1.kind = .value → v.1.children = [])) ∧
      b.fieldCount = tokens.tail.countP (fun t => !t.kind.isClosing) := by
  have hwalk : b.root.walk = (b.root, 0) :: Token.preorderAll 1 b.root.children := by
    rw [Token.walk_eq_preorder, Token.preorder_eq]
  obtain ⟨_, hfields, hhead, _⟩ := placesAll_of_learn hl hb
  have hsame := becomes_of_learn hl hb
  have hkind : b.root.kind = .root := by
    obtain ⟨root, rest, rfl, hkind, _⟩ := hl.leads
    rw [← Token.bare_kind, ← Option.some.inj hhead, hkind]
  have hbelow : ∀ v ∈ Token.preorderAll 1 b.root.children, v.1.kind ≠ .root ∧
      v.1.kind.isClosing = false ∧ (v.1.kind = .value → v.1.children = []) := fun v hv =>
    (Token.isField_of_mem_preorderAll _ hfields hv).kind_cases
  have hcount : (fieldsAfter [] tokens.tail).length =
      tokens.tail.countP fun t => !t.kind.isClosing := by
    rw [← List.length_map, map_fst_fieldsAfter, fieldTokens, List.countP_eq_length_filter]
  rw [Blueprint.fieldCount, hwalk]
  refine ⟨hhead, rfl, hsame, hbelow, ?_⟩
  rw [List.filter_cons_of_neg (by simp [hkind]),
    List.filter_eq_self.2 fun v hv => by simpa using (hbelow v hv).1, ← hsame.length_eq, hcount]

section
open Token (leaf)

/-- A list in an object, and a field after both. -/
theorem learned_tree_lists_sample_nested :
    let id (n : Nat) := MarkerId.ofNat n
    let card := leaf .objectStart (some "card") none (some (id 1))
    let rows := leaf .listStart (some "rows") none (some (id 2))
    let x := leaf .value (some "x") none (some (id 3))
    let y := leaf .value (some "y") none (some (id 4))
    let tokens := [Token.root (id 0), card, rows, x, leaf .listEnd none none none,
      leaf .objectEnd none none none, y]
    let d : Document := ⟨[.element "html" none
      [.element "object-start" (some (id 1).toText)
        [.element "ul" none [.element "list-start" (some (id 2).toText)
          [.element "li" none [.element "value" (some (id 3).toText) []]]]],
        .element "p" none [.element "value" (some (id 4).toText) []]]]⟩
    IsListing tokens ∧ ∃ b, learn (id 9) "page" tokens d = .ok b ∧
      List.Forall₂ Becomes [(card, 0), (rows, 1), (x, 2), (y, 0)] b.root.walk.tail ∧
      b.fieldCount = 4 := by
  intro id card rows x y tokens d
  have hl : IsListing tokens := ⟨⟨_, _, rfl, rfl, by decide⟩, by decide, by decide⟩
  have hok : (learn (id 9) "page" tokens d).toOption.isSome = true := by decide +kernel
  cases hb : learn (id 9) "page" tokens d with
  | error e => rw [hb] at hok; cases hok
  | ok b =>
    obtain ⟨_, _, hwalk, _, hcount⟩ := learned_tree_lists_sample hl hb
    exact ⟨hl, b, rfl, hwalk, hcount⟩

end

end Learning

end Stencil
