import Stencil.Report.Leaves
import Stencil.Token

/-!
# Positions in trees

Token trees and JSON trees are visited by loops over a stack. What such a visit has to do is said
here once for all kinds of trees (`Branching`). A position is the list of child indexes on the way
down, `at?` follows it, and `positioned` lists all trees in a tree with their positions: every
position is listed once, a tree before what it holds and the parts of a tree in turn, which is the
ascending order of positions. A visit hands something down, the depth or a path;
`visit_eq_flatMap` says that a visit by recursion is the list of positions, each with what was
handed down to it.
-/

namespace Stencil

theorem map_mapIdx {α β γ : Type} (f : Nat → α → β) (g : β → γ) (xs : List α) :
    (xs.mapIdx f).map g = xs.mapIdx fun i x => g (f i x) := by
  refine List.ext_getElem? fun i => ?_
  rw [List.getElem?_map, List.getElem?_mapIdx, List.getElem?_mapIdx, Option.map_map]
  rfl

/-- What elements give does not depend on their indexes. -/
theorem flatten_mapIdx_const {α β : Type} (f : α → List β) (xs : List α) :
    (xs.mapIdx fun _ x => f x).flatten = xs.flatMap f := by
  induction xs with
  | nil => rfl
  | cons x xs ih => rw [List.mapIdx_cons, List.flatten_cons, ih, List.flatMap_cons]

/-- Kinds of trees. The parts directly below a tree are smaller than it. -/
class Branching (α : Type) where
  parts : α → List α
  size : α → Nat
  size_lt : ∀ {x y : α}, y ∈ parts x → size y < size x

/-- The indexes of the parts on the way down to a tree. -/
abbrev Position := List Nat

namespace Branching

section
variable {α β : Type}

/-- Rows of trees with their positions in each part, put together in turn. The first part has the
index `i`. -/
def joined (i : Nat) : List (List (Position × α)) → List (Position × α)
  | [] => []
  | row :: rows => row.map (fun v => (i :: v.1, v.2)) ++ joined (i + 1) rows

theorem mem_joined_iff {i : Nat} {rows : List (List (Position × α))} {v : Position × α} :
    v ∈ joined i rows ↔ ∃ k row p, rows[k]? = some row ∧ v.1 = (i + k) :: p ∧ (p, v.2) ∈ row := by
  induction rows generalizing i with
  | nil => exact ⟨nofun, fun ⟨_, _, _, h, _⟩ => nomatch h⟩
  | cons row rows ih =>
    rw [joined, List.mem_append, List.mem_map, ih]
    constructor
    · rintro (⟨⟨p, x⟩, hx, rfl⟩ | ⟨k, r, p, hr, hv, hp⟩)
      · exact ⟨0, row, p, rfl, rfl, hx⟩
      · exact ⟨k + 1, r, p, hr, by rw [hv, Nat.add_right_comm, Nat.add_assoc], hp⟩
    · rintro ⟨k, r, p, hr, hv, hp⟩
      cases k with
      | zero =>
        cases hr
        exact .inl ⟨(p, v.2), hp, Prod.ext hv.symm rfl⟩
      | succ k => exact .inr ⟨k, r, p, hr, by rw [hv, Nat.add_right_comm, Nat.add_assoc], hp⟩

/-- Ascending rows are put together to an ascending one. -/
theorem pairwise_joined {rows : List (List (Position × α))}
    (h : ∀ row ∈ rows, row.Pairwise fun v w => v.1 < w.1) (i : Nat) :
    (joined i rows).Pairwise fun v w => v.1 < w.1 := by
  induction rows generalizing i with
  | nil => exact .nil
  | cons row rows ih =>
    obtain ⟨hrow, hrows⟩ := List.forall_mem_cons.1 h
    rw [joined, List.pairwise_append, List.pairwise_map]
    refine ⟨hrow.imp fun hlt => List.cons_lt_cons_iff.2 (.inr ⟨rfl, hlt⟩), ih hrows (i + 1), ?_⟩
    rintro v hv w hw
    obtain ⟨x, _, rfl⟩ := List.mem_map.1 hv
    obtain ⟨k, r, p, _, hp, _⟩ := mem_joined_iff.1 hw
    rw [hp]
    exact List.cons_lt_cons_iff.2 (.inl (by omega))

/-- What a row of rows gives is what its rows give, in turn. -/
theorem flatMap_joined (f : Position × α → List β) (rows : List (List (Position × α))) (i : Nat) :
    (joined i rows).flatMap f =
      (rows.mapIdx fun k row => row.flatMap fun v => f ((i + k) :: v.1, v.2)).flatten := by
  induction rows generalizing i with
  | nil => rfl
  | cons row rows ih =>
    rw [joined, List.flatMap_append, ih, List.mapIdx_cons, List.flatten_cons, List.flatMap_map]
    simp only [Nat.add_zero, Nat.add_right_comm, Nat.add_assoc]

end

section
variable {α σ γ : Type} [Branching α]

/-- What holds of a tree if it holds of its parts holds of all trees. -/
theorem induction {P : α → Prop} (h : ∀ x, (∀ y ∈ parts x, P y) → P x) (x : α) : P x :=
  (measure (size : α → Nat)).wf.induction x fun x ih => h x fun y hy => ih y (size_lt hy)

/-- The tree at a position. -/
def at? (x : α) : Position → Option α
  | [] => some x
  | i :: p => (parts x)[i]?.bind fun y => at? y p

@[simp] theorem at?_nil (x : α) : at? x [] = some x := rfl

theorem at?_cons_eq_some_iff {x z : α} {i : Nat} {p : Position} :
    at? x (i :: p) = some z ↔ ∃ y, (parts x)[i]? = some y ∧ at? y p = some z := by
  rw [at?, Option.bind_eq_some_iff]

theorem at?_concat_eq_some_iff {x z : α} {p : Position} {i : Nat} :
    at? x (p ++ [i]) = some z ↔ ∃ y, at? x p = some y ∧ (parts y)[i]? = some z := by
  induction p generalizing x with
  | nil => simp [at?_cons_eq_some_iff]
  | cons k p ih =>
    rw [List.cons_append, at?_cons_eq_some_iff]
    simp only [ih, at?_cons_eq_some_iff]
    constructor
    · rintro ⟨w, hw, y, hy, hz⟩
      exact ⟨y, ⟨w, hw, hy⟩, hz⟩
    · rintro ⟨y, ⟨w, hw, hy⟩, hz⟩
      exact ⟨w, hw, y, hy, hz⟩

/-- Whether a property holds of a tree and of all trees in it. -/
def Throughout (P : α → Prop) (x : α) : Prop := ∀ p y, at? x p = some y → P y

theorem Throughout.here {P : α → Prop} {x : α} (h : Throughout P x) : P x := h [] x rfl

theorem Throughout.part {P : α → Prop} {x y : α} (h : Throughout P x) (hy : y ∈ parts x) :
    Throughout P y := by
  obtain ⟨i, hi⟩ := List.getElem?_of_mem hy
  exact fun p z hz => h (i :: p) z (at?_cons_eq_some_iff.2 ⟨y, hi, hz⟩)

/-- All trees in a tree with their positions, a tree before its parts and these in turn. -/
def positioned (x : α) : List (Position × α) :=
  ([], x) :: joined 0 ((parts x).attach.map fun y => positioned y.1)
termination_by size x
decreasing_by exact size_lt y.2

theorem positioned_eq (x : α) :
    positioned x = ([], x) :: joined 0 ((parts x).map positioned) := by
  rw [positioned, List.attach_map_val (f := positioned)]

/-- The trees with their positions are those found at the positions. -/
theorem mem_positioned_iff {x y : α} {p : Position} : (p, y) ∈ positioned x ↔ at? x p = some y := by
  induction p generalizing x with
  | nil =>
    rw [positioned_eq, List.mem_cons, mem_joined_iff]
    constructor
    · rintro (h | ⟨_, _, _, _, h, _⟩)
      · rw [(Prod.mk.inj h).2, at?_nil]
      · cases h
    · intro h
      cases h
      exact .inl rfl
  | cons i p ih =>
    rw [positioned_eq, List.mem_cons, mem_joined_iff, at?_cons_eq_some_iff]
    constructor
    · rintro (h | ⟨k, row, q, hrow, hp, hy⟩)
      · cases h
      · rw [Nat.zero_add] at hp
        cases hp
        rw [List.getElem?_map, Option.map_eq_some_iff] at hrow
        obtain ⟨z, hz, rfl⟩ := hrow
        exact ⟨z, hz, ih.1 hy⟩
    · rintro ⟨z, hz, hy⟩
      refine .inr ⟨i, positioned z, p, ?_, by rw [Nat.zero_add], ih.2 hy⟩
      rw [List.getElem?_map, hz]
      rfl

/-- Positions are listed in ascending order. -/
theorem pairwise_positioned (x : α) : (positioned x).Pairwise fun v w => v.1 < w.1 := by
  induction x using induction with
  | h x ih =>
    rw [positioned_eq, List.pairwise_cons]
    refine ⟨fun v hv => ?_, pairwise_joined (fun row hrow => ?_) 0⟩
    · obtain ⟨_, _, _, _, hp, _⟩ := mem_joined_iff.1 hv
      rw [hp]
      exact List.nil_lt_cons _ _
    · obtain ⟨y, hy, rfl⟩ := List.mem_map.1 hrow
      exact ih y hy

/-- Positions in ascending order, those at which there is a tree with a property. -/
def Lists (x : α) (P : α → Prop) (ps : List Position) : Prop :=
  ps.Pairwise (· < ·) ∧ ∀ p, p ∈ ps ↔ ∃ y, at? x p = some y ∧ P y

/-- The trees that pass a test are listed if the others are left out of all trees. -/
theorem lists_filter (x : α) (test : α → Bool) :
    Lists x (fun y => test y = true)
      (((positioned x).filter fun v => test v.2).map (·.1)) := by
  refine ⟨?_, fun p => ?_⟩
  · rw [List.pairwise_map]
    exact (pairwise_positioned x).filter _
  · rw [List.mem_map]
    constructor
    · rintro ⟨⟨p, y⟩, hv, rfl⟩
      obtain ⟨hv, htest⟩ := List.mem_filter.1 hv
      exact ⟨y, mem_positioned_iff.1 hv, htest⟩
    · rintro ⟨y, hy, htest⟩
      exact ⟨(p, y), List.mem_filter.2 ⟨mem_positioned_iff.2 hy, htest⟩, rfl⟩

/-- All trees are listed. -/
theorem lists_positioned (x : α) : Lists x (fun _ => True) ((positioned x).map (·.1)) := by
  refine ⟨List.pairwise_map.2 (pairwise_positioned x), fun p => ?_⟩
  rw [List.mem_map]
  constructor
  · rintro ⟨⟨p, y⟩, hv, rfl⟩
    exact ⟨y, mem_positioned_iff.1 hv, trivial⟩
  · rintro ⟨y, hy, -⟩
    exact ⟨(p, y), mem_positioned_iff.2 hy, rfl⟩

/-! ## Visits -/

variable (next : σ → α → Nat → α → σ)

/-- What is handed down to a position. A tree that has `a` hands `next a x i y` down to its part `y`
of the index `i`. -/
def inherited (a : σ) (x : α) : Position → σ
  | [] => a
  | i :: p =>
    match (parts x)[i]? with
    | none => a
    | some y => inherited (next a x i y) y p

theorem inherited_concat {a : σ} {x y z : α} {p : Position} {i : Nat} (hy : at? x p = some y)
    (hz : (parts y)[i]? = some z) :
    inherited next a x (p ++ [i]) = next (inherited next a x p) y i z := by
  induction p generalizing a x with
  | nil =>
    cases hy
    simp only [List.nil_append, inherited, hz]
  | cons k p ih =>
    obtain ⟨w, hw, hy⟩ := at?_cons_eq_some_iff.1 hy
    rw [List.cons_append, inherited, inherited, hw]
    exact ih hy

/-- **A visit by recursion goes through the positions.** What a visit gives for a tree is what it
gives at each position in it with what is handed down to that position. -/
theorem visit_eq_flatMap (emit visit : σ → α → List γ)
    (h : ∀ a x, visit a x = emit a x ++
      ((parts x).mapIdx fun i y => visit (next a x i y) y).flatten) (a : σ) (x : α) :
    visit a x = (positioned x).flatMap fun v => emit (inherited next a x v.1) v.2 := by
  induction x using induction generalizing a with
  | h x ih =>
    rw [h, positioned_eq, List.flatMap_cons, flatMap_joined]
    congr 2
    refine List.ext_getElem? fun i => ?_
    rw [List.getElem?_mapIdx, List.getElem?_mapIdx, List.getElem?_map]
    cases hy : (parts x)[i]? with
    | none => rfl
    | some y =>
      simp only [Option.map_some, ih y (List.mem_of_getElem? hy), Nat.zero_add, inherited, hy]

end

end Branching

/-! ## Tokens and JSON trees -/

theorem Token.size_le_of_mem {t : Token} {ts : List Token} (h : t ∈ ts) : t.size ≤ sizeAll ts := by
  induction ts with
  | nil => cases h
  | cons u ts ih =>
    rw [sizeAll]
    rcases List.mem_cons.1 h with rfl | h
    · exact Nat.le_add_right ..
    · exact Nat.le_trans (ih h) (Nat.le_add_left ..)

instance : Branching Token where
  parts := Token.children
  size := Token.size
  size_lt {x y} h := by
    have := Token.size_le_of_mem h
    rw [x.size_eq]
    omega

/-- The trees directly below a JSON tree. -/
def Json.children : Json → List Json
  | .array items => items
  | .object members => members.map (·.2)
  | _ => []

theorem Json.size_le_of_mem {j : Json} {ms : List (String × Json)} (h : j ∈ ms.map (·.2)) :
    j.size ≤ sizeMembers ms := by
  induction ms with
  | nil => cases h
  | cons m ms ih =>
    obtain ⟨k, v⟩ := m
    rw [sizeMembers]
    rcases List.mem_cons.1 h with rfl | h
    · exact Nat.le_add_right ..
    · exact Nat.le_trans (ih h) (Nat.le_add_left ..)

theorem Json.map_snd_parts (path : String) (j : Json) : (j.parts path).map (·.2) = j.children := by
  cases j with
  | array items =>
    rw [parts, map_mapIdx]
    exact (List.mapIdx_eq_iff.2 fun i => Option.map_id'.symm)
  | object members => rw [parts, List.map_map]; rfl
  | _ => rfl

instance : Branching Json where
  parts := Json.children
  size := Json.size
  size_lt {x y} h := by
    rw [← x.map_snd_parts ""] at h
    exact Nat.lt_of_le_of_lt (Json.size_le_of_mem h) (Json.sizeMembers_parts_lt "" x)

end Stencil
