import Mathlib.Data.List.Forall2

/-!
# Results that may be errors

When a computation of several parts comes to a result, all its parts do, and when it fails, the first
part that fails is why.
-/

namespace Stencil

/-! ## One part -/

section
variable {β γ ε : Type}

theorem map_eq_ok_iff {g : β → γ} {x : Except ε β} {z : γ} :
    x.map g = .ok z ↔ ∃ y, x = .ok y ∧ z = g y := by
  cases x with
  | error e => exact ⟨nofun, nofun⟩
  | ok y =>
    constructor
    · intro h
      cases h
      exact ⟨y, rfl, rfl⟩
    · rintro ⟨_, h, rfl⟩
      cases h
      rfl

/-- A computation that goes on with the result of another has that result. -/
theorem bind_eq_ok_iff {g : β → Except ε γ} {x : Except ε β} {z : γ} :
    x.bind g = .ok z ↔ ∃ y, x = .ok y ∧ g y = .ok z := by
  cases x with
  | error e => exact ⟨nofun, nofun⟩
  | ok y =>
    refine ⟨fun h => ⟨y, rfl, h⟩, ?_⟩
    rintro ⟨_, hy, h⟩
    cases hy
    exact h

theorem toOption_eq_some_iff {x : Except ε β} {y : β} : x.toOption = some y ↔ x = .ok y := by
  cases x with
  | error e => exact ⟨nofun, nofun⟩
  | ok z => exact ⟨fun h => by cases h; rfl, fun h => by cases h; rfl⟩

theorem map_eq_error_iff {g : β → γ} {x : Except ε β} {e : ε} :
    x.map g = .error e ↔ x = .error e := by
  cases x with
  | error e' => exact ⟨fun h => by cases h; rfl, fun h => by cases h; rfl⟩
  | ok y => exact ⟨nofun, nofun⟩

end

/-! ## A value for each element of a list -/

section
variable {α β ε : Type} {f : α → Except ε β}

theorem mapM_cons_of_error {x : α} {e : ε} (h : f x = .error e) (xs : List α) :
    (x :: xs).mapM f = .error e := by
  rw [List.mapM_cons, h]
  rfl

theorem mapM_cons_of_ok {x : α} {y : β} (h : f x = .ok y) (xs : List α) :
    (x :: xs).mapM f = (xs.mapM f).map (y :: ·) := by
  rw [List.mapM_cons, h]
  change (xs.mapM f >>= fun ys => pure (y :: ys)) = (xs.mapM f).map (y :: ·)
  cases xs.mapM f <;> rfl

/-- Values for all elements of a list are values for each of them. -/
theorem mapM_eq_ok_iff {xs : List α} {ys : List β} :
    xs.mapM f = .ok ys ↔ List.Forall₂ (fun x y => f x = .ok y) xs ys := by
  induction xs generalizing ys with
  | nil =>
    rw [List.mapM_nil, List.forall₂_nil_left_iff]
    exact ⟨fun h => by cases h; rfl, fun h => by rw [h]; rfl⟩
  | cons x xs ih =>
    cases hx : f x with
    | error e =>
      rw [mapM_cons_of_error hx]
      refine ⟨nofun, fun h => ?_⟩
      cases h with
      | cons hy _ =>
        rw [hx] at hy
        cases hy
    | ok y =>
      rw [mapM_cons_of_ok hx, map_eq_ok_iff, List.forall₂_cons_left_iff]
      constructor
      · rintro ⟨zs, hzs, rfl⟩
        exact ⟨y, zs, hx, ih.1 hzs, rfl⟩
      · rintro ⟨_, zs, hy, hzs, rfl⟩
        rw [hx] at hy
        cases hy
        exact ⟨zs, ih.2 hzs, rfl⟩

/-- There are no values for a list where there is none for an element of it, and the first such
element is why. -/
theorem mapM_eq_error_iff {xs : List α} {e : ε} :
    xs.mapM f = .error e ↔ ∃ before x after, xs = before ++ x :: after ∧
      (∀ y ∈ before, ∃ z, f y = .ok z) ∧ f x = .error e := by
  constructor
  · intro h
    induction xs with
    | nil => cases h
    | cons x xs ih =>
      cases hx : f x with
      | error e' =>
        rw [mapM_cons_of_error hx] at h
        cases h
        exact ⟨[], x, xs, rfl, nofun, hx⟩
      | ok y =>
        rw [mapM_cons_of_ok hx, map_eq_error_iff] at h
        obtain ⟨before, z, after, rfl, hbefore, hz⟩ := ih h
        exact ⟨x :: before, z, after, rfl, List.forall_mem_cons.2 ⟨⟨y, hx⟩, hbefore⟩, hz⟩
  · rintro ⟨before, x, after, rfl, hbefore, hx⟩
    induction before with
    | nil => exact mapM_cons_of_error hx after
    | cons z before ih =>
      obtain ⟨⟨y, hy⟩, hrest⟩ := List.forall_mem_cons.1 hbefore
      rw [List.cons_append, mapM_cons_of_ok hy, map_eq_error_iff]
      exact ih hrest

end

/-! ## One step after the other -/

/-- Steps taken one after the other fail exactly where one of them does. -/
theorem foldlM_eq_error_iff {α σ ε : Type} {f : σ → α → Except ε σ} {s : σ} {xs : List α} {e : ε} :
    xs.foldlM f s = .error e ↔
      ∃ before x after s', xs = before ++ x :: after ∧ before.foldlM f s = .ok s' ∧
        f s' x = .error e := by
  constructor
  · intro h
    induction xs generalizing s with
    | nil => cases h
    | cons x xs ih =>
      rw [List.foldlM_cons] at h
      cases hx : f s x with
      | error e' =>
        rw [hx] at h
        cases h
        exact ⟨[], x, xs, s, rfl, rfl, hx⟩
      | ok s₁ =>
        rw [hx] at h
        obtain ⟨before, y, after, s', rfl, hbefore, hy⟩ := ih h
        exact ⟨x :: before, y, after, s', rfl, by rw [List.foldlM_cons, hx]; exact hbefore, hy⟩
  · rintro ⟨before, x, after, s', rfl, hbefore, hx⟩
    rw [List.foldlM_append, hbefore]
    show (x :: after).foldlM f s' = .error e
    rw [List.foldlM_cons, hx]
    rfl

end Stencil
