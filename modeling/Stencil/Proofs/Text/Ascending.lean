import Mathlib.Data.List.Perm.Basic
import Mathlib.Data.String.Basic
import Stencil.Text.Ascending

/-!
# Texts in ascending order

`ascending` gives the one strictly ascending list of the texts in a list: it is in strict order
(`pairwise_ascending`), it has the same members (`mem_ascending`), and two strictly ascending lists
with the same members are one (`eq_of_pairwise_lt`).
-/

namespace Stencil

/-! ## Repetitions -/

theorem mem_eraseRepsBy_loop (x : String) : ∀ (texts : List String) (a : String)
    (done : List String),
    x ∈ List.eraseRepsBy.loop (· == ·) a texts done ↔ x ∈ done ∨ x = a ∨ x ∈ texts
  | [], a, done => by simp [List.eraseRepsBy.loop]
  | b :: texts, a, done => by
    rw [List.eraseRepsBy.loop]
    split
    · next hsame =>
      rw [mem_eraseRepsBy_loop x texts a done, List.mem_cons, beq_iff_eq.1 hsame]
      tauto
    · rw [mem_eraseRepsBy_loop x texts b (a :: done), List.mem_cons, List.mem_cons]
      tauto

/-- In a list in order, texts that are not repeated are in strict order. The list that is built
holds the last text first. -/
theorem pairwise_eraseRepsBy_loop : ∀ (texts : List String) (a : String) (done : List String),
    (a :: texts).Pairwise (· ≤ ·) → (a :: done).Pairwise (· > ·) →
    (List.eraseRepsBy.loop (· == ·) a texts done).Pairwise (· < ·)
  | [], a, done, _, hdone => by
    rw [List.eraseRepsBy.loop]
    exact List.pairwise_reverse.2 hdone
  | b :: texts, a, done, htexts, hdone => by
    obtain ⟨hle, hrest⟩ := List.pairwise_cons.1 htexts
    rw [List.eraseRepsBy.loop]
    split
    · next hsame =>
      rw [beq_iff_eq.1 hsame]
      exact pairwise_eraseRepsBy_loop texts b done hrest (beq_iff_eq.1 hsame ▸ hdone)
    · next hne =>
      have hlt : a < b := lt_of_le_of_ne (hle b List.mem_cons_self) fun h => by
        rw [h, beq_self_eq_true] at hne
        cases hne
      refine pairwise_eraseRepsBy_loop texts b (a :: done) hrest (List.pairwise_cons.2 ⟨?_, hdone⟩)
      intro c hc
      rcases List.mem_cons.1 hc with rfl | hc
      · exact hlt
      · exact lt_trans ((List.pairwise_cons.1 hdone).1 c hc) hlt

theorem mem_eraseReps {x : String} {texts : List String} : x ∈ texts.eraseReps ↔ x ∈ texts := by
  cases texts with
  | nil => exact Iff.rfl
  | cons a texts =>
    rw [List.eraseReps, List.eraseRepsBy, mem_eraseRepsBy_loop, List.mem_cons]
    simp only [List.not_mem_nil, false_or]

theorem pairwise_eraseReps {texts : List String} (h : texts.Pairwise (· ≤ ·)) :
    texts.eraseReps.Pairwise (· < ·) := by
  cases texts with
  | nil => exact List.Pairwise.nil
  | cons a texts =>
    exact pairwise_eraseRepsBy_loop texts a [] h (List.pairwise_singleton _ a)

/-- Repetitions are the same under a function that tells all values apart. -/
theorem map_eraseReps {α β : Type} [BEq α] [BEq β] {f : α → β}
    (hf : ∀ a b, (f a == f b) = (a == b)) (xs : List α) :
    xs.eraseReps.map f = (xs.map f).eraseReps := by
  have hloop : ∀ (xs : List α) (a : α) (done : List α),
      (List.eraseRepsBy.loop (· == ·) a xs done).map f =
        List.eraseRepsBy.loop (· == ·) (f a) (xs.map f) (done.map f) := by
    intro xs
    induction xs with
    | nil => intro a done; simp [List.eraseRepsBy.loop]
    | cons b xs ih =>
      intro a done
      rw [List.map_cons, List.eraseRepsBy.loop, List.eraseRepsBy.loop, hf]
      split
      · exact ih a done
      · exact ih b (a :: done)
  cases xs with
  | nil => rfl
  | cons a xs => exact hloop xs a []

/-! ## Order -/

theorem mem_ascending {x : String} {texts : List String} : x ∈ ascending texts ↔ x ∈ texts := by
  rw [ascending, mem_eraseReps]
  exact (List.mergeSort_perm texts _).mem_iff

theorem pairwise_ascending (texts : List String) : (ascending texts).Pairwise (· < ·) := by
  refine pairwise_eraseReps ?_
  have hsorted : (texts.mergeSort fun a b => decide (a ≤ b)).Pairwise
      fun a b => decide (a ≤ b) = true := by
    refine List.pairwise_mergeSort (fun a b c hab hbc => ?_) (fun a b => ?_) texts
    · exact decide_eq_true (le_trans (of_decide_eq_true hab) (of_decide_eq_true hbc))
    · rw [Bool.or_eq_true, decide_eq_true_iff, decide_eq_true_iff]
      exact le_total a b
  exact hsorted.imp fun h => of_decide_eq_true h

/-- A strictly ascending list is told by its members. -/
theorem eq_of_pairwise_lt {l l' : List String} (h : l.Pairwise (· < ·)) (h' : l'.Pairwise (· < ·))
    (hmem : ∀ x, x ∈ l ↔ x ∈ l') : l = l' := by
  have hperm : l.Perm l' :=
    (List.perm_ext_iff_of_nodup (h.imp ne_of_lt) (h'.imp ne_of_lt)).2 hmem
  exact hperm.eq_of_pairwise (fun a b _ _ hab hba => absurd hba (lt_asymm hab)) h h'

end Stencil
