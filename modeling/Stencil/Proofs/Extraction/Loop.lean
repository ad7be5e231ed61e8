import Mathlib.Logic.Function.Iterate
import Stencil.Extraction.Run

/-!
# The loop over the stack of frames

`run` is a recursion over the work that the frames have before them. This module makes the loop
behind it visible: a `Stage` is the stack between two turns, `turn` lets the frame on top take one
step, and `Stage.outcome` is what the recursion gives from a stage. A turn keeps the outcome and
lowers the work (`outcome_turn`, `pendingAll_turn_lt`), so that the loop reaches the outcome after
no more turns than there is work (`iterate_turn_ends`).
-/

namespace Stencil.Extraction

/-- Where the loop stands between two turns. -/
inductive Stage where
  /-- At a stack of frames, the innermost first. -/
  | active (stack : List Frame)
  /-- At the end. -/
  | ended (outcome : Except StructuralError Json)
  deriving Repr

/-- One turn of the loop: the frame on top takes a step. A finished frame leaves the stack and its
value is recorded in the frame below, or is the outcome if there is none. -/
def turn (s : ExtractionSettings) (d : Document) : Stage → Stage
  | .ended outcome => .ended outcome
  | .active [] => .ended (.ok (.object []))
  | .active (top :: below) =>
    match advance s d top with
    | .error e => .ended (.error e)
    | .ok (.stay f) => .active (f :: below)
    | .ok (.enter f child) => .active (child :: f :: below)
    | .ok (.leave name value) =>
      match below with
      | [] => .ended (.ok value)
      | f :: below => .active (f.put name value :: below)

/-- What the recursion gives from a stage. -/
def Stage.outcome (s : ExtractionSettings) (d : Document) : Stage → Except StructuralError Json
  | .ended outcome => outcome
  | .active [] => .ok (.object [])
  | .active (top :: below) => run s d top below

section
variable (s : ExtractionSettings) (d : Document)

/-- A turn is one unfolding of the recursion. -/
theorem outcome_turn (x : Stage) : (turn s d x).outcome s d = x.outcome s d := by
  cases x with
  | ended outcome => rfl
  | active stack =>
    cases stack with
    | nil => rfl
    | cons top below =>
      rw [Stage.outcome, run, turn]
      cases hm : advance s d top with
      | error e => rfl
      | ok m =>
        cases m with
        | stay f => rfl
        | enter f child => rfl
        | leave name value => cases below <;> rfl

/-- The work on the stack of a stage. -/
def Stage.pending : Stage → Nat
  | .ended _ => 0
  | .active stack => pendingAll s.maxListItems stack

/-- Every turn takes some of the work on the stack. -/
theorem pendingAll_turn_lt (top : Frame) (below : List Frame) :
    (turn s d (.active (top :: below))).pending s <
      pendingAll s.maxListItems (top :: below) := by
  rw [turn]
  cases hm : advance s d top with
  | error e => cases top <;> simp only [Stage.pending, pendingAll, Frame.pending] <;> omega
  | ok m =>
    have hlt := pending_advance_lt hm
    cases m with
    | stay f => exact Nat.add_lt_add_right hlt _
    | enter f child =>
      simp only [Move.pending] at hlt
      simp only [Stage.pending, pendingAll]
      omega
    | leave name value =>
      simp only [Move.pending] at hlt
      cases below with
      | nil => exact hlt
      | cons f below =>
        simp only [Stage.pending, pendingAll, pending_put]
        omega

/-- The loop comes to its end, after at most as many turns as there is work on the stack. -/
theorem iterate_turn_ends (top : Frame) (below : List Frame) :
    ∃ n, n ≤ pendingAll s.maxListItems (top :: below) ∧
      (turn s d)^[n] (.active (top :: below)) = .ended (run s d top below) := by
  induction hw : pendingAll s.maxListItems (top :: below) using Nat.strongRecOn
    generalizing top below with
  | ind w ih =>
    have hlt := pendingAll_turn_lt s d top below
    have hout := outcome_turn s d (.active (top :: below))
    rw [hw] at hlt
    cases ht : turn s d (.active (top :: below)) with
    | ended outcome =>
      rw [ht] at hout
      refine ⟨1, by omega, ?_⟩
      rw [Function.iterate_one, ht]
      exact congrArg Stage.ended hout
    | active stack =>
      rw [ht] at hlt hout
      cases stack with
      | nil =>
        -- Only a finished frame shortens the stack, and then a frame is left or the loop ends.
        rw [turn] at ht
        split at ht
        · cases ht
        · cases ht
        · cases ht
        · split at ht <;> cases ht
      | cons f stack =>
        replace hlt : pendingAll s.maxListItems (f :: stack) < w := hlt
        obtain ⟨n, hn, hend⟩ := ih _ hlt f stack rfl
        refine ⟨n + 1, by omega, ?_⟩
        rw [Function.iterate_succ_apply, ht, hend]
        exact congrArg Stage.ended hout

end

end Stencil.Extraction
