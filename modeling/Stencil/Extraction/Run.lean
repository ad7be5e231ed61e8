import Stencil.Extraction.Frame

/-!
# Running an extraction

`run` advances the frame on top of a stack until the last container is finished. It ends because
every step takes some of the work that the frames have before them: a field costs a little more
than all the repetitions that a list of its fields may have.
-/

namespace Stencil.Extraction

mutual

/-- A bound on the steps that a field takes, when a list has at most `cap` items. -/
def work (cap : Nat) : Token → Nat
  | ⟨_, _, _, _, children, _⟩ => 2 + (cap + 1) * (1 + workAll cap children)

/-- A bound on the steps that a list of fields takes. -/
def workAll (cap : Nat) : List Token → Nat
  | [] => 0
  | t :: ts => work cap t + workAll cap ts

end

theorem work_eq (cap : Nat) (t : Token) :
    work cap t = 2 + (cap + 1) * (1 + workAll cap t.children) := by
  cases t; rw [work]

/-- A bound on the steps that a frame has before it, without those of containers inside it. -/
def Frame.pending (cap : Nat) : Frame → Nat
  | .object _ _ todo _ => 1 + workAll cap todo
  | .list token _ _ todo items _ =>
    1 + workAll cap todo + (cap - items.length) * (1 + workAll cap token.children)

/-- A bound on the steps that a stack of frames has before it. -/
def pendingAll (cap : Nat) : List Frame → Nat
  | [] => 0
  | f :: rest => f.pending cap + pendingAll cap rest

/-- A bound on what follows a step, apart from the frames that wait below. -/
def Move.pending (cap : Nat) : Move → Nat
  | .stay f => f.pending cap
  | .enter f child => f.pending cap + child.pending cap
  | .leave _ _ => 0

@[simp] theorem pending_put (cap : Nat) (name : String) (value : Json) (f : Frame) :
    (f.put name value).pending cap = f.pending cap := by
  cases f <;> rfl

/-- A container entered for a field costs less than the field. -/
theorem pending_after_lt {s : ExtractionSettings} {d : Document} {anchor : Path} {t : Token}
    {v : Visit} (cap : Nat) (f : Frame) (h : visit s d anchor t = .ok v) :
    (f.after v).pending cap < f.pending cap + work cap t := by
  rw [work_eq]
  have hpos : workAll cap t.children ≤ (cap + 1) * (1 + workAll cap t.children) :=
    Nat.le_trans (Nat.le_add_left _ 1) (Nat.le_mul_of_pos_left _ (Nat.succ_pos cap))
  cases v with
  | nothing => simp only [Frame.after, Move.pending]; omega
  | record name value => simp only [Frame.after, Move.pending, pending_put]; omega
  | enter child =>
    have hchild : child = .ofObject t ((d.resolve? anchor t.way).getD []) ∨
        child = .ofList d t ((d.resolve? anchor t.way).getD []) := by
      rw [visit] at h
      split at h
      · rw [visitMissing] at h
        split at h
        · simp at h
        · split at h <;> simp at h
      · next node hr =>
        simp only [Except.ok.injEq, visitFound] at h
        split at h <;> simp_all
    have hsum : (cap + 1) * (1 + workAll cap t.children) =
        cap * (1 + workAll cap t.children) + (1 + workAll cap t.children) := Nat.succ_mul _ _
    rcases hchild with rfl | rfl
    · simp only [Frame.after, Move.pending, Frame.ofObject, Frame.pending]
      omega
    · simp only [Frame.after, Move.pending, Frame.ofList, Frame.pending, List.length_nil,
        Nat.sub_zero]
      omega

/-- Every step takes some of the work before a frame. -/
theorem pending_advance_lt {s : ExtractionSettings} {d : Document} {f : Frame} {m : Move}
    (h : advance s d f = .ok m) : m.pending s.maxListItems < f.pending s.maxListItems := by
  cases f with
  | object token node todo fields =>
    cases todo with
    | nil =>
      simp only [advance, Except.ok.injEq] at h
      simp only [← h, Move.pending, Frame.pending]
      omega
    | cons t todo =>
      simp only [advance] at h
      cases hv : visit s d node t with
      | error e => simp [hv, Except.map] at h
      | ok v =>
        simp only [hv, Except.map, Except.ok.injEq] at h
        have := pending_after_lt s.maxListItems (.object token node todo fields) hv
        rw [h] at this
        simp only [Frame.pending, workAll] at this ⊢
        omega
  | list token item itemTag todo items current =>
    cases todo with
    | nil =>
      simp only [advance, Except.ok.injEq, endItem] at h
      split at h
      · simp only [← h, Move.pending, Frame.pending]
        omega
      · split at h
        · simp only [← h, Move.pending, Frame.pending]
          omega
        · next hlen =>
          simp only [List.length_cons, Nat.not_le] at hlen
          obtain ⟨k, hk⟩ : ∃ k, s.maxListItems - items.length = k + 1 :=
            ⟨s.maxListItems - items.length - 1, by omega⟩
          have hk' : s.maxListItems - (items.length + 1) = k := by omega
          simp only [← h, Move.pending, Frame.pending, List.length_cons, hk, hk', workAll,
            Nat.succ_mul]
          omega
    | cons t todo =>
      simp only [advance] at h
      cases hv : visit s d item t with
      | error e => simp [hv, Except.map] at h
      | ok v =>
        simp only [hv, Except.map, Except.ok.injEq] at h
        have := pending_after_lt s.maxListItems (.list token item itemTag todo items current) hv
        rw [h] at this
        simp only [Frame.pending, workAll] at this ⊢
        omega

/-- Advances the frame on top until the last one is finished. -/
def run (s : ExtractionSettings) (d : Document) (top : Frame) (below : List Frame) :
    Except StructuralError Json :=
  match _h : advance s d top with
  | .error e => .error e
  | .ok (.stay f) => run s d f below
  | .ok (.enter f child) => run s d child (f :: below)
  | .ok (.leave name value) =>
    match below with
    | [] => .ok value
    | f :: below => run s d (f.put name value) below
termination_by top.pending s.maxListItems + pendingAll s.maxListItems below
decreasing_by
  all_goals
    have := pending_advance_lt _h
    simp only [Move.pending, pendingAll, pending_put] at this ⊢
    omega

/-- The value that a blueprint describes in a document. -/
def extractFrom (s : ExtractionSettings) (b : Blueprint) (d : Document) :
    Except StructuralError Json :=
  match d.root? with
  | none => .error (.nodeNotFound b.name .empty)
  | some top => run s d (.ofObject b.root top) []

end Stencil.Extraction
