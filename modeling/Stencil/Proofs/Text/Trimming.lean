import Mathlib.Data.List.TakeWhile
import Stencil.Text.Blank

/-!
# Blanks around a text

`TrimsTo` says what trimming leaves of a text without saying how: a part with only blanks before and
after it that has no blank at either end. There is one such part and `trim` gives it
(`trim_eq_iff`). Signs that are not blank are all kept (`count_trim`).
-/

namespace Stencil.Text

/-- What is left of a text without the blanks at its ends. -/
structure TrimsTo (s core : List Char) : Prop where
  /-- Around it there are only blanks. -/
  between : ∃ front back, s = front ++ (core ++ back) ∧
    (∀ c ∈ front, isBlank c = true) ∧ ∀ c ∈ back, isBlank c = true
  /-- It does not start with a blank. -/
  head : ∀ c ∈ core.head?, isBlank c = false
  /-- It does not end with a blank. -/
  last : ∀ c ∈ core.getLast?, isBlank c = false

section
variable {s front core back : List Char} {c : Char}

theorem dropWhile_isBlank_of_head (h : ∀ c ∈ s.head?, isBlank c = false) :
    s.dropWhile isBlank = s := by
  cases s with
  | nil => rfl
  | cons c s => exact List.dropWhile_cons_of_neg (by simp [h c rfl])

theorem head?_dropWhile_isBlank : ∀ c ∈ (s.dropWhile isBlank).head?, isBlank c = false := by
  intro c hc
  have h := List.head?_dropWhile_not isBlank s
  rw [Option.mem_def.1 hc] at h
  exact h

/-- Blanks at the ends are removed and nothing else. -/
theorem trim_between (hfront : ∀ c ∈ front, isBlank c = true) (hback : ∀ c ∈ back, isBlank c = true)
    (hhead : ∀ c ∈ core.head?, isBlank c = false) (hlast : ∀ c ∈ core.getLast?, isBlank c = false) :
    trim (front ++ (core ++ back)) = core := by
  have hend : trimEnd (core ++ back) = core := by
    rw [trimEnd, List.reverse_append,
      List.dropWhile_append_of_pos fun c hc => hback c (List.mem_reverse.1 hc),
      dropWhile_isBlank_of_head (by rwa [List.head?_reverse]), List.reverse_reverse]
  rw [trim, List.dropWhile_append_of_pos hfront]
  cases core with
  | nil =>
    rw [List.nil_append, List.dropWhile_eq_nil_iff.2 hback]
    rfl
  | cons c core =>
    rw [List.cons_append, List.dropWhile_cons_of_neg (by simp [hhead c rfl]), ← List.cons_append]
    exact hend

/-- Trimming leaves what stands between the blanks. -/
theorem trimsTo_trim (s : List Char) : TrimsTo s (trim s) := by
  have hend := trimEnd_append (s.dropWhile isBlank)
  refine ⟨⟨s.takeWhile isBlank, ((s.dropWhile isBlank).reverse.takeWhile isBlank).reverse, ?_,
    fun c hc => List.mem_takeWhile_imp hc,
    fun c hc => List.mem_takeWhile_imp (List.mem_reverse.1 hc)⟩, fun c hc => ?_, fun c hc => ?_⟩
  · rw [trim, hend, List.takeWhile_append_dropWhile]
  · refine head?_dropWhile_isBlank (s := s) c ?_
    rw [← hend, List.head?_append]
    exact Option.or_eq_some_iff.2 (.inl hc)
  · rw [trim, trimEnd, List.getLast?_reverse] at hc
    exact head?_dropWhile_isBlank c hc

/-- **Trimming removes the blanks at the ends of a text.** -/
theorem trim_eq_iff : trim s = core ↔ TrimsTo s core := by
  constructor
  · rintro rfl
    exact trimsTo_trim s
  · rintro ⟨⟨front, back, rfl, hfront, hback⟩, hhead, hlast⟩
    exact trim_between hfront hback hhead hlast

/-- A text without blanks is what is left of it between blanks. -/
theorem trim_of_visible (hfront : ∀ c ∈ front, isBlank c = true)
    (hs : ∀ c ∈ s, isBlank c = false) (hback : ∀ c ∈ back, isBlank c = true) :
    trim (front ++ (s ++ back)) = s :=
  trim_between hfront hback (fun c hc => hs c (List.mem_of_mem_head? hc))
    fun c hc => hs c (List.mem_of_mem_getLast? hc)

/-- Signs that are not blank are kept. -/
theorem count_trim (hc : isBlank c = false) (s : List Char) : (trim s).count c = s.count c := by
  obtain ⟨⟨front, back, hs, hfront, hback⟩, _, _⟩ := trimsTo_trim s
  have hnone : ∀ {blanks : List Char}, (∀ x ∈ blanks, isBlank x = true) → blanks.count c = 0 := by
    intro blanks hblanks
    refine List.count_eq_zero.2 fun hmem => ?_
    rw [hblanks c hmem] at hc
    cases hc
  have hsum := congrArg (List.count c) hs
  rw [List.count_append, List.count_append, hnone hfront, hnone hback] at hsum
  omega

/-- A text is trimmed to nothing exactly when it is blank throughout. -/
theorem trim_eq_nil_iff : trim s = [] ↔ ∀ c ∈ s, isBlank c = true := by
  rw [trim_eq_iff]
  constructor
  · rintro ⟨⟨front, back, rfl, hfront, hback⟩, _, _⟩
    exact List.forall_mem_append.2 ⟨hfront, hback⟩
  · exact fun h => ⟨⟨s, [], (List.append_nil s).symm, h, List.forall_mem_nil _⟩, nofun, nofun⟩

/-- The printing characters of ASCII are not blank. -/
theorem isBlank_of_printing (h : 33 ≤ c.toNat ∧ c.toNat ≤ 126) : isBlank c = false := by
  simp only [isBlank, Bool.or_eq_false_iff, Bool.and_eq_false_iff, decide_eq_false_iff_not,
    beq_eq_false_iff_ne]
  omega

end

end Stencil.Text
