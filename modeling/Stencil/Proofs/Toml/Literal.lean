import Mathlib.Data.List.Basic
import Stencil.Proofs.Text.Digits
import Stencil.Toml.Literal

/-!
# Literals are read back

The literals that are written are truth values and whole numbers. Digits alone are no moment,
because a sign has to follow the first two or four digits of one (`isMoment_of_digits`), and they
have no sign, no base and no groups, so that they are read as the number they write
(`integer?_toDigits`).
-/

namespace Stencil.Toml

/-! ## Digits are no moments -/

section
variable {s : List Char}

theorem exists_of_twoDigits? {least most n : Nat} {r : List Char}
    (h : twoDigits? least most s = some (n, r)) : ∃ a b, s = a :: b :: r := by
  match s with
  | [] | [_] => cases h
  | a :: b :: s =>
    rw [twoDigits?] at h
    split at h
    · cases h
      exact ⟨a, b, rfl⟩
    · cases h

theorem digits_of_twoDigits? (hs : ∀ c ∈ s, c.isDigit = true) {least most n : Nat} {r : List Char}
    (h : twoDigits? least most s = some (n, r)) : ∀ c ∈ r, c.isDigit = true := by
  obtain ⟨a, b, rfl⟩ := exists_of_twoDigits? h
  exact fun c hc => hs c (List.mem_cons_of_mem _ (List.mem_cons_of_mem _ hc))

theorem expect?_of_digits (hs : ∀ c ∈ s, c.isDigit = true) {sign : Char}
    (hsign : sign.isDigit = false) : expect? sign s = none := by
  cases s with
  | nil => rfl
  | cons c s =>
    refine if_neg fun hc => ?_
    rw [← hc, hs c (List.mem_cons_self ..)] at hsign
    cases hsign

theorem time?_of_digits (hs : ∀ c ∈ s, c.isDigit = true) : time? s = none := by
  rw [time?]
  cases h : twoDigits? 0 23 s with
  | none => rfl
  | some v =>
    simp only [Option.bind_eq_bind, Option.bind_some]
    rw [expect?_of_digits (digits_of_twoDigits? hs h) (by decide), Option.bind_none]

theorem date?_of_digits (hs : ∀ c ∈ s, c.isDigit = true) : date? s = none := by
  rw [date?]
  cases h : twoDigits? 0 99 s with
  | none => rfl
  | some v =>
    have hv := digits_of_twoDigits? hs h
    simp only [Option.bind_eq_bind, Option.bind_some]
    cases h' : twoDigits? 0 99 v.2 with
    | none => rfl
    | some w =>
      rw [Option.bind_some, expect?_of_digits (digits_of_twoDigits? hv h') (by decide),
        Option.bind_none]

theorem isMoment_of_digits (hs : ∀ c ∈ s, c.isDigit = true) : isMoment s = false := by
  rw [isMoment, time?_of_digits hs, date?_of_digits hs]
  rfl

/-! ## Digits are numbers -/

theorem ungroup?_of_digits (hne : s ≠ []) (hs : ∀ c ∈ s, c.isDigit = true) :
    ungroup? isDecimal s = some s := by
  induction s with
  | nil => exact absurd rfl hne
  | cons c s ih =>
    obtain ⟨hc, hs⟩ := List.forall_mem_cons.1 hs
    cases s with
    | nil => exact if_pos hc
    | cons d s =>
      rw [ungroup?, if_pos (show isDecimal c = true from hc), ih (List.cons_ne_nil d s) hs]
      · rfl
      · nofun
      · rintro r heq
        cases heq
        cases hs _ (List.mem_cons_self ..)

theorem digitsValue_of_digits (hs : ∀ c ∈ s, c.isDigit = true) :
    digitsValue 10 s = Nat.ofDigitChars 10 s 0 := by
  rw [digitsValue, Nat.ofDigitChars]
  refine List.foldl_ext _ _ _ fun n c hc => ?_
  rw [if_pos (isDigit_iff_between.1 (hs c hc)).2, Nat.mul_comm]
  rfl

end

/-- Digits are no text with another character in it. -/
theorem toDigits_ne {n : Nat} {c : Char} (hc : c.isDigit = false) {s : List Char} (h : c ∈ s) :
    Nat.toDigits 10 n ≠ s := by
  rintro rfl
  rw [isDigit_of_mem_toDigits h] at hc
  cases hc

theorem wholeDigits?_toDigits (n : Nat) :
    wholeDigits? (Nat.toDigits 10 n) = some (Nat.toDigits 10 n) := by
  have hzero : ¬ ((Nat.toDigits 10 n).head? = some '0' ∧ Nat.toDigits 10 n ≠ ['0']) := by
    rintro ⟨hzero, hne⟩
    rcases Nat.eq_zero_or_pos n with rfl | hn
    · exact hne rfl
    · exact head?_toDigits_ne hn hzero
  rw [wholeDigits?, if_neg hzero,
    ungroup?_of_digits Nat.toDigits_ne_nil fun c hc => isDigit_of_mem_toDigits hc]

/-- Digits are read as the number they write, if it is below 2^63. -/
theorem integer?_toDigits {n : Nat} (h : n < Nat.pow 2 63) :
    integer? (Nat.toDigits 10 n) = some (.integer n) := by
  have hdigits : ∀ c ∈ Nat.toDigits 10 n, c.isDigit = true := fun c hc => isDigit_of_mem_toDigits hc
  have hvalue : digitsValue 10 (Nat.toDigits 10 n) = n := by
    rw [digitsValue_of_digits hdigits, Nat.ofDigitChars_ten_toDigits]
  have hsign : splitSign (Nat.toDigits 10 n) = (false, Nat.toDigits 10 n) := by
    rw [splitSign]
    · exact fun r => toDigits_ne (c := '+') (by decide) (List.mem_cons_self ..)
    · exact fun r => toDigits_ne (c := '-') (by decide) (List.mem_cons_self ..)
  rw [integer?, hsign]
  · dsimp only
    rw [wholeDigits?_toDigits]
    dsimp only
    rw [hvalue, if_neg Bool.false_ne_true, if_pos h]
  · exact fun r => toDigits_ne (c := 'x') (by decide) (List.mem_of_mem_tail (List.mem_cons_self ..))
  · exact fun r => toDigits_ne (c := 'o') (by decide) (List.mem_of_mem_tail (List.mem_cons_self ..))
  · exact fun r => toDigits_ne (c := 'b') (by decide) (List.mem_of_mem_tail (List.mem_cons_self ..))

/-! ## Literals -/

/-- Digits are a whole number. -/
theorem ofLiteral?_toDigits {n : Nat} (h : n < Nat.pow 2 63) :
    ofLiteral? (Nat.toDigits 10 n) = some (.integer n) := by
  have htrue : Nat.toDigits 10 n ≠ ['t', 'r', 'u', 'e'] :=
    toDigits_ne (c := 't') (by decide) (List.mem_cons_self ..)
  have hfalse : Nat.toDigits 10 n ≠ ['f', 'a', 'l', 's', 'e'] :=
    toDigits_ne (c := 'f') (by decide) (List.mem_cons_self ..)
  rw [ofLiteral?, if_neg htrue, if_neg hfalse,
    isMoment_of_digits fun c hc => isDigit_of_mem_toDigits hc, if_neg Bool.false_ne_true,
    integer?_toDigits h]

/-- A literal is read up to a character that is no part of it. -/
theorem readLiteralValue?_append {s r : List Char} {c : Char}
    (hs : ∀ c ∈ s, isLiteralChar c = true) (hc : isLiteralChar c = false) (hblank : c ≠ ' ') :
    readLiteralValue? (s ++ c :: r) = (ofLiteral? s).map (·, c :: r) := by
  have htake : (s ++ c :: r).takeWhile isLiteralChar = s := by
    rw [List.takeWhile_append_of_pos hs, List.takeWhile_cons_of_neg (by rw [hc]; decide),
      List.append_nil]
  have hdrop : (s ++ c :: r).dropWhile isLiteralChar = c :: r := by
    rw [List.dropWhile_append_of_pos hs, List.dropWhile_cons_of_neg (by rw [hc]; decide)]
  unfold readLiteralValue?
  rw [htake, hdrop]
  dsimp only
  split
  · next heq => exact absurd (List.cons.inj heq).1 hblank
  · rfl

end Stencil.Toml
