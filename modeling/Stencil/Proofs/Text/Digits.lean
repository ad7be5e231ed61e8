import Stencil.Json.Decode
import Stencil.Text.Count

/-!
# Decimal digits

A whole number is written with the digits of `Nat.toDigits 10`, and every reader of numbers folds
them back in the same way (`foldlM_digits`). The two readers here differ in the digits they ask for
and in what may stand before them: the decoder of JSON words (`asWord?_ofNat`) and the reader of
counts (`readCount?_eq_some_iff`). Both refuse what does not fit in a word.
-/

namespace Stencil

/-- Reading digits from the left, one by one, gives the number they write. -/
theorem foldlM_digits (p : Char → Prop) [DecidablePred p] {ds : List Char} (init : Nat)
    (h : ∀ c ∈ ds, p c) :
    ds.foldlM (fun n c => if p c then some (n * 10 + (c.toNat - 48)) else none) init =
      some (Nat.ofDigitChars 10 ds init) := by
  induction ds generalizing init with
  | nil => rfl
  | cons c ds ih =>
    have hc := h c (List.mem_cons_self ..)
    rw [List.foldlM_cons, if_pos hc, Nat.ofDigitChars_cons, Nat.mul_comm 10 init]
    exact ih _ fun c hc => h c (List.mem_cons_of_mem _ hc)

/-- Nothing else than digits is read in this way. -/
theorem foldlM_digits_eq_some_iff (p : Char → Prop) [DecidablePred p] {ds : List Char}
    {init n : Nat} :
    ds.foldlM (fun n c => if p c then some (n * 10 + (c.toNat - 48)) else none) init = some n ↔
      (∀ c ∈ ds, p c) ∧ Nat.ofDigitChars 10 ds init = n := by
  constructor
  · intro h
    have hall : ∀ c ∈ ds, p c := by
      induction ds generalizing init with
      | nil => exact List.forall_mem_nil _
      | cons c ds ih =>
        rw [List.foldlM_cons] at h
        by_cases hc : p c
        · rw [if_pos hc] at h
          exact List.forall_mem_cons.2 ⟨hc, ih h⟩
        · rw [if_neg hc] at h
          cases h
    rw [foldlM_digits p init hall] at h
    exact ⟨hall, Option.some.inj h⟩
  · rintro ⟨hall, rfl⟩
    exact foldlM_digits p init hall

theorem isDigit_of_mem_toDigits {n : Nat} {c : Char} (h : c ∈ Nat.toDigits 10 n) :
    c.isDigit = true :=
  Nat.isDigit_of_mem_toDigits (by decide) (by decide) h

/-- There is a first digit. -/
theorem exists_cons_toDigits (n : Nat) :
    ∃ c ds, Nat.toDigits 10 n = c :: ds ∧ c.isDigit = true := by
  obtain ⟨c, ds, hd⟩ := List.exists_cons_of_ne_nil (Nat.toDigits_ne_nil (b := 10) (n := n))
  exact ⟨c, ds, hd, isDigit_of_mem_toDigits (n := n) (hd ▸ List.mem_cons_self ..)⟩

/-- A digit lies between the first and the last one. -/
theorem isDigit_iff_between {c : Char} : c.isDigit = true ↔ '0' ≤ c ∧ c ≤ '9' := by
  simp only [Char.isDigit, Bool.and_eq_true, decide_eq_true_eq]
  exact Iff.rfl

/-- The digits of a number that is not zero do not start with a zero. -/
theorem head?_toDigits_ne {n : Nat} (hn : 0 < n) : (Nat.toDigits 10 n).head? ≠ some '0' := by
  induction n using Nat.strongRecOn with
  | ind n ih =>
    by_cases hlt : n < 10
    · rw [Nat.toDigits_of_lt_base hlt, List.head?_cons]
      intro h
      have := Nat.digitChar_eq_zero.1 (Option.some.inj h)
      omega
    · have hrest := ih (n / 10) (by omega) (by omega)
      rw [Nat.toDigits_of_base_le (by decide) (by omega)]
      obtain ⟨c, ds, hd, _⟩ := exists_cons_toDigits (n / 10)
      rw [hd] at hrest ⊢
      exact hrest

/-- A number of more than one digit has no leading zero. -/
theorem toDigits_no_leading_zero (n : Nat) :
    ¬ ((Nat.toDigits 10 n).length ≠ 1 ∧ (Nat.toDigits 10 n).head? = some '0') := by
  rintro ⟨hlen, hzero⟩
  rcases Nat.eq_zero_or_pos n with rfl | hn
  · exact hlen rfl
  · exact head?_toDigits_ne hn hzero

namespace Json

theorem decimal?_toDigits (n : Nat) : decimal? (Nat.toDigits 10 n) = some n := by
  have hne : (Nat.toDigits 10 n).isEmpty = false := by
    rw [List.isEmpty_eq_false_iff]
    exact Nat.toDigits_ne_nil
  rw [decimal?, hne, if_neg Bool.false_ne_true,
    foldlM_digits _ 0 fun c hc => isDigit_iff_between.1 (isDigit_of_mem_toDigits hc),
    Nat.ofDigitChars_ten_toDigits]

/-- A whole number is decoded to itself, if it fits in a word. -/
theorem asWord?_ofNat (n : Nat) :
    asWord? (ofNat n) = if n < Text.wordSize then some n else none := by
  rw [ofNat, asWord?, Nat.toString_eq_repr, Nat.toList_repr, decimal?_toDigits]

end Json

namespace Text

/-- A count is written with one or more digits, maybe after a plus sign. -/
theorem readCount?_eq_some_iff {s : List Char} {n : Nat} :
    readCount? s = some n ↔ ∃ sign digits, s = sign ++ digits ∧ (sign = [] ∨ sign = ['+']) ∧
      digits ≠ [] ∧ (∀ c ∈ digits, c.isDigit = true) ∧ Nat.ofDigitChars 10 digits 0 = n ∧
      n < wordSize := by
  constructor
  · intro h
    unfold readCount? at h
    extract_lets digits at h
    have hsign : ∃ sign, s = sign ++ digits ∧ (sign = [] ∨ sign = ['+']) := by
      dsimp only [digits]
      split
      · exact ⟨['+'], rfl, .inr rfl⟩
      · exact ⟨[], rfl, .inl rfl⟩
    obtain ⟨sign, hs, hsign⟩ := hsign
    split at h
    · cases h
    · next hne =>
      split at h
      · next m hm =>
        obtain ⟨hall, rfl⟩ := (foldlM_digits_eq_some_iff (fun c => c.isDigit = true)).1 hm
        split at h
        · next hlt =>
          cases h
          rw [List.isEmpty_iff] at hne
          exact ⟨sign, digits, hs, hsign, hne, hall, rfl, hlt⟩
        · cases h
      · cases h
  · rintro ⟨sign, digits, rfl, hsign, hne, hall, hn, hlt⟩
    unfold readCount?
    extract_lets rest
    have hrest : rest = digits := by
      rcases hsign with rfl | rfl
      · obtain ⟨c, ds, rfl⟩ := List.exists_cons_of_ne_nil hne
        dsimp only [rest, List.nil_append]
        split
        · next heq =>
          -- A digit is no sign.
          cases heq
          cases hall _ (List.mem_cons_self ..)
        · rfl
      · rfl
    have hfold := (foldlM_digits_eq_some_iff (fun c => c.isDigit = true)).2 ⟨hall, hn⟩
    rw [hrest, hfold, if_neg (by rwa [List.isEmpty_iff])]
    exact if_pos hlt

end Text

end Stencil
