import Stencil.Html.Parse
import Stencil.Proofs.Html.Glyph
import Stencil.Proofs.Html.References

/-!
# Texts that spell no identifier

A sample may spell an identifier by chance, in either case of letters or through character
references, and then a marked sample could be read differently for different identifiers. A text is
`Fresh` for an identifier if no part of it does so after its line breaks are normalized, and a text
shorter than an identifier always is (`fresh_of_length_lt`). Parts of a fresh text are fresh
(`Fresh.front`, `Fresh.back`). What is spelled around a stop is spelled on one side of it
(`spells_append_stop`), so fresh texts may be put together around markers
(`unspelled_append_stop`).
-/

namespace Stencil.Html

open Glyph

/-! ## Line breaks -/

section
variable {a b r done : List Char} {c : Char}

theorem normalizeBreaksFrom_eq (done s : List Char) :
    normalizeBreaksFrom done s = done.reverse ++ normalizeBreaks s := by
  have hfrom (s : List Char) : ∀ done more : List Char,
      normalizeBreaksFrom (done ++ more) s = more.reverse ++ normalizeBreaksFrom done s := by
    intro done
    fun_induction normalizeBreaksFrom done s with
    | case1 done =>
      intro more
      rw [normalizeBreaksFrom, List.reverse_append]
    | case2 done r ih =>
      intro more
      rw [normalizeBreaksFrom]
      exact ih more
    | case3 done r hr ih =>
      intro more
      rw [normalizeBreaksFrom]
      · exact ih more
      · exact hr
    | case4 done c r hc hc' ih =>
      intro more
      rw [normalizeBreaksFrom]
      · exact ih more
      · exact hc
      · exact hc'
  exact hfrom s [] done

theorem normalizeBreaks_return_feed (r : List Char) :
    normalizeBreaks ('\r' :: '\n' :: r) = '\n' :: normalizeBreaks r := by
  rw [normalizeBreaks, normalizeBreaksFrom, normalizeBreaksFrom_eq]
  rfl

theorem normalizeBreaks_return (h : r.head? ≠ some '\n') :
    normalizeBreaks ('\r' :: r) = '\n' :: normalizeBreaks r := by
  rw [normalizeBreaks, normalizeBreaksFrom, normalizeBreaksFrom_eq]
  · rfl
  · exact fun r' hr => h (hr ▸ rfl)

theorem normalizeBreaks_cons (h : c ≠ '\r') :
    normalizeBreaks (c :: r) = c :: normalizeBreaks r := by
  rw [normalizeBreaks, normalizeBreaksFrom, normalizeBreaksFrom_eq]
  · rfl
  · exact fun _ hc => absurd hc h
  · exact h

/-- Texts that no line break joins are normalized one by one. -/
theorem normalizeBreaks_append (h : a.getLast? = some '\r' → b.head? ≠ some '\n') :
    normalizeBreaks (a ++ b) = normalizeBreaks a ++ normalizeBreaks b := by
  have hlength (k : Nat) : ∀ a : List Char, a.length ≤ k →
      (a.getLast? = some '\r' → b.head? ≠ some '\n') →
      normalizeBreaks (a ++ b) = normalizeBreaks a ++ normalizeBreaks b := by
    induction k with
    | zero =>
      intro a ha _
      rw [List.eq_nil_of_length_eq_zero (Nat.le_zero.1 ha)]
      rfl
    | succ k ih =>
      intro a ha hlast
      cases a with
      | nil => rfl
      | cons c r =>
        have hrest (x : Char) (hx : r.getLast? = some x) : (c :: r).getLast? = some x := by
          rw [List.getLast?_cons, hx]
          rfl
        rw [List.length_cons] at ha
        by_cases hc : c = '\r'
        · subst hc
          cases r with
          | nil => exact normalizeBreaks_return (hlast rfl)
          | cons d r =>
            by_cases hd : d = '\n'
            · subst hd
              rw [List.length_cons] at ha
              rw [List.cons_append, List.cons_append, normalizeBreaks_return_feed,
                normalizeBreaks_return_feed, ih r (by omega) fun hr => hlast (hrest _ ?_)]
              · rfl
              · rw [List.getLast?_cons, hr]
                rfl
            · have hne (s : List Char) : (d :: s).head? ≠ some '\n' :=
                fun he => hd (Option.some.inj he)
              have ih := ih (d :: r) (by omega) fun hr => hlast (hrest _ hr)
              rw [List.cons_append] at ih
              rw [List.cons_append, List.cons_append, normalizeBreaks_return (hne _),
                normalizeBreaks_return (hne _), ih]
              rfl
        · rw [List.cons_append, normalizeBreaks_cons hc, normalizeBreaks_cons hc,
            ih r (by omega) fun hr => hlast (hrest _ hr)]
          rfl
  exact hlength a.length a (Nat.le_refl _) h

/-- Characters without carriage returns stay. -/
theorem normalizeBreaks_of_notMem (h : '\r' ∉ a) : normalizeBreaks a = a := by
  induction a with
  | nil => rfl
  | cons c r ih =>
    rw [normalizeBreaks_cons (List.ne_of_not_mem_cons h).symm, ih (List.not_mem_of_not_mem_cons h)]

end

/-! ## Texts that spell no identifier -/

/-- No part of a text, as it is read, spells the identifier. -/
def Fresh (id : MarkerId) (s : List Char) : Prop :=
  ∀ u, u <:+: normalizeBreaks s → ¬ Spells id u

theorem infix_of_append_cons {α : Type} {w a b : List α} {e : α} (he : e ∉ w)
    (h : w <:+: a ++ e :: b) : w <:+: a ∨ w <:+: b := by
  have hcons {w : List α} (he : e ∉ w) (h : w <+: e :: b) : w = [] := by
    cases w with
    | nil => rfl
    | cons x w => exact absurd ((List.cons_prefix_cons.1 h).1 ▸ List.mem_cons_self ..) he
  rcases List.infix_append_iff.1 h with h | h | ⟨w₁, w₂, rfl, h₁, h₂⟩
  · exact .inl h
  · rcases List.infix_cons_iff.1 h with h | h
    · rw [hcons he h]
      exact .inl List.nil_infix
    · exact .inr h
  · rw [hcons (fun hmem => he (List.mem_append_right _ hmem)) h₂, List.append_nil]
    exact .inl h₁.isInfix

theorem IsStop.notMem_idDigits {q : Char} (hq : IsStop q) : q ∉ idDigits := by
  have hall : idDigits.all Char.isAlphanum = true := by decide
  exact fun hmem => hq.ne_of_isAlphanum (List.all_eq_true.1 hall q hmem) rfl

theorem IsStop.toLower_eq {q : Char} (hq : IsStop q) : q.toLower = q := by
  have hnot : (q.isUpper || q.isLower || q.isDigit) = false := hq.notAlphanum
  rw [Bool.or_eq_false_iff, Bool.or_eq_false_iff] at hnot
  exact Char.toLower_eq_of_not_isUpper (Bool.eq_false_iff.1 hnot.1.1)

/-- What is spelled around a character that is no part of references is spelled on one side. -/
theorem spells_append_stop {q : Char} (hq : IsStop q) {id : MarkerId} {a b : List Char}
    (h : Spells id (a ++ q :: b)) : Spells id a ∨ Spells id b := by
  have hnot : q ∉ id.digits := fun hmem => hq.notMem_idDigits (mem_idDigits_of_mem_digits hmem)
  rcases h with h | h
  · rw [List.map_append, List.map_cons, hq.toLower_eq] at h
    exact (infix_of_append_cons hnot h).imp .inl .inl
  · rw [expand_append true hq] at h
    exact (infix_of_append_cons hnot h).imp .inr .inr

/-- No part of a short text without ampersands spells an identifier. -/
theorem not_spells_of_part {u v : List Char} (hlength : u.length < 32)
    (hplain : u.all (fun c => c != '&' && c != '\x00') = true) (hv : v <:+: u) {id : MarkerId} :
    ¬ Spells id v := by
  have hexpand : expand true v = v := by
    refine expand_of_forall true fun c hc => ?_
    have h := List.all_eq_true.1 hplain c (hv.subset hc)
    rw [Bool.and_eq_true, bne_iff_ne, bne_iff_ne] at h
    exact h
  intro hs
  have hdigits : id.digits.length ≤ v.length := by
    rcases hs with hs | hs
    · have hle := hs.length_le
      rwa [List.length_map] at hle
    · rw [hexpand] at hs
      exact hs.length_le
  have hle := hv.length_le
  rw [MarkerId.length_digits] at hdigits
  omega

/-- A short text without ampersands spells no identifier. -/
theorem fresh_of_length_lt {s : List Char} (hlength : (normalizeBreaks s).length < 32)
    (hplain : (normalizeBreaks s).all (fun c => c != '&' && c != '\x00') = true) {id : MarkerId} :
    Fresh id s :=
  fun _ hu => not_spells_of_part hlength hplain hu

theorem Fresh.front {id : MarkerId} {a b : List Char} {c : Char} (hc : c ≠ '\n')
    (h : Fresh id (a ++ c :: b)) : Fresh id a := by
  intro u hu
  refine h u (hu.trans ?_)
  rw [normalizeBreaks_append (b := c :: b) fun _ he => hc (Option.some.inj he)]
  exact (List.prefix_append ..).isInfix

theorem Fresh.back {id : MarkerId} {a b : List Char} {c : Char} (hc : c ≠ '\r')
    (h : Fresh id (a ++ [c] ++ b)) : Fresh id b := by
  intro u hu
  refine h u (hu.trans ?_)
  rw [normalizeBreaks_append fun he => absurd ?_ hc]
  · exact (List.suffix_append ..).isInfix
  · rw [List.getLast?_concat] at he
    exact Option.some.inj he

theorem Fresh.withoutMark {id : MarkerId} {s : List Char} (h : Fresh id s) :
    Fresh id (withoutMark s) := by
  cases s with
  | nil => exact h
  | cons c r =>
    rw [Html.withoutMark]
    split
    · next hc => exact Fresh.back (a := []) (by rintro rfl; cases hc) h
    · exact h

/-! ## Texts with open identifiers -/

/-- No known characters of a text spell an identifier that the renaming changes. -/
def Unspelled (π : Equiv.Perm MarkerId) (t : List Glyph) : Prop :=
  ∀ u : List Char, u.map char <:+: t → ∀ id, π id ≠ id → ¬ Spells id u

section
variable {π : Equiv.Perm MarkerId} {a b : List Glyph} {gap : List Char}

theorem unspelled_append_stop {q : Char} (hq : IsStop q) (ha : Unspelled π a)
    (hb : Unspelled π b) : Unspelled π (a ++ char q :: b) := by
  have hstart {u : List Char} (hu : u.map char <+: char q :: b) :
      u = [] ∨ ∃ u', u = q :: u' ∧ u'.map char <+: b := by
    cases u with
    | nil => exact .inl rfl
    | cons c u =>
      rw [List.map_cons, List.cons_prefix_cons, char.injEq] at hu
      exact .inr ⟨u, by rw [hu.1], hu.2⟩
  have hjoin {u₁ u₂ : List Char} (h₁ : u₁.map char <:+: a) (h₂ : u₂.map char <+: char q :: b) :
      ∀ id, π id ≠ id → ¬ Spells id (u₁ ++ u₂) := by
    intro id hid hs
    rcases hstart h₂ with rfl | ⟨u, rfl, hu⟩
    · rw [List.append_nil] at hs
      exact ha u₁ h₁ id hid hs
    · rcases spells_append_stop hq hs with hs | hs
      · exact ha u₁ h₁ id hid hs
      · exact hb u hu.isInfix id hid hs
  intro u hu
  rcases List.infix_append_iff.1 hu with hu | hu | ⟨w₁, w₂, hw, h₁, h₂⟩
  · exact ha u hu
  · rcases List.infix_cons_iff.1 hu with hu | hu
    · exact hjoin (show ([] : List Char).map char <:+: a from List.nil_infix) hu
    · exact hb u hu
  · obtain ⟨u₁, u₂, rfl, rfl, rfl⟩ := List.map_eq_append_iff.1 hw
    exact hjoin h₁.isInfix h₂

theorem unspelled_append_digit (n i : Nat) (ha : Unspelled π a) (hb : Unspelled π b) :
    Unspelled π (a ++ digit n i :: b) := by
  intro u hu
  have hnot : digit n i ∉ u.map char := fun hmem => by
    obtain ⟨c, _, hc⟩ := List.mem_map.1 hmem
    cases hc
  rcases infix_of_append_cons hnot hu with h | h
  · exact ha u h
  · exact hb u h

theorem infix_of_map_char {u v : List Char} (h : v.map char <:+: u.map char) : v <:+: u := by
  obtain ⟨w, hw, hwv⟩ := List.infix_map_iff.1 h
  obtain rfl := (List.map_injective_iff.2 fun c d h => char.inj h) hwv
  exact hw

theorem unspelled_of_length_lt {u : List Char} (hlength : u.length < 32)
    (hplain : u.all (fun c => c != '&' && c != '\x00') = true) : Unspelled π (u.map char) := by
  intro v hv id _
  exact not_spells_of_part hlength hplain (infix_of_map_char hv)

theorem unspelled_nil : Unspelled π [] := unspelled_of_length_lt (u := []) (by decide) rfl

theorem unspelled_of_fresh (h : ∀ id, π id ≠ id → Fresh id gap) :
    Unspelled π ((normalizeBreaks gap).map char) := by
  intro u hu id hid
  exact h id hid u (infix_of_map_char hu)

theorem unspelled_run_append (n : Nat) (hb : Unspelled π b) : Unspelled π (run n ++ b) := by
  have hdigits (l : List Nat) : Unspelled π (l.map (digit n) ++ b) := by
    induction l with
    | nil => exact hb
    | cons i l ih =>
      exact unspelled_append_digit n i (a := []) unspelled_nil ih
  exact hdigits (List.range 32)

end

end Stencil.Html
