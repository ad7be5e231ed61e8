import Stencil.Html.Reference

/-!
# Where references end

A character reference is read up to the first character that can be no part of one, and a quotation
mark, an angle bracket or a space is such a character (`IsStop`). Text after a stop changes neither
what a reference stands for nor what it leaves (`readReference_append`). So a text is expanded piece
by piece between stops (`expand_append`), and an identifier between quotation marks is expanded by
itself.
-/

namespace Stencil.Html

-- The table is looked up, never computed.
attribute [local irreducible] referenceTable

/-- A character that ends every reference and stands for itself. -/
structure IsStop (q : Char) : Prop where
  ne_ampersand : q ≠ '&'
  ne_null : q ≠ '\x00'
  ne_semicolon : q ≠ ';'
  ne_equals : q ≠ '='
  ne_hash : q ≠ '#'
  notAlphanum : q.isAlphanum = false

instance (q : Char) : Decidable (IsStop q) :=
  decidable_of_iff (q ≠ '&' ∧ q ≠ '\x00' ∧ q ≠ ';' ∧ q ≠ '=' ∧ q ≠ '#' ∧ q.isAlphanum = false)
    ⟨fun ⟨h₁, h₂, h₃, h₄, h₅, h₆⟩ => ⟨h₁, h₂, h₃, h₄, h₅, h₆⟩,
      fun ⟨h₁, h₂, h₃, h₄, h₅, h₆⟩ => ⟨h₁, h₂, h₃, h₄, h₅, h₆⟩⟩

theorem IsStop.ne_of_isAlphanum {q c : Char} (hq : IsStop q) (hc : c.isAlphanum = true) :
    q ≠ c := by
  rintro rfl
  exact absurd (hc.symm.trans hq.notAlphanum) (by decide)

section
variable {q : Char} (hq : IsStop q) (r : List Char)

/-- A result with more text after it. -/
def withRest {α : Type} (more : List Char) (x : α × List Char) : α × List Char :=
  (x.1, x.2 ++ more)

theorem takeWhile_append_stop {p : Char → Bool} (hp : p q = false) (w : List Char) :
    (w ++ q :: r).takeWhile p = w.takeWhile p := by
  rw [List.takeWhile_append, List.takeWhile_cons_of_neg (by rw [hp]; decide), List.append_nil]
  split
  · next h => exact (List.takeWhile_prefix p).eq_of_length h |>.symm
  · rfl

theorem length_takeWhile_le (p : Char → Bool) (w : List Char) :
    (w.takeWhile p).length ≤ w.length := (List.takeWhile_prefix p).length_le

include hq

theorem digitValue?_stop (base : Nat) : (digitValue? base q).isSome = false := by
  have hnot : (q.isUpper || q.isLower || q.isDigit) = false := hq.notAlphanum
  rw [Bool.or_eq_false_iff, Bool.or_eq_false_iff] at hnot
  obtain ⟨⟨hupper, hlower⟩, hdigit⟩ := hnot
  have hbetween {a b : UInt32} (h : (decide (a ≤ q.val) && decide (q.val ≤ b)) = false) :
      ¬ (a.toNat ≤ q.toNat ∧ q.toNat ≤ b.toNat) := fun hq => by
    rw [decide_eq_true (UInt32.le_iff_toNat_le.2 hq.1),
      decide_eq_true (UInt32.le_iff_toNat_le.2 hq.2)] at h
    cases h
  have hupper : ¬ (65 ≤ q.toNat ∧ q.toNat ≤ 90) := fun hq =>
    of_decide_eq_false hupper ⟨UInt32.le_iff_toNat_le.2 hq.1, UInt32.le_iff_toNat_le.2 hq.2⟩
  have hlower : ¬ (97 ≤ q.toNat ∧ q.toNat ≤ 122) := hbetween hlower
  have hdigit : ¬ (48 ≤ q.toNat ∧ q.toNat ≤ 57) := hbetween hdigit
  rw [digitValue?, if_neg hdigit, if_neg (by omega), if_neg (by omega)]
  rfl

theorem readNumber_append (base : Nat) (w : List Char) :
    readNumber base (w ++ q :: r) = (readNumber base w).map (withRest (q :: r)) := by
  have htake := takeWhile_append_stop r (p := fun c => (digitValue? base c).isSome)
    (digitValue?_stop hq base) w
  rw [readNumber, readNumber, htake]
  dsimp only
  split
  · rfl
  · rw [List.drop_append_of_le_length (length_takeWhile_le _ w)]
    cases w.drop (w.takeWhile fun c => (digitValue? base c).isSome).length with
    | nil =>
      rw [List.nil_append]
      split
      · next h => exact absurd (List.cons.inj h).1 hq.ne_semicolon
      · rfl
    | cons c w' =>
      rw [List.cons_append]
      by_cases hc : c = ';'
      · subst hc
        rfl
      · split
        · next h => exact absurd (List.cons.inj h).1 hc
        · split
          · next h => exact absurd (List.cons.inj h).1 hc
          · rfl

theorem takeName_append (w : List Char) :
    ((w ++ q :: r).take maxNameLength).takeWhile Char.isAlphanum =
      (w.take maxNameLength).takeWhile Char.isAlphanum := by
  rw [List.take_append]
  generalize maxNameLength - w.length = n
  cases n with
  | zero => rw [List.take_zero, List.append_nil]
  | succ n =>
    rw [List.take_succ_cons]
    exact takeWhile_append_stop _ hq.notAlphanum _

omit hq

theorem longestName?_zero (name : List Char) : longestName? name 0 = none := rfl

theorem longestName?_succ (name : List Char) (n : Nat) :
    longestName? name (n + 1) =
      match referenceTable[String.ofList (name.take (n + 1))]? with
      | some chars => some (n + 1, chars)
      | none => longestName? name n := rfl

theorem longestName?_le (name : List Char) (n : Nat) {k : Nat} {chars : String}
    (h : longestName? name n = some (k, chars)) : k ≤ n := by
  induction n with
  | zero =>
    rw [longestName?_zero] at h
    cases h
  | succ n ih =>
    rw [longestName?_succ] at h
    split at h
    · obtain ⟨rfl, _⟩ := Prod.mk.inj (Option.some.inj h)
      exact Nat.le_refl _
    · exact Nat.le_succ_of_le (ih h)

theorem head?_append_stop {c : Char} (hc : q ≠ c) (w : List Char) :
    (w ++ q :: r).head? = some c ↔ w.head? = some c := by
  cases w with
  | nil => simp [hc]
  | cons d w => rfl

/-- What the longest name that a text starts with stands for, and the rest. -/
def readPartialName (inAttribute : Bool) (name s : List Char) : Option (List Char × List Char) :=
  match longestName? name name.length with
  | none => none
  | some (n, chars) =>
    let rest := s.drop n
    let goesOn := match rest with
      | c :: _ => c == '=' || c.isAlphanum
      | [] => false
    if inAttribute && goesOn then none else some (chars.toList, rest)

/-- What a name with its semicolon stands for, and the rest. -/
def readWholeName (name s : List Char) : Option (List Char × List Char) :=
  if (s.drop name.length).head? = some ';' then
    (referenceTable[String.ofList (name ++ [';'])]?).map fun chars =>
      (chars.toList, s.drop (name.length + 1))
  else none

theorem readName_eq (inAttribute : Bool) (s : List Char) :
    readName inAttribute s =
      (readWholeName ((s.take maxNameLength).takeWhile Char.isAlphanum) s).or
        (readPartialName inAttribute ((s.take maxNameLength).takeWhile Char.isAlphanum) s) := by
  rw [readName]
  dsimp only
  rw [← readWholeName]
  cases readWholeName ((s.take maxNameLength).takeWhile Char.isAlphanum) s <;> rfl

theorem readWholeName_append (hq : IsStop q) {name w : List Char} (hn : name.length ≤ w.length) :
    readWholeName name (w ++ q :: r) = (readWholeName name w).map (withRest (q :: r)) := by
  have hhead := head?_append_stop r hq.ne_semicolon (w.drop name.length)
  rw [readWholeName, readWholeName, List.drop_append_of_le_length hn]
  by_cases hsemi : (w.drop name.length).head? = some ';'
  · have hlt : name.length < w.length := Nat.lt_of_not_le fun hge => by
      rw [List.drop_of_length_le hge] at hsemi
      cases hsemi
    rw [if_pos hsemi, if_pos (hhead.2 hsemi), List.drop_append_of_le_length hlt, Option.map_map]
    rfl
  · rw [if_neg hsemi, if_neg (mt hhead.1 hsemi)]
    rfl

theorem readPartialName_append (hq : IsStop q) (inAttribute : Bool) {name w : List Char}
    (hn : name.length ≤ w.length) :
    readPartialName inAttribute name (w ++ q :: r) =
      (readPartialName inAttribute name w).map (withRest (q :: r)) := by
  rw [readPartialName, readPartialName]
  cases hlongest : longestName? name name.length with
  | none => rfl
  | some found =>
    obtain ⟨n, chars⟩ := found
    have hle : n ≤ w.length := Nat.le_trans (longestName?_le _ _ hlongest) hn
    have hequals : (q == '=') = false := beq_eq_false_iff_ne.2 hq.ne_equals
    dsimp only
    rw [List.drop_append_of_le_length hle]
    cases w.drop n with
    | nil =>
      rw [List.nil_append]
      simp only [hequals, hq.notAlphanum, Bool.or_false, Bool.and_false]
      rfl
    | cons c w' =>
      rw [List.cons_append]
      dsimp only
      split <;> rfl

theorem readName_append (hq : IsStop q) (inAttribute : Bool) (w : List Char) :
    readName inAttribute (w ++ q :: r) =
      (readName inAttribute w).map (withRest (q :: r)) := by
  have hn : ((w.take maxNameLength).takeWhile Char.isAlphanum).length ≤ w.length :=
    Nat.le_trans (length_takeWhile_le _ _) (List.length_take_le' _ _)
  rw [readName_eq, readName_eq, takeName_append hq, readWholeName_append r hq hn,
    readPartialName_append r hq inAttribute hn, Option.map_or]

theorem readReference_of_ne (inAttribute : Bool) {s : List Char} (h : ∀ t, s ≠ '#' :: t) :
    readReference inAttribute s = readName inAttribute s := by
  unfold readReference
  split
  · exact absurd rfl (h _)
  · exact absurd rfl (h _)
  · exact absurd rfl (h _)
  · rfl

theorem readReference_decimal (inAttribute : Bool) {d : Char} {s : List Char} (hx : d ≠ 'x')
    (hX : d ≠ 'X') :
    readReference inAttribute ('#' :: d :: s) =
      (readNumber 10 (d :: s)).map fun (c, r) => ([c], r) := by
  unfold readReference
  split
  · next h => exact absurd (List.cons.inj (List.cons.inj h).2).1 hx
  · next h => exact absurd (List.cons.inj (List.cons.inj h).2).1 hX
  · next h => rw [(List.cons.inj h).2]
  · next h => exact absurd rfl (h _)

theorem readReference_append (hq : IsStop q) (inAttribute : Bool) (w : List Char) :
    readReference inAttribute (w ++ q :: r) =
      (readReference inAttribute w).map (withRest (q :: r)) := by
  have hnumber (base : Nat) (w : List Char) :
      ((readNumber base (w ++ q :: r)).map fun (c, r) => ([c], r)) =
        ((readNumber base w).map fun (c, r) => ([c], r)).map (withRest (q :: r)) := by
    rw [readNumber_append hq, Option.map_map, Option.map_map]
    rfl
  have hname (hs : ∀ t, w ++ q :: r ≠ '#' :: t) :
      readReference inAttribute (w ++ q :: r) =
        (readReference inAttribute w).map (withRest (q :: r)) := by
    rw [readReference_of_ne _ hs, readReference_of_ne, readName_append r hq]
    intro t ht
    exact hs (t ++ q :: r) (by rw [ht]; rfl)
  cases w with
  | nil =>
    refine hname fun t ht => ?_
    exact hq.ne_hash (List.cons.inj ht).1
  | cons c w =>
    by_cases hc : c = '#'
    · subst hc
      cases w with
      | nil =>
        have hx : q ≠ 'x' := hq.ne_of_isAlphanum (by decide)
        have hX : q ≠ 'X' := hq.ne_of_isAlphanum (by decide)
        exact (readReference_decimal inAttribute hx hX).trans (hnumber 10 [])
      | cons d w =>
        by_cases hx : d = 'x'
        · subst hx
          exact hnumber 16 w
        · by_cases hX : d = 'X'
          · subst hX
            exact hnumber 16 w
          · rw [List.cons_append, List.cons_append, readReference_decimal _ hx hX,
              readReference_decimal _ hx hX]
            exact hnumber 10 (d :: w)
    · refine hname fun t ht => ?_
      exact hc (List.cons.inj ht).1

end

/-! ## Rests -/

section
variable {cs s rest : List Char}

theorem readNumber_suffix {base : Nat} {c : Char} (h : readNumber base s = some (c, rest)) :
    rest <:+ s := by
  have hdrop := List.drop_suffix (s.takeWhile fun c => (digitValue? base c).isSome).length s
  rw [readNumber] at h
  dsimp only at h
  split at h
  · cases h
  · split at h
    · next r hr =>
      rw [hr] at hdrop
      cases h
      exact (List.suffix_cons ';' rest).trans hdrop
    · cases h
      exact hdrop

theorem readName_suffix {inAttribute : Bool} (h : readName inAttribute s = some (cs, rest)) :
    rest <:+ s := by
  rw [readName_eq, Option.or_eq_some_iff] at h
  rcases h with h | ⟨_, h⟩
  · rw [readWholeName] at h
    split at h
    · obtain ⟨chars, _, hchars⟩ := Option.map_eq_some_iff.1 h
      rw [← (Prod.mk.inj hchars).2]
      exact List.drop_suffix _ _
    · cases h
  · rw [readPartialName] at h
    split at h
    · cases h
    · next n chars _ =>
      dsimp only at h
      rw [Option.ite_none_left_eq_some] at h
      rw [← (Prod.mk.inj (Option.some.inj h.2)).2]
      exact List.drop_suffix _ _

/-- What is left after a reference is the end of the text. -/
theorem readReference_suffix {inAttribute : Bool}
    (h : readReference inAttribute s = some (cs, rest)) : rest <:+ s := by
  have hnumber {base : Nat} {r : List Char}
      (h : ((readNumber base r).map fun (c, r) => ([c], r)) = some (cs, rest)) : rest <:+ r := by
    obtain ⟨⟨c, r'⟩, hread, hc⟩ := Option.map_eq_some_iff.1 h
    rw [← (Prod.mk.inj hc).2]
    exact readNumber_suffix hread
  unfold readReference at h
  split at h
  · next r => exact (hnumber h).trans (List.drop_suffix 2 ('#' :: 'x' :: r))
  · next r => exact (hnumber h).trans (List.drop_suffix 2 ('#' :: 'X' :: r))
  · next r _ _ => exact (hnumber h).trans (List.drop_suffix 1 ('#' :: r))
  · exact readName_suffix h

/-! ## Expanding -/

variable (inAttribute : Bool)

theorem expandFrom_succ (done : List Char) (n : Nat) (c : Char) (r : List Char) :
    expandFrom inAttribute done (n + 1) (c :: r) =
      if c = '&' then
        match readReference inAttribute r with
        | some (chars, rest) => expandFrom inAttribute (chars.reverse ++ done) n rest
        | none => expandFrom inAttribute (c :: done) n r
      else expandFrom inAttribute (withoutNull c :: done) n r := rfl

/-- A bound that is large enough makes no difference. -/
theorem expandFrom_eq (k : Nat) : ∀ (s : List Char), s.length ≤ k → ∀ (done : List Char) (n : Nat),
    s.length ≤ n → expandFrom inAttribute done n s = done.reverse ++ expand inAttribute s := by
  induction k with
  | zero =>
    intro s hs done n _
    rw [List.eq_nil_of_length_eq_zero (Nat.le_zero.1 hs)]
    cases n with
    | zero => rfl
    | succ n => exact (List.append_nil _).symm
  | succ k ih =>
    intro s hs done n hn
    cases s with
    | nil =>
      cases n with
      | zero => rfl
      | succ n => exact (List.append_nil _).symm
    | cons c r =>
      obtain ⟨n, rfl⟩ : ∃ m, n = m + 1 := ⟨n - 1, by rw [List.length_cons] at hn; omega⟩
      rw [List.length_cons] at hs hn
      have hr (done : List Char) (n : Nat) (hn : r.length ≤ n) :=
        ih r (Nat.le_of_succ_le_succ hs) done n hn
      rw [expand, List.length_cons, expandFrom_succ, expandFrom_succ]
      split
      · cases hread : readReference inAttribute r with
        | none =>
          dsimp only
          rw [hr _ _ (Nat.le_of_succ_le_succ hn), hr _ _ (Nat.le_refl _), List.reverse_cons,
            List.reverse_cons, List.reverse_nil, List.append_assoc, List.nil_append]
        | some found =>
          obtain ⟨cs, rest⟩ := found
          have hrest := (readReference_suffix hread).length_le
          dsimp only
          rw [ih rest (by omega) _ _ (by omega), ih rest (by omega) _ _ hrest,
            List.reverse_append, List.reverse_append, List.reverse_reverse, List.reverse_nil,
            List.nil_append, List.append_assoc]
      · rw [hr _ _ (Nat.le_of_succ_le_succ hn), hr _ _ (Nat.le_refl _), List.reverse_cons,
          List.reverse_cons, List.reverse_nil, List.append_assoc, List.nil_append]

theorem expandFrom_eq_append (done s : List Char) {n : Nat} (hn : s.length ≤ n) :
    expandFrom inAttribute done n s = done.reverse ++ expand inAttribute s :=
  expandFrom_eq inAttribute s.length s (Nat.le_refl _) done n hn

theorem expand_cons {c : Char} (hc : c ≠ '&') (r : List Char) :
    expand inAttribute (c :: r) = withoutNull c :: expand inAttribute r := by
  rw [expand, List.length_cons, expandFrom_succ, if_neg hc,
    expandFrom_eq_append inAttribute _ _ (Nat.le_refl _)]
  rfl

theorem expand_ampersand (r : List Char) :
    expand inAttribute ('&' :: r) =
      match readReference inAttribute r with
      | some (cs, rest) => cs ++ expand inAttribute rest
      | none => '&' :: expand inAttribute r := by
  rw [expand, List.length_cons, expandFrom_succ, if_pos rfl]
  cases hread : readReference inAttribute r with
  | none => exact expandFrom_eq_append inAttribute _ _ (Nat.le_refl _)
  | some found =>
    obtain ⟨cs, rest⟩ := found
    dsimp only
    rw [expandFrom_eq_append inAttribute _ _ (readReference_suffix hread).length_le,
      List.append_nil, List.reverse_reverse]

theorem expand_append_of_length_le {q : Char} (hq : IsStop q) (r : List Char) (k : Nat) :
    ∀ w : List Char, w.length ≤ k →
      expand inAttribute (w ++ q :: r) = expand inAttribute w ++ q :: expand inAttribute r := by
  have hstop : expand inAttribute (q :: r) = q :: expand inAttribute r := by
    rw [expand_cons inAttribute hq.ne_ampersand, withoutNull, if_neg hq.ne_null]
  induction k with
  | zero =>
    intro w hw
    rw [List.eq_nil_of_length_eq_zero (Nat.le_zero.1 hw)]
    exact hstop
  | succ k ih =>
    intro w hw
    cases w with
    | nil => exact hstop
    | cons c w =>
      have hw' := ih w (Nat.le_of_succ_le_succ hw)
      rw [List.cons_append]
      by_cases hc : c = '&'
      · subst hc
        rw [expand_ampersand, expand_ampersand, readReference_append r hq]
        cases hread : readReference inAttribute w with
        | none => exact congrArg ('&' :: ·) hw'
        | some found =>
          obtain ⟨cs, rest⟩ := found
          have hrest := (readReference_suffix hread).length_le
          have hlength := Nat.le_of_succ_le_succ hw
          dsimp only [Option.map_some, withRest]
          rw [ih rest (Nat.le_trans hrest hlength), List.append_assoc]
      · rw [expand_cons inAttribute hc, expand_cons inAttribute hc, hw', List.cons_append]

/-- A text is expanded piece by piece between characters that end references. -/
theorem expand_append {q : Char} (hq : IsStop q) (w r : List Char) :
    expand inAttribute (w ++ q :: r) = expand inAttribute w ++ q :: expand inAttribute r :=
  expand_append_of_length_le inAttribute hq r w.length w (Nat.le_refl _)

/-- A text without ampersands and null characters stands for itself. -/
theorem expand_of_forall {w : List Char} (h : ∀ c ∈ w, c ≠ '&' ∧ c ≠ '\x00') :
    expand inAttribute w = w := by
  induction w with
  | nil => rfl
  | cons c w ih =>
    obtain ⟨hc, hnull⟩ := h c (List.mem_cons_self ..)
    rw [expand_cons inAttribute hc, ih fun c hc => h c (List.mem_cons_of_mem _ hc), withoutNull,
      if_neg hnull]

end

end Stencil.Html
