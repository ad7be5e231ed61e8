import Stencil.Proofs.Address.Grammar

/-!
# Which addresses survive as selectors

A document may give an element any tag, a selector may not: its tags are words of small letters,
digits, hyphens and underscores, and the places in it are counted in a word. `Step.IsReadable` says
this of a step. What spells a step is always of this kind (`isReadable_of_spellsStep`), and the text
of a step of this kind spells it (`spellsStep_stepText`). So an address survives exactly when all of
its steps are readable (`parse_toText_eq_ok_iff`), and what was read once survives for ever
(`parse_toText_cycle`).
-/

namespace Stencil

namespace Selector

/-! ## Tags -/

/-- Whether a character may stand in a tag that was read: a tag character that is no capital. -/
def IsPlainChar (c : Char) : Prop := isTagChar c = true ∧ c.isUpper = false

/-- The reader takes tags in either case and makes them plain. -/
theorem isPlainChar_toLower {c : Char} (h : isTagChar c = true) : IsPlainChar c.toLower := by
  refine ⟨?_, Char.isUpper_toLower_eq_false c⟩
  cases hupper : c.isUpper with
  | false => rwa [Char.toLower_eq_of_not_isUpper (by rw [hupper]; exact Bool.false_ne_true)]
  | true =>
    have hlower : c.toLower.isLower = true := by
      rw [Char.isLower_toLower_eq_isAlpha, Char.isAlpha, hupper, Bool.true_or]
    rw [isTagChar, Char.isAlphanum, Char.isAlpha, hlower, Bool.or_true, Bool.true_or]
    rfl

/-- A plain character is its own small letter. -/
theorem IsPlainChar.toLower_eq {c : Char} (h : IsPlainChar c) : c.toLower = c :=
  Char.toLower_eq_of_not_isUpper (by rw [h.2]; exact Bool.false_ne_true)

/-- A plain character is a small letter, a digit, the hyphen or the underscore. -/
theorem isPlainChar_iff {c : Char} :
    IsPlainChar c ↔ ('a' ≤ c ∧ c ≤ 'z') ∨ ('0' ≤ c ∧ c ≤ '9') ∨ c = '-' ∨ c = '_' := by
  have hlower : c.isLower = true ↔ 'a' ≤ c ∧ c ≤ 'z' := by
    simp only [Char.isLower, Bool.and_eq_true, decide_eq_true_eq]
    exact Iff.rfl
  have hupper : c.isUpper = true → 'A' ≤ c ∧ c ≤ 'Z' := by
    simp only [Char.isUpper, decide_eq_true_eq]
    exact id
  rw [IsPlainChar, isTagChar, Char.isAlphanum, Char.isAlpha]
  constructor
  · rintro ⟨htag, hsmall⟩
    rw [hsmall, Bool.false_or] at htag
    simp only [Bool.or_eq_true, beq_iff_eq, hlower, isDigit_iff_between] at htag
    rcases htag with ((h | h) | h) | h
    · exact .inl h
    · exact .inr (.inl h)
    · exact .inr (.inr (.inl h))
    · exact .inr (.inr (.inr h))
  · rintro (h | h | rfl | rfl)
    · have hl := hlower.2 h
      refine ⟨by rw [hl, Bool.or_true, Bool.true_or]; rfl, ?_⟩
      exact Bool.eq_false_iff.2 (Char.not_isUpper_of_isLower hl)
    · refine ⟨by rw [isDigit_iff_between.2 h, Bool.or_true]; rfl, Bool.eq_false_iff.2 fun hu => ?_⟩
      -- The digits come before the capitals.
      exact absurd (le_trans (hupper hu).1 h.2) (by decide)
    · decide
    · decide

/-- A non-empty word over the small letters, the digits, the hyphen and the underscore. -/
def IsPlainTag (tag : String) : Prop := tag ≠ "" ∧ ∀ c ∈ tag.toList, IsPlainChar c

/-- A plain tag is a tag, and it is its own small letters. -/
theorem IsPlainTag.isTag {tag : String} (h : IsPlainTag tag) :
    IsTag tag.toList ∧ String.ofList (tag.toList.map Char.toLower) = tag := by
  refine ⟨⟨fun hnil => h.1 (String.toList_eq_nil_iff.1 hnil), fun c hc =>
    isTagChar_iff.1 (h.2 c hc).1⟩, ?_⟩
  rw [List.map_congr_left fun c hc => (h.2 c hc).toLower_eq, List.map_id', String.ofList_toList]

end Selector

/-- Whether a selector can say a step: its tag is plain, and its place, counted from one, fits in a
word. -/
structure Step.IsReadable (s : Step) : Prop where
  tag : Selector.IsPlainTag s.tag
  place : ∀ i, s.place = some (.at i) → i + 1 < Text.wordSize

/-- A step is readable if its tag is a non-empty word over the plain characters and its place is not
the last word. -/
theorem Step.isReadable_iff {s : Step} :
    s.IsReadable ↔
      (s.tag ≠ "" ∧ ∀ c ∈ s.tag.toList,
        ('a' ≤ c ∧ c ≤ 'z') ∨ ('0' ≤ c ∧ c ≤ '9') ∨ c = '-' ∨ c = '_') ∧
      ∀ i, s.place = some (.at i) → i < 2 ^ 64 - 1 := by
  have hword : ∀ i, i + 1 < Text.wordSize ↔ i < 2 ^ 64 - 1 := fun i => by
    rw [Text.wordSize, show Nat.pow 2 64 = 2 ^ 64 - 1 + 1 from rfl, Nat.add_lt_add_iff_right]
  constructor
  · rintro ⟨⟨hne, htag⟩, hplace⟩
    exact ⟨⟨hne, fun c hc => Selector.isPlainChar_iff.1 (htag c hc)⟩,
      fun i hi => (hword i).1 (hplace i hi)⟩
  · rintro ⟨⟨hne, htag⟩, hplace⟩
    exact ⟨⟨hne, fun c hc => Selector.isPlainChar_iff.2 (htag c hc)⟩,
      fun i hi => (hword i).2 (hplace i hi)⟩

namespace Selector

/-! ## Places -/

/-- The characters of a given text are checked one by one. -/
theorem visible_of_all {s : List Char} (h : s.all (fun c => decide (Visible c)) = true) :
    ∀ c ∈ s, Visible c :=
  fun c hc => of_decide_eq_true (List.all_eq_true.1 h c hc)

/-- The text of a place other than the first. -/
theorem placeText_succ {i : Nat} (h : i + 2 < Text.wordSize) :
    placeText (.at (i + 1)) = ":nth-child(".toList ++ (Nat.toDigits 10 (i + 2) ++ [')']) := by
  have htext : placeText (.at (i + 1)) =
      ":nth-child(".toList ++ (toString ((i + 2) % Text.wordSize)).toList ++ [')'] := rfl
  rw [htext, Nat.mod_eq_of_lt h, Nat.toString_eq_repr, Nat.toList_repr, List.append_assoc]

/-- The text of a place spells it. -/
theorem spellsPlace_placeText {p : Place} (h : ∀ i, p = .at i → i + 1 < Text.wordSize) :
    SpellsPlace (placeText p) (some p) := by
  match p with
  | .last => exact .last
  | .at 0 => exact .first
  | .at (i + 1) =>
    have hcount : SpellsCount (Nat.toDigits 10 (i + 2)) (i + 2) := by
      have := SpellsCount.digits (List.forall_mem_nil _) (.inl rfl) Nat.toDigits_ne_nil
        (fun c hc => isDigit_of_mem_toDigits (n := i + 2) hc) (List.forall_mem_nil _)
      rwa [Nat.ofDigitChars_ten_toDigits, List.nil_append, List.nil_append, List.append_nil] at this
    rw [placeText_succ (h _ rfl)]
    exact .nth hcount (h _ rfl)

theorem visible_of_mem_placeText {p : Place} (h : ∀ i, p = .at i → i + 1 < Text.wordSize) :
    ∀ c ∈ placeText p, Visible c := by
  match p with
  | .last => exact visible_of_all (by decide)
  | .at 0 => exact visible_of_all (by decide)
  | .at (i + 1) =>
    rw [placeText_succ (h _ rfl)]
    refine List.forall_mem_append.2 ⟨visible_of_all (by decide), List.forall_mem_append.2
      ⟨fun c hc => ?_, visible_of_all (by decide)⟩⟩
    exact visible_of_isTagChar (isTagChar_of_isDigit (isDigit_of_mem_toDigits hc))

/-- A place that is spelled fits. -/
theorem SpellsPlace.fits {text : List Char} {place : Option Place} (h : SpellsPlace text place) :
    ∀ i, place = some (.at i) → i + 1 < Text.wordSize := by
  intro i hi
  cases h with
  | any | last => cases hi
  | first =>
    cases hi
    decide
  | nth _ hfits =>
    cases hi
    exact hfits

/-! ## Steps -/

theorem visible_of_mem_stepText {s : Step} (h : s.IsReadable) : ∀ c ∈ stepText s, Visible c := by
  refine List.forall_mem_append.2 ⟨fun c hc => visible_of_isTagChar (h.tag.2 c hc).1, ?_⟩
  cases hplace : s.place with
  | none => exact List.forall_mem_nil _
  | some p => exact visible_of_mem_placeText fun i hi => h.place i (hplace.trans (congrArg some hi))

theorem not_mem_stepText {s : Step} (h : s.IsReadable) : '>' ∉ stepText s :=
  fun hmem => (visible_of_mem_stepText h _ hmem).2 rfl

/-- The blanks that a selector has around a step. -/
def AreBlank (s : List Char) : Prop := s = [] ∨ s = [' ']

theorem AreBlank.isBlank {s : List Char} (h : AreBlank s) : ∀ c ∈ s, Text.isBlank c = true := by
  rcases h with rfl | rfl
  · exact List.forall_mem_nil _
  · exact List.forall_mem_singleton.2 rfl

theorem AreBlank.not_mem {s : List Char} (h : AreBlank s) : '>' ∉ s := by
  rcases h with rfl | rfl <;> decide

/-- The text of a readable step, with blanks around it, spells the step. -/
theorem spellsStep_stepText {s : Step} (h : s.IsReadable) (front back : List Char)
    (hfront : AreBlank front) (hback : AreBlank back) :
    SpellsStep (front ++ (stepText s ++ back)) s := by
  obtain ⟨htag, hlower⟩ := h.tag.isTag
  have hstep : ∀ after, SpellsPlace after s.place →
      SpellsStep (front ++ (s.tag.toList ++ after ++ back)) s := by
    intro after hafter
    have := SpellsStep.tag hfront.isBlank htag hafter hback.isBlank
    rwa [hlower] at this
  refine hstep _ ?_
  cases hplace : s.place with
  | none => exact .any
  | some p => exact spellsPlace_placeText fun i hi => h.place i (hplace.trans (congrArg some hi))

/-- A step that is spelled is readable. -/
theorem isReadable_of_spellsStep {p : List Char} {x : Step} (h : SpellsStep p x) :
    x.IsReadable := by
  obtain ⟨_, htag, hplace, _⟩ := h
  refine ⟨⟨fun hempty => htag.1 ?_, fun c hc => ?_⟩, hplace.fits⟩
  · have := congrArg String.toList hempty
    rw [String.toList_ofList] at this
    exact List.map_eq_nil_iff.1 this
  · rw [String.toList_ofList] at hc
    obtain ⟨x, hx, rfl⟩ := List.mem_map.1 hc
    exact isPlainChar_toLower (isTagChar_iff.2 (htag.2 x hx))

/-! ## Lists of steps -/

/-- The pieces of the text of readable steps spell them. -/
theorem spellsStep_splitOn_stepsText {s : Step} {steps : List Step}
    (h : ∀ x ∈ s :: steps, x.IsReadable) (front : List Char) (hfront : AreBlank front) :
    List.Forall₂ SpellsStep ((front ++ stepsText (s :: steps)).splitOn '>') (s :: steps) := by
  have hs := h s (List.mem_cons_self ..)
  induction steps generalizing s front with
  | nil =>
    have hnot : '>' ∉ front ++ stepText s := by
      rw [List.mem_append]
      exact not_or.2 ⟨hfront.not_mem, not_mem_stepText hs⟩
    have hstep := spellsStep_stepText hs front [] hfront (.inl rfl)
    rw [List.append_nil] at hstep
    rw [stepsText, List.splitOn_eq_singleton hnot]
    exact .cons hstep .nil
  | cons t steps ih =>
    have hnot : '>' ∉ front ++ (stepText s ++ [' ']) := by
      rw [List.mem_append, List.mem_append]
      refine not_or.2 ⟨hfront.not_mem, not_or.2 ⟨not_mem_stepText hs, by decide⟩⟩
    have hsplit : front ++ stepsText (s :: t :: steps) =
        (front ++ (stepText s ++ [' '])) ++ '>' :: ([' '] ++ stepsText (t :: steps)) := by
      rw [stepsText, separator]
      simp only [List.append_assoc, List.cons_append, List.nil_append]
    rw [hsplit, List.splitOn_append_cons_self_of_not_mem hnot]
    exact .cons (spellsStep_stepText hs front [' '] hfront (.inr rfl))
      (ih (fun x hx => h x (List.mem_cons_of_mem _ hx)) [' '] (.inr rfl)
        (h t (List.mem_cons_of_mem _ (List.mem_cons_self ..))))

end Selector

open Selector (SpellsStep isReadable_of_spellsStep)

namespace Address

/-- Whether a selector can say an address. -/
def IsReadable (a : Address) : Prop := ∀ s ∈ a.steps, s.IsReadable

/-- What is read as an address is readable. -/
theorem isReadable_of_ofChars {s : List Char} {a : Address} (h : ofChars s = .ok a) :
    a.IsReadable := by
  rcases ofChars_eq_ok_iff.1 h with ⟨_, rfl⟩ | ⟨_, hsteps⟩
  · exact List.forall_mem_nil _
  · have hall := hsteps.flip.imp fun x p (h : SpellsStep p x) =>
      And.intro (isReadable_of_spellsStep h) h
    exact ((List.forall₂_and_left _ _).1 hall).1

/-- A readable address is read back from its selector. -/
theorem ofChars_toChars {a : Address} (h : a.IsReadable) : ofChars a.toChars = .ok a := by
  obtain ⟨steps⟩ := a
  cases steps with
  | nil => rfl
  | cons s steps =>
    have hs := h s (List.mem_cons_self ..)
    obtain ⟨c, tag, hc⟩ := List.exists_cons_of_ne_nil hs.tag.isTag.1.1
    have hmem : c ∈ toChars ⟨s :: steps⟩ := by
      have hstep : c ∈ Selector.stepText s := by
        rw [Selector.stepText, hc]
        exact List.mem_cons_self ..
      rw [toChars]
      cases steps with
      | nil => exact hstep
      | cons t steps => exact List.mem_append_left _ hstep
    have hvisible := Selector.visible_of_isTagChar (hs.tag.2 c (hc ▸ List.mem_cons_self ..)).1
    refine ofChars_eq_ok_iff.2 (.inr ⟨fun hblank => ?_, ?_⟩)
    · have := hblank c hmem
      rw [hvisible.1] at this
      cases this
    · exact Selector.spellsStep_splitOn_stepsText h [] (.inl rfl)

/-- **An address survives as a selector exactly when it is readable.** -/
theorem parse_toText_eq_ok_iff (a : Address) : parse a.toText = .ok a ↔ a.IsReadable := by
  rw [parse, toText, String.toList_ofList]
  exact ⟨isReadable_of_ofChars, ofChars_toChars⟩

/-- **Writing and reading addresses.** An address is read back from its own text exactly when its
tags are non-empty words of small letters, digits, hyphens and underscores and its places are below
the last word. Of every text that can be read the address has no place that is too large to be
counted from one, it is read back from its own text, and it is written in the same way again. -/
theorem parse_toText_cycle :
    (∀ a, parse a.toText = .ok a ↔ ∀ x ∈ a.steps,
      (x.tag ≠ "" ∧ ∀ c ∈ x.tag.toList,
        ('a' ≤ c ∧ c ≤ 'z') ∨ ('0' ≤ c ∧ c ≤ '9') ∨ c = '-' ∨ c = '_') ∧
      ∀ i, x.place = some (.at i) → i < 2 ^ 64 - 1) ∧
    ∀ s a, parse s = .ok a →
      (∀ x ∈ a.steps, ∀ i, x.place = some (.at i) → i + 1 < 2 ^ 64) ∧
        parse a.toText = .ok a ∧ (parse a.toText).map toText = .ok a.toText := by
  refine ⟨fun a => (parse_toText_eq_ok_iff a).trans (forall₂_congr fun _ _ => Step.isReadable_iff),
    fun s a h => ?_⟩
  have hreadable : a.IsReadable := isReadable_of_ofChars h
  have hback := (parse_toText_eq_ok_iff a).2 hreadable
  refine ⟨fun x hx => (hreadable x hx).place, hback, ?_⟩
  rw [hback]
  rfl

/-- Blanks, a plus sign and capitals are read and never written. -/
theorem parse_toText_cycle_blanks :
    let s := " UL:nth-child( +3 )>li:last-child"
    let a : Address := ⟨[⟨"ul", some (.at 2)⟩, ⟨"li", some .last⟩]⟩
    parse s = .ok a ∧ a.toText = "ul:nth-child(3) > li:last-child" ∧
      (parse a.toText).map toText = .ok a.toText := by
  intro s a
  have h : parse s = .ok a := by decide +kernel
  exact ⟨h, by decide +kernel, (parse_toText_cycle.2 s a h).2.2⟩

end Address

end Stencil
