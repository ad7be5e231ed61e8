import Mathlib
import Stencil.Address.Selector
import Stencil.Proofs.Outcomes
import Stencil.Proofs.Text.Digits
import Stencil.Proofs.Text.Trimming

/-!
# The grammar of selectors

What a selector may look like, without the reader. A text is cut at its `>` signs, and each piece
has to spell a step: between blanks, a tag and a place (`SpellsStep`, `SpellsPlace`). `Fault` says
which error a piece gives that spells none. The reader of steps follows this (`readStep_eq_ok_iff`,
`readStep_eq_error_iff`), so a selector is taken exactly if all its pieces spell steps, and its
first bad piece is why it is not (`parse_follows_grammar`).
-/

namespace Stencil

open Text (TrimsTo isBlank)

namespace Selector

/-! ## The grammar -/

/-- A tag is a non-empty word over the letters, the digits, the hyphen and the underscore. -/
def IsTag (tag : List Char) : Prop :=
  tag ≠ [] ∧ ∀ c ∈ tag, c.isAlphanum = true ∨ c = '-' ∨ c = '_'

/-- A number as it is written between the parentheses: blanks, an optional plus sign, decimal digits
and blanks. -/
inductive SpellsCount : List Char → Nat → Prop where
  | digits {front sign ds back : List Char} (hfront : ∀ c ∈ front, isBlank c = true)
      (hsign : sign = [] ∨ sign = ['+']) (hne : ds ≠ []) (hdigits : ∀ c ∈ ds, c.isDigit = true)
      (hback : ∀ c ∈ back, isBlank c = true) :
    SpellsCount (front ++ (sign ++ ds ++ back)) (Nat.ofDigitChars 10 ds 0)

/-- What may stand after a tag, and the place that it says. Places are counted from one, and the
count has to fit in 64 bits. -/
inductive SpellsPlace : List Char → Option Place → Prop where
  | any : SpellsPlace [] none
  | first : SpellsPlace ":first-child".toList (some (.at 0))
  | last : SpellsPlace ":last-child".toList (some .last)
  | nth {count : List Char} {i : Nat} (h : SpellsCount count (i + 1)) (hfits : i + 1 < 2 ^ 64) :
    SpellsPlace (":nth-child(".toList ++ (count ++ [')'])) (some (.at i))

/-- A step as it is written: blanks, a tag in either case, a place and blanks. -/
inductive SpellsStep : List Char → Step → Prop where
  | tag {front tag after back : List Char} {place : Option Place}
      (hfront : ∀ c ∈ front, isBlank c = true) (htag : IsTag tag) (hplace : SpellsPlace after place)
      (hback : ∀ c ∈ back, isBlank c = true) :
    SpellsStep (front ++ (tag ++ after ++ back)) ⟨String.ofList (tag.map Char.toLower), place⟩

/-- Why a piece spells no step: what stands before its first colon is not a tag, or it is one and
what stands after the colon says no place. -/
inductive Fault : List Char → SelectorError → Prop where
  | tag {p core : List Char} (hcore : TrimsTo p core) (h : ¬ IsTag (core.takeWhile (· ≠ ':'))) :
    Fault p (.invalidTag (String.ofList core))
  | place {p tag text : List Char} (hcore : TrimsTo p (tag ++ ':' :: text)) (htag : IsTag tag)
      (h : ∀ place, ¬ SpellsPlace (':' :: text) place) :
    Fault p (.invalidPlace (String.ofList text))

/-! ## Tags -/

theorem isTagChar_iff {c : Char} :
    isTagChar c = true ↔ c.isAlphanum = true ∨ c = '-' ∨ c = '_' := by
  rw [isTagChar, Bool.or_eq_true, Bool.or_eq_true, beq_iff_eq, beq_iff_eq, or_assoc]

theorem isTag_iff {tag : List Char} :
    ¬ (tag.isEmpty = true ∨ ¬ tag.all isTagChar = true) ↔ IsTag tag := by
  rw [not_or, not_not, List.isEmpty_iff, List.all_eq_true, IsTag]
  exact and_congr_right fun _ => forall₂_congr fun c _ => isTagChar_iff

theorem printing_of_isTagChar {c : Char} (h : isTagChar c = true) :
    33 ≤ c.toNat ∧ c.toNat ≤ 126 := by
  rcases isTagChar_iff.1 h with h | rfl | rfl
  · simp only [Char.isAlphanum, Char.isAlpha, Char.isUpper, Char.isLower, Char.isDigit,
      Bool.or_eq_true, Bool.and_eq_true, decide_eq_true_eq, ge_iff_le, UInt32.le_iff_toNat_le] at h
    change ((65 ≤ c.toNat ∧ c.toNat ≤ 90) ∨ (97 ≤ c.toNat ∧ c.toNat ≤ 122)) ∨
      (48 ≤ c.toNat ∧ c.toNat ≤ 57) at h
    omega
  · decide
  · decide

/-- A character that is neither blank nor the sign between steps. -/
def Visible (c : Char) : Prop := isBlank c = false ∧ c ≠ '>'

instance : DecidablePred Visible := fun _ => inferInstanceAs (Decidable (_ ∧ _))

theorem visible_of_isTagChar {c : Char} (h : isTagChar c = true) : Visible c := by
  refine ⟨Text.isBlank_of_printing (printing_of_isTagChar h), ?_⟩
  rintro rfl
  cases h

theorem isTagChar_of_isDigit {c : Char} (h : c.isDigit = true) : isTagChar c = true := by
  rw [isTagChar, Char.isAlphanum, h, Bool.or_true]
  rfl

/-- There is no colon in a tag. -/
theorem IsTag.ne_colon {tag : List Char} (h : IsTag tag) : ∀ c ∈ tag, decide (c ≠ ':') = true := by
  intro c hc
  rw [decide_eq_true_eq]
  rintro rfl
  exact absurd (h.2 _ hc) (by decide)

/-! ## Places -/

/-- What stands between a front and a back is found there. -/
theorem between?_append (front s back : List Char) :
    between? front back (front ++ (s ++ back)) = some s := by
  have hfront : front.isPrefixOf (front ++ (s ++ back)) = true :=
    List.isPrefixOf_iff_prefix.2 (List.prefix_append ..)
  have hback : back.isSuffixOf (s ++ back) = true :=
    List.isSuffixOf_iff_suffix.2 (List.suffix_append ..)
  have hlength : (front ++ (s ++ back)).length - front.length - back.length = s.length := by
    simp only [List.length_append]
    omega
  rw [between?, List.drop_left, hlength, if_pos ⟨hfront, hback⟩, List.take_left]

/-- What is found between a front and a back stands there. -/
theorem between?_eq_some_iff {front back s x : List Char} :
    between? front back s = some x ↔ s = front ++ (x ++ back) := by
  constructor
  · intro h
    have hends : front.isPrefixOf s ∧ back.isSuffixOf (s.drop front.length) := by
      rw [between?] at h
      split at h
      · next hends => exact hends
      · cases h
    obtain ⟨t, rfl⟩ := List.isPrefixOf_iff_prefix.1 hends.1
    rw [List.drop_left] at hends
    obtain ⟨y, rfl⟩ := List.isSuffixOf_iff_suffix.1 hends.2
    rw [between?_append] at h
    rw [Option.some.inj h]
  · rintro rfl
    exact between?_append front x back

/-- The reader of counts takes what the grammar does, between blanks. -/
theorem readCount?_trim_eq_some_iff {s : List Char} {n : Nat} :
    Text.readCount? (Text.trim s) = some n ↔ SpellsCount s n ∧ n < Text.wordSize := by
  constructor
  · intro h
    obtain ⟨sign, ds, hs, hsign, hne, hdigits, rfl, hlt⟩ := Text.readCount?_eq_some_iff.1 h
    obtain ⟨⟨front, back, rfl, hfront, hback⟩, _, _⟩ := Text.trim_eq_iff.1 hs
    exact ⟨.digits hfront hsign hne hdigits hback, hlt⟩
  · rintro ⟨⟨hfront, hsign, hne, hdigits, hback⟩, hlt⟩
    refine Text.readCount?_eq_some_iff.2 ⟨_, _, ?_, hsign, hne, hdigits, rfl, hlt⟩
    refine Text.trim_of_visible hfront (fun c hc => ?_) hback
    rcases List.mem_append.1 hc with hc | hc
    · rcases hsign with rfl | rfl
      · cases hc
      · cases List.mem_singleton.1 hc
        decide
    · exact (visible_of_isTagChar (isTagChar_of_isDigit (hdigits c hc))).1

/-- The reader of places follows the grammar. -/
theorem readPlace?_eq_some_iff {s : List Char} {place : Place} :
    readPlace? s = some place ↔ SpellsPlace (':' :: s) (some place) := by
  constructor
  · intro h
    rw [readPlace?] at h
    split at h
    · next hs =>
      cases h
      rw [hs]
      exact .first
    split at h
    · next hs =>
      cases h
      rw [hs]
      exact .last
    split at h
    · next i hcount =>
      cases h
      obtain ⟨text, htext, hread⟩ := Option.bind_eq_some_iff.1 hcount
      obtain ⟨count, hbetween, rfl⟩ := Option.map_eq_some_iff.1 htext
      obtain ⟨hspells, hlt⟩ := readCount?_trim_eq_some_iff.1 hread
      rw [between?_eq_some_iff.1 hbetween]
      exact .nth hspells hlt
    · cases h
  · intro h
    generalize hs : ':' :: s = text at h
    generalize hplace : some place = known at h
    cases h with
    | any => cases hplace
    | first =>
      cases hplace
      rw [(List.cons.inj hs).2]
      rfl
    | last =>
      cases hplace
      rw [(List.cons.inj hs).2]
      rfl
    | @nth count i hspells hfits =>
      cases hplace
      have hs : s = "nth-child(".toList ++ (count ++ [')']) := (List.cons.inj hs).2
      have hread : Text.readCount? (Text.trim count) = some (i + 1) :=
        readCount?_trim_eq_some_iff.2 ⟨hspells, hfits⟩
      rw [hs, readPlace?, if_neg nofun, if_neg nofun, between?_append, Option.map_some,
        Option.bind_some, hread]

/-! ## Steps -/

/-- What may stand after a tag is nothing, or a colon and more. -/
theorem SpellsPlace.cases_colon {text : List Char} {place : Option Place}
    (h : SpellsPlace text place) : text = [] ∧ place = none ∨ ∃ p rest, text = ':' :: rest ∧
      place = some p := by
  cases h with
  | any => exact .inl ⟨rfl, rfl⟩
  | first => exact .inr ⟨_, _, rfl, rfl⟩
  | last => exact .inr ⟨_, _, rfl, rfl⟩
  | nth _ _ => exact .inr ⟨_, _, rfl, rfl⟩

/-- A piece that does not start with a tag is refused. -/
theorem readStep_of_not_isTag {p core : List Char} (hcore : TrimsTo p core)
    (h : ¬ IsTag (core.takeWhile (· ≠ ':'))) :
    readStep p = .error (.invalidTag (String.ofList core)) := by
  rw [readStep, Text.trim_eq_iff.2 hcore]
  dsimp only
  rw [if_pos (not_not.1 fun hnot => h (isTag_iff.1 hnot))]

/-- A tag alone is a step without a place. -/
theorem readStep_of_isTag {p tag : List Char} (hcore : TrimsTo p tag) (htag : IsTag tag) :
    readStep p = .ok ⟨String.ofList (tag.map Char.toLower), none⟩ := by
  rw [readStep, Text.trim_eq_iff.2 hcore]
  dsimp only
  rw [List.takeWhile_eq_self_iff.2 htag.ne_colon, if_neg (isTag_iff.2 htag),
    List.dropWhile_eq_nil_iff.2 htag.ne_colon]

/-- After a tag and a colon a place is read. -/
theorem readStep_of_colon {p tag text : List Char} (hcore : TrimsTo p (tag ++ ':' :: text))
    (htag : IsTag tag) :
    readStep p =
      match readPlace? text with
      | some place => .ok ⟨String.ofList (tag.map Char.toLower), some place⟩
      | none => .error (.invalidPlace (String.ofList text)) := by
  have htake : (tag ++ ':' :: text).takeWhile (fun c => decide (c ≠ ':')) = tag := by
    rw [List.takeWhile_append_of_pos htag.ne_colon, List.takeWhile_cons_of_neg (by simp),
      List.append_nil]
  have hdrop : (tag ++ ':' :: text).dropWhile (fun c => decide (c ≠ ':')) = ':' :: text := by
    rw [List.dropWhile_append_of_pos htag.ne_colon, List.dropWhile_cons_of_neg (by simp)]
  rw [readStep, Text.trim_eq_iff.2 hcore]
  dsimp only
  rewrite [htake, hdrop, if_neg (isTag_iff.2 htag)]
  rfl

/-- A piece, between its blanks, does not start with a tag, or it is one, or it goes on with a
colon. -/
theorem piece_cases (p : List Char) :
    (∃ core, TrimsTo p core ∧ ¬ IsTag (core.takeWhile (· ≠ ':'))) ∨
      (∃ tag, TrimsTo p tag ∧ IsTag tag) ∨
      ∃ tag text, TrimsTo p (tag ++ ':' :: text) ∧ IsTag tag := by
  by_cases htag : IsTag ((Text.trim p).takeWhile (· ≠ ':'))
  · have hcore := Text.trimsTo_trim p
    have hhead := List.head?_dropWhile_not (fun c => decide (c ≠ ':')) (Text.trim p)
    rw [← List.takeWhile_append_dropWhile (p := (· ≠ ':')) (l := Text.trim p)] at hcore
    cases hd : (Text.trim p).dropWhile (· ≠ ':') with
    | nil =>
      rw [hd, List.append_nil] at hcore
      exact .inr (.inl ⟨_, hcore, htag⟩)
    | cons c text =>
      rw [hd] at hcore hhead
      rw [show c = ':' by simpa using hhead] at hcore
      exact .inr (.inr ⟨_, text, hcore, htag⟩)
  · exact .inl ⟨_, Text.trimsTo_trim p, htag⟩

/-- What may stand after a tag does not end with a blank. -/
theorem SpellsPlace.last_visible {text : List Char} {place : Option Place}
    (h : SpellsPlace text place) : ∀ c ∈ text.getLast?, isBlank c = false := by
  intro c hc
  cases h with
  | any => cases hc
  | first | last =>
    cases hc
    decide
  | nth _ _ =>
    rw [← List.append_assoc, List.getLast?_concat] at hc
    cases hc
    decide

/-- What a step is written as, between blanks. -/
theorem trimsTo_of_spells {front tag after back : List Char} {place : Option Place}
    (hfront : ∀ c ∈ front, isBlank c = true) (htag : IsTag tag) (hplace : SpellsPlace after place)
    (hback : ∀ c ∈ back, isBlank c = true) :
    TrimsTo (front ++ (tag ++ after ++ back)) (tag ++ after) := by
  have hvisible : ∀ c ∈ tag, isBlank c = false := fun c hc =>
    (visible_of_isTagChar (isTagChar_iff.2 (htag.2 c hc))).1
  refine ⟨⟨front, back, rfl, hfront, hback⟩, fun c hc => ?_, fun c hc => ?_⟩
  · obtain ⟨d, tag, rfl⟩ := List.exists_cons_of_ne_nil htag.1
    cases hc
    exact hvisible _ (List.mem_cons_self ..)
  · rw [List.getLast?_append, Option.mem_def, Option.or_eq_some_iff] at hc
    rcases hc with hc | ⟨_, hc⟩
    · exact hplace.last_visible c hc
    · exact hvisible c (List.mem_of_mem_getLast? hc)

/-- **The reader of steps follows the grammar.** -/
theorem readStep_eq_ok_iff {p : List Char} {x : Step} : readStep p = .ok x ↔ SpellsStep p x := by
  constructor
  · intro h
    rcases piece_cases p with ⟨core, hcore, hnot⟩ | ⟨tag, hcore, htag⟩ | ⟨tag, text, hcore, htag⟩
    · rw [readStep_of_not_isTag hcore hnot] at h
      cases h
    · rw [readStep_of_isTag hcore htag] at h
      cases h
      obtain ⟨⟨front, back, rfl, hfront, hback⟩, _, _⟩ := hcore
      have hspells := SpellsStep.tag hfront htag .any hback
      rwa [List.append_nil] at hspells
    · rw [readStep_of_colon hcore htag] at h
      obtain ⟨⟨front, back, rfl, hfront, hback⟩, _, _⟩ := hcore
      split at h
      · next place hplace =>
        cases h
        exact .tag hfront htag (readPlace?_eq_some_iff.1 hplace) hback
      · cases h
  · rintro ⟨hfront, htag, hplace, hback⟩
    have hcore := trimsTo_of_spells hfront htag hplace hback
    rcases hplace.cases_colon with ⟨rfl, rfl⟩ | ⟨place, text, rfl, rfl⟩
    · rw [List.append_nil] at hcore
      rw [List.append_nil]
      exact readStep_of_isTag hcore htag
    · rw [readStep_of_colon hcore htag, readPlace?_eq_some_iff.2 hplace]

/-- **A piece that spells no step is refused for its fault.** -/
theorem readStep_eq_error_iff {p : List Char} {e : SelectorError} :
    readStep p = .error e ↔ Fault p e := by
  constructor
  · intro h
    rcases piece_cases p with ⟨core, hcore, hnot⟩ | ⟨tag, hcore, htag⟩ | ⟨tag, text, hcore, htag⟩
    · rw [readStep_of_not_isTag hcore hnot] at h
      cases h
      exact .tag hcore hnot
    · rw [readStep_of_isTag hcore htag] at h
      cases h
    · rw [readStep_of_colon hcore htag] at h
      split at h
      · cases h
      · next hnone =>
        cases h
        refine .place hcore htag fun place hplace => ?_
        rcases hplace.cases_colon with ⟨hnil, _⟩ | ⟨known, _, _, rfl⟩
        · cases hnil
        · rw [readPlace?_eq_some_iff.2 hplace] at hnone
          cases hnone
  · rintro (⟨hcore, hnot⟩ | ⟨hcore, htag, hno⟩)
    · exact readStep_of_not_isTag hcore hnot
    · rw [readStep_of_colon hcore htag]
      split
      · next place hplace => exact absurd (readPlace?_eq_some_iff.1 hplace) (hno _)
      · rfl

/-! ## Lists of steps -/

/-- The pieces of a text are what it is split into. -/
theorem pieces_eq_splitOn (sep : Char) (s : List Char) : pieces sep s = s.splitOn sep := by
  induction s with
  | nil => rfl
  | cons c s ih =>
    rw [pieces, List.splitOn_cons_eq_if_modifyHead, ih]
    by_cases hc : c = sep
    · rw [if_pos hc, if_pos (beq_iff_eq.2 hc)]
    · rw [if_neg hc, if_neg fun h => hc (beq_iff_eq.1 h)]
      cases h : s.splitOn sep with
      | nil => exact absurd h (List.splitOn_ne_nil sep s)
      | cons p ps => rfl

/-- Steps are read one after the other. -/
theorem readSteps_eq_mapM (ps : List (List Char)) : readSteps ps = ps.mapM readStep := by
  induction ps with
  | nil => rfl
  | cons p ps ih => rw [readSteps, List.mapM_cons, ih]

end Selector

open Selector (SpellsStep Fault)

namespace Address

/-- A selector that is not blank is read piece by piece. -/
theorem ofChars_eq (s : List Char) :
    ofChars s = if ∀ c ∈ s, isBlank c = true then .ok empty
      else ((s.splitOn '>').mapM Selector.readStep).map .mk := by
  rw [ofChars, Selector.pieces_eq_splitOn, Selector.readSteps_eq_mapM]
  refine if_congr ?_ rfl rfl
  rw [List.isEmpty_iff, Text.trim_eq_nil_iff]

/-- Blanks are the empty address, and what is more has to spell steps. -/
theorem ofChars_eq_ok_iff {s : List Char} {a : Address} :
    ofChars s = .ok a ↔ (∀ c ∈ s, isBlank c = true) ∧ a = empty ∨
      ¬ (∀ c ∈ s, isBlank c = true) ∧ List.Forall₂ SpellsStep (s.splitOn '>') a.steps := by
  rw [ofChars_eq]
  by_cases hblank : ∀ c ∈ s, isBlank c = true
  · rw [if_pos hblank, or_iff_left fun h => h.1 hblank, and_iff_right hblank]
    exact ⟨fun h => (Except.ok.inj h).symm, fun h => by rw [h]⟩
  · rw [if_neg hblank, or_iff_right fun h => hblank h.1, and_iff_right hblank, map_eq_ok_iff]
    simp only [mapM_eq_ok_iff, Selector.readStep_eq_ok_iff]
    constructor
    · rintro ⟨steps, hsteps, rfl⟩
      exact hsteps
    · exact fun hsteps => ⟨a.steps, hsteps, rfl⟩

/-- The first piece that spells no step is why a text is refused. -/
theorem ofChars_eq_error_iff {s : List Char} {e : SelectorError} :
    ofChars s = .error e ↔ ¬ (∀ c ∈ s, isBlank c = true) ∧
      ∃ before p after, s.splitOn '>' = before ++ p :: after ∧
        (∀ q ∈ before, ∃ x, SpellsStep q x) ∧ Fault p e := by
  rw [ofChars_eq]
  by_cases hblank : ∀ c ∈ s, isBlank c = true
  · rw [if_pos hblank]
    exact ⟨nofun, fun h => absurd hblank h.1⟩
  · rw [if_neg hblank, and_iff_right hblank, map_eq_error_iff, mapM_eq_error_iff]
    simp only [Selector.readStep_eq_ok_iff, Selector.readStep_eq_error_iff]

/-- **Selectors are read by their grammar.** A blank text is the empty address. Any other text is an
address exactly when each of its pieces between the `>` signs spells a step, and these are its
steps. If one does not, the error is the fault of the first piece that does not. -/
theorem parse_follows_grammar (s : String) :
    (∀ a, parse s = .ok a ↔
      (∀ c ∈ s.toList, isBlank c = true) ∧ a = empty ∨
      ¬ (∀ c ∈ s.toList, isBlank c = true) ∧
        List.Forall₂ SpellsStep (s.toList.splitOn '>') a.steps) ∧
    ∀ e, parse s = .error e ↔ ¬ (∀ c ∈ s.toList, isBlank c = true) ∧
      ∃ before p after, s.toList.splitOn '>' = before ++ p :: after ∧
        (∀ q ∈ before, ∃ x, SpellsStep q x) ∧ Fault p e :=
  ⟨fun _ => ofChars_eq_ok_iff, fun _ => ofChars_eq_error_iff⟩

end Address

end Stencil
