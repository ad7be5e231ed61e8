import Stencil.Toml.Quoted

/-!
# Quoted texts are read back

A text that was quoted is read back as it was, whatever it holds (`readQuoted?_quote`). On one line
every character is written for itself, and `reads_flatMap` reads them one by one. Three quotes need
more care, since quotes of the text may stand in front of the closing ones: at most two in a row do,
and then five quotes in a row end the text.
-/

namespace Stencil.Toml

/-! ## Characters -/

/-- Plain characters are those that are neither escaped nor line breaks. -/
theorem isPlain_iff {c : Char} : isPlain c = true ↔ needsEscape c = false ∧ c ≠ '\n' := by
  by_cases htab : c = '\t'
  · subst htab
    decide
  by_cases hbreak : c = '\n'
  · subst hbreak
    decide
  · simp [isPlain, needsEscape, htab, hbreak]

/-- A letter that stands for a character after a backslash starts no number. -/
theorem unescape?_ne {e c : Char} (h : unescape? e = some c) : e ≠ 'u' ∧ e ≠ 'U' :=
  ⟨fun he => (by subst he; cases h), fun he => (by subst he; cases h)⟩

/-- What is written for a character between double quotes: a backslash and a letter, a number, or
the character itself. -/
theorem escape_cases (c : Char) :
    (∃ e, unescape? e = some c ∧ escape c = ['\\', e]) ∨
      (c.toNat < 128 ∧ escape c = hexEscape c) ∨
      (isPlain c = true ∧ c ≠ '"' ∧ c ≠ '\\' ∧ escape c = [c]) := by
  unfold escape
  split
  · exact .inl ⟨'b', rfl, rfl⟩
  · exact .inl ⟨'t', rfl, rfl⟩
  · exact .inl ⟨'n', rfl, rfl⟩
  · exact .inl ⟨'f', rfl, rfl⟩
  · exact .inl ⟨'r', rfl, rfl⟩
  · exact .inl ⟨'"', rfl, rfl⟩
  · exact .inl ⟨'\\', rfl, rfl⟩
  · next hquote hslash =>
    split
    · exact .inr (.inl ⟨by omega, rfl⟩)
    · next hcode =>
      refine .inr (.inr ⟨?_, hquote, hslash, rfl⟩)
      simp only [isPlain, Bool.or_eq_true, Bool.and_eq_true, decide_eq_true_eq]
      omega

theorem ne_return_of_needsEscape {c : Char} (h : needsEscape c = false) : c ≠ '\r' := fun hc => by
  subst hc
  cases h

/-- What is written for a character starts with no quote and with no line break. -/
theorem exists_cons_escape (c : Char) :
    ∃ d ds, escape c = d :: ds ∧ d ≠ '"' ∧ d ≠ '\r' ∧ d ≠ '\n' := by
  rcases escape_cases c with ⟨e, _, hc⟩ | ⟨_, hc⟩ | ⟨hplain, hquote, _, hc⟩
  · exact ⟨_, _, hc, by decide, by decide, by decide⟩
  · exact ⟨_, _, hc, by decide, by decide, by decide⟩
  · obtain ⟨hescape, hbreak⟩ := isPlain_iff.1 hplain
    exact ⟨_, _, hc, hquote, ne_return_of_needsEscape hescape, hbreak⟩

/-- The number of a character is read back. -/
theorem hexChar?_hexEscape {c : Char} (h : c.toNat < 128) :
    ∃ x y, hexEscape c = ['\\', 'u', '0', '0', x, y] ∧ hexChar? ['0', '0', x, y] = some c := by
  have hall : ∀ n < 128, hexChar? ['0', '0', (Json.hexDigit (n / 16 % 16)).toUpper,
      (Json.hexDigit (n % 16)).toUpper] = some (Char.ofNat n) := by
    decide +kernel
  refine ⟨(Json.hexDigit (c.toNat / 16 % 16)).toUpper, (Json.hexDigit (c.toNat % 16)).toUpper,
    rfl, ?_⟩
  rw [hall _ h, Char.ofNat_toNat]

/-! ## Texts on one line -/

/-- A text is read back if each of its characters is and its end is found. -/
theorem reads_flatMap (reader : List Char → Option (List Char × List Char))
    (written : Char → List Char) {close rest text : List Char}
    (hstep : ∀ c ∈ text, ∀ r, reader (written c ++ r) = consText c (reader r))
    (hclose : reader (close ++ rest) = some ([], rest)) :
    reader (text.flatMap written ++ (close ++ rest)) = some (text, rest) := by
  induction text with
  | nil => exact hclose
  | cons c text ih =>
    obtain ⟨hc, htext⟩ := List.forall_mem_cons.1 hstep
    rw [List.flatMap_cons, List.append_assoc, hc, ih htext]
    rfl

theorem readBasic_escape (c : Char) (r : List Char) :
    readBasic (escape c ++ r) = consText c (readBasic r) := by
  rcases escape_cases c with ⟨e, he, hc⟩ | ⟨hcode, hc⟩ | ⟨hplain, hquote, hslash, hc⟩
  · obtain ⟨hu, hU⟩ := unescape?_ne he
    rw [hc, List.cons_append, List.cons_append, List.nil_append, readBasic, he]
    · rfl
    · exact fun _ _ _ _ _ h => absurd h hu
    · exact fun _ _ _ _ _ _ _ _ _ h => absurd h hU
  · obtain ⟨x, y, hxy, hread⟩ := hexChar?_hexEscape hcode
    rw [hc, hxy]
    simp only [List.cons_append, List.nil_append]
    rw [readBasic, hread]
    rfl
  · rw [hc, List.singleton_append, readBasic, if_pos hplain]
    · exact hquote
    · exact fun _ _ _ _ _ h => absurd h hslash
    · exact fun _ _ _ _ _ _ _ _ _ h => absurd h hslash
    · exact fun _ _ h => absurd h hslash

theorem readLiteral_cons {c : Char} (hplain : isPlain c = true) (hquote : c ≠ '\'')
    (r : List Char) : readLiteral (c :: r) = consText c (readLiteral r) := by
  rw [readLiteral, if_pos hplain]
  exact hquote

theorem readBasic_quote (text rest : List Char) :
    readBasic (text.flatMap escape ++ '"' :: rest) = some (text, rest) :=
  reads_flatMap readBasic escape (fun c _ => readBasic_escape c)
    (show readBasic (['"'] ++ rest) = _ from rfl)

theorem readLiteral_quote {text : List Char} (h : ∀ c ∈ text, isPlain c = true ∧ c ≠ '\'')
    (rest : List Char) : readLiteral (text ++ '\'' :: rest) = some (text, rest) := by
  have hread := reads_flatMap readLiteral (fun c => [c])
    (fun c hc => readLiteral_cons (h c hc).1 (h c hc).2)
    (show readLiteral (['\''] ++ rest) = _ from rfl)
  rwa [List.flatMap_singleton'] at hread

/-! ## Texts over several lines -/

section
variable {t rest : List Char}

/-- A double quote in front of no more than one other belongs to the text. -/
theorem readLongBasic_cons_quote (h : ∀ r, t ≠ '"' :: '"' :: r) :
    readLongBasic false ('"' :: t) = consText '"' (readLongBasic false t) := by
  have hslash : '"' ≠ '\\' := by decide
  rw [readLongBasic, if_neg (by decide), if_pos (by decide)]
  · exact fun _ _ ht => h _ ht
  · exact fun _ _ ht => h _ ht
  · exact fun _ _ ht => h _ ht
  · exact fun _ _ _ _ _ hc => absurd hc hslash
  · exact fun _ _ _ _ _ _ _ _ _ hc => absurd hc hslash
  · exact fun _ _ hc => absurd hc hslash
  · exact fun _ hc => absurd hc (by decide)
  · decide

theorem readLongBasic_escape (c : Char) (r : List Char) :
    readLongBasic false (escape c ++ r) = consText c (readLongBasic false r) := by
  rcases escape_cases c with ⟨e, he, hc⟩ | ⟨hcode, hc⟩ | ⟨hplain, hquote, hslash, hc⟩
  · obtain ⟨hu, hU⟩ := unescape?_ne he
    rw [hc, List.cons_append, List.cons_append, List.nil_append, readLongBasic, he]
    · exact fun _ _ _ _ _ h => absurd h hu
    · exact fun _ _ _ _ _ _ _ _ _ h => absurd h hU
  · obtain ⟨x, y, hxy, hread⟩ := hexChar?_hexEscape hcode
    rw [hc, hxy]
    simp only [List.cons_append, List.nil_append]
    rw [readLongBasic, hread]
    rfl
  · obtain ⟨hescape, hbreak⟩ := isPlain_iff.1 hplain
    have hreturn := ne_return_of_needsEscape hescape
    rw [hc, List.singleton_append, readLongBasic, if_neg (fun h => nomatch h.1), if_pos hplain]
    · exact fun _ h => absurd h hquote
    · exact fun _ h => absurd h hquote
    · exact fun _ h => absurd h hquote
    · exact fun _ _ _ _ _ h => absurd h hslash
    · exact fun _ _ _ _ _ _ _ _ _ h => absurd h hslash
    · exact fun _ _ h => absurd h hslash
    · exact fun _ h => absurd h hreturn
    · exact hbreak

/-- Between three quotes a text starts with a quote that is its own, and not the third in a row. -/
theorem quote_of_head?_escapeLong {run : Nat} {text r : List Char} (hne : text ≠ [])
    (h : (escapeLong run text ++ r).head? = some '"') : text.head? = some '"' ∧ run < 2 := by
  revert h
  fun_cases escapeLong run text with
  | case1 => exact absurd rfl hne
  | case2 text => exact fun h => by cases h
  | case3 text hrun => exact fun _ => ⟨rfl, hrun⟩
  | case4 text hrun => exact fun h => by cases h
  | case5 c text =>
    obtain ⟨d, ds, hc, hquote, _⟩ := exists_cons_escape c
    rw [hc]
    exact fun h => absurd (Option.some.inj h) hquote

/-- After a quote no two more are written as they are. -/
theorem escapeLong_ne_quotes {run : Nat} {text : List Char} (hrun : 0 < run) (hne : text ≠ [])
    (hlast : ¬ (run = 1 ∧ text = ['"'])) (r r' : List Char) :
    escapeLong run text ++ r ≠ '"' :: '"' :: r' := by
  intro h
  obtain ⟨hfirst, hlt⟩ := quote_of_head?_escapeLong hne (congrArg List.head? h)
  obtain rfl : run = 1 := by omega
  obtain ⟨text, rfl⟩ := List.head?_eq_some_iff.1 hfirst
  rw [escapeLong, if_pos hlt, List.cons_append] at h
  have htext : text ≠ [] := fun ht => hlast ⟨rfl, by rw [ht]⟩
  obtain ⟨_, hsecond⟩ := quote_of_head?_escapeLong htext
    (congrArg List.head? (List.cons.inj h).2)
  exact absurd hsecond (by decide)

/-- A text that is escaped between three double quotes is read back. -/
theorem readLongBasic_escapeLong (hrest : rest.head? ≠ some '"') (run : Nat) (text : List Char) :
    readLongBasic false (escapeLong run text ++ '"' :: '"' :: '"' :: rest) = some (text, rest) := by
  have hclose : ∀ r, rest ≠ '"' :: r := fun r hr => hrest (by rw [hr]; rfl)
  fun_induction escapeLong run text with
  | case1 run =>
    rw [List.nil_append, readLongBasic]
    · exact fun _ h => hclose _ h
    · exact fun _ h => hclose _ h
  | case2 run text ih =>
    rw [List.cons_append, readLongBasic, ih]
    rfl
  | case3 run text hrun ih =>
    -- The last one or two quotes of the text are read together with the closing ones.
    by_cases hnil : text = []
    · subst hnil
      rw [escapeLong, List.cons_append, List.nil_append, readLongBasic]
      exact fun _ h => hclose _ h
    · by_cases hlast : run = 0 ∧ text = ['"']
      · obtain ⟨rfl, rfl⟩ := hlast
        rfl
      · rw [List.cons_append, readLongBasic_cons_quote, ih]
        · rfl
        · exact escapeLong_ne_quotes (Nat.succ_pos run) hnil
            (fun h => hlast ⟨Nat.succ.inj h.1, h.2⟩) _
  | case4 run text _ ih =>
    rw [show '\\' :: '"' :: escapeLong 0 text = escape '"' ++ escapeLong 0 text from rfl,
      List.append_assoc, readLongBasic_escape, ih]
    rfl
  | case5 run c text _ _ ih =>
    rw [List.append_assoc, readLongBasic_escape, ih]
    rfl

/-! ### Between single quotes -/

theorem le_longestRun (q : Char) (run : Nat) (text : List Char) : run ≤ longestRun q run text := by
  fun_induction longestRun q run text with
  | case1 => exact Nat.le_refl _
  | case2 run _ ih => omega
  | case3 => exact Nat.le_max_left ..

theorem longestRun_mono (q : Char) {run run' : Nat} (h : run ≤ run') (text : List Char) :
    longestRun q run text ≤ longestRun q run' text := by
  induction text generalizing run run' with
  | nil => exact h
  | cons c text ih =>
    rw [longestRun, longestRun]
    split
    · exact ih (Nat.succ_le_succ h)
    · exact Nat.max_le.2 ⟨Nat.le_trans h (Nat.le_max_left ..), Nat.le_max_right ..⟩

/-- A text has no shorter runs than the end of it. -/
theorem longestRun_tail_le (q c : Char) (run : Nat) (text : List Char) :
    longestRun q 0 text ≤ longestRun q run (c :: text) := by
  rw [longestRun]
  split
  · exact longestRun_mono q (Nat.zero_le _) text
  · exact Nat.le_max_right ..

theorem notMem_of_longestRun_eq_zero {q : Char} {text : List Char} (h : longestRun q 0 text = 0) :
    q ∉ text := by
  induction text with
  | nil => exact List.not_mem_nil
  | cons c text ih =>
    rw [List.mem_cons, not_or]
    constructor
    · rintro rfl
      rw [longestRun, if_pos rfl] at h
      have := le_longestRun q (0 + 1) text
      omega
    · exact ih (Nat.le_zero.1 (Nat.le_trans (longestRun_tail_le q c 0 text) (Nat.le_of_eq h)))

/-- A single quote in front of no more than one other belongs to the text. -/
theorem readLongLiteral_cons_quote (h : ∀ r, t ≠ '\'' :: '\'' :: r) :
    readLongLiteral ('\'' :: t) = consText '\'' (readLongLiteral t) := by
  rw [readLongLiteral, if_pos (by decide)]
  · exact fun _ _ ht => h _ ht
  · exact fun _ _ ht => h _ ht
  · exact fun _ _ ht => h _ ht
  · exact fun _ hc => absurd hc (by decide)
  · decide

theorem readLongLiteral_cons {c : Char} (hplain : needsEscape c = false) (hquote : c ≠ '\'')
    (r : List Char) : readLongLiteral (c :: r) = consText c (readLongLiteral r) := by
  by_cases hbreak : c = '\n'
  · rw [hbreak, readLongLiteral]
  · have hreturn := ne_return_of_needsEscape hplain
    rw [readLongLiteral, if_pos (isPlain_iff.2 ⟨hplain, hbreak⟩)]
    · exact fun _ h => absurd h hquote
    · exact fun _ h => absurd h hquote
    · exact fun _ h => absurd h hquote
    · exact fun _ h => absurd h hreturn
    · exact hbreak

/-- After a single quote no two more follow in such a text. -/
theorem append_ne_quotes {text : List Char} (hrun : longestRun '\'' 0 ('\'' :: text) ≤ 2)
    (hne : text ≠ []) (hlast : text ≠ ['\'']) (r r' : List Char) :
    text ++ r ≠ '\'' :: '\'' :: r' := by
  intro h
  rcases text with _ | ⟨c, _ | ⟨c', text⟩⟩
  · exact hne rfl
  · exact hlast (by rw [(List.cons.inj h).1])
  · obtain ⟨rfl, htail⟩ := List.cons.inj h
    obtain ⟨rfl, _⟩ := List.cons.inj htail
    rw [longestRun, if_pos rfl, longestRun, if_pos rfl, longestRun, if_pos rfl] at hrun
    exact absurd (Nat.le_trans (le_longestRun '\'' (0 + 1 + 1 + 1) text) hrun) (by decide)

/-- A text that needs no escapes and has no three single quotes in a row is read back. -/
theorem readLongLiteral_quotes (hrest : rest.head? ≠ some '\'') {text : List Char}
    (hplain : ∀ c ∈ text, needsEscape c = false) (hrun : longestRun '\'' 0 text ≤ 2) :
    readLongLiteral (text ++ '\'' :: '\'' :: '\'' :: rest) = some (text, rest) := by
  have hclose : ∀ r, rest ≠ '\'' :: r := fun r hr => hrest (by rw [hr]; rfl)
  induction text with
  | nil =>
    rw [List.nil_append, readLongLiteral]
    · exact fun _ h => hclose _ h
    · exact fun _ h => hclose _ h
  | cons c text ih =>
    obtain ⟨hc, htext⟩ := List.forall_mem_cons.1 hplain
    have ih := ih htext (Nat.le_trans (longestRun_tail_le '\'' c 0 text) hrun)
    rw [List.cons_append]
    by_cases hquote : c = '\''
    · subst hquote
      by_cases hnil : text = []
      · subst hnil
        rw [List.nil_append, readLongLiteral]
        exact fun _ h => hclose _ h
      · by_cases hlast : text = ['\'']
        · subst hlast
          rfl
        · rw [readLongLiteral_cons_quote (append_ne_quotes hrun hnil hlast _), ih]
          rfl
    · rw [readLongLiteral_cons hc hquote, ih]
      rfl

end

/-! ## Texts in any form -/

/-- What a text has to be like for a form. -/
def QuoteStyle.Fits (text : List Char) : QuoteStyle → Prop
  | basic | longBasic => True
  | literal => ∀ c ∈ text, isPlain c = true ∧ c ≠ '\''
  | longLiteral => (∀ c ∈ text, needsEscape c = false) ∧ longestRun '\'' 0 text ≤ 2

theorem quoteStyle_fits (text : List Char) : (quoteStyle text).Fits text := by
  have hplain (h : (text.any needsEscape) = false) : ∀ c ∈ text, needsEscape c = false :=
    fun c hc => by simpa using List.any_eq_false.1 h c hc
  unfold quoteStyle
  extract_lets breaks escapes backslash doubles singles
  split
  · trivial
  split
  · next h =>
    simp only [Bool.and_eq_true, Bool.not_eq_true', decide_eq_true_eq] at h
    obtain ⟨⟨hescapes, hsingles⟩, hbreaks⟩ := h
    intro c hc
    refine ⟨isPlain_iff.2 ⟨hplain hescapes c hc, ?_⟩, ?_⟩
    · rintro rfl
      simp [breaks, hc] at hbreaks
    · rintro rfl
      exact notMem_of_longestRun_eq_zero hsingles hc
  split
  · trivial
  split
  · next h =>
    simp only [Bool.and_eq_true, Bool.not_eq_true', decide_eq_true_eq] at h
    exact ⟨hplain h.1, h.2⟩
  split <;> trivial

theorem readQuoted?_basic {s : List Char} (h : ∀ r, s ≠ '"' :: '"' :: r) :
    readQuoted? ('"' :: s) = readBasic s := by
  rw [readQuoted?, readShort?]
  · exact fun r hr => h r (List.cons.inj hr).2
  · nofun

theorem readQuoted?_literal {s : List Char} (h : ∀ r, s ≠ '\'' :: '\'' :: r) :
    readQuoted? ('\'' :: s) = readLiteral s := by
  rw [readQuoted?, readShort?]
  · nofun
  · exact fun r hr => h r (List.cons.inj hr).2

theorem skipFirstBreak_of_head?_ne {s : List Char} (hreturn : s.head? ≠ some '\r')
    (hbreak : s.head? ≠ some '\n') : skipFirstBreak s = s := by
  rw [skipFirstBreak, newline?]
  · rfl
  · exact fun _ hs => hbreak (congrArg List.head? hs)
  · exact fun _ hs => hreturn (congrArg List.head? hs)

/-- The line break after an opening is skipped, and without one nothing is. -/
theorem skipFirstBreak_start {text s : List Char}
    (h : '\n' ∉ text → s.head? ≠ some '\r' ∧ s.head? ≠ some '\n') :
    skipFirstBreak ((if text.contains '\n' then ['\n'] else []) ++ s) = s := by
  by_cases hbreak : '\n' ∈ text
  · rw [if_pos (List.contains_iff_mem.2 hbreak)]
    rfl
  · rw [if_neg (mt List.contains_iff_mem.1 hbreak), List.nil_append]
    exact skipFirstBreak_of_head?_ne (h hbreak).1 (h hbreak).2

theorem readQuoted?_quoteAs {style : QuoteStyle} {text rest : List Char} (h : style.Fits text)
    (hdouble : rest.head? ≠ some '"') (hsingle : rest.head? ≠ some '\'') :
    readQuoted? (quoteAs style text ++ rest) = some (text, rest) := by
  cases style with
  | basic =>
    rw [quoteAs, List.append_assoc, List.cons_append, readQuoted?_basic]
    · exact readBasic_quote text rest
    · intro r hr
      cases text with
      | nil => exact hdouble (congrArg List.head? (List.cons.inj hr).2)
      | cons c text =>
        obtain ⟨d, ds, hc, hquote, _⟩ := exists_cons_escape c
        rw [List.flatMap_cons, hc] at hr
        exact hquote (List.cons.inj hr).1
  | literal =>
    rw [quoteAs, List.append_assoc, List.cons_append, readQuoted?_literal]
    · exact readLiteral_quote h rest
    · intro r hr
      cases text with
      | nil => exact hsingle (congrArg List.head? (List.cons.inj hr).2)
      | cons c text => exact (h c (List.mem_cons_self ..)).2 (List.cons.inj hr).1
  | longBasic =>
    rw [quoteAs]
    simp only [List.append_assoc, List.cons_append, List.nil_append]
    rw [readQuoted?, skipFirstBreak_start]
    · exact readLongBasic_escapeLong hdouble 0 text
    · intro hbreak
      fun_cases escapeLong 0 text with
      | case1 | case3 | case4 => exact ⟨nofun, nofun⟩
      | case2 => exact absurd (List.mem_cons_self ..) hbreak
      | case5 c text =>
        obtain ⟨d, ds, hc, _, hreturn, hbreak⟩ := exists_cons_escape c
        rw [hc]
        exact ⟨fun h => hreturn (Option.some.inj h), fun h => hbreak (Option.some.inj h)⟩
  | longLiteral =>
    rw [quoteAs]
    simp only [List.append_assoc, List.cons_append, List.nil_append]
    rw [readQuoted?, skipFirstBreak_start]
    · exact readLongLiteral_quotes hsingle h.1 h.2
    · intro hbreak
      cases text with
      | nil => exact ⟨nofun, nofun⟩
      | cons c text =>
        have hreturn := ne_return_of_needsEscape (h.1 c (List.mem_cons_self ..))
        exact ⟨fun hc => hreturn (Option.some.inj hc),
          fun hc => hbreak (List.mem_cons.2 (.inl (Option.some.inj hc).symm))⟩

/-- **A quoted text is read back**, whatever follows it other than a quote. -/
theorem readQuoted?_quote {rest : List Char} (hdouble : rest.head? ≠ some '"')
    (hsingle : rest.head? ≠ some '\'') (text : List Char) :
    readQuoted? (quote text ++ rest) = some (text, rest) :=
  readQuoted?_quoteAs (quoteStyle_fits text) hdouble hsingle

end Stencil.Toml
