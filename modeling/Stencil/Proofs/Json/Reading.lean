import Stencil.Json.Parse
import Stencil.Proofs.Json.Layout
import Stencil.Proofs.Text.Digits

/-!
# Reading what was printed

The reader undoes both printers on trees whose numbers are whole (`parse?_pretty` and
`parse?_compact`). Both layouts put nothing but blanks between signs, so this is one theorem about
the common layout (`readValue_layAt`), with what the reader does at each sign and what it makes of
strings and digits before it. A number alone does not say where it ends, so what follows a tree
must not go on with it. The bound on the reader's descent is met by twice the length of the text.
-/

namespace Stencil.Json

/-! ## Blanks -/

/-- A text of blanks only. -/
def Blanks (s : List Char) : Prop := ∀ c ∈ s, isSpace c = true

theorem blanks_nil : Blanks [] := nofun

theorem blanks_breakLine (level : Nat) : Blanks (breakLine level) := by
  intro c hc
  rcases List.mem_cons.1 hc with rfl | hc
  · rfl
  · rw [List.eq_of_mem_replicate hc]
    rfl

theorem skipSpace_cons {c : Char} (hc : isSpace c = false) (rest : List Char) :
    skipSpace (c :: rest) = c :: rest :=
  List.dropWhile_cons_of_neg (by simp [hc])

/-- Blanks in front of a sign are skipped. -/
theorem skipSpace_blanks {ws : List Char} (hws : Blanks ws) {c : Char} (hc : isSpace c = false)
    (rest : List Char) : skipSpace (ws ++ c :: rest) = c :: rest := by
  induction ws with
  | nil => exact skipSpace_cons hc rest
  | cons w ws ih =>
    rw [List.cons_append, skipSpace, List.dropWhile_cons_of_pos (hws w (List.mem_cons_self ..))]
    exact ih fun c hc => hws c (List.mem_cons_of_mem _ hc)

/-! ## Strings -/

theorem hexValue?_hexDigit {n : Nat} (h : n < 16) : hexValue? (hexDigit n) = some n := by
  revert n
  decide

/-- The four digits of an escaped character below U+0020. -/
theorem hexQuad?_of_lt {n : Nat} (h : n < 0x20) :
    hexQuad? '0' '0' (hexDigit (n / 16)) (hexDigit (n % 16)) = some n := by
  have h0 : hexValue? '0' = some 0 := by decide
  rw [hexQuad?, h0, hexValue?_hexDigit (n := n / 16) (by omega),
    hexValue?_hexDigit (n := n % 16) (by omega)]
  show some (0 + n / 16 * 16 + n % 16) = some n
  rw [Nat.zero_add, Nat.div_add_mod']

/-- A character is read back from its escape. -/
theorem readString_escape (seen : List Char) (c : Char) (rest : List Char) :
    readString seen (escape c ++ rest) = readString (c :: seen) rest := by
  unfold escape
  split
  · next h => subst h; rfl
  split
  · next h => subst h; rfl
  split
  · next h => subst h; rfl
  split
  · next h => subst h; rfl
  split
  · next h => subst h; rfl
  split
  · next h => subst h; rfl
  split
  · next h => subst h; rfl
  split
  · next h =>
    show readString seen ('\\' :: 'u' :: '0' :: '0' :: hexDigit (c.toNat / 16) ::
      hexDigit (c.toNat % 16) :: rest) = _
    rw [readString, hexQuad?_of_lt h]
    dsimp only
    rw [if_neg (by omega), if_neg (by omega), Char.ofNat_toNat]
  · next hquote hslash _ _ _ _ _ hlow =>
    rw [List.singleton_append, readString, if_neg hlow]
    · exact hquote
    · intro _ _ _ _ _ h
      exact absurd h hslash
    · intro _ _ h
      exact absurd h hslash

/-- A quoted text is read back up to its closing quote. -/
theorem readString_flatMap (seen cs rest : List Char) :
    readString seen (cs.flatMap escape ++ '"' :: rest) =
      some (String.ofList (seen.reverse ++ cs), rest) := by
  induction cs generalizing seen with
  | nil => rw [List.flatMap_nil, List.nil_append, readString, List.append_nil]
  | cons c cs ih =>
    rw [List.flatMap_cons, List.append_assoc, readString_escape, ih, List.reverse_cons,
      List.append_assoc, List.singleton_append]

/-- A quoted string, its opening quote gone, is read back. -/
theorem readString_quote (s : String) (rest : List Char) :
    readString [] (s.toList.flatMap escape ++ ['"'] ++ rest) = some (s, rest) := by
  rw [List.append_assoc, List.singleton_append, readString_flatMap, List.reverse_nil,
    List.nil_append, String.ofList_toList]

/-! ## Whole numbers -/

/-- Whether a text cannot go on with a number: it starts with no digit, point or exponent. -/
def EndsNumber (rest : List Char) : Prop :=
  ∀ c ∈ rest.head?, isDigit c = false ∧ c ≠ '.' ∧ c ≠ 'e' ∧ c ≠ 'E'

theorem endsNumber_nil : EndsNumber [] := nofun

theorem endsNumber_of_isSpace {c : Char} (h : isSpace c = true) (rest : List Char) :
    EndsNumber (c :: rest) := by
  intro x hx
  cases hx
  simp only [isSpace, Bool.or_eq_true, beq_iff_eq] at h
  rcases h with ((rfl | rfl) | rfl) | rfl <;> decide

theorem isDigit_of_charIsDigit {c : Char} (h : c.isDigit = true) : isDigit c = true := by
  obtain ⟨h0, h9⟩ := isDigit_iff_between.1 h
  rw [isDigit, Bool.and_eq_true, decide_eq_true_eq, decide_eq_true_eq]
  exact ⟨h0, h9⟩

/-- The digits of a number are read up to the first other sign. -/
theorem readDigits_toDigits (n : Nat) {rest : List Char} (hrest : EndsNumber rest) :
    readDigits (Nat.toDigits 10 n ++ rest) = some (Nat.toDigits 10 n, rest) := by
  have hall : ∀ c ∈ Nat.toDigits 10 n, isDigit c = true := fun c hc =>
    isDigit_of_charIsDigit (isDigit_of_mem_toDigits hc)
  have hnone : rest.takeWhile isDigit = [] ∧ rest.dropWhile isDigit = rest := by
    cases rest with
    | nil => exact ⟨rfl, rfl⟩
    | cons c rest =>
      have hc : ¬ isDigit c = true := by
        rw [(hrest c rfl).1]
        exact Bool.false_ne_true
      exact ⟨List.takeWhile_cons_of_neg hc, List.dropWhile_cons_of_neg hc⟩
  rw [readDigits, List.takeWhile_append_of_pos hall, List.dropWhile_append_of_pos hall, hnone.1,
    hnone.2, List.append_nil]
  obtain ⟨c, ds, hd, _⟩ := exists_cons_toDigits n
  rw [hd]

/-- A whole number is read back. -/
theorem readNumber_toDigits (n : Nat) {rest : List Char} (hrest : EndsNumber rest) :
    readNumber (Nat.toDigits 10 n ++ rest) = some (Nat.toDigits 10 n, rest) := by
  have hwhole : readWhole (Nat.toDigits 10 n ++ rest) = some (Nat.toDigits 10 n, rest) := by
    rw [readWhole, readDigits_toDigits n hrest]
    exact if_neg (toDigits_no_leading_zero n)
  have hfraction : readFraction rest = some ([], rest) := by
    cases rest with
    | nil => rfl
    | cons c rest =>
      rw [readFraction]
      intro s h
      cases h
      exact (hrest '.' rfl).2.1 rfl
  have hexponent : readExponent rest = some ([], rest) := by
    cases rest with
    | nil => rfl
    | cons c rest =>
      obtain ⟨_, _, he, hE⟩ := hrest c rfl
      rw [readExponent.eq_def]
      exact if_neg (not_or.2 ⟨he, hE⟩)
  obtain ⟨c, ds, hd, hc⟩ := exists_cons_toDigits n
  rw [hd, List.cons_append] at hwhole
  rw [hd, List.cons_append, readNumber]
  · rw [hwhole]
    dsimp only [Option.bind_eq_bind, Option.bind_some]
    rw [hfraction]
    dsimp only [Option.bind_eq_bind, Option.bind_some]
    rw [hexponent]
    show some ([] ++ (c :: ds) ++ [] ++ [], rest) = _
    rw [List.nil_append, List.append_nil, List.append_nil]
  · -- The digits come without a sign.
    intro s h
    cases h
    cases hc

/-! ## What the first sign of a text starts -/

section
variable {n : Nat} {s r : List Char}

theorem readValue_string (h : skipSpace s = '"' :: r) :
    readValue (n + 1) s = (readString [] r).map fun (s, r) => (.string s, r) := by
  rw [readValue, h]
  rfl

theorem readValue_array {c : Char} {t : List Char} (h : skipSpace s = '[' :: r)
    (hr : skipSpace r = c :: t) (hc : c ≠ ']') :
    readValue (n + 1) s = (readItems n (c :: t)).map fun (xs, r) => (.array xs, r) := by
  simp only [readValue, h, hr]
  split
  · next heq => cases heq; exact absurd rfl hc
  · rfl

theorem readValue_object {c : Char} {t : List Char} (h : skipSpace s = '\x7b' :: r)
    (hr : skipSpace r = c :: t) (hc : c ≠ '\x7d') :
    readValue (n + 1) s = (readMembers n (c :: t)).map fun (ms, r) => (.object ms, r) := by
  simp only [readValue, h, hr]
  split
  · next heq => cases heq; exact absurd rfl hc
  · rfl

theorem readValue_number {c : Char} (h : skipSpace s = c :: r) (hc : isDigit c = true) :
    readValue (n + 1) s =
      (readNumber (c :: r)).map fun (literal, r) => (.number (String.ofList literal), r) := by
  rw [readValue, h]
  split
  all_goals first | rfl | next heq => cases heq; cases hc

theorem readItems_comma {x : Json} {r' : List Char} (h : readValue n s = some (x, r))
    (hr : skipSpace r = ',' :: r') :
    readItems (n + 1) s = (readItems n r').map fun (xs, r) => (x :: xs, r) := by
  rw [readItems, h]
  dsimp only
  rw [hr]
  rfl

theorem readItems_close {x : Json} {r' : List Char} (h : readValue n s = some (x, r))
    (hr : skipSpace r = ']' :: r') : readItems (n + 1) s = some ([x], r') := by
  rw [readItems, h]
  dsimp only
  rw [hr]
  rfl

/-- A member is its key, a colon and its value; another one may follow. -/
theorem readMembers_comma {ws : List Char} (hws : Blanks ws) {k : String} {v : Json}
    {r' r'' : List Char} (h : readValue n r = some (v, r')) (hr : skipSpace r' = ',' :: r'') :
    readMembers (n + 1) (ws ++ (quote k ++ (':' :: r))) =
      (readMembers n r'').map fun (ms, r) => ((k, v) :: ms, r) := by
  have hcolon : skipSpace (':' :: r) = ':' :: r := skipSpace_cons (by decide) r
  rw [readMembers, quote, List.cons_append, skipSpace_blanks hws (by decide)]
  simp only [readString_quote, hcolon, h, hr]

/-- Or the object ends. -/
theorem readMembers_close {ws : List Char} (hws : Blanks ws) {k : String} {v : Json}
    {r' r'' : List Char} (h : readValue n r = some (v, r')) (hr : skipSpace r' = '\x7d' :: r'') :
    readMembers (n + 1) (ws ++ (quote k ++ (':' :: r))) = some ([(k, v)], r'') := by
  have hcolon : skipSpace (':' :: r) = ':' :: r := skipSpace_cons (by decide) r
  rw [readMembers, quote, List.cons_append, skipSpace_blanks hws (by decide)]
  simp only [readString_quote, hcolon, h, hr]

end

/-! ## Reading a layout -/

/-- What a layout puts between signs is blank. -/
structure Spaced (line : Nat → List Char) (gap : List Char) : Prop where
  line : ∀ level, Blanks (line level)
  gap : Blanks gap

section
variable {line : Nat → List Char} {gap : List Char}

theorem isSpace_of_isDigit {c : Char} (h : isDigit c = true) : isSpace c = false := by
  cases hs : isSpace c with
  | false => rfl
  | true =>
    have := (endsNumber_of_isSpace hs [] c rfl).1
    rw [h] at this
    cases this

/-- A tree starts with a sign that is neither a blank nor a closing one. -/
theorem layAt_head (line : Nat → List Char) (gap : List Char) (level : Nat) {j : Json}
    (hj : j.Whole) :
    ∃ c t, layAt line gap level j = c :: t ∧ isSpace c = false ∧ c ≠ ']' := by
  cases j with
  | null => exact ⟨_, _, rfl, rfl, by decide⟩
  | bool b => cases b <;> exact ⟨_, _, rfl, rfl, by decide⟩
  | number literal =>
    obtain ⟨n, rfl⟩ := hj
    rw [layAt, Nat.toString_eq_repr, Nat.toList_repr]
    obtain ⟨c, ds, hd, hc⟩ := exists_cons_toDigits n
    refine ⟨c, ds, hd, isSpace_of_isDigit (isDigit_of_charIsDigit hc), ?_⟩
    rintro rfl
    cases hc
  | string s => exact ⟨_, _, rfl, rfl, by decide⟩
  | array items => cases items <;> exact ⟨_, _, rfl, rfl, by decide⟩
  | object members => cases members <;> exact ⟨_, _, rfl, rfl, by decide⟩

theorem length_layItems_pos (line : Nat → List Char) (gap : List Char) (level : Nat)
    (xs : List Json) : 0 < (layItems line gap level xs).length := by
  cases xs <;> simp [layItems]

theorem length_layMembers_pos (line : Nat → List Char) (gap : List Char) (level : Nat)
    (ms : List (String × Json)) : 0 < (layMembers line gap level ms).length := by
  cases ms <;> simp [layMembers]

/-- A number ends before blanks, and before a sign that cannot go on with it. -/
theorem endsNumber_blanks {ws : List Char} (hws : Blanks ws) {rest : List Char}
    (hrest : EndsNumber rest) : EndsNumber (ws ++ rest) := by
  cases ws with
  | nil => exact hrest
  | cons w ws => exact endsNumber_of_isSpace (hws w (List.mem_cons_self ..)) _

theorem endsNumber_cons {c : Char} (h : isDigit c = false ∧ c ≠ '.' ∧ c ≠ 'e' ∧ c ≠ 'E')
    (rest : List Char) : EndsNumber (c :: rest) := by
  intro x hx
  cases hx
  exact h

variable (h : Spaced line gap)
include h

theorem endsNumber_layItems (level : Nat) (xs : List Json) (rest : List Char) :
    EndsNumber (layItems line gap level xs ++ rest) := by
  cases xs with
  | nil =>
    rw [layItems, List.append_assoc]
    exact endsNumber_blanks (h.line level) (endsNumber_cons (by decide) rest)
  | cons x xs => exact endsNumber_cons (by decide) _

theorem endsNumber_layMembers (level : Nat) (ms : List (String × Json)) (rest : List Char) :
    EndsNumber (layMembers line gap level ms ++ rest) := by
  cases ms with
  | nil =>
    rw [layMembers, List.append_assoc]
    exact endsNumber_blanks (h.line level) (endsNumber_cons (by decide) rest)
  | cons m ms => exact endsNumber_cons (by decide) _

mutual

/-- **A tree is read back from its text**, whatever follows it that does not go on with a number. -/
theorem readValue_layAt : (j : Json) → j.Whole → ∀ (level : Nat) {n : Nat} {ws rest : List Char},
    Blanks ws → EndsNumber rest → 2 * (layAt line gap level j).length ≤ n + 1 →
      readValue n (ws ++ (layAt line gap level j ++ rest)) = some (j, rest)
  | j, hj, level, 0, ws, rest, _, _, hn => by
    obtain ⟨c, t, hc, _⟩ := layAt_head line gap level hj
    rw [hc, List.length_cons] at hn
    omega
  | .null, _, level, n + 1, ws, rest, hws, _, _ => by
    rw [readValue, layAt, nullText, List.cons_append, skipSpace_blanks hws (by decide)]
    rfl
  | .bool true, _, level, n + 1, ws, rest, hws, _, _ => by
    rw [readValue, layAt, boolText, if_pos rfl, List.cons_append,
      skipSpace_blanks hws (by decide)]
    rfl
  | .bool false, _, level, n + 1, ws, rest, hws, _, _ => by
    rw [readValue, layAt, boolText, if_neg Bool.false_ne_true, List.cons_append,
      skipSpace_blanks hws (by decide)]
    rfl
  | .number literal, hj, level, n + 1, ws, rest, hws, hrest, _ => by
    obtain ⟨m, rfl⟩ := hj
    have hread := readNumber_toDigits m hrest
    rw [layAt, Nat.toString_eq_repr, Nat.toList_repr]
    obtain ⟨c, ds, hd, hc⟩ := exists_cons_toDigits m
    have hdigit := isDigit_of_charIsDigit hc
    rw [hd, List.cons_append] at hread
    rw [hd, List.cons_append,
      readValue_number (skipSpace_blanks hws (isSpace_of_isDigit hdigit) _) hdigit, hread, ← hd]
    show some (Json.number (String.ofList (Nat.toDigits 10 m)), rest) = _
    rw [← Nat.toList_repr, String.ofList_toList]
  | .string s, _, level, n + 1, ws, rest, hws, _, _ => by
    rw [layAt, quote, List.cons_append,
      readValue_string (skipSpace_blanks hws (by decide) _), readString_quote]
    rfl
  | .array [], _, level, n + 1, ws, rest, hws, _, _ => by
    rw [readValue, layAt, List.cons_append, skipSpace_blanks hws (by decide)]
    rfl
  | .array (x :: xs), hj, level, n + 1, ws, rest, hws, _, hn => by
    obtain ⟨hx, hxs⟩ := hj
    obtain ⟨c, t, hc, hspace, hclose⟩ := layAt_head line gap (level + 1) hx
    have hpos := length_layItems_pos line gap level xs
    rw [layAt, List.length_cons, List.length_append, List.length_append] at hn
    obtain ⟨m, rfl⟩ : ∃ m, n = m + 1 := ⟨n - 1, by omega⟩
    have hfirst := readValue_layAt x hx (level + 1) (n := m) blanks_nil
      (endsNumber_layItems h level xs rest) (by omega)
    have hitems := readItems_layItems xs hxs hfirst (by omega)
    rw [hc, List.nil_append, List.cons_append] at hitems
    rw [layAt, List.cons_append, List.append_assoc, List.append_assoc, hc, List.cons_append,
      readValue_array (skipSpace_blanks hws (by decide) _)
        (skipSpace_blanks (h.line (level + 1)) hspace _) hclose, hitems]
    rfl
  | .object [], _, level, n + 1, ws, rest, hws, _, _ => by
    rw [readValue, layAt, List.cons_append, skipSpace_blanks hws (by decide)]
    rfl
  | .object ((k, v) :: ms), hj, level, n + 1, ws, rest, hws, _, hn => by
    obtain ⟨hv, hms⟩ := hj
    have hpos := length_layMembers_pos line gap level ms
    simp only [layAt, List.length_cons, List.length_append] at hn
    obtain ⟨m, rfl⟩ : ∃ m, n = m + 1 := ⟨n - 1, by omega⟩
    have hfirst := readValue_layAt v hv (level + 1) (n := m) h.gap
      (endsNumber_layMembers h level ms rest) (by omega)
    have hmembers := readMembers_layMembers ms hms (k := k) blanks_nil hfirst (by omega)
    rw [layAt]
    simp only [List.cons_append, List.append_assoc]
    rw [quote, List.cons_append] at hmembers ⊢
    rw [readValue_object (skipSpace_blanks hws (by decide) _)
      (skipSpace_blanks (h.line (level + 1)) (by decide) _) (by decide)]
    rw [List.nil_append] at hmembers
    rw [hmembers]
    rfl

/-- The items after one that has been read. -/
theorem readItems_layItems : (xs : List Json) → WholeItems xs →
    ∀ {level n : Nat} {s rest : List Char} {x : Json},
      readValue n s = some (x, layItems line gap level xs ++ rest) →
      2 * (layItems line gap level xs).length ≤ n + 1 →
        readItems (n + 1) s = some (x :: xs, rest)
  | [], _, level, n, s, rest, x, hx, _ => by
    rw [layItems, List.append_assoc] at hx
    exact readItems_close hx (skipSpace_blanks (h.line level) (by decide) rest)
  | y :: ys, hys, level, n, s, rest, x, hx, hn => by
    obtain ⟨hy, hys⟩ := hys
    have hpos := length_layItems_pos line gap level ys
    simp only [layItems, List.length_cons, List.length_append] at hn
    obtain ⟨m, rfl⟩ : ∃ m, n = m + 1 := ⟨n - 1, by omega⟩
    have hfirst := readValue_layAt y hy (level + 1) (n := m) (h.line (level + 1))
      (endsNumber_layItems h level ys rest) (by omega)
    have hitems := readItems_layItems ys hys hfirst (by omega)
    rw [layItems, List.cons_append, List.append_assoc, List.append_assoc] at hx
    rw [readItems_comma hx (skipSpace_cons (by decide) _), hitems]
    rfl

/-- The members after one whose value has been read. -/
theorem readMembers_layMembers : (ms : List (String × Json)) → WholeMembers ms →
    ∀ {level n : Nat} {ws r rest : List Char} {k : String} {v : Json}, Blanks ws →
      readValue n r = some (v, layMembers line gap level ms ++ rest) →
      2 * (layMembers line gap level ms).length ≤ n + 1 →
        readMembers (n + 1) (ws ++ (quote k ++ (':' :: r))) = some ((k, v) :: ms, rest)
  | [], _, level, n, ws, r, rest, k, v, hws, hv, _ => by
    rw [layMembers, List.append_assoc] at hv
    exact readMembers_close hws hv (skipSpace_blanks (h.line level) (by decide) rest)
  | (l, w) :: ms, hms, level, n, ws, r, rest, k, v, hws, hv, hn => by
    obtain ⟨hw, hms⟩ := hms
    have hpos := length_layMembers_pos line gap level ms
    simp only [layMembers, List.length_cons, List.length_append] at hn
    obtain ⟨m, rfl⟩ : ∃ m, n = m + 1 := ⟨n - 1, by omega⟩
    have hfirst := readValue_layAt w hw (level + 1) (n := m) h.gap
      (endsNumber_layMembers h level ms rest) (by omega)
    have hmembers := readMembers_layMembers ms hms (k := l) (h.line (level + 1)) hfirst (by omega)
    rw [layMembers] at hv
    simp only [List.cons_append, List.append_assoc] at hv
    rw [readMembers_comma hws hv (skipSpace_cons (by decide) _), hmembers]
    rfl

end

end

/-- What is laid out is read back. -/
theorem parse?_layAt {line : Nat → List Char} {gap : List Char} (h : Spaced line gap) {j : Json}
    (hj : j.Whole) : parse? (layAt line gap 0 j) = some j := by
  have hread := readValue_layAt h j hj 0
    (n := 2 * (layAt line gap 0 j).length + 1) blanks_nil endsNumber_nil (by omega)
  rw [List.nil_append, List.append_nil] at hread
  rw [parse?, hread]
  rfl

/-- A laid out text is read as the tree it was printed from. -/
theorem parse?_pretty {j : Json} (hj : j.Whole) : parse? j.pretty = some j := by
  have hgap : Blanks [' '] := by
    intro c hc
    cases List.mem_singleton.1 hc
    rfl
  rw [pretty, prettyAt_eq_layAt]
  exact parse?_layAt ⟨blanks_breakLine, hgap⟩ hj

/-- So is a compact text. -/
theorem parse?_compact {j : Json} (hj : j.Whole) : parse? j.compact = some j := by
  rw [compact_eq_layAt 0]
  exact parse?_layAt ⟨fun _ => blanks_nil, blanks_nil⟩ hj

end Stencil.Json
