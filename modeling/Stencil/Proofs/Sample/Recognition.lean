import Mathlib.Data.List.TakeWhile
import Mathlib.Order.Lattice.Nat
import Stencil.Proofs.Sample.Scanning

/-!
# What an annotation is

The grammar of annotations without the scan. `Annotation.Spells` lists what may stand between two
braces, and `Encloses` says that a range of a text starts at an opening brace and ends after a
closing one. No annotation has a brace inside, so a text's annotations do not overlap and the scan,
which pairs each opening brace with the next closing one, finds them all and no other
(`mem_found_iff`). It gives up at the first opening brace after the last closing one
(`unterminated_eq_some_iff`). Both are read off the text sign by sign: `opensAt_cons` says what one
more sign in front of a text adds, and `opensAt_skip` that an annotation in front adds nothing.
-/

namespace Stencil

open Text (byteLength)

/-! ## The grammar -/

namespace Annotation

/-- A name is made of one or more dots and word characters. -/
def IsName (name : List Char) : Prop :=
  name ≠ [] ∧ ∀ c ∈ name, c = '.' ∨ Text.isWord c = true

/-- What stands between the braces of an annotation, and what it says. -/
inductive Spells : List Char → TokenKind → Option String → Prop where
  | listEnd : Spells [':', ':'] .listEnd none
  | listStart {name : List Char} (h : IsName name) :
    Spells (':' :: ':' :: name) .listStart (some (String.ofList name))
  | objectEnd : Spells [':'] .objectEnd none
  | objectStart {name : List Char} (h : IsName name) :
    Spells (':' :: name) .objectStart (some (String.ofList name))
  | value {name : List Char} (h : IsName name) :
    Spells ('$' :: name) .value (some (String.ofList name))

theorem isNameChar_iff {c : Char} :
    Text.isNameChar c = true ↔ c = '.' ∨ Text.isWord c = true := by
  rw [Text.isNameChar, Bool.or_eq_true, beq_iff_eq]

/-- A name in the sense of the grammar is one that the reader takes. -/
theorem named_eq_some_iff {kind : TokenKind} {name : List Char} {r : TokenKind × Option String} :
    named kind name = some r ↔
      (∀ c ∈ name, c = '.' ∨ Text.isWord c = true) ∧ r = (kind, some (String.ofList name)) := by
  have hall : name.all Text.isNameChar = true ↔ ∀ c ∈ name, c = '.' ∨ Text.isWord c = true := by
    rw [List.all_eq_true]
    exact forall₂_congr fun c _ => isNameChar_iff
  rw [named, ← hall]
  split
  · next h => exact ⟨fun hr => ⟨h, (Option.some.inj hr).symm⟩, fun hr => congrArg some hr.2.symm⟩
  · next h => exact ⟨fun hr => (by cases hr), fun hr => absurd hr.1 h⟩

/-- The colon is no name character, so a text that starts with one is not the name of another. -/
theorem IsName.head_ne_colon {c : Char} {name : List Char} (h : IsName (c :: name)) : c ≠ ':' := by
  rintro rfl
  rcases h.2 _ (List.mem_cons_self ..) with h | h
  · exact absurd h (by decide)
  · exact absurd h (by decide)

/-- **The reader of annotations follows the grammar.** -/
theorem classify_eq_some_iff {inner : List Char} {kind : TokenKind} {name : Option String} :
    classify inner = some (kind, name) ↔ Spells inner kind name := by
  constructor
  · intro h
    unfold classify at h
    split at h
    · cases h
      exact .listEnd
    · next name' hne =>
      obtain ⟨hall, hr⟩ := named_eq_some_iff.1 h
      cases hr
      exact .listStart ⟨hne, hall⟩
    · cases h
      exact .objectEnd
    · next name' _ _ hne =>
      obtain ⟨hall, hr⟩ := named_eq_some_iff.1 h
      cases hr
      exact .objectStart ⟨hne, hall⟩
    · cases h
    · next name' hne =>
      obtain ⟨hall, hr⟩ := named_eq_some_iff.1 h
      cases hr
      exact .value ⟨hne, hall⟩
    · cases h
  · intro h
    cases h with
    | listEnd => rfl
    | objectEnd => rfl
    | @listStart name h =>
      obtain ⟨c, name, rfl⟩ := List.exists_cons_of_ne_nil h.1
      exact named_eq_some_iff.2 ⟨h.2, rfl⟩
    | @objectStart name h =>
      obtain ⟨c, name, rfl⟩ := List.exists_cons_of_ne_nil h.1
      have hc := h.head_ne_colon
      rw [classify]
      · exact named_eq_some_iff.2 ⟨h.2, rfl⟩
      · exact fun heq => hc (List.cons.inj heq).1
      · exact fun _ heq => hc (List.cons.inj heq).1
      · exact nofun
    | @value name h =>
      obtain ⟨c, name, rfl⟩ := List.exists_cons_of_ne_nil h.1
      exact named_eq_some_iff.2 ⟨h.2, rfl⟩

/-- What may stand inside an annotation: colons, dollar signs and what names are made of. -/
def isSign (c : Char) : Bool := c == ':' || c == '$' || Text.isNameChar c

theorem Spells.isSign_of_mem {inner : List Char} {kind : TokenKind} {name : Option String}
    (h : Spells inner kind name) : ∀ c ∈ inner, isSign c = true := by
  have hname {name : List Char} (h : IsName name) : ∀ c ∈ name, isSign c = true := by
    intro c hc
    rw [isSign, isNameChar_iff.2 (h.2 c hc), Bool.or_true]
  cases h with
  | listEnd => exact List.forall_mem_cons.2 ⟨rfl, List.forall_mem_singleton.2 rfl⟩
  | objectEnd => exact List.forall_mem_singleton.2 rfl
  | listStart h => exact List.forall_mem_cons.2 ⟨rfl, List.forall_mem_cons.2 ⟨rfl, hname h⟩⟩
  | objectStart h | value h => exact List.forall_mem_cons.2 ⟨rfl, hname h⟩

/-- There is no brace inside an annotation. -/
theorem Spells.ne_brace {inner : List Char} {kind : TokenKind} {name : Option String}
    (h : Spells inner kind name) : ∀ c ∈ inner, c ≠ '\x7b' ∧ c ≠ '\x7d' := by
  intro c hc
  have hsign := h.isSign_of_mem c hc
  refine ⟨?_, ?_⟩
  all_goals
    rintro rfl
    exact absurd hsign (by decide)

end Annotation

open Annotation (Spells classify_eq_some_iff)

/-! ## Braces in a text -/

/-- An opening brace stands at a place of a text that starts at an offset, and `back` is what comes
after it. -/
def OpensAt (offset : Nat) (s : List Char) (place : Nat) (back : List Char) : Prop :=
  ∃ front, s = front ++ '\x7b' :: back ∧ place = offset + byteLength front

/-- A range starts at an opening brace and ends just after a closing one, and `inner` is what stands
between them. -/
def Encloses (offset : Nat) (s inner : List Char) (span : Span) : Prop :=
  ∃ back, OpensAt offset s span.start (inner ++ '\x7d' :: back) ∧
    span.stop = span.start + byteLength inner + 2

/-- An opening brace stands at a place, and no closing brace anywhere after it. -/
def DanglesAt (offset : Nat) (s : List Char) (place : Nat) : Prop :=
  ∃ back, OpensAt offset s place back ∧ '\x7d' ∉ back

/-- An annotation stands in a text that starts at an offset: its range encloses what it says. -/
def Annotation.StandsIn (offset : Nat) (s : List Char) (a : Annotation) : Prop :=
  ∃ inner, Encloses offset s inner a.span ∧ Spells inner a.kind a.name

section
variable {offset place : Nat} {c : Char} {s front back : List Char}

/-- With one more sign in front of a text, an opening brace is that sign or stands further on. -/
theorem opensAt_cons :
    OpensAt offset (c :: s) place back ↔
      (c = '\x7b' ∧ s = back ∧ place = offset) ∨ OpensAt (offset + c.utf8Size) s place back := by
  constructor
  · rintro ⟨front, hs, hplace⟩
    cases front with
    | nil =>
      obtain ⟨rfl, rfl⟩ := List.cons.inj hs
      exact .inl ⟨rfl, rfl, hplace⟩
    | cons x front =>
      obtain ⟨rfl, rfl⟩ := List.cons.inj hs
      rw [Text.byteLength_cons, ← Nat.add_assoc] at hplace
      exact .inr ⟨front, rfl, hplace⟩
  · rintro (⟨rfl, rfl, rfl⟩ | ⟨front, rfl, hplace⟩)
    · exact ⟨[], rfl, rfl⟩
    · rw [Nat.add_assoc, ← Text.byteLength_cons] at hplace
      exact ⟨c :: front, rfl, hplace⟩

/-- A part without opening braces is passed over. -/
theorem opensAt_append (hfront : '\x7b' ∉ front) :
    OpensAt offset (front ++ s) place back ↔
      OpensAt (offset + byteLength front) s place back := by
  induction front generalizing offset with
  | nil => rfl
  | cons c front ih =>
    have hc : ¬ c = '\x7b' := fun h => hfront (h ▸ List.mem_cons_self ..)
    rw [List.cons_append, opensAt_cons, ih fun h => hfront (List.mem_cons_of_mem _ h),
      Text.byteLength_cons, ← Nat.add_assoc, or_iff_right fun h => hc h.1]

/-- No opening brace stands inside an annotation. -/
theorem opensAt_skip {inner : List Char} {kind : TokenKind} {name : Option String}
    (h : Spells inner kind name) :
    OpensAt (offset + 1) (inner ++ '\x7d' :: s) place back ↔
      OpensAt (offset + byteLength inner + 2) s place back := by
  have hfront : '\x7b' ∉ inner ++ ['\x7d'] := by
    rw [List.mem_append]
    exact not_or.2 ⟨fun hmem => (h.ne_brace _ hmem).1 rfl, by decide⟩
  have hlength : offset + 1 + byteLength (inner ++ ['\x7d']) = offset + byteLength inner + 2 := by
    rw [Text.byteLength_append, Text.byteLength_cons, show '\x7d'.utf8Size = 1 from rfl,
      Text.byteLength_nil]
    omega
  rw [List.append_cons, opensAt_append hfront, hlength]

/-- With one more sign in front of a text, an annotation starts at that sign or further on. -/
theorem Annotation.standsIn_cons {a : Annotation} :
    a.StandsIn offset (c :: s) ↔
      (c = '\x7b' ∧ ∃ inner back, s = inner ++ '\x7d' :: back ∧
        a.span = ⟨offset, offset + byteLength inner + 2⟩ ∧ Spells inner a.kind a.name) ∨
      a.StandsIn (offset + c.utf8Size) s := by
  obtain ⟨⟨start, stop⟩, kind, name⟩ := a
  simp only [StandsIn, Encloses, opensAt_cons]
  constructor
  · rintro ⟨inner, ⟨back, ⟨hc, hs, rfl⟩ | hopens, rfl⟩, hspells⟩
    · exact .inl ⟨hc, inner, back, hs, rfl, hspells⟩
    · exact .inr ⟨inner, ⟨back, hopens, rfl⟩, hspells⟩
  · rintro (⟨hc, inner, back, hs, hspan, hspells⟩ | ⟨inner, ⟨back, hopens, rfl⟩, hspells⟩)
    · cases hspan
      exact ⟨inner, ⟨back, .inl ⟨hc, hs, rfl⟩, rfl⟩, hspells⟩
    · exact ⟨inner, ⟨back, .inr hopens, rfl⟩, hspells⟩

/-- Where nothing is closed no annotation stands. -/
theorem Annotation.StandsIn.brace_mem {a : Annotation} (h : a.StandsIn offset s) : '\x7d' ∈ s := by
  obtain ⟨inner, ⟨back, ⟨front, rfl, _⟩, _⟩, _⟩ := h
  simp

end

/-! ## The scan -/

open Annotation (StandsIn standsIn_cons)

namespace Scan

section
variable {s rest : List Char}

/-- The signs before the next closing brace. -/
def beforeBrace (s : List Char) : List Char := s.takeWhile (· ≠ '\x7d')

/-- They are what stands before the first closing brace of the text, however it was found. -/
theorem beforeBrace_append {inner : List Char} (h : '\x7d' ∉ inner) :
    beforeBrace (inner ++ '\x7d' :: rest) = inner := by
  rw [beforeBrace, List.takeWhile_append_of_pos, List.takeWhile_cons_of_neg (by simp),
    List.append_nil]
  intro c hc
  rw [decide_eq_true_eq]
  rintro rfl
  exact h hc

/-- A text with a closing brace is cut at its first one. -/
theorem eq_beforeBrace_append {c : Char} (h : s.dropWhile (· ≠ '\x7d') = c :: rest) :
    s = beforeBrace s ++ '\x7d' :: rest := by
  have hc : c = '\x7d' := by
    have hhead := List.head?_dropWhile_not (fun x => decide (x ≠ '\x7d')) s
    rw [h] at hhead
    simpa using hhead
  rw [← hc, ← h, beforeBrace, List.takeWhile_append_dropWhile]

theorem brace_notMem_of_dropWhile (h : s.dropWhile (· ≠ '\x7d') = []) : '\x7d' ∉ s := by
  intro hmem
  simpa using List.dropWhile_eq_nil_iff.1 h _ hmem

end

/-- The annotation that starts at an opening brace, if there is one, ends at the next closing
brace. -/
theorem standsIn_brace {offset : Nat} {inner rest : List Char} {a : Annotation}
    (hinner : '\x7d' ∉ inner) :
    a.StandsIn offset ('\x7b' :: (inner ++ '\x7d' :: rest)) ↔
      (a.span = ⟨offset, offset + byteLength inner + 2⟩ ∧ Spells inner a.kind a.name) ∨
      a.StandsIn (offset + 1) (inner ++ '\x7d' :: rest) := by
  rw [standsIn_cons]
  refine or_congr ⟨?_, fun h => ⟨rfl, inner, rest, rfl, h⟩⟩ Iff.rfl
  rintro ⟨_, inner', back, heq, hspan, hspells⟩
  have hsame : inner' = inner := by
    have hinner' : '\x7d' ∉ inner' := fun h => (hspells.ne_brace _ h).2 rfl
    rw [← beforeBrace_append hinner', ← heq, beforeBrace_append hinner]
  subst hsame
  exact ⟨hspan, hspells⟩

/-- An opening brace is not left open if a closing one comes after it. -/
theorem danglesAt_brace {offset place : Nat} {s inner rest : List Char}
    (h : s = inner ++ '\x7d' :: rest) :
    DanglesAt offset ('\x7b' :: s) place ↔ DanglesAt (offset + 1) s place := by
  refine exists_congr fun back => and_congr_left fun hback => ?_
  rw [opensAt_cons, or_iff_right]
  · exact Iff.rfl
  · rintro ⟨_, rfl, _⟩
    exact hback (by simp [h])

/-- **A scan finds the annotations of a text and nothing else.** The cases are those of the scan. -/
theorem mem_found_iff {offset : Nat} {s : List Char} {a : Annotation} :
    a ∈ (scanFrom offset s).found ↔ a.StandsIn offset s := by
  fun_induction scanFrom offset s with
  | case1 offset =>
    refine ⟨fun h => (by cases h), fun h => ?_⟩
    cases h.brace_mem
  | case2 offset r hd =>
    refine ⟨fun h => (by cases h), fun h => ?_⟩
    rcases List.mem_cons.1 h.brace_mem with h | h
    · exact absurd h (by decide)
    · exact absurd h (brace_notMem_of_dropWhile hd)
  | case3 offset r c rest hd inner kind name hclass stop ih =>
    have hcut : r = inner ++ '\x7d' :: rest := eq_beforeBrace_append hd
    have hspells := classify_eq_some_iff.1 hclass
    have hrest : a.StandsIn (offset + 1) (inner ++ '\x7d' :: rest) ↔ a.StandsIn stop rest := by
      simp only [StandsIn, Encloses, opensAt_skip hspells]
      exact Iff.rfl
    rw [cons, List.mem_cons, ih, hcut,
      standsIn_brace fun h => (hspells.ne_brace _ h).2 rfl, hrest]
    refine or_congr ⟨?_, ?_⟩ Iff.rfl
    · rintro rfl
      exact ⟨rfl, hspells⟩
    · rintro ⟨hspan, ha⟩
      have := hclass.symm.trans (classify_eq_some_iff.2 ha)
      obtain ⟨span, kind', name'⟩ := a
      cases this
      cases hspan
      rfl
  | case4 offset r c rest hd inner hclass ih =>
    rw [ih]
    have hcut : r = inner ++ '\x7d' :: rest := eq_beforeBrace_append hd
    have hinner : '\x7d' ∉ inner := fun h => by simpa using List.mem_takeWhile_imp h
    rw [hcut, standsIn_brace hinner, or_iff_right]
    rintro ⟨_, hspells⟩
    rw [classify_eq_some_iff.2 hspells] at hclass
    cases hclass
  | case5 offset c r hc ih =>
    rw [ih, standsIn_cons, or_iff_right fun h => hc h.1]

/-- **A scan gives up at the first brace that is left open.** -/
theorem unterminated_eq_some_iff {offset : Nat} {s : List Char} {place : Nat} :
    (scanFrom offset s).unterminated = some place ↔
      IsLeast {o | DanglesAt offset s o} place := by
  fun_induction scanFrom offset s with
  | case1 offset =>
    refine ⟨fun h => (by cases h), fun h => ?_⟩
    obtain ⟨_, ⟨front, hs, _⟩, _⟩ := h.1
    exact absurd hs (by simp)
  | case2 offset r hd =>
    have hleast : IsLeast {o | DanglesAt offset ('\x7b' :: r) o} offset := by
      refine ⟨⟨r, ⟨[], rfl, rfl⟩, brace_notMem_of_dropWhile hd⟩, ?_⟩
      rintro o ⟨_, ⟨front, _, rfl⟩, _⟩
      exact Nat.le_add_right ..
    exact ⟨fun h => by cases h; exact hleast, fun h => by rw [h.unique hleast]⟩
  | case3 offset r c rest hd inner kind name hclass stop ih =>
    have hcut : r = inner ++ '\x7d' :: rest := eq_beforeBrace_append hd
    have hrest : ∀ o, DanglesAt (offset + 1) r o ↔ DanglesAt stop rest o := fun o => by
      simp only [DanglesAt, hcut, opensAt_skip (classify_eq_some_iff.1 hclass)]
      exact Iff.rfl
    simp only [danglesAt_brace hcut, hrest]
    exact ih
  | case4 offset r c rest hd inner hclass ih =>
    simp only [danglesAt_brace (eq_beforeBrace_append hd)]
    exact ih
  | case5 offset c r hc ih =>
    have hset : ∀ o, DanglesAt offset (c :: r) o ↔ DanglesAt (offset + c.utf8Size) r o := fun o => by
      simp only [DanglesAt, opensAt_cons, hc, false_and, false_or]
    simp only [hset]
    exact ih

/-- Annotations are found in the order of the text, and they do not overlap. -/
theorem pairwise_found (offset : Nat) (s : List Char) :
    (scanFrom offset s).found.Pairwise fun a b =>
      a.span.start < b.span.start ∧ a.span.stop ≤ b.span.start := by
  fun_induction scanFrom offset s with
  | case1 offset => exact .nil
  | case2 offset r hd => exact .nil
  | case3 offset r c rest hd inner kind name hclass stop ih =>
    refine List.pairwise_cons.2 ⟨fun b hb => ?_, ih⟩
    have hstart : stop ≤ b.span.start := (isFoundIn_of_mem_scanFrom b hb).start
    exact ⟨by dsimp only; omega, hstart⟩
  | case4 offset r c rest hd inner hclass ih => exact ih
  | case5 offset c r hc ih => exact ih

end Scan

/-! ## Tokens -/

namespace Sample

/-- What the tokens after the root tell of a text: its annotations, each once and in order. -/
structure Tells (s : List Char) (tokens : List Token) : Prop where
  /-- The ranges of the tokens are those of the annotations. -/
  ranges : ∀ span, (∃ t ∈ tokens, t.span = some span) ↔
    ∃ inner kind name, Encloses 0 s inner span ∧ Spells inner kind name
  /-- A token has a range, and its kind and its name are what stands there. -/
  spelled : ∀ t ∈ tokens, ∃ span inner,
    t.span = some span ∧ Encloses 0 s inner span ∧ Spells inner t.kind t.name
  /-- Ranges start one after the other, and each ends before the next starts. -/
  ordered : tokens.Pairwise fun t u => ∀ a b, t.span = some a → u.span = some b →
    a.start < b.start ∧ a.stop ≤ b.start
  /-- All tokens but the ends of containers have an identifier. -/
  identified : ∀ t ∈ tokens, t.markerId.isSome = !t.kind.isClosing

theorem map_span_tokensFrom (ids : IdSupply) (n : Nat) (found : List Annotation) :
    (tokensFrom ids n found).map (·.span) = found.map fun a => some a.span := by
  induction found generalizing n with
  | nil => rfl
  | cons a found ih => rw [tokensFrom, List.map_cons, List.map_cons, ih]; rfl

theorem tells_tokensFrom (ids : IdSupply) (n : Nat) (s : List Char) :
    Tells s (tokensFrom ids n (scan s).found) := by
  have hspans := map_span_tokensFrom ids n (scan s).found
  refine ⟨fun span => ⟨?_, ?_⟩, fun t ht => ?_, ?_, fun t ht => ?_⟩
  · rintro ⟨t, ht, hspan⟩
    obtain ⟨a, ha, id, rfl⟩ := exists_of_mem_tokensFrom ht
    cases hspan
    obtain ⟨inner, hin, hspells⟩ := Scan.mem_found_iff.1 ha
    exact ⟨inner, _, _, hin, hspells⟩
  · rintro ⟨inner, kind, name, hin, hspells⟩
    have ha : ⟨span, kind, name⟩ ∈ (scan s).found := Scan.mem_found_iff.2 ⟨inner, hin, hspells⟩
    have hspan := List.mem_map_of_mem (f := fun a : Annotation => some a.span) ha
    rw [← hspans] at hspan
    exact List.mem_map.1 hspan
  · obtain ⟨a, ha, id, rfl⟩ := exists_of_mem_tokensFrom ht
    obtain ⟨inner, hin, hspells⟩ := Scan.mem_found_iff.1 ha
    exact ⟨a.span, inner, rfl, hin, hspells⟩
  · -- The order of the ranges is that of the annotations.
    have hpairs : (((scan s).found.map fun a => some a.span).Pairwise fun x y : Option Span =>
        ∀ a b, x = some a → y = some b → a.start < b.start ∧ a.stop ≤ b.start) := by
      refine List.pairwise_map.2 ((Scan.pairwise_found 0 s).imp ?_)
      rintro a b hab _ _ ⟨⟩ ⟨⟩
      exact hab
    rw [← hspans] at hpairs
    exact List.pairwise_map.1 hpairs
  · obtain ⟨a, _, id, rfl⟩ := exists_of_mem_tokensFrom ht
    show (if a.kind.isClosing then none else some id).isSome = !a.kind.isClosing
    cases a.kind.isClosing <;> rfl

/-- **Tokens are the annotations of a text.** Listing the tokens of a text fails at a place exactly
when the first opening brace without a closing one after it stands there. If there is none, the
tokens are the root and one for each range of the text that starts at an opening brace, ends after a
closing one and holds what the grammar of annotations allows. -/
theorem tokenize_finds_annotations (ids : IdSupply) (s : List Char) :
    (∀ place, tokenize ids s = .error (.unterminated place) ↔
      IsLeast {o | DanglesAt 0 s o} place) ∧
    ((∀ place, ¬ DanglesAt 0 s place) ↔
      ∃ tokens, tokenize ids s = .ok (.root (ids 0) :: tokens) ∧ Tells s tokens) := by
  have herror : ∀ place, tokenize ids s = .error (.unterminated place) ↔
      IsLeast {o | DanglesAt 0 s o} place := by
    intro place
    rw [← Scan.unterminated_eq_some_iff, tokenize, scan]
    cases (Scan.scanFrom 0 s).unterminated with
    | none => exact ⟨fun h => (by cases h), fun h => (by cases h)⟩
    | some offset => simp
  refine ⟨herror, ?_, ?_⟩
  · intro h
    have hopen : (scan s).unterminated = none := by
      rw [Option.eq_none_iff_forall_ne_some]
      exact fun place hplace => h place (Scan.unterminated_eq_some_iff.1 hplace).1
    exact ⟨_, by rw [tokenize, hopen], tells_tokensFrom ids 1 s⟩
  · rintro ⟨tokens, hok, _⟩ place hplace
    have hleast := (herror _).2 ⟨Nat.sInf_mem ⟨place, hplace⟩, fun o ho => Nat.sInf_le ho⟩
    rw [hok] at hleast
    cases hleast

end Sample

end Stencil
