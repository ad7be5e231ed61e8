import Stencil.Proofs.Sample.Recognition
import Stencil.Proofs.Sample.Scanning

/-!
# The text between annotations

Annotations cut a text into gaps. A `Cutting` is a list of gaps with a written annotation after
each but the last, and `Cut` says how a text comes by its own: sign by sign, a sign at which no
annotation starts goes to the gap, and an annotation ends it. Every text can be cut
(`Cut.exists_cut`), there is no annotation inside a gap (`Cut.free`), and what a scan finds are the
annotations of the cutting (`Cut.found`). Putting new text in the place of the annotations keeps the
gaps as they are (`replaceSpans_annotations`).
-/

namespace Stencil

open Annotation (Spells)
open Text (byteLength)

/-! ## Replacing ranges -/

/-- A text is cut after its first part by that part's length. -/
theorem Text.splitAtByte_byteLength (a b : List Char) :
    Text.splitAtByte (byteLength a) (a ++ b) = (a, b) := by
  have hgo (a : List Char) : ∀ front : List Char,
      Text.splitAtByte.go front (byteLength a) (a ++ b) = (front.reverse ++ a, b) := by
    induction a with
    | nil =>
      intro front
      cases b with
      | nil => rw [List.append_nil, Text.splitAtByte.go, List.append_nil]
      | cons c b =>
        rw [List.nil_append, Text.splitAtByte.go,
          if_pos (show byteLength [] < c.utf8Size from c.utf8Size_pos), List.append_nil]
    | cons c a ih =>
      intro front
      have hlength := Text.byteLength_cons c a
      rw [List.cons_append, Text.splitAtByte.go, if_neg (by omega), hlength,
        Nat.add_sub_cancel_left, ih, List.reverse_cons, List.append_assoc]
      rfl
  exact hgo a []

/-- New text takes the place of a range, and the text before it stays. -/
theorem replaceSpans_gap (offset : Nat) (gap covered rest new : List Char)
    (more : List (Span × List Char)) :
    replaceSpans offset ((⟨offset + byteLength gap, offset + byteLength gap + byteLength covered⟩,
        new) :: more) (gap ++ (covered ++ rest)) =
      gap ++ new ++ replaceSpans (offset + byteLength gap + byteLength covered) more rest := by
  rw [replaceSpans]
  dsimp only
  rw [Nat.add_sub_cancel_left, Nat.add_sub_cancel_left, Text.splitAtByte_byteLength]
  dsimp only
  rw [Text.splitAtByte_byteLength]

/-! ## Annotations in a text -/

namespace Annotation

/-- An annotation as it is written: what stands between its braces, and what that says. -/
structure Written where
  inner : List Char
  kind : TokenKind
  name : Option String
  spells : Spells inner kind name

/-- The text of a written annotation. -/
def Written.text (w : Written) : List Char := '\x7b' :: (w.inner ++ ['\x7d'])

theorem Written.kind_ne_root (w : Written) : w.kind ≠ .root :=
  ne_root_of_classify (classify_eq_some_iff.2 w.spells)

end Annotation

open Annotation (Written)

/-- A text starts with an annotation. -/
def StartsAnnotation (s : List Char) : Prop :=
  ∃ (w : Written) (rest : List Char), s = w.text ++ rest

/-- There is an annotation in a text. -/
def IsAnnotated (s : List Char) : Prop :=
  ∃ (front : List Char) (w : Written) (back : List Char), s = front ++ (w.text ++ back)

section
variable {s r front back : List Char} {c : Char}

/-- An annotation starts with an opening brace. -/
theorem StartsAnnotation.eq_brace (h : StartsAnnotation (c :: r)) : c = '\x7b' := by
  obtain ⟨w, rest, h⟩ := h
  exact (List.cons.inj h).1

/-- With one more sign in front of a text, an annotation starts there or is further on. -/
theorem isAnnotated_cons : IsAnnotated (c :: s) ↔ StartsAnnotation (c :: s) ∨ IsAnnotated s := by
  constructor
  · rintro ⟨front, w, back, h⟩
    cases front with
    | nil => exact .inl ⟨w, back, h⟩
    | cons d front =>
      obtain ⟨rfl, rfl⟩ := List.cons.inj h
      exact .inr ⟨front, w, back, rfl⟩
  · rintro (⟨w, back, h⟩ | ⟨front, w, back, rfl⟩)
    · exact ⟨[], w, back, h⟩
    · exact ⟨c :: front, w, back, rfl⟩

/-- What is only told by the opening braces of a text does not see a front without any. -/
theorem append_iff_of_notMem {p : List Char → Prop}
    (hp : ∀ {c s}, c ≠ '\x7b' → (p (c :: s) ↔ p s)) (h : '\x7b' ∉ front) :
    p (front ++ s) ↔ p s := by
  induction front with
  | nil => rfl
  | cons c front ih =>
    rw [List.mem_cons, not_or] at h
    rw [List.cons_append, hp (Ne.symm h.1), ih h.2]

theorem isAnnotated_append (h : '\x7b' ∉ front) : IsAnnotated (front ++ s) ↔ IsAnnotated s :=
  append_iff_of_notMem
    (fun hc => isAnnotated_cons.trans (or_iff_right fun hstart => hc hstart.eq_brace)) h

theorem not_isAnnotated_nil : ¬ IsAnnotated [] := by
  rintro ⟨front, w, back, h⟩
  simp [Written.text] at h

theorem IsAnnotated.brace_mem (h : IsAnnotated s) : '\x7b' ∈ s := by
  obtain ⟨front, w, back, rfl⟩ := h
  simp [Written.text]

/-- A text is annotated if an annotation stands in it, wherever its first sign is. -/
theorem isAnnotated_iff (offset : Nat) : IsAnnotated s ↔ ∃ a : Annotation, a.StandsIn offset s := by
  constructor
  · rintro ⟨front, w, back, rfl⟩
    refine ⟨⟨⟨offset + byteLength front, offset + byteLength front + byteLength w.inner + 2⟩,
      w.kind, w.name⟩, w.inner, ⟨back, ⟨front, ?_, rfl⟩, rfl⟩, w.spells⟩
    simp [Written.text]
  · rintro ⟨a, inner, ⟨back, ⟨front, rfl, _⟩, _⟩, hspells⟩
    refine ⟨front, ⟨inner, a.kind, a.name, hspells⟩, back, ?_⟩
    simp [Written.text]

/-- A text is annotated if a scan finds anything in it. -/
theorem found_ne_nil_iff : (scan s).found ≠ [] ↔ IsAnnotated s := by
  rw [isAnnotated_iff 0, Ne, List.eq_nil_iff_forall_not_mem, not_forall_not]
  exact exists_congr fun _ => Scan.mem_found_iff

instance : DecidablePred IsAnnotated := fun _ => decidable_of_iff _ found_ne_nil_iff

end

/-! ## Cutting a text -/

/-- A text cut at annotations: each of them after the gap before it, and the gap at the end. -/
inductive Cutting where
  | last (gap : List Char)
  | next (gap : List Char) (w : Written) (rest : Cutting)

/-- Gaps with new texts in the places between them. -/
def weave : List (List Char) → List (List Char) → List Char
  | gap :: gaps, fill :: fills => gap ++ (fill ++ weave gaps fills)
  | gaps, _ => gaps.flatten

namespace Cutting

/-- The gaps, one more than there are annotations. -/
def gaps : Cutting → List (List Char)
  | last gap => [gap]
  | next gap _ rest => gap :: rest.gaps

/-- The annotations as they are written. -/
def written : Cutting → List Written
  | last _ => []
  | next _ w rest => w :: rest.written

/-- The text that is cut. -/
def text (cut : Cutting) : List Char := weave cut.gaps (cut.written.map Written.text)

/-- The annotations with their ranges in the text, which starts at an offset. -/
def annotations (offset : Nat) : Cutting → List Annotation
  | last _ => []
  | next gap w rest =>
    ⟨⟨offset + byteLength gap, offset + byteLength gap + byteLength w.text⟩, w.kind, w.name⟩ ::
      rest.annotations (offset + byteLength gap + byteLength w.text)

/-- The cutting with one more sign in front of the first gap. -/
def push (c : Char) : Cutting → Cutting
  | last gap => last (c :: gap)
  | next gap w rest => next (c :: gap) w rest

section
variable (c : Char) (cut : Cutting)

theorem flatten_gaps_push : (cut.push c).gaps.flatten = c :: cut.gaps.flatten := by
  cases cut <;> rfl

theorem text_push : (cut.push c).text = c :: cut.text := by
  cases cut <;> rfl

theorem annotations_push (offset : Nat) :
    (cut.push c).annotations offset = cut.annotations (offset + c.utf8Size) := by
  cases cut with
  | last gap => rfl
  | next gap w rest =>
    rw [push, annotations, annotations, Text.byteLength_cons, ← Nat.add_assoc]

/-- A text starts with its first gap. -/
theorem exists_text_eq : ∃ gap more rest, cut.gaps = gap :: more ∧ cut.text = gap ++ rest ∧
    (cut.push c).gaps = (c :: gap) :: more := by
  cases cut with
  | last gap => exact ⟨gap, [], [], rfl, rfl, rfl⟩
  | next gap w rest => exact ⟨gap, rest.gaps, _, rfl, rfl, rfl⟩

end

end Cutting

/-- How a text is cut: a sign at which no annotation starts goes to the gap, and an annotation ends
it. -/
inductive Cut : List Char → Cutting → Prop where
  | nil : Cut [] (.last [])
  | keep {c : Char} {r : List Char} {cut : Cutting} (h : ¬ StartsAnnotation (c :: r))
      (hr : Cut r cut) : Cut (c :: r) (cut.push c)
  | drop (w : Written) {rest : List Char} {cut : Cutting} (hr : Cut rest cut) :
    Cut (w.text ++ rest) (.next [] w cut)

namespace Cut

variable {s : List Char} {cut cut' : Cutting}

theorem text_eq (h : Cut s cut) : cut.text = s := by
  induction h with
  | nil => rfl
  | keep _ _ ih => rw [Cutting.text_push, ih]
  | drop w _ ih =>
    show [] ++ (w.text ++ Cutting.text _) = _
    rw [ih, List.nil_append]

/-- Every text can be cut. -/
theorem exists_cut (s : List Char) : ∃ cut, Cut s cut := by
  induction hn : s.length using Nat.strongRecOn generalizing s with
  | ind n ih =>
    by_cases h : StartsAnnotation s
    · obtain ⟨w, rest, rfl⟩ := h
      have hlt : rest.length < n := by
        rw [← hn, List.length_append, Written.text, List.length_cons]
        omega
      obtain ⟨cut, hcut⟩ := ih _ hlt rest rfl
      exact ⟨_, .drop w hcut⟩
    · cases s with
      | nil => exact ⟨_, .nil⟩
      | cons c r =>
        obtain ⟨cut, hcut⟩ := ih r.length (by rw [← hn]; exact Nat.lt_succ_self _) r rfl
        exact ⟨_, .keep h hcut⟩

/-- There is no annotation inside a gap. -/
theorem free (h : Cut s cut) : ∀ gap ∈ cut.gaps, ¬ IsAnnotated gap := by
  induction h with
  | nil => exact List.forall_mem_singleton.2 not_isAnnotated_nil
  | @keep c r cut h hr ih =>
    obtain ⟨gap, more, rest, hgaps, htext, hpush⟩ := cut.exists_text_eq c
    rw [hgaps] at ih
    rw [hpush]
    obtain ⟨hgap, hmore⟩ := List.forall_mem_cons.1 ih
    refine List.forall_mem_cons.2 ⟨fun hannotated => ?_, hmore⟩
    rcases isAnnotated_cons.1 hannotated with ⟨w, back, heq⟩ | hin
    · refine h ⟨w, back ++ rest, ?_⟩
      rw [← hr.text_eq, htext, ← List.cons_append, heq, List.append_assoc]
    · exact hgap hin
  | drop w _ ih => exact List.forall_mem_cons.2 ⟨not_isAnnotated_nil, ih⟩

end Cut

/-! ## What a scan finds -/

namespace Scan

/-- At an opening brace the scan reads up to the next closing one. -/
theorem scanFrom_brace {inner : List Char} (h : '\x7d' ∉ inner) (offset : Nat) (rest : List Char) :
    scanFrom offset ('\x7b' :: (inner ++ '\x7d' :: rest)) =
      match Annotation.classify inner with
      | some (kind, name) =>
        cons ⟨⟨offset, offset + byteLength inner + 2⟩, kind, name⟩
          (scanFrom (offset + byteLength inner + 2) rest)
      | none => scanFrom (offset + 1) (inner ++ '\x7d' :: rest) := by
  rw [scanFrom, if_pos rfl]
  split
  · next hd =>
    have hclose : '\x7d' ∈ inner ++ '\x7d' :: rest :=
      List.mem_append_right _ (List.mem_cons_self ..)
    exact absurd hclose (brace_notMem_of_dropWhile hd)
  · next c rest' hd =>
    have hbefore : (inner ++ '\x7d' :: rest).takeWhile (· ≠ '\x7d') = inner := beforeBrace_append h
    have hrest : rest = rest' := by
      have hcut := eq_beforeBrace_append hd
      rw [beforeBrace_append h] at hcut
      exact (List.cons.inj (List.append_cancel_left hcut)).2
    rewrite [hbefore, hrest]
    rfl

/-- Nothing is found where nothing is closed. -/
theorem found_of_notMem {s : List Char} (h : '\x7d' ∉ s) (offset : Nat) :
    (scanFrom offset s).found = [] :=
  List.eq_nil_iff_forall_not_mem.2 fun _ ha => h (mem_found_iff.1 ha).brace_mem

/-- A sign at which no annotation starts is passed over. -/
theorem found_keep {c : Char} {r : List Char} (offset : Nat) (h : ¬ StartsAnnotation (c :: r)) :
    (scanFrom offset (c :: r)).found = (scanFrom (offset + c.utf8Size) r).found := by
  by_cases hc : c = '\x7b'
  · subst hc
    cases hd : r.dropWhile (· ≠ '\x7d') with
    | nil =>
      have hr := brace_notMem_of_dropWhile hd
      rw [found_of_notMem hr, found_of_notMem]
      rw [List.mem_cons]
      exact not_or.2 ⟨by decide, hr⟩
    | cons x rest =>
      have hcut := eq_beforeBrace_append hd
      have hbefore : '\x7d' ∉ beforeBrace r := fun hmem => by
        simpa using List.mem_takeWhile_imp hmem
      cases hclass : Annotation.classify (beforeBrace r) with
      | none =>
        rw [hcut, scanFrom_brace hbefore, hclass]
        rfl
      | some said =>
        obtain ⟨kind, name⟩ := said
        refine absurd ⟨⟨_, kind, name, Annotation.classify_eq_some_iff.1 hclass⟩, rest, ?_⟩ h
        rw [Written.text, List.cons_append, List.append_assoc]
        exact congrArg _ hcut
  · rw [scanFrom, if_neg hc]

/-- An annotation is found, and the scan goes on after it. -/
theorem found_written (offset : Nat) (w : Written) (rest : List Char) :
    (scanFrom offset (w.text ++ rest)).found =
      ⟨⟨offset, offset + byteLength w.text⟩, w.kind, w.name⟩ ::
        (scanFrom (offset + byteLength w.text) rest).found := by
  have hlength : offset + byteLength w.text = offset + byteLength w.inner + 2 := by
    have hopen : '\x7b'.utf8Size = 1 := rfl
    have hclose : byteLength ['\x7d'] = 1 := rfl
    rw [Written.text, Text.byteLength_cons, Text.byteLength_append]
    omega
  have htext : w.text ++ rest = '\x7b' :: (w.inner ++ '\x7d' :: rest) := by
    rw [Written.text, List.cons_append, List.append_assoc]
    rfl
  rw [htext, hlength, scanFrom_brace fun h => (w.spells.ne_brace _ h).2 rfl,
    Annotation.classify_eq_some_iff.2 w.spells]
  rfl

end Scan

/-- **A scan finds the annotations at which a text is cut.** -/
theorem Cut.found {s : List Char} {cut : Cutting} (h : Cut s cut) (offset : Nat) :
    (Scan.scanFrom offset s).found = cut.annotations offset := by
  induction h generalizing offset with
  | nil => rw [Scan.scanFrom]; rfl
  | keep h _ ih => rw [Scan.found_keep offset h, ih, Cutting.annotations_push]
  | drop w _ ih => rw [Scan.found_written, ih]; rfl

namespace Cut

/-- What comes after an annotation is cut by itself. -/
theorem rest {s gap : List Char} {w : Written} {more : Cutting} (h : Cut s (.next gap w more)) :
    Cut more.text more := by
  generalize hcut : Cutting.next gap w more = cut at h
  induction h generalizing gap with
  | nil => cases hcut
  | @keep c r cut _ hr ih =>
    cases cut with
    | last gap' => cases hcut
    | next gap' w' more' =>
      cases hcut
      exact ih rfl
  | drop w' hr =>
    cases hcut
    rw [hr.text_eq]
    exact hr

end Cut

/-- A scan finds nothing, or a first annotation after a gap and those of the rest. -/
theorem Scan.found_cases (offset : Nat) (s : List Char) :
    (scanFrom offset s).found = [] ∨ ∃ (gap : List Char) (w : Written) (rest : List Char),
      s = gap ++ (w.text ++ rest) ∧ (scanFrom offset s).found =
        ⟨⟨offset + byteLength gap, offset + byteLength gap + byteLength w.text⟩, w.kind, w.name⟩ ::
          (scanFrom (offset + byteLength gap + byteLength w.text) rest).found := by
  obtain ⟨cut, hcut⟩ := Cut.exists_cut s
  rw [hcut.found]
  cases cut with
  | last gap => exact .inl rfl
  | next gap w more =>
    refine .inr ⟨gap, w, more.text, hcut.text_eq.symm, ?_⟩
    rw [hcut.rest.found]
    rfl

/-! ## Replacing the annotations -/

/-- New texts take the places of the annotations, and the gaps stay. -/
theorem replaceSpans_annotations (cut : Cutting) (offset : Nat) {changes : List (Span × List Char)}
    (h : changes.map Prod.fst = (cut.annotations offset).map (·.span)) :
    replaceSpans offset changes cut.text = weave cut.gaps (changes.map Prod.snd) := by
  induction cut generalizing offset changes with
  | last gap =>
    cases List.map_eq_nil_iff.1 h
    rfl
  | next gap w more ih =>
    obtain ⟨⟨span, new⟩, changes, rfl, hspan, hmore⟩ := List.map_eq_cons_iff.1 h
    cases hspan
    have hrest := ih _ hmore
    have htext : (Cutting.next gap w more).text = gap ++ (w.text ++ more.text) := rfl
    rw [htext, replaceSpans_gap, hrest, List.append_assoc]
    rfl

/-- Gaps with nothing between them. -/
theorem weave_of_nil {gaps fills : List (List Char)} (h : ∀ fill ∈ fills, fill = []) :
    weave gaps fills = gaps.flatten := by
  induction gaps generalizing fills with
  | nil => cases fills <;> rfl
  | cons gap gaps ih =>
    cases fills with
    | nil => rfl
    | cons fill fills =>
      obtain ⟨rfl, hfills⟩ := List.forall_mem_cons.1 h
      rw [weave, ih hfills, List.nil_append, List.flatten_cons]

end Stencil
