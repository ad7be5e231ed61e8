import Stencil.Proofs.Html.Fresh
import Stencil.Proofs.Html.TwinParse
import Stencil.Proofs.Sample.Marking

/-!
# Marked samples as texts with open identifiers

A marked sample is made of gaps and markers, and in the markers the identifiers are left open. Each
marker that is put before a regular text gives a regular text again (`marked_marker`), whose
identifiers stand between quotation marks (`Regular.openId`). From the last annotation to the first
this makes the whole sample a regular text (`marked_markedFrom`), so `relabel_parse` applies what is
known of the reader: the documents of a sample that is marked with two supplies are the same, but
for texts and for the renaming of identifiers.
-/

namespace Stencil.Html

open Glyph

section
variable {π : Equiv.Perm MarkerId} {ids ids' : IdSupply} {t a b : List Glyph}

/-! ## Regular texts from parts -/

theorem isChain_map_char (u : List Char) : (u.map char).IsChain Joins :=
  (List.isChain_map char).2 (List.pairwise_of_forall fun _ _ => trivial).isChain

theorem isChain_run (n : Nat) : (run n).IsChain Joins := by
  refine (List.isChain_map (digit n)).2 ((List.isChain_range _ 32).2 fun m hm => ?_)
  exact ⟨rfl, rfl, hm⟩

theorem getLast?_map_char {u : List Char} {g : Glyph} (h : g ∈ (u.map char).getLast?) :
    ∃ c, u.getLast? = some c ∧ g = char c := by
  rw [List.getLast?_map, Option.mem_def, Option.map_eq_some_iff] at h
  obtain ⟨c, hc, rfl⟩ := h
  exact ⟨c, hc, rfl⟩

theorem Spaced.isDigit_head? (h : Spaced t) : ∀ g ∈ t.head?, g.isDigit = false := by
  intro g hg
  cases g with
  | char c => rfl
  | digit n i =>
    obtain ⟨b, hb⟩ := List.head?_eq_some_iff.1 hg
    exact absurd (h [] n i b hb) List.not_mem_nil

/-- What stands before a digit goes on after known characters. -/
theorem eq_append_of_digit {n i : Nat} {c : List Glyph} : ∀ {u : List Char} {b : List Glyph},
    u.map char ++ t = b ++ digit n i :: c →
    ∃ b', b = u.map char ++ b' ∧ t = b' ++ digit n i :: c := by
  intro u
  induction u with
  | nil => exact fun {b} h => ⟨b, rfl, h⟩
  | cons d u ih =>
    intro b h
    cases b with
    | nil => cases h
    | cons g b =>
      rw [List.map_cons, List.cons_append, List.cons_append, List.cons.injEq] at h
      obtain ⟨b', rfl, ht⟩ := ih h.2
      exact ⟨b', congrArg (· :: (u.map char ++ b')) h.1.symm, ht⟩

/-- Characters before a text without an identifier before its first space. -/
theorem Spaced.append (h : Spaced t) (u : List Char) : Spaced (u.map char ++ t) := by
  intro b n i c hsplit
  obtain ⟨b', rfl, ht⟩ := eq_append_of_digit hsplit
  exact List.mem_append_right _ (h b' n i c ht)

/-- After a front that ends with no digit, only the text itself can end inside an identifier. -/
theorem Regular.ends_append (h : Regular π ids ids' t) (ha : ∀ n i, a.getLast? ≠ some (digit n i))
    {n i : Nat} (hlast : (a ++ t).getLast? = some (digit n i)) : i = 31 := by
  rw [List.getLast?_append] at hlast
  cases ht : t.getLast? with
  | none =>
    rw [ht] at hlast
    exact absurd hlast (ha n i)
  | some g =>
    rw [ht] at hlast
    exact h.ends n i (ht.trans hlast)

theorem Regular.append (h : Regular π ids ids' t) (hs : Spaced t) {u : List Char}
    (hu : Unspelled π (u.map char ++ t)) : Regular π ids ids' (u.map char ++ t) where
  joined := by
    refine List.isChain_append.2 ⟨isChain_map_char u, h.joined, fun x hx y hy => ?_⟩
    obtain ⟨c, _, rfl⟩ := getLast?_map_char hx
    obtain ⟨d, rfl⟩ := exists_char_of_isDigit_eq_false (hs.isDigit_head? y hy)
    trivial
  ends n i := h.ends_append fun n i hlast => by
    obtain ⟨c, _, hc⟩ := getLast?_map_char hlast
    cases hc
  spaced a b n i c hsplit := by
    rw [← List.cons_append, ← List.append_assoc] at hsplit
    obtain ⟨b', hb', ht⟩ := eq_append_of_digit hsplit
    have hspace := hs b' n i c ht
    rcases List.append_eq_append_iff.1 hb' with ⟨a', -, ha⟩ | ⟨a', -, ha⟩
    · cases a' with
      | nil =>
        rw [List.nil_append] at ha
        rw [← ha, List.mem_cons] at hspace
        exact hspace.resolve_left fun he => by cases he
      | cons g a' =>
        rw [List.cons_append, List.cons.injEq] at ha
        rw [ha.2]
        exact List.mem_append_right _ hspace
    · rw [ha, List.append_assoc] at ht
      exact h.spaced a' b n i c ht
  named n i hmem := by
    rcases List.mem_append.1 hmem with hmem | hmem
    · obtain ⟨c, _, hc⟩ := List.mem_map.1 hmem
      cases hc
    · exact h.named n i hmem
  fresh := hu

/-- The characters up to an identifier, the identifier and the quotation mark after it. -/
def openId (w : List Char) (n : Nat) : List Glyph :=
  (' ' :: w ++ ['"']).map char ++ (run n ++ [char '"'])

theorem Spaced.openId (w : List Char) (n : Nat) (t : List Glyph) : Spaced (openId w n ++ t) := by
  intro b m i c hsplit
  cases b with
  | nil => cases hsplit
  | cons g b =>
    obtain rfl := (List.cons.inj hsplit).1
    exact List.mem_cons_self ..

theorem of_mem_openId {w : List Char} {n : Nat} {g : Glyph} (h : g ∈ Html.openId w n) :
    (∃ c, (c = ' ' ∨ c ∈ w ∨ c = '"') ∧ g = char c) ∨ ∃ i, g = digit n i := by
  rw [Html.openId, List.mem_append, List.mem_append, List.mem_singleton, run] at h
  rcases h with h | h | h
  · obtain ⟨c, hc, rfl⟩ := List.mem_map.1 h
    rw [List.mem_append, List.mem_cons, List.mem_singleton, or_assoc] at hc
    exact .inl ⟨c, hc, rfl⟩
  · obtain ⟨i, _, rfl⟩ := List.mem_map.1 h
    exact .inr ⟨i, rfl⟩
  · exact .inl ⟨'"', .inr (.inr rfl), h⟩

theorem isChain_openId (w : List Char) (n : Nat) : (Html.openId w n).IsChain Joins := by
  have hquote : (run n ++ [char '"']).IsChain Joins := by
    refine List.isChain_append.2 ⟨isChain_run n, .singleton _, fun x hx y hy => ?_⟩
    cases hx
    cases hy
    exact ⟨rfl, rfl⟩
  refine List.isChain_append.2 ⟨isChain_map_char _, hquote, fun x hx y hy => ?_⟩
  obtain ⟨c, hc, rfl⟩ := getLast?_map_char hx
  rw [List.getLast?_append] at hc
  cases hc
  cases hy
  exact ⟨rfl, rfl⟩

/-- An identifier between quotation marks, after a space and characters that open no tag. -/
theorem Regular.openId (h : Regular π ids ids' t) (hhead : ∀ g ∈ t.head?, g.isDigit = false)
    {n : Nat} (hn : π (ids n) = ids' n) {w : List Char} (hw : '<' ∉ w)
    (hu : Unspelled π (Html.openId w n ++ t)) : Regular π ids ids' (Html.openId w n ++ t) where
  joined := by
    refine List.isChain_append.2 ⟨isChain_openId w n, h.joined, fun x hx y hy => ?_⟩
    rw [Html.openId, ← List.append_assoc, List.getLast?_append] at hx
    cases hx
    obtain ⟨d, rfl⟩ := exists_char_of_isDigit_eq_false (hhead y hy)
    trivial
  ends m i := h.ends_append fun m i hlast => by
    rw [Html.openId, ← List.append_assoc, List.getLast?_append] at hlast
    cases hlast
  spaced a b m i c hsplit := by
    have hnot : char '<' ∉ Html.openId w n := by
      intro hmem
      rcases of_mem_openId hmem with ⟨c, hc, he⟩ | ⟨i, he⟩
      · obtain rfl := char.inj he
        rcases hc with hc | hc | hc
        · cases hc
        · exact hw hc
        · cases hc
      · cases he
    rcases List.append_eq_append_iff.1 hsplit with ⟨a', -, ha⟩ | ⟨a', ha, ht⟩
    · exact h.spaced a' b m i c ha
    · cases a' with
      | nil => exact h.spaced [] b m i c ht.symm
      | cons g a' =>
        rw [List.cons_append, List.cons.injEq] at ht
        rw [ha, ← ht.1] at hnot
        exact absurd (List.mem_append_right _ (List.mem_cons_self ..)) hnot
  named m i hmem := by
    rcases List.mem_append.1 hmem with hmem | hmem
    · rcases of_mem_openId hmem with ⟨_, _, he⟩ | ⟨_, he⟩
      · cases he
      · rw [(digit.inj he).1]
        exact hn
    · exact h.named m i hmem
  fresh := hu

/-! ## Markers -/

theorem unspelled_append_openId {w : List Char} (ha : Unspelled π a) (hw : Unspelled π (w.map char))
    (n : Nat) (ht : Unspelled π t) : Unspelled π (a ++ (openId w n ++ t)) := by
  have hquote : Unspelled π (run n ++ ([] ++ char '"' :: t)) :=
    unspelled_run_append n (unspelled_append_stop (by decide) unspelled_nil ht)
  have hsplit : openId w n ++ t =
      char ' ' :: (w.map char ++ char '"' :: (run n ++ ([] ++ char '"' :: t))) := by
    simp [openId]
  rw [hsplit]
  exact unspelled_append_stop (by decide) ha (unspelled_append_stop (by decide) hw hquote)

/-- Two texts are the readings of a regular text in which a space stands before the first
identifier. -/
def Marked (π : Equiv.Perm MarkerId) (ids ids' : IdSupply) (s s' : List Char) : Prop :=
  ∃ t, Regular π ids ids' t ∧ Spaced t ∧ s = t.map (read ids) ∧ s' = t.map (read ids')

variable {s s' gap : List Char}

theorem marked_of_unspelled (h : Unspelled π (gap.map char)) : Marked π ids ids' gap gap := by
  have hspaced : Spaced ([] : List Glyph) := fun b n i c hb => by
    cases b <;> cases hb
  rw [← List.append_nil (gap.map char)] at h
  refine ⟨gap.map char ++ [], Regular.nil.append hspaced h, hspaced.append gap, ?_, ?_⟩
  · rw [List.append_nil, map_read_char]
  · rw [List.append_nil, map_read_char]

/-- Whether a name of tags is short and without special characters. -/
def isTag (tag : String) : Bool :=
  tag.toList.length < 31 && tag.toList.all fun c => c != '&' && c != '\x00'

theorem marked_markerStart (h : Marked π ids ids' s s') (hgap : Unspelled π (gap.map char))
    {tag : String} (htag : isTag tag = true) {n : Nat} (hn : π (ids n) = ids' n) :
    Marked π ids ids' (gap ++ (Sample.markerStart tag (some (ids n)) ++ s))
      (gap ++ (Sample.markerStart tag (some (ids' n)) ++ s')) := by
  obtain ⟨t, ht, hs, rfl, rfl⟩ := h
  rw [isTag, Bool.and_eq_true, decide_eq_true_iff] at htag
  have hattribute : Unspelled π ((markerAttribute.toList ++ ['=']).map char) :=
    unspelled_of_length_lt (by decide) (by decide)
  have hname : Unspelled π (tag.toList.map char) := unspelled_of_length_lt (by omega) htag.2
  have hclose : Unspelled π (['>'].map char ++ t) :=
    unspelled_append_stop (a := []) (by decide) unspelled_nil ht.fresh
  have hvalue := (ht.append hs hclose).openId (hs.append ['>']).isDigit_head? hn
    (w := markerAttribute.toList ++ ['=']) (by decide)
    (unspelled_append_openId unspelled_nil hattribute n hclose)
  have hopen : Unspelled π ((gap ++ '<' :: tag.toList).map char ++
      (openId (markerAttribute.toList ++ ['=']) n ++ (['>'].map char ++ t))) := by
    rw [List.map_append, List.map_cons, List.append_assoc, List.cons_append]
    exact unspelled_append_stop (by decide) hgap (unspelled_append_openId hname hattribute n hclose)
  have hspaced := Spaced.openId (markerAttribute.toList ++ ['=']) n (['>'].map char ++ t)
  have hread (ids : IdSupply) : gap ++ (Sample.markerStart tag (some (ids n)) ++ t.map (read ids)) =
      ((gap ++ '<' :: tag.toList).map char ++
        (openId (markerAttribute.toList ++ ['=']) n ++ (['>'].map char ++ t))).map (read ids) := by
    simp only [openId, List.map_append, map_read_char, map_read_run]
    simp [Sample.markerStart, Glyph.read]
  exact ⟨_, hvalue.append hspaced hopen, hspaced.append _, hread ids, hread ids'⟩

theorem marked_markerEnd (h : Marked π ids ids' s s') (hgap : Unspelled π (gap.map char))
    {tag : String} (htag : isTag tag = true) :
    Marked π ids ids' (gap ++ (Sample.markerEnd tag ++ s))
      (gap ++ (Sample.markerEnd tag ++ s')) := by
  obtain ⟨t, ht, hs, rfl, rfl⟩ := h
  rw [isTag, Bool.and_eq_true, decide_eq_true_iff] at htag
  have hname : Unspelled π (('/' :: tag.toList).map char) := by
    refine unspelled_of_length_lt ?_ ?_
    · rw [List.length_cons]
      omega
    · rw [List.all_cons, htag.2]
      rfl
  have hopen : Unspelled π ((gap ++ '<' :: '/' :: (tag.toList ++ ['>'])).map char ++ t) := by
    have hsplit : (gap ++ '<' :: '/' :: (tag.toList ++ ['>'])).map char ++ t =
        gap.map char ++ char '<' :: (('/' :: tag.toList).map char ++ char '>' :: t) := by
      simp
    rw [hsplit]
    exact unspelled_append_stop (by decide) hgap (unspelled_append_stop (by decide) hname ht.fresh)
  refine ⟨_, ht.append hs hopen, hs.append _, ?_, ?_⟩ <;>
    rw [List.map_append, map_read_char, List.append_assoc] <;> rfl

/-- What stands for an annotation, with text before and after it. -/
theorem marked_marker (h : Marked π ids ids' s s') (hgap : Unspelled π (gap.map char)) {n : Nat}
    (hn : π (ids n) = ids' n) {an : Annotation} (ha : an.kind ≠ .root) :
    Marked π ids ids' (gap ++ (Sample.marker (Sample.tokenOf (ids n) an) ++ s))
      (gap ++ (Sample.marker (Sample.tokenOf (ids' n) an) ++ s')) := by
  obtain ⟨span, kind, name⟩ := an
  cases kind with
  | root => exact absurd rfl ha
  | objectStart | listStart => exact marked_markerStart h hgap (by decide) hn
  | objectEnd | listEnd => exact marked_markerEnd h hgap (by decide)
  | value =>
    have htag : isTag "value" = true := by decide
    have hnil : Unspelled π (([] : List Char).map char) := unspelled_nil
    have hopen := marked_markerStart (marked_markerEnd h hnil htag) hgap htag hn
    have hvalue (id : MarkerId) (s : List Char) :
        Sample.marker (Sample.tokenOf id ⟨span, .value, name⟩) ++ s =
          Sample.markerStart "value" (some id) ++ ([] ++ (Sample.markerEnd "value" ++ s)) := by
      rw [List.nil_append, ← List.append_assoc]
      rfl
    rw [hvalue, hvalue]
    exact hopen

/-- Line breaks are normalized around markers. -/
theorem normalizeBreaks_marker (id : MarkerId) {an : Annotation} (ha : an.kind ≠ .root)
    (s : List Char) :
    normalizeBreaks (gap ++ (Sample.marker (Sample.tokenOf id an) ++ s)) =
      normalizeBreaks gap ++ (Sample.marker (Sample.tokenOf id an) ++ normalizeBreaks s) := by
  have hmarker := Sample.isBracketed_marker id ha
  rw [normalizeBreaks_append, normalizeBreaks_append,
    normalizeBreaks_of_notMem (hmarker.notMem rfl)]
  · intro hr
    rw [hmarker.last] at hr
    cases hr
  · intro _
    rw [List.head?_append, hmarker.head]
    exact fun he => by cases he

/-! ## Samples -/

/-- The text from an offset on, with markers in the place of its annotations. -/
def markedFrom (ids : IdSupply) (n offset : Nat) (s : List Char) : List Char :=
  replaceSpans offset (Sample.markers (Sample.tokensFrom ids n (Scan.scanFrom offset s).found)) s

/-- The marked text is the text itself, or a gap, a marker and a marked rest. -/
theorem markedFrom_cases (offset : Nat) (s : List Char) :
    ((Scan.scanFrom offset s).found = [] ∧ ∀ ids n, markedFrom ids n offset s = s) ∨
      ∃ gap inner rest stop an, s = gap ++ ('\x7b' :: inner ++ ['\x7d'] ++ rest) ∧
        (Scan.scanFrom offset s).found = an :: (Scan.scanFrom stop rest).found ∧
        an.kind ≠ .root ∧ ∀ ids n, markedFrom ids n offset s = gap ++
          (Sample.marker (Sample.tokenOf (ids n) an) ++ markedFrom ids (n + 1) stop rest) := by
  rcases Scan.found_cases offset s with hfound | ⟨gap, w, rest, rfl, hfound⟩
  · refine .inl ⟨hfound, fun ids n => ?_⟩
    rw [markedFrom, hfound]
    rfl
  · refine .inr ⟨gap, w.inner, rest, _, _, rfl, hfound, w.kind_ne_root, fun ids n => ?_⟩
    rw [markedFrom, hfound, Sample.markers_tokensFrom_cons]
    exact (replaceSpans_gap ..).trans (List.append_assoc ..)

/-- A gap and a marker before a marked text. -/
theorem marked_gap (h : Marked π ids ids' (normalizeBreaks s) (normalizeBreaks s'))
    (hgap : ∀ id, π id ≠ id → Fresh id gap) {n : Nat} (hn : π (ids n) = ids' n) {an : Annotation}
    (ha : an.kind ≠ .root) :
    Marked π ids ids'
      (normalizeBreaks (gap ++ (Sample.marker (Sample.tokenOf (ids n) an) ++ s)))
      (normalizeBreaks (gap ++ (Sample.marker (Sample.tokenOf (ids' n) an) ++ s'))) := by
  rw [normalizeBreaks_marker _ ha, normalizeBreaks_marker _ ha]
  exact marked_marker h (unspelled_of_fresh hgap) hn ha

/-- Supplies that give renamed identifiers do so after the first one. -/
theorem renamed_succ {n m : Nat} (h : ∀ k < m + 1, π (ids (n + k)) = ids' (n + k)) :
    ∀ k < m, π (ids (n + 1 + k)) = ids' (n + 1 + k) := by
  intro k hk
  rw [Nat.add_assoc, Nat.add_comm 1 k]
  exact h (k + 1) (Nat.succ_lt_succ hk)

/-- What is fresh in a text is fresh behind its first annotation. -/
theorem Fresh.behind {id : MarkerId} {gap inner rest : List Char}
    (h : Fresh id (gap ++ ('\x7b' :: inner ++ ['\x7d'] ++ rest))) : Fresh id rest := by
  rw [← List.append_assoc, ← List.append_assoc] at h
  exact h.back (by decide)

/-- The markers of a text with two supplies of identifiers. -/
theorem marked_markedFrom (found : List Annotation) : ∀ {n offset : Nat} {s : List Char},
    (Scan.scanFrom offset s).found = found →
    (∀ k < found.length, π (ids (n + k)) = ids' (n + k)) → (∀ id, π id ≠ id → Fresh id s) →
    Marked π ids ids' (normalizeBreaks (markedFrom ids n offset s))
      (normalizeBreaks (markedFrom ids' n offset s)) := by
  induction found with
  | nil =>
    intro n offset s hfound _ hfresh
    rcases markedFrom_cases offset s with ⟨_, hs⟩ | ⟨_, _, _, _, _, _, hf, _⟩
    · rw [hs, hs]
      exact marked_of_unspelled (unspelled_of_fresh hfresh)
    · rw [hfound] at hf
      cases hf
  | cons an found ih =>
    intro n offset s hfound hπ hfresh
    rcases markedFrom_cases offset s with
      ⟨hf, _⟩ | ⟨gap, inner, rest, stop, an', rfl, hf, ha, hmarked⟩
    · rw [hfound] at hf
      cases hf
    · rw [hfound, List.cons.injEq] at hf
      obtain ⟨rfl, hrest⟩ := hf
      rw [hmarked, hmarked]
      have hmore := ih hrest.symm (renamed_succ hπ) fun id hid => (hfresh id hid).behind
      exact marked_gap hmore (fun id hid => (hfresh id hid).front (by decide))
        (hπ 0 (Nat.succ_pos _)) ha

/-- A byte order mark belongs to the first gap. -/
theorem withoutMark_append {a b : List Char} (hb : b.head? = some '<') :
    withoutMark (a ++ b) = withoutMark a ++ b := by
  cases a with
  | nil =>
    obtain ⟨r, rfl⟩ := List.head?_eq_some_iff.1 hb
    rfl
  | cons c a =>
    rw [List.cons_append, withoutMark, withoutMark]
    split <;> rfl

/-- A marked sample, as it is read, with two supplies of identifiers. -/
theorem marked_sample {s : List Char}
    (hπ : ∀ k < (scan s).found.length, π (ids (1 + k)) = ids' (1 + k))
    (hfresh : ∀ id, π id ≠ id → Fresh id s) :
    Marked π ids ids' (normalizeBreaks (withoutMark (markedFrom ids 1 0 s)))
      (normalizeBreaks (withoutMark (markedFrom ids' 1 0 s))) := by
  rw [scan] at hπ
  rcases markedFrom_cases 0 s with
    ⟨_, hs⟩ | ⟨gap, inner, rest, stop, an, rfl, hf, ha, hmarked⟩
  · rw [hs, hs]
    exact marked_of_unspelled (unspelled_of_fresh fun id hid => (hfresh id hid).withoutMark)
  · have hopen (id : MarkerId) (more : List Char) :
        (Sample.marker (Sample.tokenOf id an) ++ more).head? = some '<' := by
      rw [List.head?_append, (Sample.isBracketed_marker id ha).head]
      rfl
    rw [hf] at hπ
    rw [hmarked, hmarked, withoutMark_append (hopen ..), withoutMark_append (hopen ..)]
    have hmore := marked_markedFrom _ rfl (renamed_succ hπ) fun id hid => (hfresh id hid).behind
    exact marked_gap hmore (fun id hid => ((hfresh id hid).front (by decide)).withoutMark)
      (hπ 0 (Nat.succ_pos _)) ha

/-- **A marked sample is read as the same document with other identifiers.** All else in the two
documents is the same, but for texts. -/
theorem relabel_parse {s : List Char}
    (hπ : ∀ k < (scan s).found.length, π (ids (1 + k)) = ids' (1 + k))
    (hfresh : ∀ id, π id ≠ id → Fresh id s) :
    (parse (markedFrom ids 1 0 s)).relabel (Sketch.renamed π).word (fun _ => "") =
      (parse (markedFrom ids' 1 0 s)).relabel id fun _ => "" := by
  obtain ⟨t, ht, hs, hread, hread'⟩ := marked_sample hπ hfresh
  have hwhole : Whole π ids ids' t := ⟨ht, fun n i hi => by
    have := hs.isDigit_head? _ hi
    cases this⟩
  have hrelabel := relabel_read hwhole
  rw [parse, parse, hread, hread']
  rw [List.length_map, List.length_map]
  exact hrelabel

end

end Stencil.Html
