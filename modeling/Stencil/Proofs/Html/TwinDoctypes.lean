import Stencil.Proofs.Html.TwinTags

/-!
# Document types read with two supplies of identifiers

A document type is asked one thing, whether it puts the document in quirks mode. That is decided by
comparing its identifiers with the beginnings of a number of known ones, none of which has a
quotation mark or starts with a digit. So a text with identifiers that are left open compares the
same in every reading (`Whole.sameId`), and two document types that are twins ask for the same mode
(`SameType.isQuirky_eq`). `readDoctype_twin` is the reading itself.
-/

namespace Stencil.Html

open Glyph

/-! ## Words at the start of a text -/

/-- A text goes on with known characters up to its end or a character `q`. -/
structure Opens (q : Char) (t : List Glyph) (u : List Char) (b : List Glyph) : Prop where
  split : t = u.map char ++ b
  stop : b = [] ∨ ∃ b', b = char q :: b'

section
variable {k u w : List Char} {q : Char} {f : Char → Char} {t b : List Glyph}

theorem take_map_eq_iff (f : Char → Char) (k s : List Char) :
    (s.take k.length).map f = k ↔ k <+: s.map f := by
  rw [List.map_take, List.prefix_iff_eq_take, eq_comm]

/-- A word without `q` at the start of a text is before the first `q` in it. -/
theorem prefix_map_append_iff (hq : f q ∉ k) (u : List Char) (hw : w = [] ∨ ∃ w', w = q :: w') :
    k <+: (u ++ w).map f ↔ k <+: u.map f := by
  rcases hw with rfl | ⟨w', rfl⟩
  · rw [List.append_nil]
  · rw [List.map_append, List.map_cons]
    refine ⟨fun h => ?_, fun h => h.trans (List.prefix_append ..)⟩
    have hstop : u.map f ++ [f q] <+: u.map f ++ f q :: w'.map f := ⟨w'.map f, by simp⟩
    by_cases hlength : k.length ≤ (u.map f).length
    · exact List.prefix_of_prefix_length_le h (List.prefix_append ..) hlength
    · have hin : u.map f ++ [f q] <+: k := List.prefix_of_prefix_length_le hstop h (by
        rw [List.length_append, List.length_singleton]
        omega)
      exact absurd (hin.subset (List.mem_append_right _ (List.mem_singleton_self _))) hq

theorem Opens.read (h : Opens q t u b) (ids : IdSupply) :
    t.map (read ids) = u ++ b.map (read ids) ∧
      (b.map (read ids) = [] ∨ ∃ w, b.map (read ids) = q :: w) := by
  refine ⟨?_, ?_⟩
  · rw [h.split, List.map_append, map_read_char]
  · rcases h.stop with hb | ⟨b', hb⟩
    · exact .inl (hb ▸ rfl)
    · exact .inr ⟨b'.map (Glyph.read ids), hb ▸ rfl⟩

/-- Whether a text starts with a word is seen in its known characters. -/
theorem Opens.prefix_iff (h : Opens q t u b) (hq : f q ∉ k) (ids : IdSupply) :
    k <+: (t.map (Glyph.read ids)).map f ↔ k <+: u.map f := by
  obtain ⟨hread, hstop⟩ := h.read ids
  rw [hread, prefix_map_append_iff hq u hstop]

end

section
variable {π : Equiv.Perm MarkerId} {ids ids' : IdSupply} {t b : List Glyph} {u : List Char}
  {q : Char}

theorem Whole.opens (h : Whole π ids ids' t) (hhead : ∀ g ∈ t.head?, g.isDigit = false) :
    ∃ u b, Opens '"' t u b := by
  obtain ⟨u, b, ht, _, hb⟩ := h.exists_quote hhead
  exact ⟨u, b, ht, hb⟩

/-- A text may be cut after known characters. -/
theorem Whole.drop_opens (h : Whole π ids ids' t) (ht : Opens q t u b) {n : Nat}
    (hn : n ≤ u.length) : Whole π ids ids' (t.drop n) := by
  have htake : t.take n = (u.take n).map char := by
    rw [ht.split, List.take_append_of_le_length (by rwa [List.length_map]), List.map_take]
  refine Whole.back_char (u := u.take n) ?_
  rwa [← htake, List.take_append_drop]

theorem afterKeyword?_twin (h : Whole π ids ids' t) (hhead : ∀ g ∈ t.head?, g.isDigit = false)
    {keyword : List Char} (hq : '"' ∉ keyword) :
    Option.Rel (Twin π ids ids') (afterKeyword? keyword (t.map (read ids)))
      (afterKeyword? keyword (t.map (read ids'))) := by
  obtain ⟨u, b, ht⟩ := h.opens hhead
  have hquote : Char.toUpper '"' ∉ keyword := hq
  rw [afterKeyword?, afterKeyword?]
  simp only [take_map_eq_iff, ht.prefix_iff hquote]
  split
  · next hstarts =>
    have hlength := hstarts.length_le
    rw [List.length_map] at hlength
    refine .some ⟨t.drop keyword.length, h.drop_opens ht hlength, ?_, ?_⟩
    · rw [List.map_drop]
    · rw [List.map_drop]
  · exact .none

end

/-! ## Identifiers of document types -/

/-- Whether a text is one of those that can be told from a text with open identifiers: it has no
quotation mark, and it does not start with a digit of identifiers. -/
def isPlain : List Char → Bool
  | [] => false
  | c :: r => !idDigits.contains c && !(c :: r).contains '"'

/-- The characters of a known text are those it is written with, so none are decoded here. -/
theorem isPlain_ofList {k : List Char} (h : isPlain k = true) :
    isPlain (String.ofList k).toList = true := by
  rwa [String.toList_ofList]

theorem isPlain_of_mem_quirksPublicIds : ∀ k ∈ quirksPublicIds, isPlain k.toList = true := by
  simp only [quirksPublicIds, List.forall_mem_cons]
  and_intros <;> first | exact isPlain_ofList rfl | exact List.forall_mem_nil _

theorem isPlain_of_mem_quirksPublicPrefixes :
    ∀ k ∈ quirksPublicPrefixes, isPlain k.toList = true := by
  simp only [quirksPublicPrefixes, List.forall_mem_cons]
  and_intros <;> first | exact isPlain_ofList rfl | exact List.forall_mem_nil _

theorem isPlain_of_mem_quirksUnlessSystemId :
    ∀ k ∈ quirksUnlessSystemId, isPlain k.toList = true := by
  simp only [quirksUnlessSystemId, List.forall_mem_cons]
  and_intros <;> first | exact isPlain_ofList rfl | exact List.forall_mem_nil _

/-- Two texts are told alike from plain ones. -/
def SameId (s s' : String) : Prop :=
  s.length = s'.length ∧ ∀ k : List Char, isPlain k = true →
    (k <+: s.toList.map Char.toLower ↔ k <+: s'.toList.map Char.toLower)

theorem SameId.eq_iff {s s' : String} (h : SameId s s') {k : List Char} (hk : isPlain k = true) :
    s.toList.map Char.toLower = k ↔ s'.toList.map Char.toLower = k := by
  have hwhole (s : String) : s.toList.map Char.toLower = k ↔
      k <+: s.toList.map Char.toLower ∧ s.length = k.length := by
    refine ⟨fun he => ⟨he ▸ List.prefix_rfl, ?_⟩, fun ⟨hk, hlength⟩ => ?_⟩
    · rw [← he, List.length_map, String.length_toList]
    · refine (hk.eq_of_length ?_).symm
      rw [List.length_map, String.length_toList, hlength]
  rw [hwhole, hwhole, h.2 k hk, h.1]

theorem Whole.sameId {π : Equiv.Perm MarkerId} {ids ids' : IdSupply} {t : List Glyph}
    (h : Whole π ids ids' t) :
    SameId (String.ofList ((t.map (read ids)).map withoutNull))
      (String.ofList ((t.map (read ids')).map withoutNull)) := by
  refine ⟨by simp only [String.length_ofList, List.length_map], fun k hk => ?_⟩
  obtain _ | ⟨c, r⟩ := k
  · cases hk
  rw [isPlain, Bool.and_eq_true, Bool.not_eq_true', Bool.not_eq_true', List.contains_eq_mem,
    List.contains_eq_mem, decide_eq_false_iff_not, decide_eq_false_iff_not] at hk
  have hmap (l : List Char) :
      (l.map withoutNull).map Char.toLower = l.map (Char.toLower ∘ withoutNull) := List.map_map
  rw [String.toList_ofList, String.toList_ofList, hmap, hmap]
  by_cases hhead : ∀ g ∈ t.head?, g.isDigit = false
  · obtain ⟨u, b, ht⟩ := h.opens hhead
    have hquote : (Char.toLower ∘ withoutNull) '"' ∉ c :: r := hk.2
    rw [ht.prefix_iff hquote, ht.prefix_iff hquote]
  · push Not at hhead
    obtain ⟨g, hg, hdigit⟩ := hhead
    obtain ⟨t, rfl⟩ := List.head?_eq_some_iff.1 hg
    have hnot (ids : IdSupply) :
        ¬ c :: r <+: ((g :: t).map (Glyph.read ids)).map (Char.toLower ∘ withoutNull) := by
      intro hstarts
      have hmem : g.read ids ∈ idDigits := read_mem_idDigits (by simpa using hdigit)
      have hfix : Char.toLower (withoutNull (g.read ids)) = g.read ids :=
        eq_of_mem_idDigits (f := Char.toLower ∘ withoutNull) (by decide) hmem
      have hc := (List.cons_prefix_cons.1 hstarts).1
      rw [Function.comp_apply, hfix] at hc
      exact hk.1 (hc ▸ hmem)
    exact iff_of_false (hnot ids) (hnot ids')

/-! ## Document types -/

/-- Two document types put a document in the same mode, as far as their parts go. -/
structure SameType (d d' : Doctype) : Prop where
  force : d.forceQuirks = d'.forceQuirks
  name : d.name = some "html" ↔ d'.name = some "html"
  publicId : Option.Rel SameId d.publicId d'.publicId
  systemId : Option.Rel SameId d.systemId d'.systemId

section
variable {d d' : Doctype}

theorem any_congr_plain {s s' : String} {known : List String}
    (hknown : ∀ k ∈ known, isPlain k.toList = true) {p : String → String → Bool}
    (hp : ∀ k : String, isPlain k.toList = true → p k s = p k s') :
    known.any (p · s) = known.any (p · s') := by
  rw [Bool.eq_iff_iff, List.any_eq_true, List.any_eq_true]
  refine exists_congr fun k => and_congr_right fun hk => ?_
  rw [hp k (hknown k hk)]

theorem SameType.isQuirky_eq (h : SameType d d') : d.isQuirky = d'.isQuirky := by
  have hname : (d.name != some "html") = (d'.name != some "html") := by
    rw [bne, bne, Bool.eq_iff_iff, Bool.not_eq_true', Bool.not_eq_true', beq_eq_false_iff_ne,
      beq_eq_false_iff_ne, Ne, Ne, h.name]
  have hstarts {s s' : String} (hs : SameId s s') {known : List String}
      (hknown : ∀ k ∈ known, isPlain k.toList = true) :
      (known.any fun front => front.toList.isPrefixOf (s.map Char.toLower).toList) =
        known.any fun front => front.toList.isPrefixOf (s'.map Char.toLower).toList := by
    refine any_congr_plain (p := fun k s => k.toList.isPrefixOf (s.map Char.toLower).toList) hknown
      fun k hk => ?_
    rw [Bool.eq_iff_iff, List.isPrefixOf_iff_prefix, List.isPrefixOf_iff_prefix,
      String.toList_map, String.toList_map, hs.2 _ hk]
  have hequals {s s' : String} (hs : SameId s s') :
      quirksPublicIds.contains (s.map Char.toLower) =
        quirksPublicIds.contains (s'.map Char.toLower) := by
    rw [List.contains_eq_any_beq, List.contains_eq_any_beq]
    refine any_congr_plain (p := fun k s => s.map Char.toLower == k)
      isPlain_of_mem_quirksPublicIds fun k hk => ?_
    rw [Bool.eq_iff_iff, beq_iff_eq, beq_iff_eq, ← String.toList_inj, ← String.toList_inj,
      String.toList_map, String.toList_map, hs.eq_iff hk]
  have hsystem {s s' : String} (hs : SameId s s') :
      (s.toList.map Char.toLower == ['/'].intercalate (quirksSystemId.map String.toList)) =
        (s'.toList.map Char.toLower == ['/'].intercalate (quirksSystemId.map String.toList)) := by
    rw [Bool.eq_iff_iff, beq_iff_eq, beq_iff_eq, hs.eq_iff (by decide +kernel)]
  obtain ⟨name, publicId, systemId, force⟩ := d
  obtain ⟨name', publicId', systemId', force'⟩ := d'
  obtain ⟨hforce, -, hpublicId, hsystemId⟩ := h
  dsimp only at hforce hname hpublicId hsystemId
  rw [Doctype.isQuirky, Doctype.isQuirky]
  dsimp only
  rw [hforce, hname]
  cases hpublicId with
  | none =>
    cases hsystemId with
    | none => rfl
    | some hs =>
      simp only [Option.map_none, Option.any_none, Option.any_some, hsystem hs]
      rfl
  | some hp =>
    have hprefixes := hstarts hp isPlain_of_mem_quirksPublicPrefixes
    have hunless := hstarts hp isPlain_of_mem_quirksUnlessSystemId
    simp only [Option.map_some, Option.any_some, hequals hp, hprefixes, hunless]
    cases hsystemId with
    | none => rfl
    | some hs => simp only [Option.isNone_some, Option.any_some, hsystem hs]

end

/-! ## Reading document types -/

section
variable {π : Equiv.Perm MarkerId} {ids ids' : IdSupply} {t : List Glyph} {d d' : Doctype}

theorem Regular.dropWhile {p : Glyph → Bool} (h : Regular π ids ids' t) :
    Regular π ids ids' (t.dropWhile p) :=
  Regular.back (a := t.takeWhile p) (by rwa [List.takeWhile_append_dropWhile])

/-- What follows a character that is no digit starts no identifier in the middle. -/
theorem Regular.after {q : Char} (hq : q ∉ idDigits) (h : Regular π ids ids' t) :
    Whole π ids ids' ((t.dropWhile fun g => decide (g.face ≠ q)).drop 1) := by
  have hdrop := h.dropWhile (p := fun g => decide (g.face ≠ q))
  obtain hb | ⟨b, hb⟩ := dropWhile_face_ne hq t
  · rw [hb]
    exact .nil
  · rw [hb] at hdrop ⊢
    exact hdrop.tail

theorem skipDoctype_twin (h : Regular π ids ids' t) :
    Twin π ids ids' (skipDoctype (t.map (read ids))) (skipDoctype (t.map (read ids'))) := by
  have hread (ids : IdSupply) : skipDoctype (t.map (read ids)) =
      ((t.dropWhile fun g => decide (g.face ≠ '>')).drop 1).map (read ids) := by
    rw [skipDoctype, dropWhile_read (blind_ne (by decide)), List.map_drop]
  exact ⟨_, h.after (by decide), hread ids, hread ids'⟩

/-- Two results of reading a document type. -/
def TypeTwin (π : Equiv.Perm MarkerId) (ids ids' : IdSupply) (x x' : Doctype × List Char) : Prop :=
  SameType x.1 x'.1 ∧ Twin π ids ids' x.2 x'.2

/-- An identifier and what follows it are read alike after a quotation mark of either kind. -/
theorem readIdentifier_twin {g : Glyph} (hg : g = char '"' ∨ g = char '\'')
    (h : Whole π ids ids' (g :: t)) :
    ∃ id id' cut r r', readIdentifier (g.read ids) (t.map (read ids)) = (id, cut, r) ∧
      readIdentifier (g.read ids') (t.map (read ids')) = (id', cut, r') ∧ SameId id id' ∧
      Twin π ids ids' r r' := by
  obtain ⟨quote, hquote, rfl⟩ : ∃ quote : Char, (quote = '"' ∨ quote = '\'') ∧ g = char quote := by
    rcases hg with hg | hg
    · exact ⟨_, .inl rfl, hg⟩
    · exact ⟨_, .inr rfl, hg⟩
  replace h := h.toRegular.tail
  have hblind : Blind fun c => decide (c ≠ quote) && decide (c ≠ '>') := by
    rcases hquote with rfl | rfl <;> decide
  have hplain : quote ∉ idDigits := by
    rcases hquote with rfl | rfl <;> decide
  have hid := (h.takeWhile (p := fun c => decide (c ≠ quote) && decide (c ≠ '>'))).sameId
  have hrest := h.dropWhile (p := fun c => decide (c ≠ quote) && decide (c ≠ '>'))
  have hnot := List.head?_dropWhile_not
    (fun g : Glyph => decide (g.face ≠ quote) && decide (g.face ≠ '>')) t
  rw [Glyph.read, Glyph.read]
  simp only [readIdentifier, takeWhile_read hblind, dropWhile_read hblind]
  cases hb : t.dropWhile fun g => decide (g.face ≠ quote) && decide (g.face ≠ '>') with
  | nil => exact ⟨_, _, true, [], [], rfl, rfl, hid, [], .nil, rfl, rfl⟩
  | cons g b =>
    rw [hb] at hrest hnot
    have hg : g = char quote ∨ g = char '>' := by
      rw [← face_eq_iff hplain, ← face_eq_iff (c := '>') (by decide)]
      by_contra! hne
      simp [hne] at hnot
    rcases hg with rfl | rfl
    · exact ⟨_, _, false, _, _, if_pos rfl, if_pos rfl, hid, b, hrest.tail, rfl, rfl⟩
    · have hne : '>' ≠ quote := by
        rcases hquote with rfl | rfl <;> decide
      exact ⟨_, _, true, _, _, if_neg hne, if_neg hne, hid, b, hrest.tail, rfl, rfl⟩

theorem readSystemId_twin (hd : SameType d d') (needed : Bool) (h : Whole π ids ids' t) :
    TypeTwin π ids ids' (readSystemId d needed (t.map (read ids)))
      (readSystemId d' needed (t.map (read ids'))) := by
  obtain ⟨hforce, hname, hpublic, hsystem⟩ := hd
  have hskip := skipSpaces_read t
  have hrest : Whole π ids ids' (t.dropWhile (isSpace ·.face)) := h.dropWhile
  rw [readSystemId, readSystemId, hskip, hskip]
  cases hu : t.dropWhile (isSpace ·.face) with
  | nil => exact ⟨⟨rfl, hname, hpublic, hsystem⟩, [], .nil, rfl, rfl⟩
  | cons g u =>
    rw [hu] at hrest
    simp only [List.map_cons, read_eq_iff (c := '"') (by decide),
      read_eq_iff (c := '\'') (by decide), read_eq_iff (c := '>') (by decide)]
    split
    · next hg =>
      subst hg
      refine ⟨⟨?_, hname, hpublic, hsystem⟩, u, hrest.tail, rfl, rfl⟩
      rw [hforce]
    · split
      · next hg =>
        obtain ⟨id, id', cut, r, r', hr, hr', hid, b, hb, rfl, rfl⟩ :=
          readIdentifier_twin hg hrest
        rw [hr, hr']
        cases cut with
        | true => exact ⟨⟨rfl, hname, hpublic, .some hid⟩, b, hb, rfl, rfl⟩
        | false =>
          dsimp only
          rw [skipSpaces_read, skipSpaces_read]
          cases hc : b.dropWhile (isSpace ·.face) with
          | nil => exact ⟨⟨rfl, hname, hpublic, .some hid⟩, [], .nil, rfl, rfl⟩
          | cons x c =>
            have hdrop := (hb.dropWhile (p := isSpace)).toRegular
            rw [hc] at hdrop
            exact ⟨⟨hforce, hname, hpublic, .some hid⟩, skipDoctype_twin hdrop⟩
      · exact ⟨⟨rfl, hname, hpublic, hsystem⟩, skipDoctype_twin hrest.toRegular⟩

theorem readPublicId_twin (hd : SameType d d') (h : Whole π ids ids' t) :
    TypeTwin π ids ids' (readPublicId d (t.map (read ids)))
      (readPublicId d' (t.map (read ids'))) := by
  obtain ⟨hforce, hname, hpublic, hsystem⟩ := hd
  have hskip := skipSpaces_read t
  have hrest : Whole π ids ids' (t.dropWhile (isSpace ·.face)) := h.dropWhile
  rw [readPublicId, readPublicId, hskip, hskip]
  cases hu : t.dropWhile (isSpace ·.face) with
  | nil => exact ⟨⟨rfl, hname, hpublic, hsystem⟩, [], .nil, rfl, rfl⟩
  | cons g u =>
    rw [hu] at hrest
    simp only [List.map_cons, read_eq_iff (c := '"') (by decide),
      read_eq_iff (c := '\'') (by decide), read_eq_iff (c := '>') (by decide)]
    split
    · next hg =>
      subst hg
      exact ⟨⟨rfl, hname, hpublic, hsystem⟩, u, hrest.tail, rfl, rfl⟩
    · split
      · next hg =>
        obtain ⟨id, id', cut, r, r', hr, hr', hid, b, hb, rfl, rfl⟩ :=
          readIdentifier_twin hg hrest
        rw [hr, hr']
        cases cut with
        | true => exact ⟨⟨rfl, hname, .some hid, hsystem⟩, b, hb, rfl, rfl⟩
        | false =>
          refine readSystemId_twin ?_ false hb
          exact ⟨hforce, hname, .some hid, hsystem⟩
      · exact ⟨⟨rfl, hname, hpublic, hsystem⟩, skipDoctype_twin hrest.toRegular⟩

/-- A text of characters that are no digits is told from texts that differ in digits. -/
theorem eq_iff_of_sameFace {s s' : List Char} (h : List.Forall₂ SameFace s s') :
    ∀ {k : List Char}, (∀ c ∈ k, c ∉ idDigits) → (s = k ↔ s' = k) := by
  induction h with
  | nil => exact fun _ => Iff.rfl
  | @cons c c' s s' hc _ ih =>
    intro k hk
    cases k with
    | nil => exact iff_of_false (List.cons_ne_nil c s) (List.cons_ne_nil c' s')
    | cons x k =>
      rw [List.cons.injEq, List.cons.injEq, hc.eq_iff (hk x (List.mem_cons_self ..)),
        ih fun c hc => hk c (List.mem_cons_of_mem _ hc)]

theorem lowerName_eq_iff {s s' : List Char} (h : List.Forall₂ SameFace s s') {k : List Char}
    (hk : ∀ c ∈ k, c ∉ idDigits) :
    lowerName s = String.ofList k ↔ lowerName s' = String.ofList k := by
  have hlower : List.Forall₂ SameFace (s.map fun c => withoutNull c.toLower)
      (s'.map fun c => withoutNull c.toLower) := sameFace_map (by decide) h
  rw [lowerName, lowerName, String.ofList_inj, String.ofList_inj, eq_iff_of_sameFace hlower hk]

/-- Whether a character belongs to the name of a document type. -/
def inTypeName (c : Char) : Bool := !isSpace c && c ≠ '>'

/-- Reads a document type from one of its keywords on. -/
def readKeyword (d : Doctype) (s : List Char) : Doctype × List Char :=
  match afterKeyword? "PUBLIC".toList s, afterKeyword? "SYSTEM".toList s with
  | some r, _ => readPublicId d r
  | none, some r => readSystemId d true r
  | none, none => ({ d with forceQuirks := true }, skipDoctype s)

/-- Reads a document type from the end of its name on. -/
def readIds (d : Doctype) (s : List Char) : Doctype × List Char :=
  match skipSpaces s with
  | [] => ({ d with forceQuirks := true }, [])
  | '>' :: r => (d, r)
  | r => readKeyword d r

/-- Reads a document type from its name on. -/
def readTypeName (s : List Char) : Doctype × List Char :=
  readIds ⟨some (lowerName (s.takeWhile inTypeName)), none, none, false⟩ (s.dropWhile inTypeName)

theorem readIds_of_cons (d : Doctype) {s r : List Char} {c : Char} (h : skipSpaces s = c :: r) :
    readIds d s = if c = '>' then (d, r) else readKeyword d (c :: r) := by
  rw [readIds, h]
  by_cases hg : c = '>'
  · subst hg
    rfl
  · rw [if_neg hg]
    split
    · next heq => cases heq
    · next heq => exact absurd (List.cons.inj heq).1 hg
    · rfl

theorem readDoctype_of_nil {s : List Char} (h : skipSpaces s = []) :
    readDoctype s = (⟨none, none, none, true⟩, []) := by
  rw [readDoctype, h]

theorem readDoctype_of_cons {s r : List Char} {c : Char} (h : skipSpaces s = c :: r) :
    readDoctype s =
      if c = '>' then (⟨none, none, none, true⟩, r) else readTypeName (c :: r) := by
  rw [readDoctype, h]
  by_cases hg : c = '>'
  · subst hg
    rfl
  · rw [if_neg hg]
    split
    · next heq => cases heq
    · next heq => exact absurd (List.cons.inj heq).1 hg
    · rfl

theorem readKeyword_twin (hd : SameType d d') (h : Whole π ids ids' t)
    (hhead : ∀ g ∈ t.head?, g.isDigit = false) :
    TypeTwin π ids ids' (readKeyword d (t.map (read ids)))
      (readKeyword d' (t.map (read ids'))) := by
  rw [readKeyword, readKeyword]
  obtain ⟨hp, hp'⟩ | ⟨r, r', hp, hp', b, hb, rfl, rfl⟩ :=
    eq_none_or_some_of_rel (afterKeyword?_twin h hhead (show '"' ∉ "PUBLIC".toList by decide))
  · obtain ⟨hs, hs'⟩ | ⟨r, r', hs, hs', b, hb, rfl, rfl⟩ :=
      eq_none_or_some_of_rel (afterKeyword?_twin h hhead (show '"' ∉ "SYSTEM".toList by decide))
    · rw [hp, hp', hs, hs']
      exact ⟨⟨rfl, hd.name, hd.publicId, hd.systemId⟩, skipDoctype_twin h.toRegular⟩
    · rw [hp, hp', hs, hs']
      exact readSystemId_twin hd true hb
  · rw [hp, hp']
    exact readPublicId_twin hd hb

/-- White space is not followed by a digit. -/
theorem isDigit_head?_skipSpaces (h : t.IsChain Joins)
    (hhead : ∀ g ∈ t.head?, g.isDigit = false) :
    ∀ g ∈ (t.dropWhile (isSpace ·.face)).head?, g.isDigit = false := by
  intro g hg
  have hsplit := List.takeWhile_append_dropWhile (p := (isSpace ·.face)) (l := t)
  cases hlast : (t.takeWhile (isSpace ·.face)).getLast? with
  | none =>
    rw [List.getLast?_eq_none_iff] at hlast
    rw [hlast, List.nil_append] at hsplit
    rw [hsplit] at hg
    exact hhead g hg
  | some x =>
    rw [← hsplit] at h
    have hjoin := (List.isChain_append.1 h).2.2 x hlast g hg
    have hspace := List.mem_takeWhile_imp (List.mem_of_getLast? hlast)
    cases g with
    | char d => rfl
    | digit n i =>
      cases x with
      | char c =>
        rw [hjoin.1] at hspace
        exact absurd hspace (by decide)
      | digit m j => exact absurd hspace (show ¬ isSpace '0' = true by decide)

theorem sameType_of_name (t : List Glyph) (force : Bool) :
    SameType ⟨some (lowerName (t.map (read ids))), none, none, force⟩
      ⟨some (lowerName (t.map (read ids'))), none, none, force⟩ := by
  refine ⟨rfl, ?_, .none, .none⟩
  rw [Option.some.injEq, Option.some.injEq]
  exact lowerName_eq_iff (sameFace_map_read t) (k := ['h', 't', 'm', 'l'])
    (notMem_idDigits_of_all (by decide))

theorem readTypeName_twin (h : Whole π ids ids' t) :
    TypeTwin π ids ids' (readTypeName (t.map (read ids))) (readTypeName (t.map (read ids'))) := by
  have hblind : Blind inTypeName := by decide
  have hdrop : Whole π ids ids' (t.dropWhile (inTypeName ·.face)) := h.dropWhile
  have hrest : Whole π ids ids' ((t.dropWhile (inTypeName ·.face)).dropWhile (isSpace ·.face)) :=
    hdrop.dropWhile
  have hhead := isDigit_head?_skipSpaces hdrop.joined fun g =>
    isDigit_eq_false_of_head?_dropWhile (p := inTypeName) rfl
  have hskip := skipSpaces_read (t.dropWhile (inTypeName ·.face))
  have hd (force : Bool) :
      SameType ⟨some (lowerName ((t.takeWhile (inTypeName ·.face)).map (read ids))), none, none, force⟩
        ⟨some (lowerName ((t.takeWhile (inTypeName ·.face)).map (read ids'))), none, none, force⟩ :=
    sameType_of_name _ force
  rw [readTypeName, readTypeName, dropWhile_read hblind, dropWhile_read hblind,
    takeWhile_read hblind, takeWhile_read hblind]
  cases hu : (t.dropWhile (inTypeName ·.face)).dropWhile (isSpace ·.face) with
  | nil =>
    rw [hu] at hskip
    rw [readIds, readIds, hskip, hskip]
    exact ⟨hd true, [], .nil, rfl, rfl⟩
  | cons g u =>
    rw [hu] at hskip hrest hhead
    rw [readIds_of_cons _ (hskip ids), readIds_of_cons _ (hskip ids')]
    simp only [read_eq_iff (c := '>') (by decide)]
    split
    · next hg =>
      subst hg
      exact ⟨hd false, u, hrest.tail, rfl, rfl⟩
    · exact readKeyword_twin (hd false) hrest hhead

theorem readDoctype_twin (h : Whole π ids ids' t) :
    TypeTwin π ids ids' (readDoctype (t.map (read ids))) (readDoctype (t.map (read ids'))) := by
  have hskip := skipSpaces_read t
  have hrest : Whole π ids ids' (t.dropWhile (isSpace ·.face)) := h.dropWhile
  have hnone : SameType ⟨none, none, none, true⟩ ⟨none, none, none, true⟩ :=
    ⟨rfl, Iff.rfl, .none, .none⟩
  cases hu : t.dropWhile (isSpace ·.face) with
  | nil =>
    rw [hu] at hskip
    rw [readDoctype_of_nil (hskip ids), readDoctype_of_nil (hskip ids')]
    exact ⟨hnone, [], .nil, rfl, rfl⟩
  | cons g u =>
    rw [hu] at hskip hrest
    rw [readDoctype_of_cons (hskip ids), readDoctype_of_cons (hskip ids')]
    simp only [read_eq_iff (c := '>') (by decide)]
    split
    · next hg =>
      subst hg
      exact ⟨hnone, u, hrest.tail, rfl, rfl⟩
    · exact readTypeName_twin hrest

end

end Stencil.Html
