import Stencil.Proofs.Html.TwinMarkup

/-!
# Lexemes taken with two supplies of identifiers

In an element whose content is text the lexer looks for the end tag, and in a script for comments as
well. Both look at the names after angle brackets, where no identifier is, so a text is cut at the
same place in every reading (`splitRaw_read`, `scriptCut`). With the other content models this gives
`next_twin`: the next lexemes of two twins are alike and leave twins.
-/

namespace Stencil.Html

open Glyph

section
variable {π : Equiv.Perm MarkerId} {ids ids' : IdSupply} {t : List Glyph}

/-! ## Names of tags -/

/-- Whether a text goes on with a name and a sign that ends it. -/
def startsName (name s : List Char) : Bool :=
  (s.take name.length).map Char.toLower = name &&
    (s.drop name.length).head?.any fun c => isSpace c || c == '/' || c == '>'

theorem match_head? (p : Char → Bool) (s : List Char) :
    (match s with
      | c :: _ => p c
      | [] => false) = s.head?.any p := by
  cases s <;> rfl

theorem isEndTag_eq (name s : List Char) :
    isEndTag name s = (decide (s.head? = some '/') && startsName name (s.drop 1)) := by
  cases s with
  | nil => rfl
  | cons c r =>
    by_cases hc : c = '/'
    · subst hc
      exact congrArg (decide ((r.take name.length).map Char.toLower = name) && ·)
        (match_head? _ (r.drop name.length))
    · rw [isEndTag]
      · simp [hc]
      · exact fun r hr => hc (List.cons.inj hr).1

theorem isScriptWord_eq (s : List Char) : isScriptWord s = startsName "script".toList s :=
  congrArg (decide ((s.take 6).map Char.toLower = "script".toList) && ·)
    (match_head? _ (s.drop 6))

theorem Spaced.opens (h : Spaced t) : ∃ u b, Opens ' ' t u b := by
  have hchars := h.isDigit_eq_false (p := fun c => decide (c ≠ ' ')) rfl
  obtain ⟨u, hu⟩ := exists_map_char hchars
  have hsplit := (List.takeWhile_append_dropWhile (p := fun g : Glyph => decide (g.face ≠ ' '))
    (l := t)).symm
  rw [hu] at hsplit
  exact ⟨u, _, hsplit, dropWhile_face_ne (by decide) t⟩

theorem startsName_read (h : Spaced t) {name : List Char} (hname : ' ' ∉ name)
    (ids ids' : IdSupply) :
    startsName name (t.map (read ids)) = startsName name (t.map (read ids')) := by
  obtain ⟨u, b, ht⟩ := h.opens
  have hspace : Char.toLower ' ' ∉ name := hname
  have hread (ids : IdSupply) : startsName name (t.map (read ids)) = true ↔
      name <+: u.map Char.toLower ∧
        (((u.drop name.length).head?.or (b.head?.map Glyph.face)).any fun c =>
          isSpace c || c == '/' || c == '>') = true := by
    rw [startsName, Bool.and_eq_true, decide_eq_true_iff, take_map_eq_iff, ht.prefix_iff hspace]
    refine and_congr_right fun hstarts => ?_
    have hlength := hstarts.length_le
    rw [List.length_map] at hlength
    have hhead : (b.map (Glyph.read ids)).head? = b.head?.map Glyph.face := by
      rcases ht.stop with hb | ⟨b', hb⟩ <;> rw [hb] <;> rfl
    rw [(ht.read ids).1, List.drop_append_of_le_length hlength, List.head?_append, hhead]
  rw [Bool.eq_iff_iff, hread, hread]

theorem isEndTag_read_iff {name : List Char} {ids : IdSupply} :
    isEndTag name (t.map (read ids)) = true ↔
      ∃ b, t = char '/' :: b ∧ startsName name (b.map (read ids)) = true := by
  rw [isEndTag_eq, Bool.and_eq_true, decide_eq_true_iff, head?_read (by decide),
    List.head?_eq_some_iff, ← exists_and_right]
  refine exists_congr fun b => and_congr_right fun ht => ?_
  rw [ht, List.map_cons, List.drop_one, List.tail_cons]

theorem isEndTag_read (h : Spaced t) {name : List Char} (hname : ' ' ∉ name)
    (ids ids' : IdSupply) :
    isEndTag name (t.map (read ids)) = isEndTag name (t.map (read ids')) := by
  rw [Bool.eq_iff_iff, isEndTag_read_iff, isEndTag_read_iff]
  refine exists_congr fun b => and_congr_right fun ht => ?_
  rw [ht] at h
  rw [startsName_read (h.tail (by decide)) hname ids ids']

/-! ## Texts without markup -/

/-- No identifier belongs to the name of a tag. -/
def Clear (t : List Glyph) : Prop := ∀ a b, t = a ++ char '<' :: b → Spaced b

theorem Regular.clear (h : Regular π ids ids' t) : Clear t := by
  rintro a b rfl
  exact Regular.spaced_tail h.back

/-- The text is at its end, or an end tag follows. -/
def AtEndTag (t : List Glyph) : Prop := t = [] ∨ ∃ b, t = char '<' :: char '/' :: b

/-- A text is cut before an end tag, in every reading at the same place. -/
theorem splitRaw_read {name : List Char} (hname : ' ' ∉ name) : ∀ {t : List Glyph}, Clear t →
    ∃ a b, t = a ++ b ∧ AtEndTag b ∧ ∀ ids done, splitRaw name done (t.map (read ids)) =
      (done.reverse ++ a.map (read ids), b.map (read ids)) := by
  intro t
  induction t with
  | nil =>
    refine fun _ => ⟨[], [], rfl, .inl rfl, fun ids done => ?_⟩
    rw [List.map_nil, splitRaw, List.append_nil]
  | cons g t ih =>
    intro h
    by_cases hend : g = char '<' ∧ ∃ ids, isEndTag name (t.map (read ids)) = true
    · obtain ⟨rfl, ids₀, hend⟩ := hend
      obtain ⟨b, rfl, -⟩ := isEndTag_read_iff.1 hend
      refine ⟨[], _, rfl, .inr ⟨b, rfl⟩, fun ids done => ?_⟩
      rw [isEndTag_read (h [] _ rfl) hname ids₀ ids] at hend
      rw [List.map_cons, splitRaw, if_pos ⟨rfl, hend⟩, List.map_nil, List.append_nil]
    · obtain ⟨a, b, ht, hb, hread⟩ := ih fun a b ht => h (g :: a) b (ht ▸ rfl)
      refine ⟨g :: a, b, ht ▸ rfl, hb, fun ids done => ?_⟩
      have hnot : ¬ (g.read ids = '<' ∧ isEndTag name (t.map (read ids)) = true) :=
        fun hboth => hend ⟨(read_eq_iff (by decide)).1 hboth.1, ids, hboth.2⟩
      rw [List.map_cons, splitRaw, if_neg hnot, hread, List.reverse_cons, List.append_assoc]
      rfl

/-! ## Scripts -/

theorem map_read_eq_iff {k : List Char} (hk : ∀ c ∈ k, c ∉ idDigits) :
    t.map (read ids) = k ↔ t = k.map char := by
  refine ⟨fun h => ?_, fun h => ?_⟩
  · have hstarts : k <+: t.map (read ids) := h ▸ List.prefix_rfl
    rw [prefix_read_iff ids hk] at hstarts
    refine (hstarts.eq_of_length ?_).symm
    rw [← h, List.length_map, List.length_map]
  · rw [h, map_read_char]

/-- What is the same in every reading has a value. -/
theorem exists_eq_of_uniform {P : Prop} {f : IdSupply → Bool} (h : P → ∀ ids ids', f ids = f ids') :
    ∃ e, P → ∀ ids, f ids = e :=
  ⟨f fun _ => .ofNat 0, fun hP ids => h hP ids _⟩

/-- After the characters `d`, the last of them first, a script is cut before an end tag or at the
end of the text, in every reading at the same place. -/
def ScriptCut (d : List Glyph) (place : ScriptPlace) (t : List Glyph) : Prop :=
  ∃ a b, t = a ++ b ∧ AtEndTag b ∧ ∀ ids, splitScript (d.map (read ids)) place (t.map (read ids)) =
    ((d.map (read ids)).reverse ++ a.map (read ids), b.map (read ids))

section
variable {d : List Glyph} {place : ScriptPlace} {g : Glyph}

theorem ScriptCut.go {place' : ScriptPlace} (h : ScriptCut (g :: d) place' t)
    (hstep : ∀ ids, splitScript (d.map (read ids)) place ((g :: t).map (read ids)) =
      splitScript ((g :: d).map (read ids)) place' (t.map (read ids))) :
    ScriptCut d place (g :: t) := by
  obtain ⟨a, b, ht, hb, hread⟩ := h
  refine ⟨g :: a, b, ht ▸ rfl, hb, fun ids => ?_⟩
  rw [hstep, hread, List.map_cons, List.reverse_cons, List.append_assoc]
  rfl

theorem ScriptCut.stop (hend : AtEndTag t)
    (hstep : ∀ ids, splitScript (d.map (read ids)) place (t.map (read ids)) =
      ((d.map (read ids)).reverse, t.map (read ids))) : ScriptCut d place t := by
  refine ⟨[], t, rfl, hend, fun ids => ?_⟩
  rw [hstep, List.map_nil, List.append_nil]

theorem Clear.spaced_tail (h : Clear (d.reverse ++ g :: t)) (hg : g = char '<') : Spaced t :=
  h d.reverse t (hg ▸ rfl)

theorem Clear.spaced_tail_of_slash (h : Clear (d.reverse ++ g :: t))
    (hg : g = char '/' ∧ d.head? = some (char '<')) : Spaced t := by
  obtain ⟨d', hd⟩ := List.head?_eq_some_iff.1 hg.2
  refine (h d'.reverse (char '/' :: t) ?_).tail (by decide)
  rw [hd, hg.1, List.reverse_cons, List.append_assoc]
  rfl

/-- Whether an end tag of a script follows is the same in every reading. -/
theorem Clear.exists_isEndTag (h : Clear (d.reverse ++ g :: t)) :
    ∃ ends : Bool, (g = char '<' → ∀ ids, isEndTag "script".toList (t.map (read ids)) = ends) ∧
      (g = char '<' ∧ ends = true → AtEndTag (g :: t)) := by
  obtain ⟨ends, hends⟩ := exists_eq_of_uniform fun hg =>
    isEndTag_read (h.spaced_tail hg) (show ' ' ∉ "script".toList by decide)
  refine ⟨ends, hends, fun ⟨hg, htrue⟩ => ?_⟩
  have hend := hends hg fun _ => .ofNat 0
  rw [htrue, isEndTag_read_iff] at hend
  obtain ⟨b, hb, -⟩ := hend
  exact .inr ⟨b, by rw [hg, hb]⟩

theorem ScriptCut.outside (h : Clear (d.reverse ++ g :: t))
    (ih : ∀ place, ScriptCut (g :: d) place t) : ScriptCut d .outside (g :: t) := by
  obtain ⟨ends, hends, hstop⟩ := h.exists_isEndTag
  have hstep (ids : IdSupply) :
      splitScript (d.map (read ids)) .outside ((g :: t).map (read ids)) =
        if g = char '<' ∧ ends = true then ((d.map (read ids)).reverse, (g :: t).map (read ids))
        else if g = char '-' ∧ d.take 3 = ['-', '!', '<'].map char then
          splitScript ((g :: d).map (read ids)) (.comment 2) (t.map (read ids))
        else splitScript ((g :: d).map (read ids)) .outside (t.map (read ids)) := by
    have htake : (d.map (read ids)).take 3 = ['-', '!', '<'] ↔
        d.take 3 = ['-', '!', '<'].map char := by
      rw [← List.map_take, map_read_eq_iff (notMem_idDigits_of_all (by decide))]
    rw [List.map_cons, splitScript]
    refine if_congr ((and_congr_left' (read_eq_iff (by decide))).trans
      (and_congr_right fun hg => ?_)) rfl
      (if_congr (and_congr (read_eq_iff (by decide)) htake) rfl rfl)
    rw [hends hg]
  split at hstep
  · next hg => exact .stop (hstop hg) hstep
  · split at hstep <;> exact (ih _).go hstep

theorem ScriptCut.comment (h : Clear (d.reverse ++ g :: t)) (dashes : Nat)
    (ih : ∀ place, ScriptCut (g :: d) place t) : ScriptCut d (.comment dashes) (g :: t) := by
  obtain ⟨ends, hends, hstop⟩ := h.exists_isEndTag
  obtain ⟨word, hword⟩ := exists_eq_of_uniform fun hg =>
    startsName_read (h.spaced_tail hg) (show ' ' ∉ "script".toList by decide)
  have hstep (ids : IdSupply) :
      splitScript (d.map (read ids)) (.comment dashes) ((g :: t).map (read ids)) =
        if g = char '<' then
          if ends = true then ((d.map (read ids)).reverse, (g :: t).map (read ids))
          else if word = true then
            splitScript ((g :: d).map (read ids)) (.inner 0) (t.map (read ids))
          else splitScript ((g :: d).map (read ids)) (.comment 0) (t.map (read ids))
        else if g = char '>' ∧ 2 ≤ dashes then
          splitScript ((g :: d).map (read ids)) .outside (t.map (read ids))
        else if g = char '-' then
          splitScript ((g :: d).map (read ids)) (.comment (dashes + 1)) (t.map (read ids))
        else splitScript ((g :: d).map (read ids)) (.comment 0) (t.map (read ids)) := by
    rw [List.map_cons, splitScript]
    refine ite_congr (propext (read_eq_iff (by decide))) (fun hg => ?_) fun _ => ?_
    · rw [hends hg, isScriptWord_eq, hword hg]
      rfl
    · exact if_congr (and_congr_left' (read_eq_iff (by decide))) rfl
        (if_congr (read_eq_iff (by decide)) rfl rfl)
  split at hstep
  · next hg =>
    split at hstep
    · next he => exact .stop (hstop ⟨hg, he⟩) hstep
    · split at hstep <;> exact (ih _).go hstep
  · split at hstep
    · exact (ih _).go hstep
    · split at hstep <;> exact (ih _).go hstep

theorem ScriptCut.inner (h : Clear (d.reverse ++ g :: t)) (dashes : Nat)
    (ih : ∀ place, ScriptCut (g :: d) place t) : ScriptCut d (.inner dashes) (g :: t) := by
  obtain ⟨word, hword⟩ := exists_eq_of_uniform fun hg =>
    startsName_read (h.spaced_tail_of_slash hg) (show ' ' ∉ "script".toList by decide)
  have hstep (ids : IdSupply) :
      splitScript (d.map (read ids)) (.inner dashes) ((g :: t).map (read ids)) =
        if (g = char '/' ∧ d.head? = some (char '<')) ∧ word = true then
          splitScript ((g :: d).map (read ids)) (.comment 0) (t.map (read ids))
        else if g = char '>' ∧ 2 ≤ dashes then
          splitScript ((g :: d).map (read ids)) .outside (t.map (read ids))
        else if g = char '-' then
          splitScript ((g :: d).map (read ids)) (.inner (dashes + 1)) (t.map (read ids))
        else splitScript ((g :: d).map (read ids)) (.inner 0) (t.map (read ids)) := by
    rw [List.map_cons, splitScript, isScriptWord_eq]
    refine if_congr (and_assoc.symm.trans ((and_congr_left' (and_congr (read_eq_iff (by decide))
      (head?_read (by decide) d))).trans (and_congr_right fun hg => ?_))) rfl
      (if_congr (and_congr_left' (read_eq_iff (by decide))) rfl
        (if_congr (read_eq_iff (by decide)) rfl rfl))
    rw [hword hg]
  split at hstep
  · exact (ih _).go hstep
  · split at hstep
    · exact (ih _).go hstep
    · split at hstep <;> exact (ih _).go hstep

end

theorem scriptCut : ∀ {t d : List Glyph} (place : ScriptPlace), Clear (d.reverse ++ t) →
    ScriptCut d place t := by
  intro t
  induction t with
  | nil =>
    refine fun place _ => .stop (.inl rfl) fun ids => ?_
    cases place <;> rw [List.map_nil, splitScript]
  | cons g t ih =>
    intro d place h
    have hnext (place : ScriptPlace) : ScriptCut (g :: d) place t :=
      ih place (by rwa [List.reverse_cons, List.append_assoc])
    cases place with
    | outside => exact .outside h hnext
    | comment dashes => exact .comment h dashes hnext
    | inner dashes => exact .inner h dashes hnext

/-! ## The next lexemes -/

/-- Where a text may be cut before an end tag, both parts are whole. -/
theorem Whole.cut {a b : List Glyph} (h : Whole π ids ids' (a ++ b)) (hb : AtEndTag b) :
    Whole π ids ids' a ∧ Whole π ids ids' b := by
  have hcut : ∀ x ∈ a.getLast?, ∀ y ∈ b.head?, x.isDigit = true → y.isDigit = false := by
    intro _ _ y hy _
    rcases hb with rfl | ⟨b, rfl⟩
    · cases hy
    · cases hy
      rfl
  exact ⟨h.front hcut, h.back hcut⟩

theorem readEndTag_twin {b : List Glyph} (h : Whole π ids ids' b) (hb : AtEndTag b) :
    TwinResult π ids ids' (readEndTag (b.map (read ids))) (readEndTag (b.map (read ids'))) := by
  rcases hb with rfl | ⟨b, rfl⟩
  · exact ⟨.nil, [], .nil, rfl, rfl⟩
  · exact readEndTagName_twin h.toRegular.tail.toRegular.tail
      (h.toRegular.spaced_tail.tail (by decide))

theorem withEndTag_twin {text text' : List Char} {b : List Glyph}
    (htext : List.Forall₂ SameFace text text') (h : Whole π ids ids' b) (hb : AtEndTag b) :
    TwinResult π ids ids' (withEndTag text (b.map (read ids)))
      (withEndTag text' (b.map (read ids'))) := by
  obtain ⟨hclose, hrest⟩ := readEndTag_twin h hb
  exact ⟨List.rel_append (rawText_like htext) hclose, hrest⟩

theorem next_data_cons (sections : Bool) (c : Char) (r : List Char) :
    next .data sections (c :: r) =
      if c = '<' then readMarkup sections r
      else if c = '&' then
        match readReference false r with
        | some (chars, rest) => (runs chars, rest)
        | none => ([.text "&"], r)
      else readRun c r := by
  by_cases hopen : c = '<'
  · subst hopen
    rfl
  · by_cases hand : c = '&'
    · subst hand
      rfl
    · rw [if_neg hopen, if_neg hand, next]
      · exact hopen
      · exact hand

theorem next_data_twin (sections : Bool) (h : Whole π ids ids' t) :
    TwinResult π ids ids' (next .data sections (t.map (read ids)))
      (next .data sections (t.map (read ids'))) := by
  cases t with
  | nil => exact ⟨.nil, [], .nil, rfl, rfl⟩
  | cons g t =>
    rw [List.map_cons, List.map_cons, next_data_cons, next_data_cons]
    simp only [read_eq_iff (c := '<') (by decide), read_eq_iff (c := '&') (by decide)]
    split
    · next hg =>
      rw [hg] at h
      exact readMarkup_twin sections h.toRegular
    · split
      · next hg =>
        rw [hg] at h
        obtain ⟨hr, hr'⟩ | ⟨⟨cs, r⟩, ⟨cs', r'⟩, hr, hr', hcs, hrest⟩ :=
          eq_none_or_some_of_rel (readReference_twin false h.toRegular)
        · rw [hr, hr']
          exact ⟨.cons (like_text (sameFace_refl ['&'])) .nil, t, h.toRegular.tail, rfl, rfl⟩
        · rw [hr, hr']
          dsimp only at hcs ⊢
          rw [hcs]
          exact ⟨runs_like (sameFace_refl cs'), hrest⟩
      · exact readRun_twin h

/-- The names that a content model holds are those of elements whose content is text. -/
def IsKnown : ContentModel → Prop
  | .escapable name | .raw name => name ∈ textNames
  | .data | .script | .plaintext => True

theorem space_notMem_of_mem_textNames {name : String} (h : name ∈ textNames) :
    ' ' ∉ name.toList := by
  have hall : textNames.all (fun name => !name.toList.contains ' ') = true := by decide
  intro hmem
  have hnot := List.all_eq_true.1 hall name h
  rw [List.contains_iff_mem.2 hmem] at hnot
  cases hnot

/-- The next lexemes of two readings are alike, and the rests are two readings again. -/
theorem next_twin {model : ContentModel} (hm : IsKnown model) (sections : Bool)
    (h : Whole π ids ids' t) :
    TwinResult π ids ids' (next model sections (t.map (read ids)))
      (next model sections (t.map (read ids'))) := by
  cases model with
  | data => exact next_data_twin sections h
  | escapable name =>
    obtain ⟨a, b, rfl, hb, hread⟩ :=
      splitRaw_read (space_notMem_of_mem_textNames hm) h.toRegular.clear
    obtain ⟨ha, hb'⟩ := h.cut hb
    rw [next, next, hread, hread]
    exact withEndTag_twin (ha.sameFace_expand false) hb' hb
  | raw name =>
    obtain ⟨a, b, rfl, hb, hread⟩ :=
      splitRaw_read (space_notMem_of_mem_textNames hm) h.toRegular.clear
    rw [next, next, hread, hread]
    exact withEndTag_twin (withoutNull_sameFace (sameFace_map_read a)) (h.cut hb).2 hb
  | script =>
    obtain ⟨a, b, rfl, hb, hread⟩ := scriptCut (d := []) .outside h.toRegular.clear
    have hsplit (ids : IdSupply) : splitScript [] .outside ((a ++ b).map (read ids)) =
        (a.map (read ids), b.map (read ids)) := hread ids
    rw [next, next, hsplit, hsplit]
    exact withEndTag_twin (withoutNull_sameFace (sameFace_map_read a)) (h.cut hb).2 hb
  | plaintext =>
    exact ⟨runs_like (withoutNull_sameFace (sameFace_map_read t)), [], .nil, rfl, rfl⟩

end

end Stencil.Html
