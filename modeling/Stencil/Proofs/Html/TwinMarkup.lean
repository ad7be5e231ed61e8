import Stencil.Proofs.Html.TwinDoctypes

/-!
# Markup read with two supplies of identifiers

What follows an opening angle bracket is a comment, a section, a document type, or a tag. Which of
them it is and where it ends is seen from characters that are no digits (`readComment_twin`,
`splitSection_twin`, `readDeclaration_twin`), and a tag has no identifier before its first space
(`Spaced`). So markup is read alike (`readMarkup_twin`).
-/

namespace Stencil.Html

open Glyph

section
variable {π : Equiv.Perm MarkerId} {ids ids' : IdSupply} {t : List Glyph}

/-! ## Comments -/

/-- A comment ends at the same closing bracket, or at the end of the text. -/
theorem readComment_twin (t : List Glyph) : ∀ (place : CommentPlace) (done done' : List Char),
    Regular π ids ids' t → Twin π ids ids' (readComment done place (t.map (read ids))).2
      (readComment done' place (t.map (read ids'))).2 := by
  induction t with
  | nil => exact fun place _ _ _ => by cases place <;> exact ⟨[], .nil, rfl, rfl⟩
  | cons g t ih =>
    intro place done done' h
    have hgo (place : CommentPlace) (done done' : List Char) :=
      ih place done done' (Regular.back (a := [g]) h)
    have hend (hg : g = char '>') : Twin π ids ids' (t.map (read ids)) (t.map (read ids')) :=
      ⟨t, (hg ▸ h).tail, rfl, rfl⟩
    cases place <;> simp only [List.map_cons, readComment, read_eq_iff (c := '-') (by decide),
      read_eq_iff (c := '>') (by decide), read_eq_iff (c := '!') (by decide)]
    case start | startDash | bang =>
      split
      · exact hgo ..
      · split
        · next hg => exact hend hg
        · exact hgo ..
    case inside | dash =>
      split <;> exact hgo ..
    case dashes =>
      split
      · next hg => exact hend hg
      · split
        · exact hgo ..
        · split <;> exact hgo ..

theorem readBogusComment_twin (h : Regular π ids ids' t) :
    TwinResult π ids ids' (readBogusComment (t.map (read ids)))
      (readBogusComment (t.map (read ids'))) :=
  ⟨.cons (like_comment _ _) .nil, skipDoctype_twin h⟩

/-! ## Character data sections -/

theorem splitSection_close (done r : List Char) :
    splitSection done (']' :: ']' :: '>' :: r) = (done.reverse, r) := by
  rw [splitSection]

theorem splitSection_cons (done r : List Char) (c : Char)
    (h : ¬ [']', ']', '>'] <+: c :: r) :
    splitSection done (c :: r) = splitSection (c :: done) r := by
  rw [splitSection]
  intro r' hc hr
  exact h (by rw [hc, hr]; exact List.prefix_append [']', ']', '>'] r')

/-- A word without digits starts a text if its characters stand there as they are. -/
theorem prefix_read_iff (ids : IdSupply) : ∀ {k : List Char} {t : List Glyph},
    (∀ c ∈ k, c ∉ idDigits) → (k <+: t.map (read ids) ↔ k.map char <+: t) := by
  intro k
  induction k with
  | nil => exact fun _ => iff_of_true List.nil_prefix List.nil_prefix
  | cons c k ih =>
    intro t hk
    cases t with
    | nil => exact iff_of_false (by simp) (by simp)
    | cons g t =>
      rw [List.map_cons, List.map_cons, List.cons_prefix_cons, List.cons_prefix_cons, eq_comm,
        read_eq_iff (hk c (List.mem_cons_self ..)),
        ih fun c hc => hk c (List.mem_cons_of_mem _ hc), eq_comm]

/-- A section ends at the same place, and its texts differ in digits. -/
theorem splitSection_twin (t : List Glyph) : ∀ done done' : List Char,
    List.Forall₂ SameFace done done' → Regular π ids ids' t →
    List.Forall₂ SameFace (splitSection done (t.map (read ids))).1
        (splitSection done' (t.map (read ids'))).1 ∧
      Twin π ids ids' (splitSection done (t.map (read ids))).2
        (splitSection done' (t.map (read ids'))).2 := by
  induction t with
  | nil => exact fun done done' hdone _ => ⟨List.rel_reverse hdone, [], .nil, rfl, rfl⟩
  | cons g t ih =>
    intro done done' hdone h
    have hclose (ids : IdSupply) := prefix_read_iff ids (t := g :: t)
      (notMem_idDigits_of_all (k := [']', ']', '>']) (by decide))
    by_cases hstarts : [']', ']', '>'].map char <+: g :: t
    · obtain ⟨b, hb⟩ := hstarts
      rw [← hb] at h ⊢
      have hrest : Whole π ids ids' b := h.tail.tail.tail
      have hread (ids : IdSupply) : ([']', ']', '>'].map char ++ b).map (read ids) =
        ']' :: ']' :: '>' :: b.map (read ids) := rfl
      rw [hread, hread, splitSection_close, splitSection_close]
      exact ⟨List.rel_reverse hdone, b, hrest, rfl, rfl⟩
    · have hnot (ids : IdSupply) : ¬ [']', ']', '>'] <+: g.read ids :: t.map (read ids) :=
        fun hread => hstarts ((hclose ids).1 hread)
      rw [List.map_cons, List.map_cons, splitSection_cons _ _ _ (hnot ids),
        splitSection_cons _ _ _ (hnot ids')]
      exact ih _ _ (.cons (sameFace_read g) hdone) (Regular.back (a := [g]) h)

/-! ## Declarations -/

/-- Reads a declaration that is no comment. -/
def readNoComment (sections : Bool) (s : List Char) : List Lexeme × List Char :=
  match afterKeyword? "DOCTYPE".toList s with
  | some r =>
    let (d, r) := readDoctype r
    ([.doctype d], r)
  | none =>
    if sections ∧ "[CDATA[".toList.isPrefixOf s then
      let (text, r) := splitSection [] (s.drop 7)
      (runs text, r)
    else readBogusComment s

theorem readDeclaration_of_dashes (sections : Bool) (r : List Char) :
    readDeclaration sections ('-' :: '-' :: r) =
      ([.comment (readComment [] .start r).1], (readComment [] .start r).2) := rfl

theorem readDeclaration_of_not_dashes (sections : Bool) {s : List Char}
    (h : ¬ ['-', '-'] <+: s) : readDeclaration sections s = readNoComment sections s := by
  rw [readDeclaration]
  · rfl
  · exact fun r hs => h (hs ▸ List.prefix_append ['-', '-'] r)

theorem like_doctype {d d' : Doctype} (h : SameType d d') : Like π (.doctype d) (.doctype d') := by
  intro skip
  show some (Lexeme.doctype (Sketch.doctype d)) = some (Lexeme.doctype (Sketch.doctype d'))
  rw [Sketch.doctype, Sketch.doctype, h.isQuirky_eq]

theorem readNoComment_twin (sections : Bool) (h : Whole π ids ids' t)
    (hhead : ∀ g ∈ t.head?, g.isDigit = false) :
    TwinResult π ids ids' (readNoComment sections (t.map (read ids)))
      (readNoComment sections (t.map (read ids'))) := by
  rw [readNoComment, readNoComment]
  obtain ⟨hr, hr'⟩ | ⟨r, r', hr, hr', b, hb, rfl, rfl⟩ :=
    eq_none_or_some_of_rel (afterKeyword?_twin h hhead (show '"' ∉ "DOCTYPE".toList by decide))
  · have hopen (ids : IdSupply) := prefix_read_iff ids (t := t)
      (notMem_idDigits_of_all (k := "[CDATA[".toList) (by decide))
    rw [hr, hr']
    simp only [List.isPrefixOf_iff_prefix, hopen]
    split
    · next hsection =>
      obtain ⟨-, b, rfl⟩ := hsection
      have hrest : Regular π ids ids' b := h.toRegular.back
      obtain ⟨htext, hend⟩ := splitSection_twin b [] [] .nil hrest
      have hread (ids : IdSupply) :
          (("[CDATA[".toList.map char ++ b).map (read ids)).drop 7 = b.map (read ids) := by
        rw [List.map_append]
        exact List.drop_left' rfl
      rw [hread, hread]
      exact ⟨runs_like htext, hend⟩
    · exact readBogusComment_twin h.toRegular
  · obtain ⟨htype, hrest⟩ := readDoctype_twin hb
    rw [hr, hr']
    exact ⟨.cons (like_doctype htype) .nil, hrest⟩

theorem readDeclaration_twin (sections : Bool) (h : Whole π ids ids' t)
    (hhead : ∀ g ∈ t.head?, g.isDigit = false) :
    TwinResult π ids ids' (readDeclaration sections (t.map (read ids)))
      (readDeclaration sections (t.map (read ids'))) := by
  have hopen (ids : IdSupply) := prefix_read_iff ids (t := t)
    (notMem_idDigits_of_all (k := ['-', '-']) (by decide))
  by_cases hstarts : ['-', '-'].map char <+: t
  · obtain ⟨b, rfl⟩ := hstarts
    have hread (ids : IdSupply) :
        (['-', '-'].map char ++ b).map (read ids) = '-' :: '-' :: b.map (read ids) := rfl
    rw [hread, hread, readDeclaration_of_dashes, readDeclaration_of_dashes]
    exact ⟨.cons (like_comment _ _) .nil, readComment_twin b _ _ _ h.toRegular.back⟩
  · have hnot (ids : IdSupply) : ¬ ['-', '-'] <+: t.map (read ids) :=
      fun hread => hstarts ((hopen ids).1 hread)
    rw [readDeclaration_of_not_dashes _ (hnot ids), readDeclaration_of_not_dashes _ (hnot ids')]
    exact readNoComment_twin sections h hhead

/-! ## Tags -/

/-- No identifier stands before the first space. -/
def Spaced (t : List Glyph) : Prop :=
  ∀ b n i c, t = b ++ digit n i :: c → char ' ' ∈ b

theorem Regular.spaced_tail (h : Regular π ids ids' (char '<' :: t)) : Spaced t := by
  intro b n i c ht
  refine h.spaced [] b n i c ?_
  rw [List.nil_append, ht]

theorem Spaced.tail {c : Char} (h : Spaced (char c :: t)) (hc : c ≠ ' ') : Spaced t := by
  intro b n i a ht
  have hmem := h (char c :: b) n i a (by rw [List.cons_append, ht])
  rw [List.mem_cons, char.injEq] at hmem
  exact hmem.resolve_left fun he => hc he.symm

theorem Spaced.isDigit_eq_false (h : Spaced t) {p : Char → Bool} (hp : p ' ' = false) :
    ∀ g ∈ t.takeWhile (p ·.face), g.isDigit = false := by
  intro g hg
  cases g with
  | char c => rfl
  | digit n i =>
    obtain ⟨a, b, hab⟩ := List.append_of_mem hg
    have hsplit := List.takeWhile_append_dropWhile (p := (p ·.face)) (l := t)
    rw [hab, List.append_assoc, List.cons_append] at hsplit
    have hmem : char ' ' ∈ t.takeWhile (p ·.face) := by
      rw [hab]
      exact List.mem_append_left _ (h a n i _ hsplit.symm)
    have hspace : p (char ' ').face = true := (List.mem_takeWhile_imp hmem :)
    rw [face, hp] at hspace
    cases hspace

/-- Reads a start tag from its name on. -/
def readStartTag (s : List Char) : List Lexeme × List Char :=
  match readTag s with
  | some (tag, r) => ([.startTag tag], r)
  | none => ([], [])

/-- Reads an end tag from its name on. -/
def readEndTagName (s : List Char) : List Lexeme × List Char :=
  match readTag s with
  | some (tag, r) => ([.endTag tag.name], r)
  | none => ([], [])

theorem readStartTag_twin (h : Whole π ids ids' t) (hs : Spaced t) :
    TwinResult π ids ids' (readStartTag (t.map (read ids))) (readStartTag (t.map (read ids'))) := by
  rw [readStartTag, readStartTag]
  obtain ⟨hr, hr'⟩ | ⟨⟨tag, r⟩, ⟨tag', r'⟩, hr, hr', htag, hrest⟩ :=
    eq_none_or_some_of_rel (readTag_twin h (hs.isDigit_eq_false (p := inTagName) rfl))
  · rw [hr, hr']
    exact ⟨.nil, [], .nil, rfl, rfl⟩
  · rw [hr, hr']
    refine ⟨.cons (fun skip => ?_) .nil, hrest⟩
    show some (Lexeme.startTag ((Sketch.renamed π).tag tag)) =
      some (Lexeme.startTag (Sketch.textless.tag tag'))
    rw [Sketch.textless_tag]
    exact congrArg (some ∘ Lexeme.startTag) htag

theorem readEndTagName_twin (h : Whole π ids ids' t) (hs : Spaced t) :
    TwinResult π ids ids' (readEndTagName (t.map (read ids)))
      (readEndTagName (t.map (read ids'))) := by
  rw [readEndTagName, readEndTagName]
  obtain ⟨hr, hr'⟩ | ⟨⟨tag, r⟩, ⟨tag', r'⟩, hr, hr', htag, hrest⟩ :=
    eq_none_or_some_of_rel (readTag_twin h (hs.isDigit_eq_false (p := inTagName) rfl))
  · rw [hr, hr']
    exact ⟨.nil, [], .nil, rfl, rfl⟩
  · have hname : ((Sketch.renamed π).tag tag).name = tag'.name := congrArg Tag.name htag
    rw [hr, hr']
    dsimp only
    rw [← hname]
    exact ⟨.cons (like_endTag _) .nil, hrest⟩

/-! ## Markup -/

/-- Reads what follows an opening angle bracket and a slash. -/
def readClose : List Char → List Lexeme × List Char
  | [] => ([.text "</"], [])
  | c :: r =>
    if c = '>' then ([], r)
    else if isLetter c then readEndTagName (c :: r)
    else readBogusComment (c :: r)

theorem readMarkup_cons (sections : Bool) (c : Char) (r : List Char) :
    readMarkup sections (c :: r) =
      if c = '!' then readDeclaration sections r
      else if c = '?' then readBogusComment ('?' :: r)
      else if c = '/' then readClose r
      else if isLetter c then readStartTag (c :: r)
      else ([.text "<"], c :: r) := by
  by_cases hbang : c = '!'
  · subst hbang
    rfl
  · by_cases hask : c = '?'
    · subst hask
      rfl
    · by_cases hslash : c = '/'
      · subst hslash
        cases r with
        | nil => rfl
        | cons d r =>
          by_cases hd : d = '>'
          · subst hd
            rfl
          · rw [if_neg hbang, if_neg hask, if_pos rfl, readClose, if_neg hd, readMarkup]
            · rfl
            · exact hd
      · rw [if_neg hbang, if_neg hask, if_neg hslash, readMarkup]
        · rfl
        · exact hbang
        · exact hask
        · exact fun _ hc => absurd hc hslash
        · exact fun _ _ hc => absurd hc hslash
        · exact fun hc => absurd hc hslash

theorem readClose_twin (h : Regular π ids ids' (char '<' :: char '/' :: t)) :
    TwinResult π ids ids' (readClose (t.map (read ids))) (readClose (t.map (read ids'))) := by
  have hrest : Whole π ids ids' t := h.tail.toRegular.tail
  cases t with
  | nil => exact ⟨.cons (like_text (sameFace_refl "</".toList)) .nil, [], .nil, rfl, rfl⟩
  | cons g t =>
    obtain ⟨c, rfl⟩ := exists_char_of_isDigit_eq_false
      (h.tail.toRegular.isDigit_head?_tail (by decide) g rfl)
    rw [List.map_cons, List.map_cons, Glyph.read, Glyph.read, readClose, readClose]
    split
    · exact ⟨.nil, t, hrest.toRegular.tail, rfl, rfl⟩
    · split
      · exact readEndTagName_twin hrest (h.spaced_tail.tail (by decide))
      · exact readBogusComment_twin hrest.toRegular

theorem readMarkup_twin (sections : Bool) (h : Regular π ids ids' (char '<' :: t)) :
    TwinResult π ids ids' (readMarkup sections (t.map (read ids)))
      (readMarkup sections (t.map (read ids'))) := by
  have hrest : Whole π ids ids' t := h.tail
  have htext : List.Forall₂ (Like π) [.text "<"] [.text "<"] :=
    .cons (like_text (sameFace_refl "<".toList)) .nil
  cases t with
  | nil => exact ⟨htext, [], .nil, rfl, rfl⟩
  | cons g t =>
    obtain ⟨c, rfl⟩ := exists_char_of_isDigit_eq_false (h.isDigit_head?_tail (by decide) g rfl)
    rw [List.map_cons, List.map_cons, Glyph.read, Glyph.read, readMarkup_cons, readMarkup_cons]
    split
    · next hbang =>
      exact readDeclaration_twin sections hrest.toRegular.tail
        (hrest.toRegular.isDigit_head?_tail (by rw [hbang]; decide))
    · split
      · next hask =>
        rw [hask] at hrest
        exact readBogusComment_twin hrest.toRegular
      · split
        · next hslash =>
          rw [hslash] at h
          exact readClose_twin h
        · split
          · exact readStartTag_twin hrest h.spaced_tail
          · exact ⟨htext, _, hrest, rfl, rfl⟩

end

end Stencil.Html
