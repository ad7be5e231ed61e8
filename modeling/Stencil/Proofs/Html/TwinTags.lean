import Stencil.Proofs.Html.TwinTexts

/-!
# Tags read with two supplies of identifiers

In a tag identifiers are found in the names and values of attributes, and there they follow the
renaming: for one value (`readValue_twin`), for one attribute (`readAttribute_twin`) and for all up
to the end of the tag (`readAttributes_twin`). No identifier is in the name of a tag, so two twins
are tags of the same name (`readTag_twin`). The functions are first brought to a form that branches
on one character (`readAttributes_of_cons`), which is the same in both readings.
-/

namespace Stencil.Html

open Glyph

/-! ## Reading by the first character -/

/-- A value in quotation marks, and the rest. -/
def readQuoted (quote : Char) (s : List Char) : Option (String × List Char) :=
  match s.dropWhile (· ≠ quote) with
  | [] => none
  | _ :: rest => some (String.ofList (expand true (s.takeWhile (· ≠ quote))), rest)

/-- Whether a character belongs to a value without quotation marks. -/
def inValue (c : Char) : Bool := !isSpace c && c ≠ '>'

theorem readValue_of_nil {s : List Char} (h : skipSpaces s = []) : readValue s = none := by
  rw [readValue, h]

theorem readValue_of_cons {s r : List Char} {c : Char} (h : skipSpaces s = c :: r) :
    readValue s =
      if c = '"' then readQuoted '"' r
      else if c = '\'' then readQuoted '\'' r
      else if c = '>' then some ("", '>' :: r)
      else some (String.ofList (expand true ((c :: r).takeWhile inValue)),
        (c :: r).dropWhile inValue) := by
  rw [readValue, h]
  by_cases hd : c = '"'
  · subst hd
    rfl
  · by_cases hs : c = '\''
    · subst hs
      rfl
    · by_cases hg : c = '>'
      · subst hg
        rfl
      · rw [if_neg hd, if_neg hs, if_neg hg]
        split
        · next heq => cases heq
        · next heq => exact absurd (List.cons.inj heq).1 hd
        · next heq => exact absurd (List.cons.inj heq).1 hs
        · next heq => exact absurd (List.cons.inj heq).1 hg
        · rfl

section
variable {π : Equiv.Perm MarkerId} {ids ids' : IdSupply} {t : List Glyph}

theorem skipSpaces_read (t : List Glyph) (ids : IdSupply) :
    skipSpaces (t.map (read ids)) = (t.dropWhile (isSpace ·.face)).map (read ids) :=
  dropWhile_read (by decide) t

/-- Two results of reading a value: the value follows the renaming. -/
def ValueTwin (π : Equiv.Perm MarkerId) (ids ids' : IdSupply) :
    Option (String × List Char) → Option (String × List Char) → Prop :=
  Option.Rel fun v v' => (Sketch.renamed π).word v.1 = v'.1 ∧ Twin π ids ids' v.2 v'.2

theorem readQuoted_twin (h : Whole π ids ids' t) {quote : Char} (hq : quote ∉ idDigits) :
    ValueTwin π ids ids' (readQuoted quote (t.map (read ids)))
      (readQuoted quote (t.map (read ids'))) := by
  have hblind := blind_ne hq
  rw [readQuoted, readQuoted, dropWhile_read hblind, dropWhile_read hblind, takeWhile_read hblind,
    takeWhile_read hblind]
  have hdrop := h.dropWhile (p := fun c => decide (c ≠ quote))
  have htake := h.takeWhile (p := fun c => decide (c ≠ quote))
  obtain hb | ⟨b, hb⟩ := dropWhile_face_ne hq t
  · rw [hb]
    exact .none
  · rw [hb] at hdrop ⊢
    exact .some ⟨htake.word_expand, b, hdrop.tail, rfl, rfl⟩

theorem readValue_twin (h : Whole π ids ids' t) :
    ValueTwin π ids ids' (readValue (t.map (read ids))) (readValue (t.map (read ids'))) := by
  have hskip := skipSpaces_read t
  have hrest : Whole π ids ids' (t.dropWhile (isSpace ·.face)) := h.dropWhile
  cases hu : t.dropWhile (isSpace ·.face) with
  | nil =>
    rw [hu] at hskip
    rw [readValue_of_nil (hskip ids), readValue_of_nil (hskip ids')]
    exact .none
  | cons g u =>
    rw [hu] at hskip hrest
    rw [readValue_of_cons (hskip ids), readValue_of_cons (hskip ids')]
    simp only [read_eq_iff (c := '"') (by decide), read_eq_iff (c := '\'') (by decide),
      read_eq_iff (c := '>') (by decide)]
    split
    · next hg =>
      subst hg
      exact readQuoted_twin hrest.tail (by decide)
    · split
      · next hg =>
        subst hg
        exact readQuoted_twin hrest.tail (by decide)
      · split
        · next hg =>
          subst hg
          exact .some ⟨(Sketch.renamed π).short "" (by decide), _, hrest, rfl, rfl⟩
        · have hblind : Blind inValue := by decide
          rw [← List.map_cons, ← List.map_cons, takeWhile_read hblind, takeWhile_read hblind,
            dropWhile_read hblind, dropWhile_read hblind]
          exact .some ⟨hrest.takeWhile.word_expand, _, hrest.dropWhile, rfl, rfl⟩

end

/-! ## Attributes -/

/-- Reads an attribute and the ones after it. -/
def readAttribute (n : Nat) (attributes : List (String × String)) (s : List Char) :
    Option TagEnd :=
  let (name, r) := readAttributeName s
  match skipSpaces r with
  | '=' :: r =>
    match readValue r with
    | none => none
    | some (value, r) => readAttributes n (addAttribute name value attributes) r
  | r => readAttributes n (addAttribute name "" attributes) r

section
variable (n : Nat) (attributes : List (String × String))

theorem readAttributes_of_nil {s : List Char} (h : skipSpaces s = []) :
    readAttributes (n + 1) attributes s = none := by
  rw [readAttributes, h]

theorem readAttributes_of_cons {s r : List Char} {c : Char} (h : skipSpaces s = c :: r) :
    readAttributes (n + 1) attributes s =
      if c = '>' then some ⟨attributes, false, r⟩
      else if c = '/' then
        if r.head? = some '>' then some ⟨attributes, true, r.drop 1⟩
        else readAttributes n attributes r
      else readAttribute n attributes (c :: r) := by
  rw [readAttributes, h]
  by_cases hg : c = '>'
  · subst hg
    rfl
  · rw [if_neg hg]
    by_cases hs : c = '/'
    · subst hs
      rw [if_pos rfl]
      cases r with
      | nil => rfl
      | cons d r =>
        by_cases hd : d = '>'
        · subst hd
          rfl
        · rw [if_neg (by simpa using hd)]
          split
          · next heq => cases heq
          · next heq => cases heq
          · next heq => exact absurd (List.cons.inj (List.cons.inj heq).2).1 hd
          · next heq => rw [(List.cons.inj heq).2]
          · next heq => exact absurd rfl (heq _)
    · rw [if_neg hs]
      split
      · next heq => cases heq
      · next heq => exact absurd (List.cons.inj heq).1 hg
      · next heq => exact absurd (List.cons.inj heq).1 hs
      · next heq => exact absurd (List.cons.inj heq).1 hs
      · rfl

theorem readAttribute_of_equals {s r r' : List Char} {name : String}
    (hname : readAttributeName s = (name, r)) (h : skipSpaces r = '=' :: r') :
    readAttribute n attributes s =
      match readValue r' with
      | none => none
      | some (value, r) => readAttributes n (addAttribute name value attributes) r := by
  rw [readAttribute, hname]
  dsimp only
  rw [h]
  rfl

theorem readAttribute_of_ne {s r : List Char} {name : String}
    (hname : readAttributeName s = (name, r)) (h : (skipSpaces r).head? ≠ some '=') :
    readAttribute n attributes s =
      readAttributes n (addAttribute name "" attributes) (skipSpaces r) := by
  rw [readAttribute, hname]
  dsimp only
  split
  · next heq => exact absurd (congrArg List.head? heq) h
  · rfl

end

section
variable {π : Equiv.Perm MarkerId} {ids ids' : IdSupply} {t : List Glyph}

theorem attributes_addAttribute (σ : Sketch) (name value : String)
    (attributes : List (String × String)) :
    σ.attributes (addAttribute name value attributes) =
      addAttribute (σ.word name) (σ.word value) (σ.attributes attributes) := by
  have hany : ((σ.attributes attributes).any fun a => a.1 == σ.word name) =
      attributes.any fun a => a.1 == name := by
    rw [Sketch.attributes, List.any_map]
    exact congrArg attributes.any (funext fun a => σ.word_beq a.1 name)
  rw [addAttribute, addAttribute, hany]
  split
  · rfl
  · rw [Sketch.attributes, List.map_append]
    rfl

/-- Two ends of a tag: the attributes follow the renaming. -/
def TagEndTwin (π : Equiv.Perm MarkerId) (ids ids' : IdSupply) :
    Option TagEnd → Option TagEnd → Prop :=
  Option.Rel fun e e' => (Sketch.renamed π).attributes e.attributes = e'.attributes ∧
    e.selfClosing = e'.selfClosing ∧ Twin π ids ids' e.rest e'.rest

theorem readAttributeName_read {g : Glyph} (t : List Glyph) (ids : IdSupply) :
    readAttributeName ((g :: t).map (read ids)) =
      (lowerName ((g :: t.takeWhile (inAttributeName ·.face)).map (read ids)),
        (t.dropWhile (inAttributeName ·.face)).map (read ids)) := by
  have hblind : Blind inAttributeName := by decide
  rw [List.map_cons, readAttributeName, takeWhile_read hblind, dropWhile_read hblind,
    ← List.map_cons]

/-- An attribute is read alike if those after it are. -/
theorem readAttribute_twin {n : Nat} {g : Glyph}
    (ih : ∀ {t : List Glyph}, Whole π ids ids' t → ∀ attributes,
      TagEndTwin π ids ids' (readAttributes n attributes (t.map (read ids)))
        (readAttributes n ((Sketch.renamed π).attributes attributes) (t.map (read ids'))))
    (h : Whole π ids ids' (g :: t)) (attributes : List (String × String)) :
    TagEndTwin π ids ids' (readAttribute n attributes ((g :: t).map (read ids)))
      (readAttribute n ((Sketch.renamed π).attributes attributes) ((g :: t).map (read ids'))) := by
  have hname (ids : IdSupply) := readAttributeName_read (g := g) t ids
  have hword := (h.cons_takeWhile (p := inAttributeName) rfl).word_lowerName
  have hrest : Whole π ids ids'
      ((t.dropWhile (inAttributeName ·.face)).dropWhile (isSpace ·.face)) :=
    (h.dropWhile_tail (p := inAttributeName) rfl).dropWhile
  have hskip (ids : IdSupply) := skipSpaces_read (t.dropWhile (inAttributeName ·.face)) ids
  by_cases hequals :
      ((t.dropWhile (inAttributeName ·.face)).dropWhile (isSpace ·.face)).head? = some (char '=')
  · obtain ⟨u, hu⟩ := List.head?_eq_some_iff.1 hequals
    rw [hu] at hskip hrest
    rw [readAttribute_of_equals _ _ (hname ids) (hskip ids),
      readAttribute_of_equals _ _ (hname ids') (hskip ids')]
    obtain ⟨hr, hr'⟩ | ⟨⟨value, r⟩, ⟨value', r'⟩, hr, hr', hvalue, b, hb, hread, hread'⟩ :=
      eq_none_or_some_of_rel (readValue_twin hrest.tail)
    · rw [hr, hr']
      exact .none
    · rw [hr, hr']
      dsimp only at hvalue hread hread' ⊢
      have hadd := attributes_addAttribute (Sketch.renamed π)
        (lowerName ((g :: t.takeWhile (inAttributeName ·.face)).map (read ids))) value attributes
      rw [hword, hvalue] at hadd
      rw [← hadd, hread, hread']
      exact ih hb _
  · have hne (ids : IdSupply) :
        (skipSpaces ((t.dropWhile (inAttributeName ·.face)).map (read ids))).head? ≠ some '=' := by
      rw [hskip, Ne, head?_read (by decide)]
      exact hequals
    rw [readAttribute_of_ne _ _ (hname ids) (hne ids),
      readAttribute_of_ne _ _ (hname ids') (hne ids'), hskip, hskip, ← hword]
    have hempty : (Sketch.renamed π).word "" = "" := (Sketch.renamed π).short "" (by decide)
    have hadd := attributes_addAttribute (Sketch.renamed π)
      (lowerName ((g :: t.takeWhile (inAttributeName ·.face)).map (read ids))) "" attributes
    rw [hempty] at hadd
    rw [← hadd]
    exact ih hrest _

theorem readAttributes_twin (n : Nat) : ∀ {t : List Glyph}, Whole π ids ids' t →
    ∀ attributes, TagEndTwin π ids ids' (readAttributes n attributes (t.map (read ids)))
      (readAttributes n ((Sketch.renamed π).attributes attributes) (t.map (read ids'))) := by
  induction n with
  | zero => exact fun _ _ => .none
  | succ n ih =>
    intro t h attributes
    have hskip := skipSpaces_read t
    have hrest : Whole π ids ids' (t.dropWhile (isSpace ·.face)) := h.dropWhile
    cases hu : t.dropWhile (isSpace ·.face) with
    | nil =>
      rw [hu] at hskip
      rw [readAttributes_of_nil _ _ (hskip ids), readAttributes_of_nil _ _ (hskip ids')]
      exact .none
    | cons g u =>
      rw [hu] at hskip hrest
      rw [readAttributes_of_cons _ _ (hskip ids), readAttributes_of_cons _ _ (hskip ids')]
      simp only [read_eq_iff (c := '>') (by decide), read_eq_iff (c := '/') (by decide)]
      split
      · next hg =>
        subst hg
        exact .some ⟨rfl, rfl, u, hrest.tail, rfl, rfl⟩
      · split
        · next hg =>
          subst hg
          simp only [head?_read (c := '>') (by decide), ← List.map_drop]
          split
          · next hclose =>
            obtain ⟨u', rfl⟩ := List.head?_eq_some_iff.1 hclose
            exact .some ⟨rfl, rfl, u', hrest.tail.tail, rfl, rfl⟩
          · exact ih hrest.tail attributes
        · rw [← List.map_cons, ← List.map_cons]
          exact readAttribute_twin (fun h as => ih h as) hrest attributes

/-- Reads a tag from its name on, when no identifier is in the name. -/
theorem readTag_twin (h : Whole π ids ids' t)
    (hname : ∀ g ∈ t.takeWhile (inTagName ·.face), g.isDigit = false) :
    Option.Rel (fun x x' => (Sketch.renamed π).tag x.1 = x'.1 ∧ Twin π ids ids' x.2 x'.2)
      (readTag (t.map (read ids))) (readTag (t.map (read ids'))) := by
  have hblind : Blind inTagName := by decide
  obtain ⟨u, hu⟩ := exists_map_char hname
  have hdrop : Whole π ids ids' (t.dropWhile (inTagName ·.face)) := h.dropWhile
  have hends := readAttributes_twin ((t.dropWhile (inTagName ·.face)).length + 1) hdrop []
  rw [readTag, readTag, dropWhile_read hblind, dropWhile_read hblind, takeWhile_read hblind,
    takeWhile_read hblind, hu, map_read_char, map_read_char, List.length_map, List.length_map]
  rw [Sketch.attributes_nil] at hends
  refine rel_option_map hends fun e e' he => ?_
  obtain ⟨hattributes, hclosing, hrest⟩ := he
  rw [← hattributes, ← hclosing]
  exact ⟨rfl, hrest⟩

end

end Stencil.Html
