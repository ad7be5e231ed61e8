import Stencil.Proofs.Token.Places
import Stencil.Sample

/-!
# What a scan finds

Every annotation that a scan finds is read off its text by the grammar and lies inside the text
(`isFoundIn_of_mem_scanFrom`). So the tokens of a sample are a listing
(`isListing_of_tokenize`), and their ranges end before the sample does. A sample that has tokens
has a plain text too (`strip_of_tokenize`), which is no longer than the sample.
-/

namespace Stencil

/-! ## Lengths in bytes -/

namespace Text

theorem utf8ByteSize_ofList (s : List Char) : (String.ofList s).utf8ByteSize = byteLength s := by
  induction s with
  | nil => rfl
  | cons c s ih =>
    rw [String.ofList_cons, String.utf8ByteSize_append, String.utf8ByteSize_singleton, ih,
      byteLength_cons]

theorem byteLength_toList (s : String) : byteLength s.toList = s.utf8ByteSize := by
  rw [← utf8ByteSize_ofList, String.ofList_toList]

/-- The two sides of a cut have the length of the text. -/
theorem byteLength_splitAtByte (n : Nat) (s : List Char) :
    byteLength (splitAtByte n s).1 + byteLength (splitAtByte n s).2 = byteLength s := by
  rw [← byteLength_append, splitAtByte_append]

end Text

open Text (byteLength)

/-- Removing ranges does not lengthen a text. -/
theorem byteLength_replaceSpans_le (offset : Nat) (spans : List Span) (s : List Char) :
    byteLength (replaceSpans offset (spans.map fun span => (span, [])) s) ≤ byteLength s := by
  induction spans generalizing offset s with
  | nil => exact Nat.le_refl _
  | cons span spans ih =>
    rw [List.map_cons, replaceSpans]
    have hgap := Text.byteLength_splitAtByte (span.start - offset) s
    have hcovered := Text.byteLength_splitAtByte (span.stop - span.start)
      (Text.splitAtByte (span.start - offset) s).2
    have hrest := ih span.stop
      (Text.splitAtByte (span.stop - span.start) (Text.splitAtByte (span.start - offset) s).2).2
    rw [Text.byteLength_append, List.append_nil]
    omega

/-! ## Annotations -/

namespace Annotation

/-- A name makes an annotation of the kind that is asked for. -/
theorem eq_of_named {kind kind' : TokenKind} {name : List Char} {name' : Option String}
    (h : named kind name = some (kind', name')) : kind' = kind ∧ name' = String.ofList name := by
  rw [named] at h
  split at h
  · cases h
    exact ⟨rfl, rfl⟩
  · cases h

/-- No annotation stands for the whole sample. -/
theorem ne_root_of_classify {inner : List Char} {kind : TokenKind} {name : Option String}
    (h : classify inner = some (kind, name)) : kind ≠ .root := by
  unfold classify at h
  split at h
  · cases h; decide
  · rw [(eq_of_named h).1]; decide
  · cases h; decide
  · rw [(eq_of_named h).1]; decide
  · cases h
  · rw [(eq_of_named h).1]; decide
  · cases h

/-- An annotation that ends nothing has a name and starts a container or marks a value. -/
theorem named_of_classify {inner : List Char} {kind : TokenKind} {name : Option String}
    (h : classify inner = some (kind, name)) (hkind : kind.isClosing = false) :
    name.isSome = true ∧ (kind = .objectStart ∨ kind = .listStart ∨ kind = .value) := by
  unfold classify at h
  split at h
  · cases h; cases hkind
  · obtain ⟨rfl, rfl⟩ := eq_of_named h
    exact ⟨rfl, .inr (.inl rfl)⟩
  · cases h; cases hkind
  · obtain ⟨rfl, rfl⟩ := eq_of_named h
    exact ⟨rfl, .inl rfl⟩
  · cases h
  · obtain ⟨rfl, rfl⟩ := eq_of_named h
    exact ⟨rfl, .inr (.inr rfl)⟩
  · cases h

end Annotation

/-- How an annotation stands in a text that starts at an offset: what it says is what the grammar
makes of some text between braces, and it lies inside the text. -/
structure IsFoundIn (offset : Nat) (s : List Char) (a : Annotation) : Prop where
  classified : ∃ inner, Annotation.classify inner = some (a.kind, a.name)
  start : offset ≤ a.span.start
  nonempty : a.span.start < a.span.stop
  stop : a.span.stop ≤ offset + byteLength s

/-- An annotation in a later part of a text is in the text. -/
theorem IsFoundIn.mono {offset offset' : Nat} {s s' : List Char} {a : Annotation}
    (h : IsFoundIn offset' s' a) (hstart : offset ≤ offset')
    (hstop : offset' + byteLength s' ≤ offset + byteLength s) : IsFoundIn offset s a :=
  ⟨h.classified, Nat.le_trans hstart h.start, h.nonempty, Nat.le_trans h.stop hstop⟩

/-- Every annotation that is found stands in the text. -/
theorem isFoundIn_of_mem_scanFrom {offset : Nat} {s : List Char} :
    ∀ a ∈ (Scan.scanFrom offset s).found, IsFoundIn offset s a := by
  fun_induction Scan.scanFrom offset s with
  | case1 offset => exact List.forall_mem_nil _
  | case2 offset r hd => exact List.forall_mem_nil _
  | case3 offset r c rest hd inner kind name hclass stop ih =>
    have hbrace : '\x7b'.utf8Size = 1 := rfl
    have hinner : byteLength r = byteLength inner + byteLength (c :: rest) := by
      rw [← hd, ← Text.byteLength_append, List.takeWhile_append_dropWhile]
    have hpos := c.utf8Size_pos
    have hstop : stop + byteLength rest ≤ offset + byteLength ('\x7b' :: r) := by
      rw [Text.byteLength_cons, hinner, Text.byteLength_cons]
      omega
    intro a ha
    rcases List.mem_cons.1 ha with rfl | ha
    · exact ⟨⟨inner, hclass⟩, Nat.le_refl _, by dsimp only; omega, by dsimp only; omega⟩
    · exact (ih a ha).mono (by omega) hstop
  | case4 offset r c rest hd inner hclass ih =>
    have hbrace : '\x7b'.utf8Size = 1 := rfl
    intro a ha
    refine (ih a ha).mono (Nat.le_succ _) ?_
    rw [Text.byteLength_cons]
    omega
  | case5 offset c r hc ih =>
    intro a ha
    refine (ih a ha).mono (Nat.le_add_right ..) ?_
    rw [Text.byteLength_cons]
    omega

/-! ## Tokens -/

namespace Sample

open Token (IsListing)

/-- Every token but the root stands for an annotation. -/
theorem exists_of_mem_tokensFrom {ids : IdSupply} {n : Nat} {found : List Annotation} {t : Token}
    (h : t ∈ tokensFrom ids n found) : ∃ a ∈ found, ∃ id, t = tokenOf id a := by
  induction found generalizing n with
  | nil => cases h
  | cons a rest ih =>
    rw [tokensFrom] at h
    rcases List.mem_cons.1 h with rfl | h
    · exact ⟨a, List.mem_cons_self .., _, rfl⟩
    · obtain ⟨b, hb, id, rfl⟩ := ih h
      exact ⟨b, List.mem_cons_of_mem _ hb, id, rfl⟩

/-- The tokens of a sample are the root and one for each annotation, and no brace is open at its
end. -/
theorem eq_of_tokenize {ids : IdSupply} {s : List Char} {tokens : List Token}
    (h : tokenize ids s = .ok tokens) :
    (scan s).unterminated = none ∧ tokens = .root (ids 0) :: tokensFrom ids 1 (scan s).found := by
  rw [tokenize] at h
  split at h
  · cases h
  · next hopen =>
    cases h
    exact ⟨hopen, rfl⟩

/-- The tokens of a sample are a listing. -/
theorem isListing_of_tokenize {ids : IdSupply} {s : List Char} {tokens : List Token}
    (h : tokenize ids s = .ok tokens) : IsListing tokens := by
  obtain ⟨_, rfl⟩ := eq_of_tokenize h
  have hall : ∀ t ∈ tokensFrom ids 1 (scan s).found, ∃ a ∈ (scan s).found, ∃ id, t = tokenOf id a :=
    fun t ht => exists_of_mem_tokensFrom ht
  refine ⟨⟨_, _, rfl, rfl, fun t ht => ?_⟩, fun t ht => ?_, fun t ht hclosing => ?_⟩
  · obtain ⟨a, ha, id, rfl⟩ := hall t ht
    obtain ⟨_, hclass⟩ := (isFoundIn_of_mem_scanFrom a ha).classified
    exact Annotation.ne_root_of_classify hclass
  · rcases List.mem_cons.1 ht with rfl | ht
    · rfl
    · obtain ⟨a, _, id, rfl⟩ := hall t ht
      rfl
  · rcases List.mem_cons.1 ht with rfl | ht
    · rfl
    · obtain ⟨a, _, id, rfl⟩ := hall t ht
      have hkind : a.kind.isClosing = false := hclosing
      show (if a.kind.isClosing then none else some id).isSome = true
      rw [if_neg (by rw [hkind]; exact Bool.false_ne_true)]
      rfl

/-- The range of a token lies inside its sample. -/
theorem stop_le_of_tokenize {ids : IdSupply} {s : List Char} {tokens : List Token}
    (h : tokenize ids s = .ok tokens) {t : Token} (ht : t ∈ tokens) {span : Span}
    (hspan : t.span = some span) : span.start < span.stop ∧ span.stop ≤ byteLength s := by
  obtain ⟨_, rfl⟩ := eq_of_tokenize h
  rcases List.mem_cons.1 ht with rfl | ht
  · cases hspan
  · obtain ⟨a, ha, id, rfl⟩ := exists_of_mem_tokensFrom ht
    have hfound := isFoundIn_of_mem_scanFrom a ha
    cases hspan
    exact ⟨hfound.nonempty, by simpa using hfound.stop⟩

/-- A sample that has tokens has a plain text, and that is no longer. -/
theorem strip_of_tokenize {ids : IdSupply} {s : List Char} {tokens : List Token}
    (h : tokenize ids s = .ok tokens) :
    ∃ plain, strip s = .ok plain ∧ byteLength plain ≤ byteLength s := by
  obtain ⟨hopen, _⟩ := eq_of_tokenize h
  refine ⟨cutSpans ((scan s).found.map (·.span)) s, ?_, byteLength_replaceSpans_le 0 _ s⟩
  rw [strip, hopen]

end Sample

end Stencil
