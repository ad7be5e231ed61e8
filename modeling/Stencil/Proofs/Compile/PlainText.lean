import Stencil.Extraction
import Stencil.Proofs.Compile.Survival
import Stencil.Proofs.Document.Outline
import Stencil.Proofs.Learning.Replay

/-!
# Samples without their annotations

The addresses in a blueprint are those of anchors in the marked document, which is read from the
sample with markers in it. Reading the sample without its annotations repairs another text and may
give another document. `plain_text_extracts_iff` says what an extraction from it depends on: every
anchor's address must lead somewhere in the plain document, and for that it is enough that the two
documents have one outline.
-/

namespace Stencil

open Extraction (extractFrom)
open Learning (exists_of_mem_forall₂ fieldTokens locate)

/-- The length of a text within the limit does not stop an extraction. -/
theorem extract_eq_ok_iff {s : ExtractionSettings} {b : Blueprint} {text : List Char} {v : Json}
    (hsize : Text.byteLength text ≤ s.maxDocumentLength) :
    extract s b (String.ofList text) = .ok v ↔ extractFrom s b (Html.parse text) = .ok v := by
  rw [extract, Document.ofHtml, String.toList_ofList, Text.utf8ByteSize_ofList,
    if_neg (Nat.not_lt.2 hsize)]
  cases extractFrom s b (Html.parse text) with
  | error e => exact ⟨nofun, nofun⟩
  | ok w => exact ⟨fun h => by cases h; rfl, fun h => by cases h; rfl⟩

/-- A strict extraction of one item a list with a learned blueprint has a value exactly when the
document has a top element from which the address of every anchor leads somewhere. -/
theorem extractFrom_learned_isOk_iff {d d' : Document} {fresh : MarkerId} {name : String}
    {tokens : List Token} {b : Blueprint} {s : ExtractionSettings} (hl : Token.IsListing tokens)
    (hb : learn fresh name tokens d = .ok b) (hfail : s.missingField = .fail)
    (hcap : s.maxListItems = 1) :
    (∃ v, extractFrom s b d' = .ok v) ↔
      ∃ top, d'.root? = some top ∧ ∀ t ∈ fieldTokens tokens.tail,
        ∃ a, locate d t = .ok a ∧ (d'.resolve? top a).isSome = true := by
  obtain ⟨hsettles, hfields, _⟩ := Learning.placesAll_of_learn hl hb
  cases htop : d'.root? with
  | none =>
    rw [extractFrom, htop]
    constructor
    · rintro ⟨v, hv⟩
      cases hv
    · rintro ⟨top, h, _⟩
      cases h
  | some top =>
    rw [Extraction.extractFrom_isOk_iff hfail (Nat.le_of_eq hcap) htop hfields]
    constructor
    · intro hall
      refine ⟨top, rfl, fun t ht => ?_⟩
      obtain ⟨x, hx, _, hloc⟩ := exists_of_mem_forall₂ hsettles.flip ht
      exact ⟨x.2, hloc, hall x hx⟩
    · rintro ⟨top', h, hall⟩ x hx
      cases h
      obtain ⟨t, ht, _, hloc⟩ := exists_of_mem_forall₂ hsettles hx
      obtain ⟨a, ha, hsome⟩ := hall t ht
      rw [hloc] at ha
      cases ha
      exact hsome

/-- Every address that was learned leads somewhere in a document with the outline of the one that it
was learned from. -/
theorem isSome_resolve?_of_outline_eq {d d' : Document} {t : Token} {a : Address}
    (h : d.HasPlainTop) (h' : d'.HasPlainTop) (hsame : d.outline = d'.outline)
    (hloc : locate d t = .ok a) {top' : Path} (htop' : d'.root? = some top') :
    (d'.resolve? top' a).isSome = true := by
  obtain ⟨top, htop, hplain, hbelow⟩ := h.exists_root?
  obtain ⟨q, _, _, hq⟩ := Learning.isAnchor_of_locate htop hplain hbelow hloc
  have hmap := Document.map_outlineAt_resolve? (h.outlineAt_eq h' hsame htop htop') a
  rw [hq] at hmap
  obtain ⟨q', hq', _⟩ := Option.map_eq_some_iff.1 hmap.symm
  rw [hq']
  rfl

/-- **When a sample extracts from its own plain text.** A sample that compiles has a plain text. A
strict extraction of one item a list from that text has a value exactly when the address that each
annotation's anchor has in the marked document leads somewhere in the plain document. It does if the
marked document is the plain one with markers added, that is, if the two have one outline. -/
theorem plain_text_extracts_iff {ids : IdSupply} {name sample : String} {b : Blueprint}
    {s : ExtractionSettings} (hb : compile ids name sample = .ok b)
    (hsize : sample.utf8ByteSize ≤ s.maxDocumentLength) (hfail : s.missingField = .fail)
    (hcap : s.maxListItems = 1) :
    ∃ tokens plain, Sample.tokenize ids sample.toList = .ok tokens ∧
      Sample.strip sample.toList = .ok plain ∧
      ((∃ v, extract s b (String.ofList plain) = .ok v) ↔
        ∃ top, (Html.parse plain).root? = some top ∧ ∀ t ∈ fieldTokens tokens.tail,
          ∃ a, locate (Html.parse (Sample.inject tokens sample.toList)) t = .ok a ∧
            ((Html.parse plain).resolve? top a).isSome = true) ∧
      ((Html.parse (Sample.inject tokens sample.toList)).HasPlainTop →
        (Html.parse plain).HasPlainTop →
        (Html.parse (Sample.inject tokens sample.toList)).outline = (Html.parse plain).outline →
          ∃ v, extract s b (String.ofList plain) = .ok v) := by
  obtain ⟨tokens, ht, hl⟩ := exists_of_compile hb
  obtain ⟨plain, hplain, hshort⟩ := Sample.strip_of_tokenize ht
  rw [Text.byteLength_toList] at hshort
  have hextract : (∃ v, extract s b (String.ofList plain) = .ok v) ↔
      ∃ v, extractFrom s b (Html.parse plain) = .ok v :=
    exists_congr fun v => extract_eq_ok_iff (Nat.le_trans hshort hsize)
  have hiff : (∃ v, extractFrom s b (Html.parse plain) = .ok v) ↔ _ :=
    extractFrom_learned_isOk_iff (Sample.isListing_of_tokenize ht) hl hfail hcap
  refine ⟨tokens, plain, ht, hplain, hextract.trans hiff, fun h h' hsame => ?_⟩
  rw [hextract, hiff]
  obtain ⟨top', htop', _⟩ := h'.exists_root?
  refine ⟨top', htop', fun t htok => ?_⟩
  obtain ⟨hsettles, _⟩ := Learning.placesAll_of_learn (Sample.isListing_of_tokenize ht) hl
  obtain ⟨x, _, _, hloc⟩ := exists_of_mem_forall₂ hsettles.flip htok
  exact ⟨x.2, hloc, isSome_resolve?_of_outline_eq h h' hsame hloc htop'⟩

/-- A marker in the head of a sample ends the head, so the title is found in the body of the marked
document; in the plain one it is in the head. -/
theorem plain_text_extracts_iff_title :
    let sample := "<head>\x7b:a\x7d<title>x</title>\x7b:\x7d</head>"
    let s : ExtractionSettings := { maxListItems := 1 }
    sample.utf8ByteSize ≤ s.maxDocumentLength ∧ s.missingField = .fail ∧ s.maxListItems = 1 ∧
      ∃ b plain, compile MarkerId.ofNat "page" sample = .ok b ∧
        Sample.strip sample.toList = .ok plain ∧
        ¬ ∃ v, extract s b (String.ofList plain) = .ok v := by
  intro sample s
  have hok : (compile MarkerId.ofNat "page" sample).toOption.isSome = true := by decide +kernel
  obtain ⟨b, hb⟩ : ∃ b, compile MarkerId.ofNat "page" sample = .ok b := by
    cases h : compile MarkerId.ofNat "page" sample with
    | error e => rw [h] at hok; cases hok
    | ok b => exact ⟨b, rfl⟩
  have hsize : sample.utf8ByteSize ≤ s.maxDocumentLength := by decide
  obtain ⟨tokens, plain, ht, hplain, hiff, _⟩ := plain_text_extracts_iff hb hsize rfl rfl
  refine ⟨hsize, rfl, rfl, b, plain, hb, hplain, fun hv => ?_⟩
  obtain ⟨top, htop, hall⟩ := hiff.1 hv
  -- Tokens and text are known by their equations only, so the search runs on what computes them.
  have hlost : ((Sample.tokenize MarkerId.ofNat sample.toList).toOption.bind fun tokens =>
      (Sample.strip sample.toList).toOption.bind fun plain =>
      (Html.parse plain).root?.map fun top =>
        (fieldTokens tokens.tail).any fun t =>
          match locate (Html.parse (Sample.inject tokens sample.toList)) t with
          | .ok a => ((Html.parse plain).resolve? top a).isNone
          | .error _ => false) = some true := by
    decide +kernel
  rw [ht, hplain] at hlost
  dsimp only [Except.toOption, Option.bind_some] at hlost
  rw [htop] at hlost
  obtain ⟨t, htok, hnone⟩ := List.any_eq_true.1 (Option.some.inj hlost)
  obtain ⟨a, ha, hsome⟩ := hall t htok
  rw [ha] at hnone
  dsimp only at hnone
  rw [Option.isNone_iff_eq_none] at hnone
  rw [hnone] at hsome
  cases hsome

end Stencil
