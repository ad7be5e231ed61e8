import Stencil.Compile
import Stencil.Proofs.Blueprint.Codec
import Stencil.Proofs.Learning.Nest
import Stencil.Proofs.Sample.Scanning

/-!
# Compiled blueprints as files

A sample may hold elements of any name and may nest its annotations to any depth, so not every
blueprint that is compiled can be stored. `compiled_survives_iff` says which can: those whose tokens
lie at most 62 levels deep and whose addresses name only tags that a selector can say. What a file
might lose beside that, the ranges, are safe in a sample that fits in memory.
-/

namespace Stencil

/-- What compiling goes through. -/
theorem exists_of_compile {ids : IdSupply} {name sample : String} {b : Blueprint}
    (h : compile ids name sample = .ok b) :
    ∃ tokens, Sample.tokenize ids sample.toList = .ok tokens ∧
      learn (ids 0) name tokens (Html.parse (Sample.inject tokens sample.toList)) = .ok b := by
  rw [compile] at h
  cases ht : Sample.tokenize ids sample.toList with
  | error e => rw [ht] at h; cases h
  | ok tokens =>
    rw [ht] at h
    dsimp only at h
    cases hl : learn (ids 0) name tokens (Html.parse (Sample.inject tokens sample.toList)) with
    | error e => rw [hl] at h; cases h
    | ok b' =>
      rw [hl] at h
      cases h
      exact ⟨tokens, rfl, hl⟩

/-- A blueprint is compiled under the name it is asked for. -/
theorem name_of_compile {ids : IdSupply} {name sample : String} {b : Blueprint}
    (h : compile ids name sample = .ok b) : b.name = name := by
  obtain ⟨tokens, ht, hl⟩ := exists_of_compile h
  exact (Learning.placesAll_of_learn (Sample.isListing_of_tokenize ht) hl).2.2.2

/-- Every token of a learned tree but for its fields and its address is a token of the sample. -/
theorem exists_of_mem_preorder {d : Document} {fresh : MarkerId} {name : String}
    {tokens : List Token} {b : Blueprint} (hl : Token.IsListing tokens)
    (h : learn fresh name tokens d = .ok b) {v : Token × Nat} (hv : v ∈ Token.preorder 0 b.root) :
    ∃ t ∈ tokens, ∃ a, v.1.bare = { t with address := a } := by
  obtain ⟨hsettles, _, hhead, _⟩ := Learning.placesAll_of_learn hl h
  rw [Token.preorder_eq] at hv
  rcases List.mem_cons.1 hv with rfl | hv
  · exact ⟨b.root.bare, List.mem_of_head? hhead, _, rfl⟩
  · have hplace := List.mem_map_of_mem (f := fun v : Token × Nat => v.1.bare) hv
    rw [Token.map_bare_preorderAll 1 .empty] at hplace
    obtain ⟨x, hx, hbare⟩ := List.mem_map.1 hplace
    obtain ⟨t, ht, ⟨r, hr⟩, _⟩ := Learning.exists_of_mem_forall₂ hsettles hx
    refine ⟨t, List.mem_of_mem_tail (List.mem_of_mem_filter ht), some r, ?_⟩
    rw [← hr, hbare]

/-- The range of a token in a compiled blueprint lies inside the sample. -/
theorem stop_le_of_compile {ids : IdSupply} {name sample : String} {b : Blueprint}
    (h : compile ids name sample = .ok b) {v : Token × Nat} (hv : v ∈ Token.preorder 0 b.root)
    {span : Span} (hspan : v.1.span = some span) :
    span.start < span.stop ∧ span.stop ≤ sample.utf8ByteSize := by
  obtain ⟨tokens, ht, hl⟩ := exists_of_compile h
  obtain ⟨t, hmem, a, hbare⟩ := exists_of_mem_preorder (Sample.isListing_of_tokenize ht) hl hv
  have hsame : t.span = v.1.bare.span := by rw [hbare]
  rw [← Text.byteLength_toList]
  exact Sample.stop_le_of_tokenize ht hmem (hsame.trans hspan)

/-- **Which compiled blueprints survive being stored.** Whatever text of a length in memory was
compiled, the file of its blueprint is read back as an equal blueprint exactly when no token lies
more than 62 levels below the root and every step of every address has a tag that is a non-empty
word over `a-z`, `0-9`, `-` and `_` and a place whose number fits in a word. -/
theorem compiled_survives_iff {ids : IdSupply} {name sample : String} {b : Blueprint}
    (hb : compile ids name sample = .ok b) (hsize : sample.utf8ByteSize < Text.wordSize) :
    Blueprint.ofText? b.toText = some b ↔
      ∀ v ∈ Token.preorder 0 b.root, v.2 ≤ 62 ∧ v.1.way.IsReadable := by
  rw [Blueprint.ofText?_toText_iff]
  refine forall₂_congr fun v hv => and_congr_right fun _ => ?_
  constructor
  · intro h
    rw [Token.way]
    cases ha : v.1.address with
    | none => exact List.forall_mem_nil _
    | some a => exact h.address a ha
  · intro h
    refine ⟨fun span hspan => ?_, fun a ha => ?_⟩
    · obtain ⟨hstart, hstop⟩ := stop_le_of_compile hb hv hspan
      have hlt := Nat.lt_of_le_of_lt hstop hsize
      exact ⟨Nat.lt_trans hstart hlt, hlt⟩
    · rw [Token.way, ha] at h
      exact h

/-- An element with a colon in its name is compiled, but its selector cannot be read. -/
theorem compiled_survives_iff_prefixed :
    let sample := "<x:y>\x7b$v\x7dT</x:y>"
    ∃ b, compile MarkerId.ofNat "a" sample = .ok b ∧ sample.utf8ByteSize < Text.wordSize ∧
      Blueprint.ofText? b.toText ≠ some b := by
  intro sample
  have hok : ((compile MarkerId.ofNat "a" sample).toOption.map fun b =>
      (Token.preorder 0 b.root).any fun v => v.1.way.steps.any fun s =>
        s.tag.toList.any fun c => !Selector.isTagChar c) = some true := by
    decide +kernel
  cases hb : compile MarkerId.ofNat "a" sample with
  | error e => rw [hb] at hok; cases hok
  | ok b =>
    rw [hb] at hok
    obtain ⟨v, hv, hstep⟩ := List.any_eq_true.1 (Option.some.inj hok)
    obtain ⟨s, hs, htag⟩ := List.any_eq_true.1 hstep
    obtain ⟨c, hc, hchar⟩ := List.any_eq_true.1 htag
    have hsize : sample.utf8ByteSize < Text.wordSize := by decide
    refine ⟨b, rfl, hsize, fun h => ?_⟩
    have hplain := (((compiled_survives_iff hb hsize).1 h v hv).2 s hs).tag.2 c hc
    rw [hplain.1] at hchar
    cases hchar

end Stencil
