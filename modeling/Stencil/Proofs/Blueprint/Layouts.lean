import Stencil.Proofs.Blueprint.Codec

/-!
# The domain of the two layouts

A blueprint is laid out line by line in its file and without any space elsewhere. Both texts are
read as the same tree (`Json.parse?_pretty`, `Json.parse?_compact`), so they lose the same
blueprints. `ofText?_layouts_iff` says which: where ranges are pairs of machine words, only the tags
and the places of addresses and the depth of the tree can be in the way. The condition is spelled
out down to the characters and the numbers, since they are what a document or an editor brings in.
-/

namespace Stencil

namespace Blueprint

/-- The tokens of a blueprint, each with its level below the root. -/
def tokens (b : Blueprint) : List (Token × Nat) := Token.preorder 0 b.root

/-- The steps of all addresses in a blueprint. -/
def steps (b : Blueprint) : List Step := b.tokens.flatMap fun v => v.1.way.steps

/-- Whether the ranges in a blueprint are pairs of machine words. -/
def HasWordSpans (b : Blueprint) : Prop :=
  ∀ v ∈ b.tokens, ∀ s, v.1.span = some s → s.Fits

/-- A text that is read as the tree of a blueprint gives it back if its tokens can be stored. -/
theorem ofText?_of_ofString? {b : Blueprint} {text : String}
    (h : Json.ofString? text = some b.toJson) :
    ofText? text = some b ↔ ∀ v ∈ b.tokens, v.2 ≤ 62 ∧ v.1.IsStorable := by
  rw [ofText?, h, Option.bind_some, ofJson?_toJson_iff, tokens]

theorem whole_toJson (b : Blueprint) : b.toJson.Whole :=
  ⟨trivial, Token.whole_toJson b.root, trivial⟩

/-- Where ranges are words, the tokens can be stored if every step of an address is readable. -/
theorem forall_isStorable_iff {b : Blueprint} (hspans : b.HasWordSpans) :
    (∀ v ∈ b.tokens, v.1.IsStorable) ↔ ∀ s ∈ b.steps, s.IsReadable := by
  simp only [steps, List.mem_flatMap, forall_exists_index, and_imp]
  constructor
  · intro h s v hv hs
    rw [Token.way] at hs
    cases ha : v.1.address with
    | none => rw [ha] at hs; cases hs
    | some a => rw [ha] at hs; exact (h v hv).address a ha s hs
  · intro h v hv
    refine ⟨hspans v hv, fun a ha s hs => h s v hv ?_⟩
    rw [Token.way, ha]
    exact hs

/-- **The codec is exact on its domain, in both layouts.** A blueprint whose ranges are pairs of
machine words is read back from its compact text, and from its laid out text, exactly when every tag
in its addresses is a non-empty word over `a-z`, `0-9`, `-` and `_`, every place counted from the
first child is below the last word, and no token lies more than 62 levels below the root. Names,
kinds, identifiers and what is absent are never in the way. -/
theorem ofText?_layouts_iff {b : Blueprint} (hspans : b.HasWordSpans) :
    let exact : Prop :=
      (∀ s ∈ b.steps, s.tag ≠ "" ∧ ∀ c ∈ s.tag.toList,
        ('a' ≤ c ∧ c ≤ 'z') ∨ ('0' ≤ c ∧ c ≤ '9') ∨ c = '-' ∨ c = '_') ∧
      (∀ s ∈ b.steps, ∀ i, s.place = some (.at i) → i < 2 ^ 64 - 1) ∧
      ∀ v ∈ b.tokens, v.2 ≤ 62
    (ofText? b.toJson.compactString = some b ↔ exact) ∧
      (ofText? b.toJson.prettyString = some b ↔ exact) := by
  intro exact
  have hcompact : Json.ofString? b.toJson.compactString = some b.toJson := by
    rw [Json.compactString, Json.ofString?, String.toList_ofList, Json.parse?_compact b.whole_toJson]
  have hpretty : Json.ofString? b.toJson.prettyString = some b.toJson := by
    rw [Json.prettyString, Json.ofString?, String.toList_ofList, Json.parse?_pretty b.whole_toJson]
  have hexact : (∀ v ∈ b.tokens, v.2 ≤ 62 ∧ v.1.IsStorable) ↔ exact := by
    rw [forall₂_and, forall_isStorable_iff hspans]
    simp only [Step.isReadable_iff]
    rw [forall₂_and]
    exact and_comm.trans and_assoc
  exact ⟨(ofText?_of_ofString? hcompact).trans hexact, (ofText?_of_ofString? hpretty).trans hexact⟩

/-- A field deep in a list with a quote and a line break in its name is read back with the last place
that has a successor, and lost with the place after it. -/
theorem ofText?_layouts_iff_last_place :
    let field (i : Nat) : Token :=
      ⟨.value, some "é\"\n", some ⟨1, 2 ^ 64 - 1⟩, some (MarkerId.ofNat (2 ^ 128 - 1)), [],
        some ⟨[⟨"td", some (.at i)⟩, ⟨"my-tag_1", some .last⟩, ⟨"p", none⟩]⟩⟩
    let b (i : Nat) : Blueprint :=
      ⟨"a b", ⟨.root, none, none, none,
        [⟨.listStart, none, none, none, [field i], some .empty⟩], none⟩⟩
    (∀ i, (b i).HasWordSpans) ∧
      ofText? (b (2 ^ 64 - 2)).toJson.compactString = some (b (2 ^ 64 - 2)) ∧
      ofText? (b (2 ^ 64 - 2)).toJson.prettyString = some (b (2 ^ 64 - 2)) ∧
      ofText? (b (2 ^ 64 - 1)).toJson.compactString ≠ some (b (2 ^ 64 - 1)) := by
  intro field b
  have hsteps : ∀ i, (b i).steps =
      [⟨"td", some (.at i)⟩, ⟨"my-tag_1", some .last⟩, ⟨"p", none⟩] := fun i => rfl
  have htokens : ∀ i, (b i).tokens.map (fun v => (v.1.span, v.2)) =
      [(none, 0), (none, 1), (some ⟨1, 2 ^ 64 - 1⟩, 2)] := fun i => rfl
  have hspans : ∀ i, (b i).HasWordSpans := by
    intro i v hv s hs
    have hmem := List.mem_map_of_mem (f := fun v : Token × Nat => (v.1.span, v.2)) hv
    rw [htokens, hs] at hmem
    simp only [List.mem_cons, Prod.mk.injEq, reduceCtorEq, false_and, Option.some.injEq,
      List.not_mem_nil, or_false, false_or] at hmem
    rw [hmem.1]
    exact ⟨by decide, by decide⟩
  have htags : ∀ i, ∀ s ∈ (b i).steps, s.tag ≠ "" ∧ ∀ c ∈ s.tag.toList,
      ('a' ≤ c ∧ c ≤ 'z') ∨ ('0' ≤ c ∧ c ≤ '9') ∨ c = '-' ∨ c = '_' := by
    intro i
    rw [hsteps]
    simp
  have hlevels : ∀ i, ∀ v ∈ (b i).tokens, v.2 ≤ 62 := by
    intro i v hv
    have hmem := List.mem_map_of_mem (f := fun v : Token × Nat => (v.1.span, v.2)) hv
    rw [htokens] at hmem
    have : ∀ x ∈ [(none, 0), (none, 1), (some (⟨1, 2 ^ 64 - 1⟩ : Span), 2)], x.2 ≤ 62 := by decide
    exact this _ hmem
  have hplaces : ∀ s ∈ (b (2 ^ 64 - 2)).steps, ∀ i, s.place = some (.at i) → i < 2 ^ 64 - 1 := by
    rw [hsteps]
    simp
  obtain ⟨hcompact, hpretty⟩ := ofText?_layouts_iff (hspans (2 ^ 64 - 2))
  refine ⟨hspans, hcompact.2 ⟨htags _, hplaces, hlevels _⟩, hpretty.2 ⟨htags _, hplaces, hlevels _⟩,
    fun h => ?_⟩
  have hover := ((ofText?_layouts_iff (hspans (2 ^ 64 - 1))).1.1 h).2.1
  rw [hsteps] at hover
  exact Nat.lt_irrefl _ (hover _ (List.mem_cons_self ..) _ rfl)

end Blueprint

end Stencil
