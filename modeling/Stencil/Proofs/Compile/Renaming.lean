import Stencil.Compile
import Stencil.Proofs.Html.MarkedSample

/-!
# Compiling and identifiers

Compiling draws identifiers for the tokens of a sample and puts them in a blueprint. Which ones it
draws does not matter as long as they are distinct and the sample spells none of them (`FreshFor`).
Two such supplies are exchanged by a renaming that moves no identifier but theirs
(`exists_renaming`). The tokens follow it by their construction (`Sample.tokenize_renameIds`), the
document follows it in its marker attributes (`Html.relabel_parse`), and so the result of compiling
does (`compile_renameIds`).
-/

namespace Stencil

open Html (Fresh)

/-! ## Supplies of identifiers -/

/-- A supply that gives the tokens of a sample distinct identifiers, none of which the sample
spells. -/
structure FreshFor (ids : IdSupply) (s : List Char) : Prop where
  distinct : ∀ m ≤ (scan s).found.length, ∀ n ≤ (scan s).found.length, ids m = ids n → m = n
  fresh : ∀ n ≤ (scan s).found.length, Fresh (ids n) s

/-- Identifiers that are distinct are renamed to others by a renaming that can be undone and that
changes no identifier but these. The induction exchanges one more of them. -/
theorem exists_renaming {ids ids' : IdSupply} (count : Nat)
    (h : ∀ m < count, ∀ n < count, ids m = ids n → m = n)
    (h' : ∀ m < count, ∀ n < count, ids' m = ids' n → m = n) :
    ∃ π : Equiv.Perm MarkerId, (∀ n < count, π (ids n) = ids' n) ∧
      ∀ id, π id ≠ id → ∃ n < count, id = ids n ∨ id = ids' n := by
  induction count with
  | zero => exact ⟨1, fun _ hn => absurd hn (Nat.not_lt_zero _), fun _ hid => absurd rfl hid⟩
  | succ count ih =>
    obtain ⟨π, hπ, hfix⟩ := ih
      (fun m hm n hn => h m (Nat.lt_succ_of_lt hm) n (Nat.lt_succ_of_lt hn))
      (fun m hm n hn => h' m (Nat.lt_succ_of_lt hm) n (Nat.lt_succ_of_lt hn))
    refine ⟨Equiv.swap (π (ids count)) (ids' count) * π, fun n hn => ?_, fun id hid => ?_⟩
    · rw [Equiv.Perm.mul_apply]
      rcases Nat.lt_succ_iff_lt_or_eq.1 hn with hn' | rfl
      · rw [hπ n hn', Equiv.swap_apply_of_ne_of_ne]
        · rw [← hπ n hn']
          exact fun he => absurd (h n hn count (Nat.lt_succ_self _) (π.injective he)) hn'.ne
        · exact fun he => absurd (h' n hn count (Nat.lt_succ_self _) he) hn'.ne
      · exact Equiv.swap_apply_left ..
    · by_cases hmoved : π id = id
      · rw [Equiv.Perm.mul_apply, hmoved] at hid
        by_cases hfrom : id = π (ids count)
        · refine ⟨count, Nat.lt_succ_self _, .inl (π.injective ?_)⟩
          rw [hmoved, ← hfrom]
        · by_cases hto : id = ids' count
          · exact ⟨count, Nat.lt_succ_self _, .inr hto⟩
          · exact absurd (Equiv.swap_apply_of_ne_of_ne hfrom hto) hid
      · obtain ⟨n, hn, hn'⟩ := hfix id hmoved
        exact ⟨n, Nat.lt_succ_of_lt hn, hn'⟩

/-! ## Compiling -/

namespace Sample

variable {ids ids' : IdSupply} {f : MarkerId → MarkerId}

theorem tokenOf_renameIds (id : MarkerId) (a : Annotation) :
    (tokenOf id a).renameIds f = tokenOf (f id) a := by
  rw [tokenOf, tokenOf, Token.renameIds_eq]
  cases a.kind.isClosing <;> rfl

theorem map_renameIds_tokensFrom (found : List Annotation) : ∀ {n : Nat},
    (∀ k < found.length, f (ids (n + k)) = ids' (n + k)) →
    (tokensFrom ids n found).map (Token.renameIds f) = tokensFrom ids' n found := by
  induction found with
  | nil => exact fun _ => rfl
  | cons a found ih =>
    intro n hf
    have hfirst : f (ids n) = ids' n := hf 0 (Nat.succ_pos _)
    rw [tokensFrom, tokensFrom, List.map_cons, tokenOf_renameIds, hfirst, ih fun k hk => ?_]
    rw [Nat.add_assoc, Nat.add_comm 1 k]
    exact hf (k + 1) (Nat.succ_lt_succ hk)

/-- The tokens of a sample with other identifiers. -/
theorem tokenize_renameIds {s : List Char} (hf : ∀ n ≤ (scan s).found.length, f (ids n) = ids' n) :
    tokenize ids' s = (tokenize ids s).map (List.map (Token.renameIds f)) := by
  have htokens : (tokensFrom ids 1 (scan s).found).map (Token.renameIds f) =
      tokensFrom ids' 1 (scan s).found :=
    map_renameIds_tokensFrom (scan s).found fun k hk => hf (1 + k) (by omega)
  rw [tokenize, tokenize]
  cases (scan s).unterminated with
  | some offset => rfl
  | none =>
    rw [← htokens, ← hf 0 (Nat.zero_le _)]
    rfl

theorem inject_eq_markedFrom {s : List Char} {tokens : List Token}
    (h : tokenize ids s = .ok tokens) : inject tokens s = Html.markedFrom ids 1 0 s := by
  obtain ⟨_, rfl⟩ := eq_of_tokenize h
  rfl

end Sample

/-- Compiling a sample with another supply of identifiers renames those of the blueprint. -/
theorem compile_renameIds {ids ids' : IdSupply} (name : String) {sample : String}
    (h : FreshFor ids sample.toList) (h' : FreshFor ids' sample.toList) :
    ∃ π : Equiv.Perm MarkerId,
      (∀ n ≤ (scan sample.toList).found.length, π (ids n) = ids' n) ∧
        compile ids' name sample = (compile ids name sample).map (Blueprint.renameIds π) := by
  obtain ⟨π, hπ, hfix⟩ := exists_renaming ((scan sample.toList).found.length + 1)
    (fun m hm n hn => h.distinct m (Nat.le_of_lt_succ hm) n (Nat.le_of_lt_succ hn))
    (fun m hm n hn => h'.distinct m (Nat.le_of_lt_succ hm) n (Nat.le_of_lt_succ hn))
  have hids (n : Nat) (hn : n ≤ (scan sample.toList).found.length) : π (ids n) = ids' n :=
    hπ n (Nat.lt_succ_of_le hn)
  have hfresh (id : MarkerId) (hid : π id ≠ id) : Fresh id sample.toList := by
    obtain ⟨n, hn, rfl | rfl⟩ := hfix id hid
    · exact h.fresh n (Nat.le_of_lt_succ hn)
    · exact h'.fresh n (Nat.le_of_lt_succ hn)
  have htokenize := Sample.tokenize_renameIds hids
  refine ⟨π, hids, ?_⟩
  rw [compile, compile]
  cases ht : Sample.tokenize ids sample.toList with
  | error e =>
    rw [ht] at htokenize
    rw [htokenize]
    rfl
  | ok tokens =>
    rw [ht] at htokenize
    have ht' : Sample.tokenize ids' sample.toList = .ok (tokens.map (Token.renameIds π)) :=
      htokenize
    have hparse := Html.relabel_parse (s := sample.toList)
      (fun k hk => hids (1 + k) (by omega)) hfresh
    have hlearn := Learning.learn_relabel (Html.Sketch.follows_renamed π) (fun _ => "") (ids 0)
      (ids' 0) name (Sample.isListing_of_tokenize ht)
      (Html.parse (Html.markedFrom ids 1 0 sample.toList))
    have hfollows : Document.Follows id id := fun _ _ => Iff.rfl
    have hlearn' := Learning.learn_relabel hfollows (fun _ => "") (ids' 0) (ids' 0) name
      (Sample.isListing_of_tokenize ht') (Html.parse (Html.markedFrom ids' 1 0 sample.toList))
    rw [hparse] at hlearn
    rw [Token.map_renameIds_id, hlearn] at hlearn'
    have hid : Blueprint.renameIds id = id := funext Blueprint.renameIds_id
    have hsame : learn (ids' 0) name (tokens.map (Token.renameIds π))
        (Html.parse (Html.markedFrom ids' 1 0 sample.toList)) =
          (learn (ids 0) name tokens (Html.parse (Html.markedFrom ids 1 0 sample.toList))).map
            (Blueprint.renameIds π) := by
      rw [hlearn', hid, Except.map_id, id]
    rw [ht']
    dsimp only
    rw [Sample.inject_eq_markedFrom ht, Sample.inject_eq_markedFrom ht']
    rw [hsame]
    cases learn (ids 0) name tokens (Html.parse (Html.markedFrom ids 1 0 sample.toList)) <;> rfl

/-- **Compiling does not depend on identifiers.** Let the identifiers of a sample's tokens and those
in the marker attributes of a document be renamed by an injective renaming. Then learning fails as
before, or it succeeds as before and gives the same blueprint with its identifiers renamed, which
has the same shape. So a sample that is compiled with two supplies of distinct identifiers that it
does not spell fails with one error, or gives two blueprints of the same shape that differ in their
identifiers alone. -/
theorem compiling_ignores_identifiers :
    (∀ f : MarkerId → MarkerId, Function.Injective f → ∀ (fresh fresh' : MarkerId) (name : String)
      (tokens : List Token), Token.IsListing tokens → ∀ d : Document,
      (∀ e, learn fresh name tokens d = .error e →
        learn fresh' name (tokens.map (Token.renameIds f)) (d.renameIds f) = .error e) ∧
      (∀ b, learn fresh name tokens d = .ok b →
        learn fresh' name (tokens.map (Token.renameIds f)) (d.renameIds f) = .ok (b.renameIds f) ∧
          b.sameShape (b.renameIds f) = true)) ∧
    (∀ (ids ids' : IdSupply) (name sample : String), FreshFor ids sample.toList →
      FreshFor ids' sample.toList →
      (∀ e, compile ids name sample = .error e → compile ids' name sample = .error e) ∧
      (∀ b, compile ids name sample = .ok b →
        ∃ f : Equiv.Perm MarkerId, (∀ n ≤ (scan sample.toList).found.length, f (ids n) = ids' n) ∧
          compile ids' name sample = .ok (b.renameIds f) ∧
          b.sameShape (b.renameIds f) = true)) := by
  constructor
  · intro f hf fresh fresh' name tokens hl d
    exact Learning.learning_ignores_identifiers hf fresh fresh' name hl d
  · intro ids ids' name sample h h'
    obtain ⟨π, hπ, hcompile⟩ := compile_renameIds name h h'
    rw [hcompile]
    constructor
    · intro e he
      rw [he]
      rfl
    · intro b hb
      rw [hb]
      exact ⟨π, hπ, rfl, b.sameShape_renameIds π⟩

/-- A list in which a value stands: learned once more with two identifiers exchanged, and compiled
once more with other identifiers. -/
theorem compiling_ignores_identifiers_list :
    let id (n : Nat) := MarkerId.ofNat n
    let id' (n : Nat) := MarkerId.ofNat (n + 3)
    let f := Equiv.swap (id 1) (id 2)
    let tokens := [Token.root (id 0), Token.leaf .listStart (some "rows") none (some (id 1)),
      Token.leaf .value (some "x") none (some (id 2)), Token.leaf .listEnd none none none]
    let d : Document := ⟨[.element "ul" none
      [.element "list-start" (some (id 1).toText)
        [.element "li" none [.element "value" (some (id 2).toText) []]]]]⟩
    let sample := "<ul>\x7b::r\x7d<li>\x7b$x\x7d</li>\x7b::\x7d</ul>"
    Function.Injective f ∧ Token.IsListing tokens ∧
      (∃ b, learn (id 9) "page" tokens d = .ok b ∧
        learn (id 8) "page" (tokens.map (Token.renameIds f)) (d.renameIds f) = .ok (b.renameIds f) ∧
        b.sameShape (b.renameIds f) = true) ∧
      FreshFor id sample.toList ∧ FreshFor id' sample.toList ∧
      ∃ b b', compile id "page" sample = .ok b ∧ compile id' "page" sample = .ok b' ∧
        b.sameShape b' = true ∧ b.root.markerId ≠ b'.root.markerId := by
  intro id id' f tokens d sample
  have hl : Token.IsListing tokens := ⟨⟨_, _, rfl, rfl, by decide⟩, by decide, by decide⟩
  have hok : (learn (id 9) "page" tokens d).toOption.isSome = true := by decide +kernel
  obtain ⟨b, hb⟩ : ∃ b, learn (id 9) "page" tokens d = .ok b := by
    cases h : learn (id 9) "page" tokens d with
    | error e => rw [h] at hok; cases hok
    | ok b => exact ⟨b, rfl⟩
  have hlearn :=
    (compiling_ignores_identifiers.1 f f.injective (id 9) (id 8) "page" tokens hl d).2 b hb
  have hcount : (scan sample.toList).found.length = 3 := by decide +kernel
  have hfresh (n : Nat) : Html.Fresh (MarkerId.ofNat n) sample.toList :=
    Html.fresh_of_length_lt (by decide) (by decide)
  have hids : FreshFor id sample.toList :=
    ⟨hcount ▸ by decide, fun n _ => hfresh n⟩
  have hids' : FreshFor id' sample.toList :=
    ⟨hcount ▸ by decide, fun n _ => hfresh (n + 3)⟩
  have hcompiles : (compile id "page" sample).toOption.map (fun b => b.root.markerId) =
      some (some (id 0)) := by decide +kernel
  obtain ⟨c, hc⟩ : ∃ c, compile id "page" sample = .ok c := by
    cases h : compile id "page" sample with
    | error e => rw [h] at hcompiles; cases hcompiles
    | ok c => exact ⟨c, rfl⟩
  obtain ⟨g, hg, hc', hshape⟩ :=
    (compiling_ignores_identifiers.2 id id' "page" sample hids hids').2 c hc
  refine ⟨f.injective, hl, ⟨b, hb, hlearn⟩, hids, hids', c, _, hc, hc', hshape, ?_⟩
  rw [hc] at hcompiles
  have hroot : c.root.markerId = some (id 0) := Option.some.inj hcompiles
  have hroot' : (c.renameIds g).root.markerId = some (id' 0) := by
    rw [Blueprint.renameIds, Token.markerId_renameIds, hroot, Option.map_some, hg 0 (Nat.zero_le _)]
  rw [hroot, hroot']
  decide

end Stencil
