import Mathlib.Data.List.Forall2
import Stencil.Proofs.Learning.Pairing
import Stencil.Proofs.Token.Places

/-!
# What learning builds

The tokens of a sample are taken up one by one, while containers wait on a stack until their end is
met and only then join their parent. `Nest.places` reads the root and the waiting containers as one
list of fields with addresses. Taking up a token appends that token to the list and changes nothing
before it; the end of a container changes nothing at all (`step_places`). So the blueprint that is
learned lists the tokens of the sample in their order, each with the address of its anchor
(`placesAll_of_learn`). The invariant `Nest.Sound` carries this through the stack: the address of a
waiting container is that of its parent with its own relative address behind.
-/

namespace Stencil.Learning

open Token (AreFields IsField IsListing)

namespace Nest

/-- The fields of the root and of waiting containers, the innermost container first in the list. -/
def placesFrom (root : Opened) : List Opened → List (Token × Address)
  | [] => Token.placesAll root.anchor root.token.children
  | o :: rest =>
    placesFrom root rest ++
      (o.token.bare, o.anchor) :: Token.placesAll o.anchor o.token.children

/-- The fields taken up so far in their order, each with its address. -/
def places (n : Nest) : List (Token × Address) := placesFrom n.root n.opened

/-- Every waiting container is anchored at its parent's address with its own behind it. -/
def AnchoredFrom (root : Opened) : List Opened → Prop
  | [] => True
  | o :: rest => o.anchor = (rest.head?.getD root).anchor ++ o.token.way ∧ AnchoredFrom root rest

/-- What holds of the containers being filled after any tokens. -/
structure Sound (n : Nest) : Prop where
  anchored : AnchoredFrom n.root n.opened
  root : AreFields n.root.token.children
  opened : ∀ o ∈ n.opened,
    (o.token.kind = .objectStart ∨ o.token.kind = .listStart) ∧ AreFields o.token.children

/-! ## Adding, starting and ending -/

theorem places_add (n : Nest) (t : Token) :
    (n.add t).places = n.places ++ t.places n.innermost.anchor := by
  obtain ⟨root, opened⟩ := n
  cases opened with
  | nil => simp [add, places, placesFrom, Opened.add, innermost]
  | cons o rest => simp [add, places, placesFrom, Opened.add, innermost, Token.bare]

theorem places_push (n : Nest) {o : Opened} (h : o.token.children = []) :
    (n.push o).places = n.places ++ [(o.token, o.anchor)] := by
  rw [places, push, placesFrom, h, Token.placesAll, Token.bare_eq_self h]
  rfl

/-- Ending a container moves it and what it holds, and they stay in their place. -/
theorem places_close {n : Nest} (h : n.Sound) : n.close.places = n.places := by
  obtain ⟨root, opened⟩ := n
  cases opened with
  | nil => rfl
  | cons o rest =>
    rw [close, places_add, Token.places_eq]
    show placesFrom root rest ++
      (o.token.bare, (rest.head?.getD root).anchor ++ o.token.way) ::
        Token.placesAll ((rest.head?.getD root).anchor ++ o.token.way) o.token.children = _
    rw [← h.anchored.1]
    rfl

/-- Adding a field changes neither the addresses of the waiting containers nor their kinds. -/
theorem Sound.add {n : Nest} (h : n.Sound) {t : Token} (ht : IsField t) : (n.add t).Sound := by
  obtain ⟨root, opened⟩ := n
  have ht' : AreFields [t] := ⟨ht, trivial⟩
  cases opened with
  | nil => exact ⟨trivial, (Token.areFields_append _ _).2 ⟨h.root, ht'⟩, nofun⟩
  | cons o rest =>
    refine ⟨h.anchored, h.root, ?_⟩
    intro o' ho'
    rcases List.mem_cons.1 ho' with rfl | ho'
    · obtain ⟨hk, hc⟩ := h.opened o (List.mem_cons_self ..)
      exact ⟨hk, (Token.areFields_append _ _).2 ⟨hc, ht'⟩⟩
    · exact h.opened o' (List.mem_cons_of_mem _ ho')

theorem Sound.close {n : Nest} (h : n.Sound) : n.close.Sound := by
  obtain ⟨root, opened⟩ := n
  cases opened with
  | nil => exact h
  | cons o rest =>
    have hrest : Sound ⟨root, rest⟩ :=
      ⟨h.anchored.2, h.root, fun o' ho' => h.opened o' (List.mem_cons_of_mem _ ho')⟩
    exact hrest.add ((Token.isField_iff _).2 (.inr (h.opened o (List.mem_cons_self ..))))

theorem Sound.push {n : Nest} (h : n.Sound) {o : Opened}
    (hanchor : o.anchor = n.innermost.anchor ++ o.token.way)
    (hkind : o.token.kind = .objectStart ∨ o.token.kind = .listStart)
    (hchildren : o.token.children = []) : (n.push o).Sound := by
  refine ⟨⟨hanchor, h.anchored⟩, h.root, ?_⟩
  intro o' ho'
  rcases List.mem_cons.1 ho' with rfl | ho'
  · exact ⟨hkind, by rw [hchildren]; trivial⟩
  · exact h.opened o' ho'

end Nest

/-! ## Lists side by side -/

theorem exists_of_mem_forall₂ {α β : Type} {R : α → β → Prop} {xs : List α} {ys : List β}
    (h : List.Forall₂ R xs ys) {y : β} (hy : y ∈ ys) : ∃ x ∈ xs, R x y := by
  induction h with
  | nil => cases hy
  | cons hr _ ih =>
    rcases List.mem_cons.1 hy with rfl | hy
    · exact ⟨_, List.mem_cons_self .., hr⟩
    · obtain ⟨x, hx, hr⟩ := ih hy
      exact ⟨x, List.mem_cons_of_mem _ hx, hr⟩

/-! ## One token -/

/-- How a field of a learned tree comes from a token of the sample: it is the token with a relative
address, and it stands at the address of the token's anchor. -/
def Settles (d : Document) (t : Token) (x : Token × Address) : Prop :=
  (∃ r, x.1 = { t with address := some r }) ∧ locate d t = .ok x.2

/-- The tokens that become fields. -/
def fieldTokens (tokens : List Token) : List Token := tokens.filter fun t => !t.kind.isClosing

theorem fieldTokens_of_closing {t : Token} (h : t.kind.isClosing = true) :
    fieldTokens [t] = [] := by
  rw [fieldTokens, List.filter_cons_of_neg (by simp [h])]
  rfl

theorem fieldTokens_of_not_closing {t : Token} (h : ¬ t.kind.isClosing = true) :
    fieldTokens [t] = [t] := by
  rw [fieldTokens, List.filter_cons_of_pos (by simp [h])]
  rfl

section
variable {d : Document}

/-- What taking up a token makes of the containers being filled: an end closes the innermost one, a
start opens another, and a value is added to the innermost one. A token that ends no container is
located, and its address is what follows the one of the innermost container. -/
inductive Taken (d : Document) (n : Nest) (t : Token) : Nest → Prop where
  | closes (hclosing : t.kind.isClosing = true) : Taken d n t n.close
  | opens {absolute relative : Address} (hclosing : ¬ t.kind.isClosing = true)
    (hcontainer : t.kind.isContainer = true) (hl : locate d t = .ok absolute)
    (ha : absolute = n.innermost.anchor ++ relative) :
    Taken d n t (n.push ⟨{ t with address := some relative }, absolute⟩)
  | adds {absolute relative : Address} (hclosing : ¬ t.kind.isClosing = true)
    (hcontainer : ¬ t.kind.isContainer = true) (hl : locate d t = .ok absolute)
    (ha : absolute = n.innermost.anchor ++ relative) :
    Taken d n t (n.add { t with address := some relative })

theorem taken_of_step {n n' : Nest} {t : Token} (h : step d n t = .ok n') : Taken d n t n' := by
  rw [step] at h
  split at h
  · next hclosing =>
    cases h
    exact .closes hclosing
  · next hclosing =>
    split at h
    · cases h
    · next absolute hl =>
      split at h
      · cases h
      · next relative hr =>
        have ha := Address.stripPrefix?_eq_some_iff.1 hr
        dsimp only at h
        split at h
        · next hcontainer =>
          cases h
          exact .opens hclosing hcontainer hl ha
        · next hcontainer =>
          cases h
          exact .adds hclosing hcontainer hl ha

/-- Taking up a token keeps the containers sound and appends the token to the list of fields, unless
it ends a container. -/
theorem step_places {n n' : Nest} {t : Token} (hn : n.Sound) (hroot : t.kind ≠ .root)
    (hflat : t.children = []) (h : step d n t = .ok n') :
    n'.Sound ∧
      ∃ xs, n'.places = n.places ++ xs ∧ List.Forall₂ (Settles d) (fieldTokens [t]) xs := by
  have hone : ∀ (relative : Address) {absolute : Address}, ¬ t.kind.isClosing = true →
      locate d t = .ok absolute → List.Forall₂ (Settles d) (fieldTokens [t])
        [({ t with address := some relative }, absolute)] := by
    intro relative absolute hclosing hl
    rw [fieldTokens_of_not_closing hclosing]
    exact .cons ⟨⟨relative, rfl⟩, hl⟩ .nil
  cases taken_of_step h with
  | closes hclosing =>
    refine ⟨hn.close, [], by rw [Nest.places_close hn, List.append_nil], ?_⟩
    rw [fieldTokens_of_closing hclosing]
    exact .nil
  | @opens absolute relative hclosing hcontainer hl ha =>
    have hkind : t.kind = .objectStart ∨ t.kind = .listStart := by
      revert hcontainer hroot
      cases t.kind <;> decide
    exact ⟨hn.push ha hkind hflat, _, Nest.places_push n hflat, hone relative hclosing hl⟩
  | @adds absolute relative hclosing hcontainer hl ha =>
    have hkind : t.kind = .value := by
      revert hcontainer hclosing
      cases t.kind <;> decide
    refine ⟨hn.add ((Token.isField_iff _).2 (.inl ⟨hkind, hflat⟩)), _, ?_, hone relative hclosing hl⟩
    rw [Nest.places_add, Token.places_of_flat _ (t := { t with address := some relative }) hflat,
      ha]
    rfl

/-! ## All tokens -/

theorem run_eq_foldlM (d : Document) (n : Nest) (tokens : List Token) :
    run d n tokens = tokens.foldlM (step d) n := by
  induction tokens generalizing n with
  | nil => rfl
  | cons t rest ih =>
    rw [run, List.foldlM_cons]
    cases step d n t with
    | error e => rfl
    | ok n => exact ih n

/-- Taking up tokens in two parts is taking them up at once. -/
theorem run_append (n : Nest) (xs ys : List Token) :
    run d n (xs ++ ys) = (run d n xs).bind fun n => run d n ys := by
  simp only [run_eq_foldlM, List.foldlM_append]
  rfl

/-- Tokens in two parts are taken up if each of the parts is. -/
theorem run_append_eq_ok_iff {n n' : Nest} {xs ys : List Token} :
    run d n (xs ++ ys) = .ok n' ↔ ∃ m, run d n xs = .ok m ∧ run d m ys = .ok n' := by
  rw [run_append, bind_eq_ok_iff]

theorem run_cons_eq_ok_iff {n n' : Nest} {t : Token} {rest : List Token} :
    run d n (t :: rest) = .ok n' ↔ ∃ m, step d n t = .ok m ∧ run d m rest = .ok n' := by
  rw [run_eq_foldlM, List.foldlM_cons]
  change (step d n t).bind (fun m => rest.foldlM (step d) m) = .ok n' ↔ _
  simp only [bind_eq_ok_iff, run_eq_foldlM]

/-- Taking up tokens fails where one of them cannot be taken up. -/
theorem run_eq_error_iff {n : Nest} {tokens : List Token} {e : StructuralError} :
    run d n tokens = .error e ↔
      ∃ before t after n', tokens = before ++ t :: after ∧ run d n before = .ok n' ∧
        step d n' t = .error e := by
  simp only [run_eq_foldlM]
  exact foldlM_eq_error_iff

/-- Taking up tokens in order appends those that are no ends of containers to the list of fields. -/
theorem run_places {n n' : Nest} {tokens : List Token} (hn : n.Sound)
    (hroot : ∀ t ∈ tokens, t.kind ≠ .root) (hflat : ∀ t ∈ tokens, t.children = [])
    (h : run d n tokens = .ok n') :
    n'.Sound ∧
      ∃ xs, n'.places = n.places ++ xs ∧ List.Forall₂ (Settles d) (fieldTokens tokens) xs := by
  induction tokens generalizing n with
  | nil =>
    cases h
    exact ⟨hn, [], by rw [List.append_nil], .nil⟩
  | cons t rest ih =>
    obtain ⟨m, hs, hrest⟩ := run_cons_eq_ok_iff.1 h
    obtain ⟨hm, xs, hxs, hfxs⟩ :=
      step_places hn (hroot t (List.mem_cons_self ..)) (hflat t (List.mem_cons_self ..)) hs
    obtain ⟨hn', ys, hys, hfys⟩ := ih hm (fun t ht => hroot t (List.mem_cons_of_mem _ ht))
      (fun t ht => hflat t (List.mem_cons_of_mem _ ht)) hrest
    refine ⟨hn', xs ++ ys, by rw [hys, hxs, List.append_assoc], ?_⟩
    have hsplit : fieldTokens (t :: rest) = fieldTokens [t] ++ fieldTokens rest :=
      List.filter_append [t] rest
    rw [hsplit]
    exact List.rel_append hfxs hfys

/-- The root and its anchor never change, but for the fields of the root. -/
theorem root_of_step {n n' : Nest} {t : Token} (h : step d n t = .ok n') :
    n'.root.anchor = n.root.anchor ∧ n'.root.token.bare = n.root.token.bare := by
  have hadd : ∀ (n : Nest) (t : Token),
      (n.add t).root.anchor = n.root.anchor ∧ (n.add t).root.token.bare = n.root.token.bare := by
    intro n t
    obtain ⟨root, opened⟩ := n
    cases opened <;> exact ⟨rfl, rfl⟩
  cases taken_of_step h with
  | closes _ =>
    obtain ⟨root, opened⟩ := n
    cases opened with
    | nil => exact ⟨rfl, rfl⟩
    | cons o rest => exact hadd ⟨root, rest⟩ o.token
  | opens _ _ _ _ => exact ⟨rfl, rfl⟩
  | adds _ _ _ _ => exact hadd n _

theorem root_of_run {n n' : Nest} {tokens : List Token} (h : run d n tokens = .ok n') :
    n'.root.anchor = n.root.anchor ∧ n'.root.token.bare = n.root.token.bare := by
  induction tokens generalizing n with
  | nil =>
    cases h
    exact ⟨rfl, rfl⟩
  | cons t rest ih =>
    obtain ⟨m, hs, hrest⟩ := run_cons_eq_ok_iff.1 h
    obtain ⟨ha, ht⟩ := ih hrest
    obtain ⟨ha', ht'⟩ := root_of_step hs
    exact ⟨ha.trans ha', ht.trans ht'⟩

/-! ## Pairing empties the stack -/

theorem Nest.length_opened_add (n : Nest) (t : Token) :
    (n.add t).opened.length = n.opened.length := by
  obtain ⟨root, opened⟩ := n
  cases opened <;> rfl

theorem Nest.length_opened_close (n : Nest) : n.close.opened.length = n.opened.length - 1 := by
  obtain ⟨root, opened⟩ := n
  cases opened with
  | nil => rfl
  | cons o rest => rw [Nest.close, Nest.length_opened_add]; rfl

/-- As many containers wait after a token as the check of pairs has open, if it was so before. -/
theorem length_opened_of_step {n n' : Nest} {opened opened' : List Token} {t : Token}
    (hroot : t.kind ≠ .root) (hlen : n.opened.length = opened.length)
    (hp : Pairing.step opened t = .ok opened') (h : step d n t = .ok n') :
    n'.opened.length = opened'.length := by
  have hopen := Pairing.length_of_step hp
  cases taken_of_step h with
  | closes hclosing =>
    rw [if_pos hclosing, TokenKind.isOpening_of_isClosing hclosing, if_neg Bool.false_ne_true]
      at hopen
    rw [Nest.length_opened_close]
    omega
  | opens hclosing hcontainer _ _ =>
    rw [if_neg hclosing, TokenKind.isOpening_eq_isContainer hroot, if_pos hcontainer] at hopen
    rw [Nest.push, List.length_cons]
    omega
  | adds hclosing hcontainer _ _ =>
    rw [if_neg hclosing, TokenKind.isOpening_eq_isContainer hroot, if_neg hcontainer] at hopen
    rw [Nest.length_opened_add]
    omega

/-- Over tokens that pair, as many containers wait as the check of pairs has open. -/
theorem length_opened_of_run {n n' : Nest} {opened opened' tokens : List Token}
    (hroot : ∀ t ∈ tokens, t.kind ≠ .root) (hlen : n.opened.length = opened.length)
    (hpair : Pairing.run opened tokens = .ok opened') (h : run d n tokens = .ok n') :
    n'.opened.length = opened'.length := by
  induction tokens generalizing n opened with
  | nil =>
    cases h
    cases hpair
    exact hlen
  | cons t rest ih =>
    obtain ⟨m, hs, hrest⟩ := run_cons_eq_ok_iff.1 h
    obtain ⟨o, hp, hprest⟩ := Pairing.run_cons_eq_ok_iff.1 hpair
    exact ih (fun t ht => hroot t (List.mem_cons_of_mem _ ht))
      (length_opened_of_step (hroot t (List.mem_cons_self ..)) hlen hp hs) hprest hrest

end

/-- With a root in the lead, what is learned comes of the tokens after it. -/
theorem learn_cons_of_root {root : Token} (h : root.kind = .root) (d : Document)
    (fresh : MarkerId) (name : String) (rest : List Token) :
    learn fresh name (root :: rest) d = (Pairing.check rest).bind fun _ =>
      (run d ⟨⟨root, .empty⟩, []⟩ rest).map fun n => ⟨name, n.root.token⟩ := by
  have hbracket : ¬ root.isBracket = true := by
    rw [Token.isBracket, h]
    decide
  have hcheck : Pairing.check (root :: rest) = Pairing.check rest := by
    rw [Pairing.check, Pairing.run, Pairing.step_of_not_isBracket hbracket, Pairing.check]
  rw [learn, hcheck, splitRoot, if_pos h]
  cases Pairing.check rest with
  | error e => rfl
  | ok u =>
    dsimp only
    cases run d ⟨⟨root, .empty⟩, []⟩ rest <;> rfl

/-- What learning goes through: the tokens after the root pair, and taking them up leaves nothing
waiting. -/
theorem exists_run_of_learn {d : Document} {fresh : MarkerId} {name : String} {tokens : List Token}
    {b : Blueprint} (hl : IsListing tokens) (h : learn fresh name tokens d = .ok b) :
    ∃ root rest n, tokens = root :: rest ∧ Pairing.run [] rest = .ok [] ∧
      run d ⟨⟨root, .empty⟩, []⟩ rest = .ok n ∧ n.opened = [] ∧ b = ⟨name, n.root.token⟩ := by
  obtain ⟨root, rest, rfl, hkind, hroot⟩ := hl.leads
  rw [learn_cons_of_root hkind] at h
  obtain ⟨_, hcheck, h⟩ := bind_eq_ok_iff.1 h
  obtain ⟨n, hrun, rfl⟩ := map_eq_ok_iff.1 h
  have hp := Pairing.paired_iff.1 (Pairing.check_eq_ok_iff.1 hcheck)
  have hclosed := List.eq_nil_of_length_eq_zero (length_opened_of_run hroot rfl hp hrun)
  exact ⟨root, rest, n, rfl, hp, hrun, hclosed, rfl⟩

/-- **A learned tree is the listing of its sample.** Its fields are the tokens of the sample that
end no container, in their order, each with a relative address added, and the relative addresses
down to a field make up the address of the field's anchor. -/
theorem placesAll_of_learn {d : Document} {fresh : MarkerId} {name : String} {tokens : List Token}
    {b : Blueprint} (hl : IsListing tokens) (h : learn fresh name tokens d = .ok b) :
    List.Forall₂ (Settles d) (fieldTokens tokens.tail) (Token.placesAll .empty b.root.children) ∧
      AreFields b.root.children ∧ tokens.head? = some b.root.bare ∧ b.name = name := by
  obtain ⟨root, rest, n, rfl, _, hrun, hclosed, rfl⟩ := exists_run_of_learn hl h
  have hrootflat : root.children = [] := hl.flat root (List.mem_cons_self ..)
  have hstart : Nest.Sound ⟨⟨root, .empty⟩, []⟩ :=
    ⟨trivial, by rw [hrootflat]; trivial, List.forall_mem_nil _⟩
  obtain ⟨hn, xs, hxs, hforall⟩ := run_places hstart hl.ne_root
    (fun t ht => hl.flat t (List.mem_cons_of_mem _ ht)) hrun
  obtain ⟨hanchor, hbare⟩ := root_of_run hrun
  have hplaces : Token.placesAll .empty n.root.token.children = xs := by
    have : n.places = Token.placesAll n.root.anchor n.root.token.children := by
      rw [Nest.places, hclosed, Nest.placesFrom]
    rw [this, hanchor, Nest.places, Nest.placesFrom, hrootflat, Token.placesAll] at hxs
    exact hxs
  refine ⟨?_, hn.root, ?_, rfl⟩
  · rw [hplaces]
    exact hforall
  · rw [hbare, Token.bare_eq_self hrootflat]
    rfl

end Stencil.Learning
