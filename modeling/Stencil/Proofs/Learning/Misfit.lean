import Mathlib.Data.List.Forall2
import Stencil.Proofs.Document.Descendants
import Stencil.Proofs.Learning.Replay

/-!
# Annotations that do not fit the document

Learning from paired tokens fails when a token does not fit the document. `Misfit` says what that is
in terms of elements: no element carries the token's identifier, or its marker has no logical child
for a container to be anchored on, or its anchor is neither the anchor of the container around it nor
a logical descendant of that (`Encloses` tells the container from the tokens before). The code
compares addresses instead, which comes to the same (`Document.isSome_stripPrefix?_addressOf_iff`).
While tokens are taken up, the waiting containers are the starts left open, each with the address of
its anchor (`Tracks`, kept by `tracks_of_step`); so a step fails at a misfit and nowhere else
(`step_eq_error_iff`), and a whole run at the first one (`learning_fails_at_first_misfit`).
-/

namespace Stencil.Learning

open Token (IsListing)

/-! ## Misfits -/

/-- A token has no element to be anchored on: no element carries its identifier, or it is a container
and the marker that carries it has no logical child. -/
inductive Unanchored (d : Document) (t : Token) : StructuralError → Prop where
  | markerNotFound (h : ∀ id p tag children, t.markerId = some id →
      d.node? p ≠ some (.element tag (some id.toText) children)) :
    Unanchored d t (.markerNotFound t.label)
  | emptyContainer {id : MarkerId} {marker : Path} (hcontainer : t.kind.isContainer = true)
    (hid : t.markerId = some id) (hmarker : d.findMarker? id = some marker)
    (h : d.logicalChildren marker = []) : Unanchored d t (.emptyContainer t.label)

/-- The container that is innermost behind some tokens, and the element it is anchored on: the last
start that they leave open, or if there is none, the root, which is anchored on the top element. -/
inductive Encloses (d : Document) (top : Path) (root : Token) (before : List Token) :
    Token → Path → Prop where
  | root (h : Paired before) : Encloses d top root before root top
  | container {o : Token} {q : Path} (ho : LastOpen before o) (hq : IsAnchor d o q) :
    Encloses d top root before o q

/-- A token does not fit the document behind the tokens before it, and the error says how. -/
inductive Misfit (d : Document) (top : Path) (root : Token) (before : List Token) (t : Token) :
    StructuralError → Prop where
  | unanchored {e : StructuralError} (h : Unanchored d t e) : Misfit d top root before t e
  | detached {container : Token} {anchor q : Path}
    (hcontainer : Encloses d top root before container anchor) (hq : IsAnchor d t q)
    (h : ¬ d.AtOrBelow anchor q) : Misfit d top root before t (.detached t.label container.label)

/-- The first field among tokens that does not fit, and the error that says how. -/
def FirstMisfit (d : Document) (top : Path) (root : Token) (tokens : List Token)
    (e : StructuralError) : Prop :=
  ∃ before t after, tokens = before ++ t :: after ∧ t.kind.isClosing = false ∧
    Misfit d top root before t e ∧
    ∀ before' t' after' e', before = before' ++ t' :: after' → t'.kind.isClosing = false →
      ¬ Misfit d top root before' t' e'

section
variable {d : Document} {top : Path} {root t : Token} {before opened : List Token} {n : Nest}

/-! ## Anchors -/

theorem isAnchor_inj {q q' : Path} (h : IsAnchor d t q) (h' : IsAnchor d t q') : q = q' := by
  obtain ⟨id, marker, hid, hm, hq⟩ := h
  obtain ⟨id', marker', hid', hm', hq'⟩ := h'
  rw [hid] at hid'
  cases hid'
  rw [hm] at hm'
  cases hm'
  split at hq
  · next hk =>
    rw [if_pos hk, hq] at hq'
    exact Option.some.inj hq'
  · next hk =>
    rw [if_neg hk, hq] at hq'
    exact Option.some.inj hq'

/-- What learning takes as the anchor of a token is where its marker points. -/
theorem anchor_of_isAnchor {q : Path} (h : IsAnchor d t q) : anchor d t = .ok q := by
  obtain ⟨id, marker, hid, hm, hq⟩ := h
  rw [anchor, hid, Option.bind_some, hm]
  dsimp only
  split at hq
  · next hk => rw [if_pos hk, hq]
  · next hk =>
    rw [if_neg hk, hq]
    rfl

theorem anchor_of_unanchored {e : StructuralError} (h : Unanchored d t e) :
    anchor d t = .error e := by
  rw [anchor]
  cases h with
  | markerNotFound h =>
    have hnone : t.markerId.bind d.findMarker? = none := by
      cases hid : t.markerId with
      | none => rfl
      | some id =>
        rw [Option.bind_some, Document.findMarker?_eq_none_iff]
        exact fun p tag children => h id p tag children hid
    rw [hnone]
  | emptyContainer hk hid hm h =>
    rw [hid, Option.bind_some, hm]
    dsimp only
    rw [if_pos hk, Document.firstChild?, h]
    rfl

/-- Under a top element that is no marker, a value always has an element around its marker. -/
theorem unanchored_of_anchor (htop : d.IsPlainAt top)
    (hbelow : ∀ p tag m children, d.node? p = some (.element tag m children) → top <:+ p)
    {e : StructuralError} (h : anchor d t = .error e) : Unanchored d t e := by
  rw [anchor] at h
  split at h
  · next hnone =>
    cases h
    refine .markerNotFound fun id p tag children hid => ?_
    rw [hid, Option.bind_some, Document.findMarker?_eq_none_iff] at hnone
    exact hnone p tag children
  · next marker hm =>
    obtain ⟨id, hid, hm⟩ := Option.bind_eq_some_iff.1 hm
    split at h
    · next hk =>
      split at h
      · cases h
      · next hfirst =>
        cases h
        exact .emptyContainer hk hid hm (List.head?_eq_none_iff.1 hfirst)
    · split at h
      · cases h
      · next hnone =>
        obtain ⟨tag, children, hn⟩ := Document.node?_of_findMarker? hm
        obtain ⟨p, hp, _⟩ :=
          Document.exists_logicalParent?_of_marker htop hn (hbelow _ _ _ _ hn)
        rw [hp] at hnone
        cases hnone

/-! ## Waiting containers -/

/-- A waiting container is that of a start: it has its name and the address of its anchor. -/
def WaitsFor (d : Document) (x : Opened) (o : Token) : Prop :=
  x.token.label = o.label ∧ ∃ q, IsAnchor d o q ∧ x.anchor = d.addressOf q

/-- What holds of the containers being filled after some tokens: the root is there, and the others
are those of the starts that the check of pairs has open. -/
structure Tracks (d : Document) (root : Token) (opened : List Token) (n : Nest) : Prop where
  label : n.root.token.label = root.label
  anchor : n.root.anchor = .empty
  waiting : List.Forall₂ (WaitsFor d) n.opened opened

theorem Tracks.add (h : Tracks d root opened n) (t : Token) : Tracks d root opened (n.add t) := by
  obtain ⟨r, xs⟩ := n
  obtain ⟨hlabel, hanchor, hwaiting⟩ := h
  cases hwaiting with
  | nil => exact ⟨hlabel, hanchor, .nil⟩
  | cons hx hrest => exact ⟨hlabel, hanchor, .cons hx hrest⟩

theorem Tracks.close {o : Token} (h : Tracks d root (o :: opened) n) :
    Tracks d root opened n.close := by
  obtain ⟨r, xs⟩ := n
  obtain ⟨hlabel, hanchor, hwaiting⟩ := h
  cases hwaiting with
  | @cons x _ xs _ _ hrest =>
    have hclosed : Tracks d root opened ⟨r, xs⟩ := ⟨hlabel, hanchor, hrest⟩
    exact hclosed.add x.token

/-- The innermost container is the one that encloses what comes next. -/
theorem Tracks.innermost (hroot : d.root? = some top) (h : Tracks d root opened n)
    (hrun : Pairing.run [] before = .ok opened) {container : Token} {anchor : Path}
    (hcontainer : Encloses d top root before container anchor) :
    n.innermost.token.label = container.label ∧ n.innermost.anchor = d.addressOf anchor := by
  obtain ⟨r, xs⟩ := n
  obtain ⟨hlabel, hanchor, hwaiting⟩ := h
  cases hcontainer with
  | root hpaired =>
    rw [Pairing.paired_iff.1 hpaired] at hrun
    cases hrun
    cases hwaiting
    refine ⟨hlabel, hanchor.trans ?_⟩
    rw [Document.addressOf, Document.stepsTo_root hroot]
    rfl
  | container ho hq =>
    obtain ⟨rest, hrun'⟩ := Pairing.exists_run_of_lastOpen (Pairing.extendable_iff.2 ⟨_, hrun⟩) ho
    rw [hrun'] at hrun
    cases hrun
    cases hwaiting with
    | cons hx _ =>
      obtain ⟨hx, q, hq', haddress⟩ := hx
      exact ⟨hx, by rw [isAnchor_inj hq hq']; exact haddress⟩

theorem Tracks.exists_encloses (h : Tracks d root opened n)
    (hrun : Pairing.run [] before = .ok opened) :
    ∃ container anchor, Encloses d top root before container anchor := by
  have hplaces := Pairing.waiting_of_run hrun
  cases opened with
  | nil => exact ⟨root, top, .root (Pairing.paired_iff.2 hrun)⟩
  | cons o rest =>
    obtain ⟨r, xs⟩ := n
    obtain ⟨_, _, hwaiting⟩ := h
    cases hwaiting with
    | cons hx _ =>
      obtain ⟨_, q, hq, _⟩ := hx
      exact ⟨o, q, .container hplaces.lastOpen hq⟩

end

/-! ## One token -/

section
variable {d : Document} {top : Path} (hroot : d.root? = some top) (htop : d.IsPlainAt top)
  (hbelow : ∀ p tag m children, d.node? p = some (.element tag m children) → top <:+ p)
include htop hbelow

/-- The anchor of a container around a field is a plain element at or below the top. -/
theorem isPlainAt_of_encloses {root container : Token} {before : List Token} {anchor : Path}
    (h : Encloses d top root before container anchor) : d.IsPlainAt anchor ∧ top <:+ anchor := by
  cases h with
  | root _ => exact ⟨htop, List.suffix_rfl⟩
  | container _ hq => exact (isAnchor_of_anchor htop hbelow (anchor_of_isAnchor hq)).2

include hroot in
/-- A field is found detached exactly when its anchor is not at or below that of its container. -/
theorem stripPrefix?_eq_none_iff {root container t : Token} {before opened : List Token} {n : Nest}
    {anchor q : Path} (hn : Tracks d root opened n) (hrun : Pairing.run [] before = .ok opened)
    (hcontainer : Encloses d top root before container anchor) (hq : IsAnchor d t q) :
    (d.addressOf q).stripPrefix? n.innermost.anchor = none ↔ ¬ d.AtOrBelow anchor q := by
  obtain ⟨hplain, hsuffix⟩ := isPlainAt_of_encloses htop hbelow hcontainer
  obtain ⟨_, hqplain, hqsuffix⟩ := isAnchor_of_anchor htop hbelow (anchor_of_isAnchor hq)
  rw [(hn.innermost hroot hrun hcontainer).2, ← Option.not_isSome_iff_eq_none,
    Document.isSome_stripPrefix?_addressOf_iff hroot htop hplain hsuffix hqplain hqsuffix]

include hroot in
/-- Taking up a token fails exactly at a field that does not fit. -/
theorem step_eq_error_iff {root t : Token} {before opened : List Token} {n : Nest}
    {e : StructuralError} (hn : Tracks d root opened n)
    (hrun : Pairing.run [] before = .ok opened) :
    step d n t = .error e ↔ t.kind.isClosing = false ∧ Misfit d top root before t e := by
  by_cases hclosing : t.kind.isClosing = true
  · rw [step, if_pos hclosing, hclosing]
    constructor
    · intro h
      cases h
    · intro h
      cases h.1
  rw [Bool.not_eq_true] at hclosing
  rw [step, if_neg (by rw [hclosing]; decide), locate]
  constructor
  · intro h
    refine ⟨hclosing, ?_⟩
    cases ha : anchor d t with
    | error e' =>
      rw [ha] at h
      cases h
      exact .unanchored (unanchored_of_anchor htop hbelow ha)
    | ok q =>
      rw [ha] at h
      dsimp only [Except.map] at h
      obtain ⟨hq, _⟩ := isAnchor_of_anchor htop hbelow ha
      obtain ⟨container, anchor, hcontainer⟩ :
          ∃ container anchor, Encloses d top root before container anchor :=
        hn.exists_encloses hrun
      split at h
      · next hnone =>
        cases h
        rw [(hn.innermost hroot hrun hcontainer).1]
        exact .detached hcontainer hq
          ((stripPrefix?_eq_none_iff hroot htop hbelow hn hrun hcontainer hq).1 hnone)
      · split at h <;> cases h
  · rintro ⟨_, h⟩
    cases h with
    | unanchored h =>
      rw [anchor_of_unanchored h]
      rfl
    | detached hcontainer hq h =>
      have hnone := (stripPrefix?_eq_none_iff hroot htop hbelow hn hrun hcontainer hq).2 h
      rw [anchor_of_isAnchor hq]
      dsimp only [Except.map]
      rw [hnone, (hn.innermost hroot hrun hcontainer).1]

/-- A token that is located has a container waiting for it at its anchor's address. -/
theorem exists_isAnchor_of_locate {t : Token} {a : Address} (h : locate d t = .ok a) :
    ∃ q, IsAnchor d t q ∧ a = d.addressOf q := by
  obtain ⟨q, hq, ha⟩ := map_eq_ok_iff.1 h
  exact ⟨q, (isAnchor_of_anchor htop hbelow hq).1, ha⟩

/-- Taking up a token keeps the waiting containers those of the starts that are open. -/
theorem tracks_of_step {root t : Token} {opened opened' : List Token} {n n' : Nest}
    (hn : Tracks d root opened n) (hkind : t.kind ≠ .root)
    (hpair : Pairing.step opened t = .ok opened') (h : step d n t = .ok n') :
    Tracks d root opened' n' := by
  have hopening := TokenKind.isOpening_eq_isContainer hkind
  cases taken_of_step h with
  | closes hclosing =>
    cases Pairing.taken_of_step hpair with
    | opens ho =>
      rw [TokenKind.isOpening_of_isClosing hclosing] at ho
      cases ho
    | closes hopened _ =>
      subst hopened
      exact hn.close
    | passes hnot =>
      rw [Token.isBracket, hclosing, Bool.or_true] at hnot
      exact absurd rfl hnot
  | opens hclosing hcontainer hl _ =>
    rw [Pairing.step_of_isOpening (hopening.trans hcontainer)] at hpair
    cases hpair
    obtain ⟨q, hq, ha⟩ := exists_isAnchor_of_locate htop hbelow hl
    exact ⟨hn.label, hn.anchor, .cons ⟨rfl, q, hq, ha⟩ hn.waiting⟩
  | adds hclosing hcontainer _ _ =>
    rw [← hopening] at hcontainer
    rw [Pairing.step_of_not_isBracket] at hpair
    · cases hpair
      exact hn.add _
    · rw [Token.isBracket, Bool.or_eq_true]
      exact not_or.2 ⟨hcontainer, hclosing⟩

/-! ## All tokens -/

/-- Taking up tokens in order keeps the waiting containers those of the starts that are open. -/
theorem tracks_of_run {root : Token} {opened opened' tokens : List Token} {n n' : Nest}
    (hn : Tracks d root opened n) (hkinds : ∀ t ∈ tokens, t.kind ≠ .root)
    (hpair : Pairing.run opened tokens = .ok opened') (h : run d n tokens = .ok n') :
    Tracks d root opened' n' := by
  induction tokens generalizing n opened with
  | nil =>
    cases hpair
    cases h
    exact hn
  | cons t rest ih =>
    obtain ⟨m, hs, hrest⟩ := run_cons_eq_ok_iff.1 h
    obtain ⟨o, hp, hprest⟩ := Pairing.run_cons_eq_ok_iff.1 hpair
    exact ih (tracks_of_step htop hbelow hn (hkinds t (List.mem_cons_self ..)) hp hs)
      (fun t ht => hkinds t (List.mem_cons_of_mem _ ht)) hprest hrest

/-- Once all tokens are taken up, the waiting containers are those of the starts that are open. -/
theorem tracks_of_run_start {root : Token} {opened before : List Token} {n : Nest}
    (hkinds : ∀ t ∈ before, t.kind ≠ .root) (hrun : Pairing.run [] before = .ok opened)
    (h : run d ⟨⟨root, .empty⟩, []⟩ before = .ok n) : Tracks d root opened n :=
  tracks_of_run htop hbelow ⟨rfl, rfl, .nil⟩ hkinds hrun h

include hroot in
/-- Where taking up tokens that can be paired stands at a token, it fails exactly if that does not
fit. -/
theorem step_eq_error_iff_misfit {root t : Token} {opened before after : List Token} {n : Nest}
    {e : StructuralError} (hkinds : ∀ x ∈ before ++ t :: after, x.kind ≠ .root)
    (hpair : Pairing.run [] (before ++ t :: after) = .ok opened)
    (h : run d ⟨⟨root, .empty⟩, []⟩ before = .ok n) :
    step d n t = .error e ↔ t.kind.isClosing = false ∧ Misfit d top root before t e := by
  obtain ⟨opened', hbefore⟩ := Pairing.extendable_iff.1
    (Pairing.extendable_iff.2 ⟨opened, hpair⟩).of_append
  exact step_eq_error_iff hroot htop hbelow (tracks_of_run_start htop hbelow
    (fun x hx => hkinds x (List.mem_append_left _ hx)) hbefore h) hbefore

include hroot in
/-- Taking up tokens that can be paired fails at the first field that does not fit, and only there. -/
theorem run_eq_error_iff_firstMisfit {root : Token} {opened tokens : List Token}
    {e : StructuralError} (hkinds : ∀ t ∈ tokens, t.kind ≠ .root)
    (hpair : Pairing.run [] tokens = .ok opened) :
    run d ⟨⟨root, .empty⟩, []⟩ tokens = .error e ↔ FirstMisfit d top root tokens e := by
  rw [run_eq_error_iff]
  constructor
  · rintro ⟨before, t, after, n, rfl, hbefore, hstep⟩
    obtain ⟨hclosing, hmisfit⟩ :=
      (step_eq_error_iff_misfit hroot htop hbelow hkinds hpair hbefore).1 hstep
    refine ⟨before, t, after, rfl, hclosing, hmisfit, ?_⟩
    -- An earlier field that does not fit would have been failed at before.
    rintro before' t' after' e' rfl hclosing' hmisfit'
    obtain ⟨n', hbefore', hrest'⟩ := run_append_eq_ok_iff.1 hbefore
    obtain ⟨_, hok, _⟩ := run_cons_eq_ok_iff.1 hrest'
    rw [List.append_assoc, List.cons_append] at hkinds hpair
    have hstep' :=
      (step_eq_error_iff_misfit hroot htop hbelow hkinds hpair hbefore').2 ⟨hclosing', hmisfit'⟩
    rw [hstep'] at hok
    cases hok
  · rintro ⟨before, t, after, rfl, hclosing, hmisfit, hfirst⟩
    cases hbefore : run d ⟨⟨root, .empty⟩, []⟩ before with
    | ok n =>
      exact ⟨before, t, after, n, rfl, hbefore,
        (step_eq_error_iff_misfit hroot htop hbelow hkinds hpair hbefore).2 ⟨hclosing, hmisfit⟩⟩
    | error e' =>
      obtain ⟨before', t', after', n, rfl, hbefore', hstep'⟩ := run_eq_error_iff.1 hbefore
      rw [List.append_assoc, List.cons_append] at hkinds hpair
      obtain ⟨hclosing', hmisfit'⟩ :=
        (step_eq_error_iff_misfit hroot htop hbelow hkinds hpair hbefore').1 hstep'
      exact absurd hmisfit' (hfirst before' t' after' e' rfl hclosing')

end

/-- Where some field does not fit, there is a first one. -/
theorem exists_firstMisfit {d : Document} {top : Path} {root t : Token}
    {tokens before after : List Token} {e : StructuralError} (htokens : tokens = before ++ t :: after)
    (hclosing : t.kind.isClosing = false) (hmisfit : Misfit d top root before t e) :
    ∃ e', FirstMisfit d top root tokens e' := by
  -- Of the fields before this one that do not fit, any is nearer to the start.
  induction hlength : before.length using Nat.strong_induction_on
    generalizing before t after e with
  | _ k ih =>
    by_cases hfirst : ∀ before' t' after' e', before = before' ++ t' :: after' →
        t'.kind.isClosing = false → ¬ Misfit d top root before' t' e'
    · exact ⟨e, before, t, after, htokens, hclosing, hmisfit, hfirst⟩
    · push Not at hfirst
      obtain ⟨before', t', after', e', rfl, hclosing', hmisfit'⟩ := hfirst
      rw [List.append_assoc, List.cons_append] at htokens
      refine ih before'.length ?_ htokens hclosing' hmisfit' rfl
      rw [← hlength, List.length_append, List.length_cons]
      omega

/-- **Learning fails exactly when the annotations do not fit the document.** Let a document have one
element at its top, which is no marker, and let the tokens of a sample be paired. Then learning fails
if and only if some field does not fit, and the error is that of the first one that does not. -/
theorem learning_fails_at_first_misfit {d : Document} {top : Path} {fresh : MarkerId}
    {name : String} {root : Token} {rest : List Token} (htop : d.HasPlainTop)
    (hroot : d.root? = some top) (hl : IsListing (root :: rest)) (hp : Paired (root :: rest)) :
    ((∃ e, learn fresh name (root :: rest) d = .error e) ↔
      ∃ before t after e, rest = before ++ t :: after ∧ t.kind.isClosing = false ∧
        Misfit d top root before t e) ∧
    ∀ e, learn fresh name (root :: rest) d = .error e ↔ FirstMisfit d top root rest e := by
  obtain ⟨_, hroot', hplain, hbelow⟩ := htop.exists_root?
  cases hroot.symm.trans hroot'
  obtain ⟨_, _, heq, hkind, hkinds⟩ := hl.leads
  cases heq
  have hbracket : ¬ root.isBracket = true := by
    rw [Token.isBracket, hkind]
    decide
  have hrest : Paired rest := by rwa [Paired, brackets_cons_of_not_isBracket hbracket] at hp
  have hlearn : ∀ e, learn fresh name (root :: rest) d = .error e ↔
      FirstMisfit d top root rest e := by
    intro e
    rw [← run_eq_error_iff_firstMisfit hroot hplain hbelow hkinds (Pairing.paired_iff.1 hrest),
      learn_cons_of_root hkind, Pairing.check_eq_ok_iff.2 hrest]
    exact map_eq_error_iff
  refine ⟨⟨?_, ?_⟩, hlearn⟩
  · rintro ⟨e, he⟩
    obtain ⟨before, t, after, htokens, hclosing, hmisfit, _⟩ := (hlearn e).1 he
    exact ⟨before, t, after, e, htokens, hclosing, hmisfit⟩
  · rintro ⟨before, t, after, e, htokens, hclosing, hmisfit⟩
    obtain ⟨e', hfirst⟩ := exists_firstMisfit htokens hclosing hmisfit
    exact ⟨e', (hlearn e').2 hfirst⟩

section
open Token (leaf)

/-- A list whose field is marked in the second repetition, which is not at or below the first. -/
theorem learning_fails_at_later_repetition :
    let id (n : Nat) := MarkerId.ofNat n
    let root := Token.root (id 0)
    let rest := [leaf .listStart (some "rows") none (some (id 1)),
      leaf .value (some "x") none (some (id 2)), leaf .listEnd none none none]
    let d : Document := ⟨[.doctype "html", .element "html" none [.element "ul" none
      [.element "list-start" (some (id 1).toText) [.element "li" none []],
        .element "li" none [.element "value" (some (id 2).toText) []]]]]⟩
    d.HasPlainTop ∧ d.root? = some [1] ∧ IsListing (root :: rest) ∧ Paired (root :: rest) ∧
      learn (id 9) "page" (root :: rest) d = .error (.detached "x" "rows") ∧
      FirstMisfit d [1] root rest (.detached "x" "rows") := by
  intro id root rest d
  have htop : d.HasPlainTop := by
    refine ⟨1, "html", _, rfl, fun j n hn he => ?_⟩
    match j with
    | 0 => cases hn; cases he
    | 1 => rfl
    | j + 2 => cases hn
  have hl : IsListing (root :: rest) := ⟨⟨_, _, rfl, rfl, by decide⟩, by decide, by decide⟩
  have hp : Paired (root :: rest) := Pairing.paired_iff.2 rfl
  have hlearn : learn (id 9) "page" (root :: rest) d = .error (.detached "x" "rows") := by
    decide +kernel
  exact ⟨htop, rfl, hl, hp, hlearn,
    ((learning_fails_at_first_misfit htop rfl hl hp).2 _).1 hlearn⟩

end

end Stencil.Learning
