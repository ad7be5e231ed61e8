import Mathlib.Data.List.Find
import Mathlib.Data.List.Nodup
import Mathlib.Data.Set.Function
import Stencil.Proofs.Document.Addresses
import Stencil.Proofs.Document.Splice

/-!
# Transparency of markers

No query on elements tells a document from the document with its markers spliced out. Taking
counterparts is a bijection between the plain elements of a document and all the elements of the
spliced one (`bijOn_counterpart`), and every query answers the counterpart of an element with the
counterpart of what it answers the element (`sameQueries`). For a document whose top element is no
marker, `markers_are_transparent` puts this together.
-/

namespace Stencil.Document

section
variable {d : Document} {p q top : Path}

/-! ## Counterparts are a bijection -/

theorem isHolderAt_logicalParent? (d : Document) (p : Path) :
    d.IsHolderAt ((d.logicalParent? p).getD []) := by
  cases hparent : d.logicalParent? p with
  | none => exact .inl rfl
  | some q => exact .inr (isPlainAt_of_logicalParent? hparent)

/-- Elements with one counterpart are one element. The induction is on the length of the position:
their logical parents have one counterpart, too, and below one parent the counterparts stand at
different places. -/
theorem injOn_counterpart (d : Document) : Set.InjOn d.counterpart {p | d.IsPlainAt p} := by
  intro p hp q hq heq
  induction hlen : p.length using Nat.strongRecOn generalizing p q with
  | ind len ih =>
    have hparents : (d.logicalParent? p).map d.counterpart =
        (d.logicalParent? q).map d.counterpart := by
      rw [← logicalParent?_counterpart hp, ← logicalParent?_counterpart hq, heq]
    have hparent : d.logicalParent? p = d.logicalParent? q := by
      cases hpp : d.logicalParent? p with
      | none =>
        rw [hpp, Option.map_none, eq_comm, Option.map_eq_none_iff] at hparents
        exact hparents.symm
      | some p' =>
        rw [hpp, Option.map_some, eq_comm, Option.map_eq_some_iff] at hparents
        obtain ⟨q', hqq, heq'⟩ := hparents
        rw [hqq, ih p'.length (hlen ▸ length_lt_of_logicalParent? hpp)
          (isPlainAt_of_logicalParent? hpp) (isPlainAt_of_logicalParent? hqq) heq'.symm rfl]
    have hnodup := nodup_logicalChildren d.splice
      (d.counterpart ((d.logicalParent? p).getD []))
    rw [logicalChildren_counterpart (isHolderAt_logicalParent? d p)] at hnodup
    exact List.inj_on_of_nodup_map hnodup (mem_logicalChildren_logicalParent? hp)
      (hparent ▸ mem_logicalChildren_logicalParent? hq) heq

/-- Every element of the spliced document is a counterpart, by induction from the top down. -/
theorem exists_counterpart (hq : d.splice.IsPlainAt q) :
    ∃ p, d.IsPlainAt p ∧ d.counterpart p = q := by
  induction hlen : q.length using Nat.strongRecOn generalizing q with
  | ind len ih =>
    have hholder : ∃ p, d.IsHolderAt p ∧
        d.counterpart p = (d.splice.logicalParent? q).getD [] := by
      cases hqq : d.splice.logicalParent? q with
      | none => exact ⟨[], .inl rfl, rfl⟩
      | some q' =>
        obtain ⟨p, hp, heq⟩ := ih q'.length (hlen ▸ length_lt_of_logicalParent? hqq)
          (isPlainAt_of_logicalParent? hqq) rfl
        exact ⟨p, .inr hp, heq⟩
    obtain ⟨p, hp, heq⟩ := hholder
    have hmem := mem_logicalChildren_logicalParent? hq
    rw [← heq, logicalChildren_counterpart hp, List.mem_map] at hmem
    obtain ⟨p', hp', rfl⟩ := hmem
    exact ⟨p', isPlainAt_of_mem_logicalChildren hp', rfl⟩

/-- **Counterparts are a bijection** from the plain elements of a document to the elements of the
spliced one. -/
theorem bijOn_counterpart (d : Document) :
    Set.BijOn d.counterpart {p | d.IsPlainAt p} {q | d.splice.IsPlainAt q} :=
  ⟨fun _ h => h.counterpart, injOn_counterpart d, fun _ h => exists_counterpart h⟩

/-! ## The top element -/

theorem firstElement?_spliceAll {tag : String} {children : List Node} : ∀ {ns : List Node} {i : Nat},
    firstElement? ns = some i → ns[i]? = some (.element tag none children) →
    firstElement? (Node.spliceAll ns) = some i ∧ (Node.spliceAll (ns.take i)).length = i
  | [], _, h, _ => by cases h
  | n :: ns, i, h, hn => by
    rw [firstElement?] at h
    split at h
    · cases h
      cases hn
      exact ⟨rfl, rfl⟩
    · next hnot =>
      obtain ⟨j, hj, rfl⟩ := Option.map_eq_some_iff.1 h
      rw [List.getElem?_cons_succ] at hn
      obtain ⟨hfirst, hlength⟩ := firstElement?_spliceAll hj hn
      cases n with
      | element _ _ _ => exact absurd rfl hnot
      | text _ | comment _ | doctype _ =>
        exact ⟨by rw [Node.spliceAll, Node.splice, List.singleton_append, firstElement?, hfirst]; rfl,
          by rw [List.take_succ_cons, Node.spliceAll, Node.splice, List.length_append, hlength,
            Nat.add_comm]; rfl⟩

/-- The top element of the spliced document is the counterpart of the top element. -/
theorem root?_splice (htop : d.root? = some top) (hplain : d.IsPlainAt top) :
    d.splice.root? = some (d.counterpart top) := by
  obtain ⟨i, hi, rfl⟩ := Option.map_eq_some_iff.1 htop
  obtain ⟨tag, children, hn⟩ := id hplain
  obtain ⟨hfirst, hlength⟩ := firstElement?_spliceAll hi hn
  rw [root?, splice, hfirst, hplain.counterpart_cons]
  simp [Seat.path, Seat.behind, seat, childrenAt, hlength]

/-! ## Queries -/

/-- What is asked of an element and of its counterpart in the spliced document is answered alike. -/
structure SameQueries (d : Document) (p : Path) : Prop where
  /-- The counterpart is an element of the same tag. -/
  tag : d.splice.tag? (d.counterpart p) = d.tag? p
  children : d.splice.logicalChildren (d.counterpart p) = (d.logicalChildren p).map d.counterpart
  firstChild : d.splice.firstChild? (d.counterpart p) = (d.firstChild? p).map d.counterpart
  parent : d.splice.logicalParent? (d.counterpart p) = (d.logicalParent? p).map d.counterpart
  nextSibling : d.splice.nextSibling? (d.counterpart p) = (d.nextSibling? p).map d.counterpart
  address : d.splice.addressOf (d.counterpart p) = d.addressOf p
  resolution (a : Address) :
    d.splice.resolve? (d.counterpart p) a = (d.resolve? p a).map d.counterpart

theorem idxOf?_map_counterpart (hp : d.IsPlainAt p) : ∀ {l : List Path},
    (∀ q ∈ l, d.IsPlainAt q) → (l.map d.counterpart).idxOf? (d.counterpart p) = l.idxOf? p
  | [], _ => rfl
  | q :: l, hl => by
    have heq : (d.counterpart q == d.counterpart p) = (q == p) := by
      rw [Bool.eq_iff_iff, beq_iff_eq, beq_iff_eq]
      exact (injOn_counterpart d).eq_iff (hl q List.mem_cons_self) hp
    rw [List.map_cons, List.idxOf?_cons, List.idxOf?_cons, heq,
      idxOf?_map_counterpart hp fun q hq => hl q (List.mem_cons_of_mem _ hq)]

/-- An element has the place among the logical children of a position that its counterpart has. -/
theorem idxOf?_logicalChildren_counterpart (hq : d.IsPlainAt q) (hp : d.IsPlainAt p) :
    (d.splice.logicalChildren (d.counterpart q)).idxOf? (d.counterpart p) =
      (d.logicalChildren q).idxOf? p := by
  rw [logicalChildren_counterpart (.inr hq),
    idxOf?_map_counterpart hp fun _ => isPlainAt_of_mem_logicalChildren]

theorem nextSibling?_counterpart (hp : d.IsPlainAt p) :
    d.splice.nextSibling? (d.counterpart p) = (d.nextSibling? p).map d.counterpart := by
  rw [nextSibling?, nextSibling?, logicalParent?_counterpart hp]
  cases hparent : d.logicalParent? p with
  | none => rfl
  | some parent =>
    have hq : d.IsPlainAt parent := isPlainAt_of_logicalParent? hparent
    simp only [Option.map_some, idxOf?_logicalChildren_counterpart hq hp]
    cases (d.logicalChildren parent).idxOf? p with
    | none => rfl
    | some i => simp only [logicalChildren_counterpart (.inr hq), List.getElem?_map]

/-! ### Addresses -/

/-- The steps to an element are those to its logical parent and one more; an element without a
logical parent has none. -/
theorem stepsTo_of_isPlainAt (hp : d.IsPlainAt p) :
    d.stepsTo p =
      ((d.logicalParent? p).map fun q => d.stepsTo q ++ [d.stepTo q p]).getD [] := by
  by_cases hroot : d.root? = some p
  · obtain ⟨i, _, rfl⟩ := Option.map_eq_some_iff.1 hroot
    rw [stepsTo_root hroot]
    rfl
  · cases hparent : d.logicalParent? p with
    | some q => exact stepsTo_of_logicalParent? hroot hp hparent
    | none =>
      rw [stepsTo, if_neg hroot]
      split
      · rfl
      · next h => rw [hparent] at h; cases h

theorem stepTo_counterpart (hq : d.IsPlainAt q) (hp : d.IsPlainAt p) :
    d.splice.stepTo (d.counterpart q) (d.counterpart p) = d.stepTo q p := by
  rw [stepTo, stepTo, hp.tag?_counterpart, idxOf?_logicalChildren_counterpart hq hp]

theorem stepsTo_counterpart (hp : d.IsPlainAt p) :
    d.splice.stepsTo (d.counterpart p) = d.stepsTo p := by
  induction hlen : p.length using Nat.strongRecOn generalizing p with
  | ind len ih =>
    rw [stepsTo_of_isPlainAt hp, stepsTo_of_isPlainAt hp.counterpart, logicalParent?_counterpart hp]
    cases hparent : d.logicalParent? p with
    | none => rfl
    | some q =>
      have hq : d.IsPlainAt q := isPlainAt_of_logicalParent? hparent
      have hsteps := ih q.length (hlen ▸ length_lt_of_logicalParent? hparent) hq rfl
      simp only [Option.map_some, Option.getD_some, hsteps, stepTo_counterpart hq hp]

/-! ### Resolution -/

theorem childAt?_counterpart (hp : d.IsPlainAt p) (s : Step) :
    d.splice.childAt? (d.counterpart p) s = (d.childAt? p s).map d.counterpart := by
  rw [childAt?, childAt?, logicalChildren_counterpart (.inr hp)]
  split
  · rw [List.getElem?_map]
  · rw [List.getLast?_map]
  · rw [List.find?_map]
    refine congrArg _ (List.find?_congr fun q hq => ?_)
    rw [Function.comp_apply, (isPlainAt_of_mem_logicalChildren hq).tag?_counterpart]

theorem mem_logicalChildren_of_childAt? {s : Step} (h : d.childAt? p s = some q) :
    q ∈ d.logicalChildren p := by
  rw [childAt?] at h
  split at h
  · exact List.mem_of_getElem? h
  · exact List.mem_of_getLast? h
  · exact List.mem_of_find?_eq_some h

theorem resolveStep?_counterpart (hp : d.IsPlainAt p) (s : Step) :
    d.splice.resolveStep? (d.counterpart p) s = (d.resolveStep? p s).map d.counterpart := by
  rw [resolveStep?, resolveStep?, childAt?_counterpart hp]
  cases hq : d.childAt? p s with
  | none => rfl
  | some q =>
    have hplain : d.IsPlainAt q :=
      isPlainAt_of_mem_logicalChildren (mem_logicalChildren_of_childAt? hq)
    simp only [Option.map_some, hplain.tag?_counterpart]
    split <;> rfl

theorem mem_logicalChildren_of_resolveStep? {s : Step} (h : d.resolveStep? p s = some q) :
    q ∈ d.logicalChildren p :=
  mem_logicalChildren_of_childAt? (resolveStep?_eq_some_iff.1 h).1

theorem resolveSteps?_counterpart (hp : d.IsPlainAt p) (steps : List Step) :
    d.splice.resolveSteps? (d.counterpart p) steps =
      (d.resolveSteps? p steps).map d.counterpart := by
  induction steps generalizing p with
  | nil => rfl
  | cons s steps ih =>
    rw [resolveSteps?, resolveSteps?, resolveStep?_counterpart hp]
    cases hq : d.resolveStep? p s with
    | none => rfl
    | some q =>
      exact ih (isPlainAt_of_mem_logicalChildren (mem_logicalChildren_of_resolveStep? hq))

/-! ## Transparency -/

/-- Queries on a plain element of any document are answered as in the spliced one. -/
theorem sameQueries (hp : d.IsPlainAt p) : d.SameQueries p where
  tag := hp.tag?_counterpart
  children := logicalChildren_counterpart (.inr hp)
  firstChild := by rw [firstChild?, firstChild?, logicalChildren_counterpart (.inr hp),
    List.head?_map]
  parent := logicalParent?_counterpart hp
  nextSibling := nextSibling?_counterpart hp
  address := congrArg Address.mk (stepsTo_counterpart hp)
  resolution a := resolveSteps?_counterpart hp a.steps

/-- **Markers are transparent.** Let the top element of a document be no marker. Replacing every
marker by its own children leaves a document without markers, whose elements are the counterparts of
the plain elements, one of each and the top of the top, and no query tells an element from its
counterpart. -/
theorem markers_are_transparent (htop : d.root? = some top) (hplain : d.IsPlainAt top) :
    (∀ q, d.splice.isMarkerAt q = false) ∧
    d.splice.root? = some (d.counterpart top) ∧
    Set.BijOn d.counterpart {p | d.IsPlainAt p} {q | d.splice.IsPlainAt q} ∧
    (∀ p tag children, d.node? p = some (.element tag none children) →
      d.splice.node? (d.counterpart p) = some (.element tag none (Node.spliceAll children))) ∧
    ∀ p, d.IsPlainAt p → d.SameQueries p :=
  ⟨not_isMarkerAt_splice d, root?_splice htop hplain, bijOn_counterpart d,
    fun _ _ _ => node?_counterpart, fun _ => sameQueries⟩

/-- Markers beside and in each other, with and without children, between texts and comments. -/
theorem markers_are_transparent_nested :
    let d : Document := ⟨[.doctype "html", .element "html" none [.text "a",
      .element "list-start" (some "1") [.element "value" (some "2") [], .element "li" none [],
        .comment "b", .element "list-next" (some "3") [.element "li" none [.text "c"]]],
      .element "value" (some "4") [],
      .element "li" none [.element "value" (some "5") [], .element "b" none []]]]⟩
    let li : Path := [0, 3, 1, 1]
    d.root? = some [1] ∧ d.IsPlainAt [1] ∧ d.IsPlainAt li ∧ d.counterpart li = [3, 1] ∧
      d.splice.root? = some [1] ∧ d.SameQueries li ∧
      d.nextSibling? li = some [3, 1] ∧ d.splice.nextSibling? [3, 1] = some [4, 1] := by
  intro d li
  have htop : d.root? = some [1] := by decide
  have hplain : d.IsPlainAt [1] := ⟨_, _, rfl⟩
  have hli : d.IsPlainAt li := ⟨_, _, rfl⟩
  have hplace : d.counterpart li = [3, 1] := by decide
  have hnext : d.nextSibling? li = some [3, 1] := by decide
  obtain ⟨_, hroot, _, _, hqueries⟩ := markers_are_transparent htop hplain
  have hsame := hqueries li hli
  refine ⟨htop, hplain, hli, hplace, hroot, hsame, hnext, ?_⟩
  have hsibling := hsame.nextSibling
  rw [hplace, hnext] at hsibling
  exact hsibling

end

end Stencil.Document
