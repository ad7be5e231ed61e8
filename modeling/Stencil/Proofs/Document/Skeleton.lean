import Mathlib.Data.List.Nodup
import Stencil.Proofs.Document.InStep

/-!
# Skeletons

The skeleton of an element is the tree of its logical descendants with their tags and with what is
read of the child nodes of each. Two documents whose top elements have one skeleton are walked in
step: positions that are reached from the tops by the same choices of logical children
(`Corresponds`) have one skeleton (`SameSkeleton.skeletonAt_eq`), and every query that leads from
one of them somewhere leads from the other to the corresponding position, along addresses
(`SameSkeleton.inStep`) and to siblings (`SameSkeleton.rel_nextSibling?`).
-/

namespace Stencil

/-- An element with the markers below it looked through: its tag, what is read of its child nodes,
and its logical children. -/
inductive Skeleton where
  | element (tag reading : String) (children : List Skeleton)

namespace Skeleton

mutual

/-- Equality of skeletons is decided part by part. -/
def decEq : (a b : Skeleton) → Decidable (a = b)
  | .element tag reading children, .element tag' reading' children' =>
    if h : tag = tag' ∧ reading = reading' then
      match decEqAll children children' with
      | isTrue hc => isTrue (by rw [h.1, h.2, hc])
      | isFalse hc => isFalse fun e => hc (element.inj e).2.2
    else
      isFalse fun e => h ⟨(element.inj e).1, (element.inj e).2.1⟩

/-- Equality of lists of skeletons is decided part by part. -/
def decEqAll : (a b : List Skeleton) → Decidable (a = b)
  | [], [] => isTrue rfl
  | [], _ :: _ => isFalse nofun
  | _ :: _, [] => isFalse nofun
  | x :: xs, y :: ys =>
    match decEq x y with
    | isFalse h => isFalse fun e => h (List.cons.inj e).1
    | isTrue h =>
      match decEqAll xs ys with
      | isFalse h' => isFalse fun e => h' (List.cons.inj e).2
      | isTrue h' => isTrue (by rw [h, h'])

end

instance : DecidableEq Skeleton := decEq

end Skeleton

namespace Node

mutual

/-- The elements that stand for a node. -/
def plain : Node → List Node
  | .element tag none children => [.element tag none children]
  | .element _ (some _) children => plainAll children
  | .text _ => []
  | .comment _ => []
  | .doctype _ => []

/-- The elements that stand for nodes, in document order. -/
def plainAll : List Node → List Node
  | [] => []
  | n :: ns => n.plain ++ plainAll ns

end

section
variable (read : List Node → String)

mutual

/-- The skeletons of the elements that stand for a node. -/
def skeletons : Node → List Skeleton
  | .element tag none children => [.element tag (read children) (skeletonsAll children)]
  | .element _ (some _) children => skeletonsAll children
  | .text _ => []
  | .comment _ => []
  | .doctype _ => []

/-- The skeletons of the elements that stand for nodes, in document order. -/
def skeletonsAll : List Node → List Skeleton
  | [] => []
  | n :: ns => n.skeletons ++ skeletonsAll ns

end

/-- The skeleton of an element, whether it is a marker or not. -/
def skeleton? : Node → Option Skeleton
  | .element tag _ children => some (.element tag (read children) (skeletonsAll read children))
  | _ => none

mutual

theorem map_skeleton?_plain : ∀ n : Node,
    n.plain.map (skeleton? read) = (n.skeletons read).map some
  | .element _ none _ => rfl
  | .element _ (some _) children => map_skeleton?_plainAll children
  | .text _ | .comment _ | .doctype _ => rfl

theorem map_skeleton?_plainAll : ∀ ns : List Node,
    (plainAll ns).map (skeleton? read) = (skeletonsAll read ns).map some
  | [] => rfl
  | n :: ns => by
    rw [plainAll, skeletonsAll, List.map_append, List.map_append, map_skeleton?_plain n,
      map_skeleton?_plainAll ns]

end

end

end Node

namespace Document

/-! ## The nodes at logical children -/

section
variable {d : Document}

mutual

/-- At the positions that stand for a node there are the elements that stand for it. -/
theorem map_node?_standing : ∀ (n : Node) (p : Path), d.node? p = some n →
    (standing p n).map d.node? = n.plain.map some
  | .element tag none children, p, hn => by
    rw [standing, Node.plain, List.map_singleton, List.map_singleton, hn]
  | .element tag (some m) children, p, hn => by
    have hc : d.childrenAt p = children := childrenAt_of_node? hn
    rw [standing, Node.plain]
    exact map_node?_standingAll children p 0 hc
  | .text _, _, _ | .comment _, _, _ | .doctype _, _, _ => rfl

/-- The same of the children of a position, from an index on. -/
theorem map_node?_standingAll : ∀ (ns : List Node) (p : Path) (i : Nat),
    (d.childrenAt p).drop i = ns →
    (standingAll p i ns).map d.node? = (Node.plainAll ns).map some
  | [], _, _, _ => rfl
  | n :: ns, p, i, hns => by
    obtain ⟨hfirst, hrest⟩ := node?_of_drop_childrenAt hns
    rw [standingAll, Node.plainAll, List.map_append, List.map_append,
      map_node?_standing n (i :: p) hfirst, map_node?_standingAll ns p (i + 1) hrest]

end

/-- At the logical children of a position there are the elements that stand for its children. -/
theorem map_node?_logicalChildren (d : Document) (p : Path) :
    (d.logicalChildren p).map d.node? = (Node.plainAll (d.childrenAt p)).map some :=
  map_node?_standingAll (d.childrenAt p) p 0 rfl

/-- The skeleton of the element at a position. -/
def skeletonAt (read : List Node → String) (d : Document) (p : Path) : Option Skeleton :=
  (d.node? p).bind (Node.skeleton? read)

/-- The logical children of a position have the skeletons of its children. -/
theorem map_skeletonAt_logicalChildren (read : List Node → String) (d : Document) (p : Path) :
    (d.logicalChildren p).map (d.skeletonAt read) =
      (Node.skeletonsAll read (d.childrenAt p)).map some := by
  calc (d.logicalChildren p).map (d.skeletonAt read)
      = ((d.logicalChildren p).map d.node?).map fun n => n.bind (Node.skeleton? read) := by
        rw [List.map_map]; rfl
    _ = (Node.plainAll (d.childrenAt p)).map (Node.skeleton? read) := by
        rw [map_node?_logicalChildren, List.map_map]; rfl
    _ = (Node.skeletonsAll read (d.childrenAt p)).map some := Node.map_skeleton?_plainAll read _

theorem skeletonAt_of_isPlainAt (read : List Node → String) {p : Path} (h : d.IsPlainAt p) :
    ∃ tag, d.tag? p = some tag ∧ d.skeletonAt read p =
      some (.element tag (read (d.childrenAt p)) (Node.skeletonsAll read (d.childrenAt p))) := by
  obtain ⟨tag, children, hn⟩ := h
  refine ⟨tag, ?_, ?_⟩
  · rw [tag?, hn]
    rfl
  · rw [skeletonAt, hn, childrenAt_of_node? hn]
    rfl

/-! ## Siblings of children -/

/-- The top element has no sibling. -/
theorem nextSibling?_of_root? {p : Path} (h : d.root? = some p) : d.nextSibling? p = none := by
  obtain ⟨i, _, rfl⟩ := Option.map_eq_some_iff.1 h
  rfl

/-- The sibling after a logical child is the next one in the list, since a child stands in it
once. -/
theorem nextSibling?_of_getElem? {p q : Path} {i : Nat} (hp : d.IsPlainAt p)
    (hq : (d.logicalChildren p)[i]? = some q) :
    d.nextSibling? q = (d.logicalChildren p)[i + 1]? := by
  have hparent := ((mem_logicalChildren_iff hp).1 (List.mem_of_getElem? hq)).2
  obtain ⟨hi, hget⟩ := List.getElem?_eq_some_iff.1 hq
  have hindex : (d.logicalChildren p).idxOf? q = some i :=
    List.idxOf?_eq_some_iff.2 ⟨hi, hget, fun j hj hsame =>
      Nat.ne_of_lt hj
        ((List.Nodup.getElem_inj_iff (nodup_logicalChildren d p)).1 (hsame.trans hget.symm))⟩
  rw [nextSibling?, hparent]
  simp only [hindex]

/-- The sibling after a logical child is the first of those behind it. -/
theorem nextSibling?_eq_head? {p q : Path} {before after : List Path} (hp : d.IsPlainAt p)
    (h : d.logicalChildren p = before ++ q :: after) : d.nextSibling? q = after.head? := by
  have hq : (d.logicalChildren p)[before.length]? = some q := by
    rw [h, List.getElem?_append_right (Nat.le_refl _), Nat.sub_self]
    rfl
  rw [nextSibling?_of_getElem? hp hq, h, List.getElem?_append_right (Nat.le_succ _),
    Nat.succ_sub (Nat.le_refl _), Nat.sub_self, List.getElem?_cons_succ, List.head?_eq_getElem?]

end

/-! ## Corresponding positions -/

/-- A position of one document and a position of another are reached from two positions of them by
the same choices of logical children. -/
inductive Corresponds (d d' : Document) (top top' : Path) : Path → Path → Prop where
  | top : Corresponds d d' top top' top top'
  | child {p p' q q' : Path} {i : Nat} (h : Corresponds d d' top top' p p')
    (hq : (d.logicalChildren p)[i]? = some q) (hq' : (d'.logicalChildren p')[i]? = some q') :
    Corresponds d d' top top' q q'

/-- The top elements of two documents are no markers and have one skeleton. -/
structure SameSkeleton (read : List Node → String) (d d' : Document) (top top' : Path) : Prop where
  root : d.root? = some top
  root' : d'.root? = some top'
  plain : d.IsPlainAt top
  plain' : d'.IsPlainAt top'
  skeleton : d.skeletonAt read top = d'.skeletonAt read top'

namespace SameSkeleton

section
variable {read : List Node → String} {d d' : Document} {top top' p p' q q' : Path}
  (h : SameSkeleton read d d' top top')
include h

/-- Corresponding positions are those of elements that are no markers. -/
theorem isPlainAt (hp : Corresponds d d' top top' p p') : d.IsPlainAt p ∧ d'.IsPlainAt p' := by
  induction hp with
  | top => exact ⟨h.plain, h.plain'⟩
  | child _ hq hq' _ =>
    exact ⟨isPlainAt_of_mem_logicalChildren (List.mem_of_getElem? hq),
      isPlainAt_of_mem_logicalChildren (List.mem_of_getElem? hq')⟩

/-- Elements with one skeleton have one tag and one reading. -/
theorem parts_eq (hp : Corresponds d d' top top' p p')
    (hsame : d.skeletonAt read p = d'.skeletonAt read p') :
    d.tag? p = d'.tag? p' ∧ read (d.childrenAt p) = read (d'.childrenAt p') ∧
      (d.logicalChildren p).map (d.skeletonAt read) =
        (d'.logicalChildren p').map (d'.skeletonAt read) := by
  obtain ⟨hplain, hplain'⟩ := h.isPlainAt hp
  obtain ⟨tag, htag, hskeleton⟩ := skeletonAt_of_isPlainAt read hplain
  obtain ⟨tag', htag', hskeleton'⟩ := skeletonAt_of_isPlainAt read hplain'
  rw [hskeleton, hskeleton', Option.some.injEq, Skeleton.element.injEq] at hsame
  obtain ⟨rfl, hread, hchildren⟩ := hsame
  refine ⟨htag.trans htag'.symm, hread, ?_⟩
  rw [map_skeletonAt_logicalChildren, map_skeletonAt_logicalChildren, hchildren]

/-- Corresponding elements have one skeleton. -/
theorem skeletonAt_eq (hp : Corresponds d d' top top' p p') :
    d.skeletonAt read p = d'.skeletonAt read p' := by
  induction hp with
  | top => exact h.skeleton
  | @child p p' q q' i hp hq hq' ih =>
    have hchild := congrArg (fun l => l[i]?) (h.parts_eq hp ih).2.2
    simpa only [List.getElem?_map, hq, hq', Option.map_some, Option.some.injEq] using hchild

theorem tag?_eq (hp : Corresponds d d' top top' p p') : d.tag? p = d'.tag? p' :=
  (h.parts_eq hp (h.skeletonAt_eq hp)).1

theorem read_eq (hp : Corresponds d d' top top' p p') :
    read (d.childrenAt p) = read (d'.childrenAt p') :=
  (h.parts_eq hp (h.skeletonAt_eq hp)).2.1

/-- The logical children of corresponding elements correspond, one by one. -/
theorem forall₂_logicalChildren (hp : Corresponds d d' top top' p p') :
    List.Forall₂ (Corresponds d d' top top') (d.logicalChildren p) (d'.logicalChildren p') := by
  have hlength := congrArg List.length (h.parts_eq hp (h.skeletonAt_eq hp)).2.2
  rw [List.length_map, List.length_map] at hlength
  refine List.forall₂_iff_get.2 ⟨hlength, fun i hi hi' => .child (i := i) hp ?_ ?_⟩
  · rw [List.getElem?_eq_getElem hi, List.get_eq_getElem]
  · rw [List.getElem?_eq_getElem hi', List.get_eq_getElem]

/-! ## Queries -/

/-- Documents with one skeleton are walked in step. -/
theorem inStep : InStep d d' (Corresponds d d' top top') := ⟨h.tag?_eq, h.forall₂_logicalChildren⟩

/-- Corresponding elements have corresponding next siblings, or neither has one. The tops have no
logical parent, and a child stands at one place among the children of its parent. -/
theorem rel_nextSibling? (hp : Corresponds d d' top top' p p') :
    Option.Rel (Corresponds d d' top top') (d.nextSibling? p) (d'.nextSibling? p') := by
  cases hp with
  | top =>
    rw [nextSibling?_of_root? h.root, nextSibling?_of_root? h.root']
    exact .none
  | child hparent hq hq' =>
    obtain ⟨hplain, hplain'⟩ := h.isPlainAt hparent
    rw [nextSibling?_of_getElem? hplain hq, nextSibling?_of_getElem? hplain' hq']
    exact rel_getElem?_of_forall₂ (h.forall₂_logicalChildren hparent) _

end

end SameSkeleton

end Document

end Stencil
