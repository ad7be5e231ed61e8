import Stencil.Proofs.Document.Skeleton
import Stencil.Proofs.Extraction.Refinement
import Stencil.Proofs.Outcomes

/-!
# The items of a list

An extraction goes through a list one sibling at a time: at each item it looks for the place among
the logical children again, and it asks for room and for the tag only after the item is done. What it
goes through is known beforehand, though (`itemsFrom`), and the values of the items are the values of
the fields at these elements in turn (`itemsValue_eq_mapM_itemsFrom`). The elements of a row that go
on a list are those up to the first one with another tag (`alike`), and of these as many are taken as
a list may hold (`repetitions`). `itemsFrom_eq_take` shows that this is what a list goes through, by
recursion on how many more items there may be, with the row cut at the present item.
`list_collects_repetitions` says so of the frames.
-/

namespace Stencil

theorem ExtractionSettings.maxListItems_pos {s : ExtractionSettings} (h : s.fault? = none) :
    0 < s.maxListItems := by
  rw [fault?] at h
  split at h
  · cases h
  · split at h
    · cases h
    · next hne => exact Nat.pos_of_ne_zero hne

namespace Extraction

/-- The elements that a list goes through from an item on, if there may be so many more. -/
def itemsFrom (s : ExtractionSettings) (d : Document) (itemTag : Option String) :
    (more : Nat) → (item : Path) → List Path
  | 0, item => [item]
  | more + 1, item =>
    item ::
      match nextRepetition? s d item itemTag with
      | none => []
      | some next => itemsFrom s d itemTag more next

/-- The elements of a row that go on a list whose first item has the given tag: those before the
first one with another tag, or all of them where tags do not matter. -/
def alike (s : ExtractionSettings) (d : Document) (itemTag : Option String) (row : List Path) :
    List Path :=
  if s.matchSiblingTag then row.takeWhile fun q => d.tag? q = itemTag else row

/-- The items of a list that begins at the element `n`, which is the `j`-th logical child of `p`. -/
def repetitions (s : ExtractionSettings) (d : Document) (n p : Path) (j : Nat) : List Path :=
  (alike s d (d.tag? n) ((d.logicalChildren p).drop j)).take s.maxListItems

section
variable {s : ExtractionSettings} {d : Document}

theorem alike_nil (itemTag : Option String) : alike s d itemTag [] = [] := by
  rw [alike, List.takeWhile_nil, ite_self]

theorem alike_cons {itemTag : Option String} {q : Path}
    (h : ¬ (s.matchSiblingTag ∧ d.tag? q ≠ itemTag)) (row : List Path) :
    alike s d itemTag (q :: row) = q :: alike s d itemTag row := by
  rw [alike, alike]
  split
  · next hmatch =>
    have htag : d.tag? q = itemTag := by
      by_contra hne
      exact h ⟨hmatch, hne⟩
    exact List.takeWhile_cons_of_pos (decide_eq_true htag)
  · rfl

theorem alike_cons_of_ne {itemTag : Option String} {q : Path}
    (h : s.matchSiblingTag ∧ d.tag? q ≠ itemTag) (row : List Path) :
    alike s d itemTag (q :: row) = [] := by
  rw [alike, if_pos h.1, List.takeWhile_cons_of_neg (by rw [decide_eq_true_eq]; exact h.2)]

/-- From an item a list goes on with the element after it, if that goes on the list. -/
theorem nextRepetition?_eq_head? {p q : Path} {before after : List Path} (hp : d.IsPlainAt p)
    (h : d.logicalChildren p = before ++ q :: after) (itemTag : Option String) :
    nextRepetition? s d q itemTag = (alike s d itemTag after).head? := by
  rw [nextRepetition?, Document.nextSibling?_eq_head? hp h]
  cases after with
  | nil =>
    rw [alike_nil]
    rfl
  | cons next rest =>
    rw [List.head?_cons]
    dsimp only
    split
    · next hne => rw [alike_cons_of_ne hne]; rfl
    · next heq => rw [alike_cons heq]; rfl

/-- The items of a list are the values of the fields at the elements that it goes through. -/
theorem itemsValue_eq_mapM_itemsFrom (fields : Path → Except StructuralError Fields)
    (itemTag : Option String) (more : Nat) (q : Path) :
    itemsValue s d fields itemTag more q =
      (itemsFrom s d itemTag more q).mapM fun q => (fields q).map .object := by
  induction more generalizing q with
  | zero =>
    rw [itemsValue, itemsFrom]
    cases hq : fields q with
    | error e => rw [mapM_cons_of_error (by rw [hq]; rfl)]; rfl
    | ok ms => rw [mapM_cons_of_ok (by rw [hq]; rfl)]; rfl
  | succ more ih =>
    rw [itemsValue, itemsFrom]
    cases hq : fields q with
    | error e => rw [mapM_cons_of_error (by rw [hq]; rfl)]
    | ok ms =>
      rw [mapM_cons_of_ok (y := .object ms) (by rw [hq]; rfl)]
      cases nextRepetition? s d q itemTag with
      | none => rfl
      | some next =>
        rw [← ih next]

/-- From one of its items on a list goes through the elements after it that go on the list. -/
theorem itemsFrom_eq_take {p q : Path} {before after : List Path} (hp : d.IsPlainAt p)
    (h : d.logicalChildren p = before ++ q :: after) (itemTag : Option String) (more : Nat) :
    itemsFrom s d itemTag more q = (q :: alike s d itemTag after).take (more + 1) := by
  induction more generalizing before q after with
  | zero => rw [itemsFrom, List.take_succ_cons, List.take_zero]
  | succ more ih =>
    rw [itemsFrom, List.take_succ_cons, nextRepetition?_eq_head? hp h]
    cases after with
    | nil =>
      rw [alike_nil]
      rfl
    | cons next rest =>
      by_cases hne : s.matchSiblingTag ∧ d.tag? next ≠ itemTag
      · rw [alike_cons_of_ne hne]
        rfl
      · -- From the next item on, this one is one of those before.
        have hnext : d.logicalChildren p = (before ++ [q]) ++ next :: rest := by
          rw [h, List.append_assoc]
          rfl
        rw [alike_cons hne, ← ih hnext]
        rfl

/-- A list whose address leads somewhere adds what it gives from there to the members before it. -/
theorem fieldValue_of_list {t : Token} {a n : Path} (ht : t.kind = .listStart)
    (hn : d.resolve? a t.way = some n) (ms : Fields) :
    fieldValue s d t ms a = (run s d (.ofList d t n) []).map (Json.insert t.label · ms) := by
  obtain ⟨kind, name, span, markerId, children, address⟩ := t
  cases ht
  rw [Token.way] at hn
  rw [run_ofList, fieldValue, hn]
  dsimp only
  cases itemsValue s d (fieldsValue s d children []) (d.tag? n) (s.maxListItems - 1) n <;> rfl

/-- A list that begins at a child of an element gives the values of its fields at the elements that
it takes up, in their order. -/
theorem run_ofList_eq_mapM {t : Token} {n p : Path} {j : Nat} (hs : s.fault? = none)
    (hp : d.logicalParent? n = some p) (hj : (d.logicalChildren p)[j]? = some n) :
    run s d (.ofList d t n) [] =
      ((repetitions s d n p j).mapM fun q =>
        (fieldsValue s d t.children [] q).map .object).map .array := by
  obtain ⟨hlt, hget⟩ := List.getElem?_eq_some_iff.1 hj
  have hdrop : (d.logicalChildren p).drop j = n :: (d.logicalChildren p).drop (j + 1) := by
    rw [List.drop_eq_getElem_cons hlt, hget]
  have hrow : d.logicalChildren p =
      (d.logicalChildren p).take j ++ n :: (d.logicalChildren p).drop (j + 1) := by
    rw [← hdrop, List.take_append_drop]
  have hcap : s.maxListItems - 1 + 1 = s.maxListItems :=
    Nat.sub_add_cancel (ExtractionSettings.maxListItems_pos hs)
  rw [run_ofList, itemsValue_eq_mapM_itemsFrom,
    itemsFrom_eq_take (Document.isPlainAt_of_logicalParent? hp) hrow, hcap, repetitions, hdrop,
    alike_cons fun h => h.2 rfl]

end

/-- **A list collects the run of siblings.** Let the address of a list lead from an element `a` to
the `j`-th logical child `n` of an element `p`. Whatever frame at `a` the extraction is in when it
comes to the list, the frame gets the value of the list and nothing else. That value is the array of
the objects of the list's fields at the logical children of `p` from `n` on, up to the first one with
another tag where tags matter, and no more than a list may hold. There is none exactly if the fields
fail at one of these elements, and the first such one is what the extraction fails with. -/
theorem list_collects_repetitions {s : ExtractionSettings} {d : Document} {t : Token}
    {a n p : Path} {j : Nat} (hs : s.fault? = none) (ht : t.kind = .listStart)
    (hn : d.resolve? a t.way = some n) (hp : d.logicalParent? n = some p)
    (hj : (d.logicalChildren p)[j]? = some n) :
    (∀ (f : Frame) (todo : List Token) (ms : Fields) (below : List Frame), f.anchor = a →
      run s d (f.withFields (t :: todo) ms) below =
        (run s d (.ofList d t n) []).bind fun v =>
          run s d (f.withFields todo (Json.insert t.label v ms)) below) ∧
    (∀ v, run s d (.ofList d t n) [] = .ok v ↔ ∃ items, v = .array items ∧
      List.Forall₂ (fun q item => ∃ ms, fieldsValue s d t.children [] q = .ok ms ∧
        item = .object ms) (repetitions s d n p j) items) ∧
    ∀ e, run s d (.ofList d t n) [] = .error e ↔ ∃ before q after,
      repetitions s d n p j = before ++ q :: after ∧
      (∀ x ∈ before, ∃ ms, fieldsValue s d t.children [] x = .ok ms) ∧
      fieldsValue s d t.children [] q = .error e := by
  refine ⟨?_, fun v => ?_, fun e => ?_⟩
  · rintro f todo ms below rfl
    rw [run_field, fieldValue_of_list ht hn]
    cases run s d (.ofList d t n) [] <;> rfl
  · rw [run_ofList_eq_mapM hs hp hj, map_eq_ok_iff]
    simp only [mapM_eq_ok_iff, map_eq_ok_iff, and_comm]
  · have hobject : ∀ q, (∃ item, (fieldsValue s d t.children [] q).map Json.object = .ok item) ↔
        ∃ ms, fieldsValue s d t.children [] q = .ok ms := fun q =>
      ⟨fun ⟨_, h⟩ => (map_eq_ok_iff.1 h).imp fun _ h => h.1,
        fun ⟨ms, h⟩ => ⟨.object ms, by rw [h]; rfl⟩⟩
    rw [run_ofList_eq_mapM hs hp hj, map_eq_error_iff, mapM_eq_error_iff]
    simp only [hobject, map_eq_error_iff]

/-- A list that may hold two items, the second of them inside a marker: neither the item after them
nor the element with another tag behind that is looked at, though both lack the field. -/
theorem list_collects_repetitions_capped :
    let cell : Token := ⟨.value, some "x", none, none, [], some ⟨[⟨"b", some (.at 0)⟩]⟩⟩
    let t : Token := ⟨.listStart, some "rows", none, none, [cell], some ⟨[⟨"li", some (.at 1)⟩]⟩⟩
    let d : Document := ⟨[.element "ul" none [.element "h3" none [],
      .element "li" none [.element "b" none [.text "1"]],
      .element "value" (some "m") [.element "li" none [.element "b" none [.text "2"]]],
      .element "li" none [], .element "p" none []]]⟩
    let s : ExtractionSettings := { maxListItems := 2 }
    s.fault? = none ∧ t.kind = .listStart ∧ d.resolve? [0] t.way = some [1, 0] ∧
      d.logicalParent? [1, 0] = some [0] ∧ (d.logicalChildren [0])[1]? = some [1, 0] ∧
      run s d (.ofList d t [1, 0]) [] =
        .ok (.array [.object [("x", .string "1")], .object [("x", .string "2")]]) := by
  intro cell t d s
  have hs : s.fault? = none := by decide
  have hn : d.resolve? [0] t.way = some [1, 0] := by decide +kernel
  have hp : d.logicalParent? [1, 0] = some [0] := by decide +kernel
  have hj : (d.logicalChildren [0])[1]? = some [1, 0] := by decide +kernel
  have hitems : repetitions s d [1, 0] [0] 1 = [[1, 0], [0, 2, 0]] := by decide +kernel
  have hfirst : fieldsValue s d t.children [] [1, 0] = .ok [("x", .string "1")] := by
    decide +kernel
  have hsecond : fieldsValue s d t.children [] [0, 2, 0] = .ok [("x", .string "2")] := by
    decide +kernel
  refine ⟨hs, rfl, hn, hp, hj, ((list_collects_repetitions hs rfl hn hp hj).2.1 _).2 ⟨_, rfl, ?_⟩⟩
  rw [hitems]
  exact .cons ⟨_, hfirst, rfl⟩ (.cons ⟨_, hsecond, rfl⟩ .nil)

end Extraction

end Stencil
