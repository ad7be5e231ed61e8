import Stencil.Extraction.Meaning
import Stencil.Proofs.Extraction.Loop
import Stencil.Proofs.Outcomes

/-!
# The stack of frames computes the meaning

The simulation between the loop over frames and the recursion on fields. A frame is told apart from
the fields it still visits and the members it has so far (`Frame.withFields`), so that one statement
covers objects and lists: visiting the next field of a frame on top of any stack is evaluating that
field at the frame's element (`run_field`). Frames below are never looked at while a field is
visited; that is what lets the statement pass through containers of any nesting.
-/

namespace Stencil.Extraction

/-- A frame at the same element with other fields to visit and other members. -/
def Frame.withFields (todo : List Token) (members : Fields) : Frame → Frame
  | object token node _ _ => object token node todo members
  | list token item itemTag _ items _ => list token item itemTag todo items members

/-- The element from which a frame's fields are visited. -/
def Frame.anchor : Frame → Path
  | object _ node _ _ => node
  | list _ item _ _ _ _ => item

@[simp] theorem Frame.put_withFields (f : Frame) (todo : List Token) (ms : Fields) (name : String)
    (value : Json) :
    (f.withFields todo ms).put name value = f.withFields todo (Json.insert name value ms) := by
  cases f <;> rfl

section
variable {s : ExtractionSettings} {d : Document}

/-- A frame with a field to visit visits it, whatever the frame is. -/
theorem advance_withFields (f : Frame) (t : Token) (todo : List Token) (ms : Fields) :
    advance s d (f.withFields (t :: todo) ms) =
      (visit s d f.anchor t).map (f.withFields todo ms).after := by
  cases f <;> rfl

/-! ## Fields, one after the other -/

theorem fieldsValue_cons (t : Token) (ts : List Token) (before : Fields) (anchor : Path) :
    fieldsValue s d (t :: ts) before anchor =
      (fieldValue s d t before anchor).bind fun ms => fieldsValue s d ts ms anchor := by
  rw [fieldsValue]
  cases fieldValue s d t before anchor <;> rfl

/-- A first field and further ones have values exactly when the further ones have them after the
first. -/
theorem fieldsValue_cons_eq_ok_iff {t : Token} {ts : List Token} {before ms : Fields}
    {anchor : Path} :
    fieldsValue s d (t :: ts) before anchor = .ok ms ↔
      ∃ ms₁, fieldValue s d t before anchor = .ok ms₁ ∧ fieldsValue s d ts ms₁ anchor = .ok ms := by
  rw [fieldsValue_cons, bind_eq_ok_iff]

/-! ## One turn, by what the step leads to -/

theorem run_of_error {f : Frame} {below : List Frame} {e : StructuralError}
    (h : advance s d f = .error e) : run s d f below = .error e := by
  rw [run, h]

theorem run_of_stay {f g : Frame} {below : List Frame} (h : advance s d f = .ok (.stay g)) :
    run s d f below = run s d g below := by
  rw [run, h]

theorem run_of_enter {f g child : Frame} {below : List Frame}
    (h : advance s d f = .ok (.enter g child)) :
    run s d f below = run s d child (g :: below) := by
  rw [run, h]

/-- Where an extraction goes on with the value of a finished container: in the frame that waits for
it, and with the last one finished it ends. -/
def resume (s : ExtractionSettings) (d : Document) (name : String) (value : Json) :
    List Frame → Except StructuralError Json
  | [] => .ok value
  | g :: below => run s d (g.put name value) below

theorem run_of_leave {f : Frame} {name : String} {value : Json}
    (h : advance s d f = .ok (.leave name value)) (below : List Frame) :
    run s d f below = resume s d name value below := by
  rw [run, h]
  cases below <;> rfl

/-! ## Lists -/

/-- A list frame at one of its items gives the array of the items so far and the values of the
fields at this item and the repetitions after it. The fields are visited as `hfields` says; the
number of further items is what the settings leave after those there are. -/
theorem run_items {t : Token} {itemTag : Option String} {below : List Frame}
    (hfields : ∀ (f : Frame) (ms : Fields) (below : List Frame),
      run s d (f.withFields t.children ms) below =
        (fieldsValue s d t.children ms f.anchor).bind fun ms => run s d (f.withFields [] ms) below)
    (more : Nat) (item : Path) (items : List Json)
    (hmore : more = s.maxListItems - 1 - items.length) :
    run s d (.list t item itemTag t.children items []) below =
      (itemsValue s d (fieldsValue s d t.children []) itemTag more item).bind fun rest =>
        resume s d t.label (.array (items.reverse ++ rest)) below := by
  have hitem (item : Path) (items : List Json) :
      run s d (.list t item itemTag t.children items []) below =
        (fieldsValue s d t.children [] item).bind fun ms =>
          run s d (.list t item itemTag [] items ms) below :=
    hfields (.list t item itemTag [] items []) [] below
  induction more generalizing item items with
  | zero =>
    have hlast : s.maxListItems ≤ items.length + 1 := by omega
    rw [hitem, itemsValue]
    cases fieldsValue s d t.children [] item with
    | error e => rfl
    | ok ms =>
      have hstep : advance s d (.list t item itemTag [] items ms) =
          .ok (.leave t.label (.array (Json.object ms :: items).reverse)) := by
        simp only [advance, endItem, List.length_cons, hlast, if_true]
        split <;> rfl
      exact (run_of_leave hstep below).trans (by rw [List.reverse_cons]; rfl)
  | succ more ih =>
    have hroom : ¬ s.maxListItems ≤ items.length + 1 := by omega
    rw [hitem, itemsValue]
    cases fieldsValue s d t.children [] item with
    | error e => rfl
    | ok ms =>
      dsimp only
      cases hn : nextRepetition? s d item itemTag with
      | none =>
        have hstep : advance s d (.list t item itemTag [] items ms) =
            .ok (.leave t.label (.array (Json.object ms :: items).reverse)) := by
          simp only [advance, endItem, hn]
        exact (run_of_leave hstep below).trans (by rw [List.reverse_cons]; rfl)
      | some sibling =>
        have hstep : advance s d (.list t item itemTag [] items ms) =
            .ok (.stay (.list t sibling itemTag t.children (Json.object ms :: items) [])) := by
          simp only [advance, endItem, hn, List.length_cons, hroom, if_false]
        refine (run_of_stay hstep).trans ?_
        rw [ih sibling (Json.object ms :: items) (by rw [List.length_cons]; omega)]
        -- What the items after this one give is put behind it on both sides.
        dsimp only
        cases itemsValue s d (fieldsValue s d t.children []) itemTag more sibling with
        | error e => rfl
        | ok rest =>
          simp only [Except.bind, Except.map, List.reverse_cons, List.append_assoc,
            List.singleton_append]

/-! ## Fields -/

mutual

/-- Visiting the next field of a frame is evaluating it at the frame's element. -/
theorem run_field : ∀ (t : Token) (f : Frame) (todo : List Token) (ms : Fields)
    (below : List Frame),
    run s d (f.withFields (t :: todo) ms) below =
      (fieldValue s d t ms f.anchor).bind fun ms => run s d (f.withFields todo ms) below
  | ⟨kind, name, span, markerId, children, address⟩, f, todo, ms, below => by
    have hstep := advance_withFields (s := s) (d := d) f
      ⟨kind, name, span, markerId, children, address⟩ todo ms
    rw [fieldValue]
    cases hr : d.resolve? f.anchor (address.getD .empty) with
    | none =>
      have hv : visit s d f.anchor ⟨kind, name, span, markerId, children, address⟩ =
          visitMissing s ⟨kind, name, span, markerId, children, address⟩ := by
        simp only [visit, Token.way, hr]
      rw [hv, visitMissing] at hstep
      cases hp : s.missingField with
      | fail =>
        rw [hp] at hstep
        exact run_of_error hstep
      | skip =>
        rw [hp] at hstep
        by_cases hk : kind = .listStart
        · simp only [hk, if_true] at hstep ⊢
          exact (run_of_stay hstep).trans (by rw [Frame.put_withFields]; rfl)
        · simp only [hk, if_false] at hstep ⊢
          exact run_of_stay hstep
    | some node =>
      have hv : visit s d f.anchor ⟨kind, name, span, markerId, children, address⟩ =
          .ok (visitFound s d ⟨kind, name, span, markerId, children, address⟩ node) := by
        simp only [visit, Token.way, hr]
      rw [hv] at hstep
      cases kind with
      | value => exact (run_of_stay hstep).trans (by rw [Frame.put_withFields]; rfl)
      | objectStart =>
        refine (run_of_enter hstep).trans ?_
        refine (run_fields children (.object ⟨.objectStart, name, span, markerId, children, address⟩
          node [] []) [] (f.withFields todo ms :: below)).trans ?_
        cases hc : fieldsValue s d children [] node with
        | error e => simp only [Frame.anchor, hc]; rfl
        | ok ms' =>
          simp only [Frame.anchor, hc]
          refine (run_of_leave rfl _).trans ?_
          rw [resume]
          rw [Frame.put_withFields]
          rfl
      | listStart =>
        refine (run_of_enter hstep).trans ?_
        refine (run_items (fun f ms below => run_fields children f ms below) (s.maxListItems - 1)
          node [] rfl).trans ?_
        dsimp only
        cases itemsValue s d (fieldsValue s d children []) (d.tag? node)
            (s.maxListItems - 1) node with
        | error e => rfl
        | ok items =>
          simp only [Except.bind, Except.map, List.reverse_nil, List.nil_append, resume,
            Frame.put_withFields]
          rfl
      | root | objectEnd | listEnd => exact run_of_stay hstep

/-- Visiting all fields of a frame is evaluating them at the frame's element. -/
theorem run_fields : ∀ (ts : List Token) (f : Frame) (ms : Fields) (below : List Frame),
    run s d (f.withFields ts ms) below =
      (fieldsValue s d ts ms f.anchor).bind fun ms => run s d (f.withFields [] ms) below
  | [], f, ms, below => by rw [fieldsValue]; rfl
  | t :: ts, f, ms, below => by
    rw [run_field t f ts ms below, fieldsValue_cons]
    cases fieldValue s d t ms f.anchor with
    | error e => rfl
    | ok ms => exact run_fields ts f ms below

end

/-- From the top element the stack gives the value of the fields there. -/
theorem run_ofObject (t : Token) (top : Path) :
    run s d (.ofObject t top) [] = (fieldsValue s d t.children [] top).map .object := by
  refine (run_fields t.children (.object t top [] []) [] []).trans ?_
  cases hv : fieldsValue s d t.children [] top with
  | error e => simp only [Frame.anchor, hv]; rfl
  | ok ms =>
    simp only [Frame.anchor, hv]
    exact run_of_leave rfl []

/-- From its first item a list gives the array of the values of its fields there and at the
repetitions. -/
theorem run_ofList (t : Token) (node : Path) :
    run s d (.ofList d t node) [] =
      (itemsValue s d (fieldsValue s d t.children []) (d.tag? node) (s.maxListItems - 1) node).map
        .array := by
  refine (run_items (fun f ms below => run_fields t.children f ms below) (s.maxListItems - 1)
    node [] rfl).trans ?_
  cases itemsValue s d (fieldsValue s d t.children []) (d.tag? node) (s.maxListItems - 1) node <;>
    rfl

end

/-- The stack of frames gives the value of the blueprint, for all settings and documents. -/
theorem extractFrom_eq_value (s : ExtractionSettings) (b : Blueprint) (d : Document) :
    extractFrom s b d = value s b d := by
  rw [extractFrom, value]
  cases d.root? with
  | none => rfl
  | some top => exact run_ofObject b.root top

/-- What an extraction gives is the object of the fields of the root. -/
theorem exists_of_extractFrom {s : ExtractionSettings} {b : Blueprint} {d : Document} {v : Json}
    (h : extractFrom s b d = .ok v) :
    ∃ top ms, d.root? = some top ∧ fieldsValue s d b.root.children [] top = .ok ms ∧
      v = .object ms := by
  rw [extractFrom_eq_value, value] at h
  cases htop : d.root? with
  | none =>
    rw [htop] at h
    cases h
  | some top =>
    rw [htop] at h
    obtain ⟨ms, hms, rfl⟩ := map_eq_ok_iff.1 h
    exact ⟨top, ms, rfl, hms, rfl⟩

/-- **Extraction is its recursive meaning and always ends.** For all settings, blueprints and
documents the stack of frames gives the value that the recursion on the blueprint's fields gives.
The loop over the stack, started with the frame of the root, arrives there after no more turns than
the blueprint and the longest list allow, whatever the document holds. -/
theorem loop_ends_with_value (s : ExtractionSettings) (b : Blueprint) (d : Document) :
    extractFrom s b d = value s b d ∧
      ∀ top, d.root? = some top →
        ∃ n, n ≤ 1 + workAll s.maxListItems b.root.children ∧
          (turn s d)^[n] (.active [.ofObject b.root top]) = .ended (value s b d) := by
  refine ⟨extractFrom_eq_value s b d, fun top htop => ?_⟩
  obtain ⟨n, hn, hend⟩ := iterate_turn_ends s d (.ofObject b.root top) []
  have hrun : run s d (.ofObject b.root top) [] = value s b d := by
    rw [← extractFrom_eq_value, extractFrom, htop]
  exact ⟨n, hn, by rw [hend, hrun]⟩

end Stencil.Extraction
