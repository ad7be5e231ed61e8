import Mathlib.Data.List.Forall2
import Stencil.Proofs.Document.Addresses
import Stencil.Proofs.Extraction.Refinement
import Stencil.Proofs.Outcomes
import Stencil.Proofs.Token.Places

/-!
# Extractions that meet every field once

When lists hold one item at most, an extraction goes through the fields of a blueprint once and in
declared order, and the element of a field is reached from the top by the addresses on the way down
to the field. `visits` records which fields the loop resolves and to which nodes. It lists the
fields as `Token.placesAll` does, each with the node at its place, as long as there is one
(`passes_fields`); and without one a strict extraction fails (`isSome_resolve?_of_fieldsValue`).
-/

namespace Stencil.Extraction

open Token (AreFields IsField)

/-- The field that a frame visits next and the element it is visited from. -/
def Frame.next? : Frame → Option (Token × Path)
  | object _ node (t :: _) _ => some (t, node)
  | list _ item _ (t :: _) _ _ => some (t, item)
  | object _ _ [] _ | list _ _ _ [] _ _ => none

/-- The field that is resolved in the turn after a stage, with the node it is resolved to. -/
def Stage.resolved? (d : Document) : Stage → Option (Token × Path)
  | .active (top :: _) => top.next?.bind fun v => (d.resolve? v.2 v.1.way).map fun q => (v.1, q)
  | .active [] | .ended _ => none

/-- The fields resolved in a number of turns and the nodes they are resolved to. -/
def visits (s : ExtractionSettings) (d : Document) : Nat → Stage → List (Token × Path)
  | 0, _ => []
  | n + 1, x => (x.resolved? d).toList ++ visits s d n (turn s d x)

/-- The loop comes from one stage to another and resolves these fields on the way. -/
def Passes (s : ExtractionSettings) (d : Document) (x : Stage) (log : List (Token × Path))
    (y : Stage) : Prop :=
  ∃ n, (turn s d)^[n] x = y ∧ visits s d n x = log

section
variable {s : ExtractionSettings} {d : Document}

theorem visits_add (m n : Nat) (x : Stage) :
    visits s d (m + n) x = visits s d m x ++ visits s d n ((turn s d)^[m] x) := by
  induction m generalizing x with
  | zero => rw [Nat.zero_add]; rfl
  | succ m ih =>
    rw [Nat.add_right_comm, visits, visits, ih, Function.iterate_succ_apply, List.append_assoc]

theorem Passes.refl (x : Stage) : Passes s d x [] x := ⟨0, rfl, rfl⟩

theorem Passes.trans {x y z : Stage} {log log' : List (Token × Path)} (h : Passes s d x log y)
    (h' : Passes s d y log' z) : Passes s d x (log ++ log') z := by
  obtain ⟨m, rfl, rfl⟩ := h
  obtain ⟨n, rfl, rfl⟩ := h'
  exact ⟨m + n, by rw [Nat.add_comm, Function.iterate_add_apply], visits_add m n x⟩

theorem Passes.turn {x y : Stage} {log : List (Token × Path)} (hlog : (x.resolved? d).toList = log)
    (h : turn s d x = y) : Passes s d x log y :=
  ⟨1, h, by rw [visits, visits, List.append_nil, hlog]⟩

/-! ## Fields that are found -/

/-- A turn that finds a field resolves it and takes the frame on. -/
theorem passes_of_found {f : Frame} {t : Token} {node : Path} (todo : List Token) (ms : Fields)
    (below : List Frame) (h : d.resolve? f.anchor t.way = some node) :
    Passes s d (.active (f.withFields (t :: todo) ms :: below)) [(t, node)]
      (match visitFound s d t node with
        | .nothing => .active (f.withFields todo ms :: below)
        | .record name value => .active (f.withFields todo (Json.insert name value ms) :: below)
        | .enter child => .active (child :: f.withFields todo ms :: below)) := by
  refine .turn ?_ ?_
  · have hnext : (f.withFields (t :: todo) ms).next? = some (t, f.anchor) := by cases f <;> rfl
    rw [Stage.resolved?, hnext, Option.bind_some, h]
    rfl
  · rw [turn, advance_withFields, visit, h]
    dsimp only [Except.map]
    cases visitFound s d t node with
    | nothing => rfl
    | record name value =>
      dsimp only [Frame.after]
      rw [Frame.put_withFields]
    | enter child => rfl

/-- A turn that finishes a frame records its value in the frame below. -/
theorem passes_of_leave {f g : Frame} {below : List Frame} {name : String} {value : Json}
    (hnext : f.next? = none) (h : advance s d f = .ok (.leave name value)) :
    Passes s d (.active (f :: g :: below)) [] (.active (g.put name value :: below)) := by
  refine .turn ?_ ?_
  · rw [Stage.resolved?, hnext]
    rfl
  · rw [turn, h]

/-- A list that may hold one item ends after it. -/
theorem advance_list_of_single (hcap : s.maxListItems ≤ 1) (t : Token) (item : Path)
    (itemTag : Option String) (ms : Fields) :
    advance s d (.list t item itemTag [] [] ms) =
      .ok (.leave t.label (.array [.object ms])) := by
  rw [advance, endItem]
  split
  · rfl
  · exact congrArg Except.ok (if_pos hcap)

/-- What a visit records is the field of a place and the node at that place. -/
def Met (d : Document) (top : Path) (v : Token × Path) (x : Token × Address) : Prop :=
  v.1.bare = x.1 ∧ d.resolve? top x.2 = some v.2

mutual

/-- The loop passes a field whose places all exist and resolves it and the fields in it there. -/
theorem passes_field (hcap : s.maxListItems ≤ 1) {top : Path} :
    ∀ (t : Token) (base : Address) (f : Frame) (todo : List Token) (ms : Fields)
      (below : List Frame), IsField t → d.resolve? top base = some f.anchor →
      (∀ x ∈ t.places base, (d.resolve? top x.2).isSome = true) →
      ∃ ms' log, Passes s d (.active (f.withFields (t :: todo) ms :: below)) log
          (.active (f.withFields todo ms' :: below)) ∧
        List.Forall₂ (Met d top) log (t.places base)
  | ⟨kind, name, span, markerId, children, address⟩, base, f, todo, ms, below, ht, hbase, hall => by
    rw [Token.places] at hall ⊢
    obtain ⟨node, hnode⟩ := Option.isSome_iff_exists.1 (hall _ (List.mem_cons_self ..))
    have hway : d.resolve? f.anchor (address.getD .empty) = some node := by
      rwa [Document.resolve?_append, hbase, Option.bind_some] at hnode
    have hfound := passes_of_found (s := s) (t := ⟨kind, name, span, markerId, children, address⟩)
      todo ms below hway
    have hbelow : ∀ x ∈ Token.placesAll (base ++ address.getD .empty) children,
        (d.resolve? top x.2).isSome = true := fun x hx => hall x (List.mem_cons_of_mem _ hx)
    rw [Token.IsField] at ht
    rcases ht with ⟨rfl, rfl⟩ | ⟨rfl | rfl, hfields⟩
    · exact ⟨_, _, hfound, .cons ⟨rfl, hnode⟩ .nil⟩
    · obtain ⟨ms', log, hpass, hlog⟩ := passes_fields hcap children _
        (.object ⟨.objectStart, name, span, markerId, children, address⟩ node [] []) []
        (f.withFields todo ms :: below) hfields hnode hbelow
      have hleave := hpass.trans (passes_of_leave (s := s) rfl rfl)
      rw [Frame.put_withFields, List.append_nil] at hleave
      exact ⟨_, _, hfound.trans hleave, .cons ⟨rfl, hnode⟩ hlog⟩
    · obtain ⟨ms', log, hpass, hlog⟩ := passes_fields hcap children _
        (.list ⟨.listStart, name, span, markerId, children, address⟩ node (d.tag? node) [] [] []) []
        (f.withFields todo ms :: below) hfields hnode hbelow
      have hleave := hpass.trans (passes_of_leave rfl (advance_list_of_single hcap _ _ _ ms'))
      rw [Frame.put_withFields, List.append_nil] at hleave
      exact ⟨_, _, hfound.trans hleave, .cons ⟨rfl, hnode⟩ hlog⟩

/-- The same of a list of fields. -/
theorem passes_fields (hcap : s.maxListItems ≤ 1) {top : Path} :
    ∀ (ts : List Token) (base : Address) (f : Frame) (ms : Fields) (below : List Frame),
      AreFields ts → d.resolve? top base = some f.anchor →
      (∀ x ∈ Token.placesAll base ts, (d.resolve? top x.2).isSome = true) →
      ∃ ms' log, Passes s d (.active (f.withFields ts ms :: below)) log
          (.active (f.withFields [] ms' :: below)) ∧
        List.Forall₂ (Met d top) log (Token.placesAll base ts)
  | [], base, f, ms, below, _, _, _ => ⟨ms, [], .refl _, .nil⟩
  | t :: ts, base, f, ms, below, hts, hbase, hall => by
    rw [Token.placesAll] at hall ⊢
    obtain ⟨ms₁, log₁, hpass₁, hlog₁⟩ := passes_field hcap t base f ts ms below hts.1 hbase
      fun x hx => hall x (List.mem_append_left _ hx)
    obtain ⟨ms₂, log₂, hpass₂, hlog₂⟩ := passes_fields hcap ts base f ms₁ below hts.2 hbase
      fun x hx => hall x (List.mem_append_right _ hx)
    exact ⟨ms₂, log₁ ++ log₂, hpass₁.trans hpass₂, List.rel_append hlog₁ hlog₂⟩

end

/-- The loop over a blueprint whose places all exist ends with a value, after it has resolved every
field at its place. -/
theorem passes_blueprint (hcap : s.maxListItems ≤ 1) {b : Blueprint} {top : Path}
    (hfields : AreFields b.root.children)
    (hall : ∀ x ∈ Token.placesAll .empty b.root.children, (d.resolve? top x.2).isSome = true) :
    ∃ v log, Passes s d (.active [.ofObject b.root top]) log (.ended (.ok v)) ∧
      List.Forall₂ (Met d top) log (Token.placesAll .empty b.root.children) := by
  obtain ⟨ms, log, hpass, hlog⟩ := passes_fields hcap b.root.children .empty
    (.object b.root top [] []) [] [] hfields rfl hall
  have hend : Passes s d (.active [.object b.root top [] ms]) [] (.ended (.ok (.object ms))) :=
    .turn rfl rfl
  exact ⟨.object ms, log, List.append_nil log ▸ hpass.trans hend, hlog⟩

/-! ## Fields that are missing -/

/-- A list that has a value has one at its first item. -/
theorem fieldsValue_of_itemsValue {fields : Path → Except StructuralError Fields}
    {itemTag : Option String} {more : Nat} {item : Path} {items : List Json}
    (h : itemsValue s d fields itemTag more item = .ok items) : ∃ ms, fields item = .ok ms := by
  cases hf : fields item with
  | ok ms => exact ⟨ms, rfl⟩
  | error e => cases more <;> rw [itemsValue, hf] at h <;> cases h

mutual

/-- If missing fields are errors and a field has a value, then it and the fields in it have nodes at
their places. -/
theorem isSome_resolve?_of_fieldValue (hfail : s.missingField = .fail) {top : Path} :
    ∀ (t : Token) (base : Address) (anchor : Path) (before ms : Fields), IsField t →
      d.resolve? top base = some anchor → fieldValue s d t before anchor = .ok ms →
      ∀ x ∈ t.places base, (d.resolve? top x.2).isSome = true
  | ⟨kind, name, span, markerId, children, address⟩, base, anchor, before, ms, ht, hbase, h => by
    rw [fieldValue] at h
    cases hway : d.resolve? anchor (address.getD .empty) with
    | none =>
      rw [hway, hfail] at h
      cases h
    | some node =>
      have hnode : d.resolve? top (base ++ address.getD .empty) = some node := by
        rw [Document.resolve?_append, hbase, Option.bind_some, hway]
      rw [hway] at h
      rw [Token.places]
      refine List.forall_mem_cons.2 ⟨by rw [hnode]; rfl, ?_⟩
      rw [Token.IsField] at ht
      rcases ht with ⟨rfl, rfl⟩ | ⟨rfl | rfl, hfields⟩
      · rw [Token.placesAll]
        exact List.forall_mem_nil _
      · obtain ⟨ms', hc, _⟩ := map_eq_ok_iff.1 h
        exact isSome_resolve?_of_fieldsValue hfail children _ node [] ms' hfields hnode hc
      · obtain ⟨items, hi, _⟩ := map_eq_ok_iff.1 h
        obtain ⟨ms', hc⟩ := fieldsValue_of_itemsValue hi
        exact isSome_resolve?_of_fieldsValue hfail children _ node [] ms' hfields hnode hc

/-- The same of a list of fields. -/
theorem isSome_resolve?_of_fieldsValue (hfail : s.missingField = .fail) {top : Path} :
    ∀ (ts : List Token) (base : Address) (anchor : Path) (before ms : Fields), AreFields ts →
      d.resolve? top base = some anchor → fieldsValue s d ts before anchor = .ok ms →
      ∀ x ∈ Token.placesAll base ts, (d.resolve? top x.2).isSome = true
  | [], base, anchor, before, ms, _, _, _ => by
    rw [Token.placesAll]
    exact List.forall_mem_nil _
  | t :: ts, base, anchor, before, ms, hts, hbase, h => by
    obtain ⟨ms', hv, hrest⟩ := fieldsValue_cons_eq_ok_iff.1 h
    rw [Token.placesAll]
    exact List.forall_mem_append.2
      ⟨isSome_resolve?_of_fieldValue hfail t base anchor before ms' hts.1 hbase hv,
        isSome_resolve?_of_fieldsValue hfail ts base anchor ms' ms hts.2 hbase hrest⟩

end

/-! ## Whole extractions -/

/-- What the loop ends with is what the extraction gives. -/
theorem extractFrom_of_passes {b : Blueprint} {top : Path} {log : List (Token × Path)}
    {outcome : Except StructuralError Json} (htop : d.root? = some top)
    (h : Passes s d (.active [.ofObject b.root top]) log (.ended outcome)) :
    extractFrom s b d = outcome := by
  obtain ⟨n, hn, _⟩ := h
  have hkeep : ∀ (n : Nat) (x : Stage), ((turn s d)^[n] x).outcome s d = x.outcome s d := by
    intro n
    induction n with
    | zero => intro x; rfl
    | succ n ih => intro x; rw [Function.iterate_succ_apply, ih, outcome_turn]
  have := hkeep n (.active [.ofObject b.root top])
  rw [hn] at this
  rw [extractFrom, htop]
  exact this.symm

/-- A strict extraction of at most one item a list has a value exactly when there is a node at every
place. -/
theorem extractFrom_isOk_iff (hfail : s.missingField = .fail) (hcap : s.maxListItems ≤ 1)
    {b : Blueprint} {top : Path} (htop : d.root? = some top)
    (hfields : AreFields b.root.children) :
    (∃ v, extractFrom s b d = .ok v) ↔
      ∀ x ∈ Token.placesAll .empty b.root.children, (d.resolve? top x.2).isSome = true := by
  constructor
  · rintro ⟨v, hv⟩
    obtain ⟨top', ms, htop', hms, _⟩ := exists_of_extractFrom hv
    obtain rfl := Option.some.inj (htop.symm.trans htop')
    exact isSome_resolve?_of_fieldsValue hfail b.root.children .empty top [] ms hfields rfl hms
  · intro hall
    obtain ⟨v, log, hpass, _⟩ := passes_blueprint hcap hfields hall
    exact ⟨v, extractFrom_of_passes htop hpass⟩

end

end Stencil.Extraction
