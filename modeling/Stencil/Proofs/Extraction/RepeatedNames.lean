import Stencil.Proofs.Compile.Survival
import Stencil.Proofs.Extraction.Repetitions
import Stencil.Proofs.Json.Members
import Stencil.Proofs.Token.Preorder

/-!
# Fields of the same name

A container may declare several fields of one name. All of them are visited, and each puts its value
in the place of the one before it, so that the last one declared is kept, which is the one that
`Token.field?` looks up. That holds at every level and for every item of a list
(`ObjectFollows`). The proof looks at one container at a time. If missing fields are errors, a
field gives a value that does not depend on the members before it (`Gives.fieldValue_eq`), so that the
members of a container are these values set one after the other (`exists_of_fieldsValue`). Which of them are kept
is then told by `Json.map_fst_insertAll` and `Json.lookup_insertAll`.
-/

namespace Stencil

namespace Token

/-- A field with a name: an object, a list or a value. -/
def IsNamedField (t : Token) : Prop :=
  t.name.isSome = true ∧ (t.kind = .objectStart ∨ t.kind = .listStart ∨ t.kind = .value)

/-- All tokens below a token are fields with names. -/
def HoldsNamedFields (t : Token) : Prop := ∀ v ∈ preorderAll 1 t.children, v.1.IsNamedField

instance (t : Token) : Decidable t.IsNamedField := inferInstanceAs (Decidable (_ ∧ _))

instance (t : Token) : Decidable t.HoldsNamedFields := inferInstanceAs (Decidable (∀ v ∈ _, _))

theorem IsNamedField.name_eq {t : Token} (h : t.IsNamedField) : t.name = some t.label := by
  obtain ⟨name, hname⟩ := Option.isSome_iff_exists.1 h.1
  rw [label, hname]
  rfl

end Token

namespace Extraction

open Token (IsNamedField)

/-! ## Objects that follow their fields -/

mutual

/-- The members of an object of a token's fields at an element follow these fields: the keys are the
names of the fields, each in its first place, and under each name is what the field of that name
gives, which is what it gives alone at the same element. -/
inductive ObjectFollows (s : ExtractionSettings) (d : Document) : Token → Path → Fields → Prop where
  | intro {t : Token} {a : Path} {ms : Fields}
    (keys : ms.map (·.1) = (t.children.filterMap (·.name)).eraseDups)
    (alone : ∀ name c v, t.field? name = some c → ms.lookup name = some v →
      run s d (.object t a [c] []) [] = .ok (.object [(name, v)]))
    (inside : ∀ name c v, t.field? name = some c → ms.lookup name = some v →
      ValueFollows s d c a v) :
    ObjectFollows s d t a ms

/-- The value of a field visited from an element is read from where the field's address leads, and
all objects in it follow their fields. -/
inductive ValueFollows (s : ExtractionSettings) (d : Document) : Token → Path → Json → Prop where
  | value {t : Token} {a n : Path} (hkind : t.kind = .value) (hn : d.resolve? a t.way = some n) :
    ValueFollows s d t a (.string (textValue s d n))
  | object {t : Token} {a n : Path} {ms : Fields} (hkind : t.kind = .objectStart)
    (hn : d.resolve? a t.way = some n) (h : ObjectFollows s d t n ms) :
    ValueFollows s d t a (.object ms)
  | list {t : Token} {a n : Path} {items : List Fields} (hkind : t.kind = .listStart)
    (hn : d.resolve? a t.way = some n)
    (hlength : (itemsFrom s d (d.tag? n) (s.maxListItems - 1) n).length = items.length)
    (h : ∀ x ∈ (itemsFrom s d (d.tag? n) (s.maxListItems - 1) n).zip items,
      ObjectFollows s d t x.1 x.2) :
    ValueFollows s d t a (.array (items.map .object))

end

/-! ## What a field gives -/

/-- The value of a field that leads to an element, by the kind of the field. -/
inductive Found (s : ExtractionSettings) (d : Document) (t : Token) (n : Path) : Json → Prop where
  | value (hkind : t.kind = .value) : Found s d t n (.string (textValue s d n))
  | object (hkind : t.kind = .objectStart) {ms : Fields}
    (h : fieldsValue s d t.children [] n = .ok ms) : Found s d t n (.object ms)
  | list (hkind : t.kind = .listStart) {items : List Json}
    (h : itemsValue s d (fieldsValue s d t.children []) (d.tag? n) (s.maxListItems - 1) n =
      .ok items) : Found s d t n (.array items)

/-- From an element a field gives a value: it leads somewhere and has the value there. -/
def Gives (s : ExtractionSettings) (d : Document) (a : Path) (t : Token) (v : Json) : Prop :=
  ∃ n, d.resolve? a t.way = some n ∧ Found s d t n v

section
variable {s : ExtractionSettings} {d : Document} {a : Path} {t : Token}

/-- The value that a field gives is set, whatever there was before. -/
theorem Gives.fieldValue_eq {v : Json} (h : Gives s d a t v) (before : Fields) :
    fieldValue s d t before a = .ok (Json.insert t.label v before) := by
  obtain ⟨kind, name, span, markerId, children, address⟩ := t
  obtain ⟨n, hn, hfound⟩ := h
  rw [Token.way] at hn
  rw [fieldValue, hn]
  cases hfound with
  | value hkind =>
    cases hkind
    rfl
  | object hkind h =>
    cases hkind
    dsimp only
    rw [h]
    rfl
  | list hkind h =>
    cases hkind
    dsimp only
    rw [h]
    rfl

/-- If missing fields are errors, a field that is visited without one gives a value. -/
theorem exists_gives (hfail : s.missingField = .fail) (ht : t.IsNamedField) {before ms : Fields}
    (h : fieldValue s d t before a = .ok ms) :
    ∃ v, Gives s d a t v ∧ ms = Json.insert t.label v before := by
  obtain ⟨kind, name, span, markerId, children, address⟩ := t
  rw [fieldValue] at h
  cases hn : d.resolve? a (address.getD .empty) with
  | none =>
    rw [hn, hfail] at h
    cases h
  | some n =>
    rw [hn] at h
    rcases ht.2 with hkind | hkind | hkind <;> cases hkind
    · obtain ⟨ms', hms, rfl⟩ := map_eq_ok_iff.1 h
      exact ⟨_, ⟨n, hn, .object rfl hms⟩, rfl⟩
    · obtain ⟨items, hitems, rfl⟩ := map_eq_ok_iff.1 h
      exact ⟨_, ⟨n, hn, .list rfl hitems⟩, rfl⟩
    · cases h
      exact ⟨_, ⟨n, hn, .value rfl⟩, rfl⟩

/-- The members of a list of fields are what the fields give, set one after the other. -/
theorem exists_of_fieldsValue (hfail : s.missingField = .fail) {ts : List Token}
    (hts : ∀ t ∈ ts, t.IsNamedField) {before ms : Fields}
    (h : fieldsValue s d ts before a = .ok ms) :
    ∃ ps : List (Token × Json), ps.map (·.1) = ts ∧ (∀ p ∈ ps, Gives s d a p.1 p.2) ∧
      ms = Json.insertAll (ps.map fun p => (p.1.label, p.2)) before := by
  induction ts generalizing before with
  | nil =>
    rw [fieldsValue] at h
    cases h
    exact ⟨[], rfl, List.forall_mem_nil _, rfl⟩
  | cons t ts ih =>
    obtain ⟨ht, hts⟩ := List.forall_mem_cons.1 hts
    obtain ⟨ms₁, hv, hrest⟩ := fieldsValue_cons_eq_ok_iff.1 h
    obtain ⟨v, hgives, rfl⟩ := exists_gives hfail ht hv
    obtain ⟨ps, hps, hall, rfl⟩ := ih hts hrest
    exact ⟨(t, v) :: ps, by rw [List.map_cons, hps], List.forall_mem_cons.2 ⟨hgives, hall⟩, rfl⟩

/-- Looking up a name in the values of fields is looking up the field. -/
theorem lookup_labels {ps : List (Token × Json)} (hps : ∀ p ∈ ps, p.1.IsNamedField)
    (name : String) :
    (ps.map fun p => (p.1.label, p.2)).lookup name =
      (ps.find? fun p => p.1.name == some name).map (·.2) := by
  induction ps with
  | nil => rfl
  | cons p ps ih =>
    obtain ⟨hp, hps⟩ := List.forall_mem_cons.1 hps
    rw [List.map_cons, Json.lookup_cons_eq_ite, ih hps, List.find?_cons, hp.name_eq]
    by_cases hname : name = p.1.label
    · rw [if_pos hname, hname, beq_self_eq_true]
      rfl
    · have hne : (some p.1.label == some name) = false :=
        beq_eq_false_iff_ne.2 fun h => hname (Option.some.inj h).symm
      rw [if_neg hname, hne]

/-- Objects made of members are told apart into their members. -/
theorem exists_members {fields : Path → Except StructuralError Fields} {nodes : List Path}
    {items : List Json} (h : nodes.mapM (fun q => (fields q).map .object) = .ok items) :
    ∃ members : List Fields, items = members.map .object ∧ nodes.length = members.length ∧
      ∀ x ∈ nodes.zip members, fields x.1 = .ok x.2 := by
  rw [mapM_eq_ok_iff] at h
  induction h with
  | nil => exact ⟨[], rfl, rfl, nofun⟩
  | cons hq _ ih =>
    obtain ⟨ms, hms, rfl⟩ := map_eq_ok_iff.1 hq
    obtain ⟨members, rfl, hlength, hall⟩ := ih
    exact ⟨ms :: members, rfl, congrArg (· + 1) hlength, List.forall_mem_cons.2 ⟨hms, hall⟩⟩

/-- A field alone gives an object with its value. -/
theorem Gives.run_alone {c : Token} {v : Json} (h : Gives s d a c v) :
    run s d (.object t a [c] []) [] = .ok (.object [(c.label, v)]) := by
  have hfields : fieldsValue s d [c] [] a = .ok [(c.label, v)] := by
    rw [fieldsValue, h.fieldValue_eq]
    rfl
  refine (run_fields [c] (.object t a [] []) [] []).trans ?_
  rw [show (Frame.object t a [] []).anchor = a from rfl, hfields]
  exact run_of_leave rfl []

/-- The members of a container follow its fields if what the fields give does. -/
theorem objectFollows_of_fieldsValue (hfail : s.missingField = .fail)
    (hnamed : ∀ c ∈ t.children, c.IsNamedField)
    (hinside : ∀ c ∈ t.children, ∀ v, Gives s d a c v → ValueFollows s d c a v) {ms : Fields}
    (h : fieldsValue s d t.children [] a = .ok ms) : ObjectFollows s d t a ms := by
  obtain ⟨ps, hps, hgives, rfl⟩ := exists_of_fieldsValue hfail hnamed h
  have hmem : ∀ p ∈ ps, p.1 ∈ t.children := fun p hp => hps ▸ List.mem_map_of_mem hp
  have hlabels : t.children.filterMap (·.name) = ps.map (·.1.label) := by
    rw [← hps, List.filterMap_map, ← List.filterMap_eq_map]
    exact List.filterMap_congr fun p hp => (hnamed _ (hmem p hp)).name_eq
  -- The field and the value that are looked up come from the same one of the pairs.
  have hpair : ∀ name c v, t.field? name = some c →
      (Json.insertAll (ps.map fun p => (p.1.label, p.2)) []).lookup name = some v →
      c ∈ t.children ∧ c.name = some name ∧ Gives s d a c v := by
    intro name c v hc hv
    rw [Token.field?, ← hps, ← List.map_reverse, List.find?_map] at hc
    rw [Json.lookup_insertAll, ← List.map_reverse, lookup_labels fun p hp =>
      hnamed _ (hmem p (List.mem_reverse.1 hp))] at hv
    obtain ⟨p, hp, rfl⟩ := Option.map_eq_some_iff.1 hv
    have hp' : ps.reverse.find? ((fun c : Token => c.name == some name) ∘ (·.1)) = some p := hp
    rw [hp'] at hc
    cases hc
    have hin := List.mem_reverse.1 (List.mem_of_find?_eq_some hp)
    have hname := List.find?_some hp
    exact ⟨hmem p hin, beq_iff_eq.1 hname, hgives p hin⟩
  refine .intro ?_ (fun name c v hc hv => ?_) (fun name c v hc hv => ?_)
  · rw [Json.map_fst_insertAll, List.map_map, hlabels]
    rfl
  · obtain ⟨hin, hname, hgives⟩ := hpair name c v hc hv
    have hlabel : c.label = name := by rw [Token.label, hname]; rfl
    exact hlabel ▸ hgives.run_alone
  · obtain ⟨hin, _, hgives⟩ := hpair name c v hc hv
    exact hinside c hin v hgives

end

/-! ## Every level -/

section
variable {s : ExtractionSettings} {d : Document}

mutual

/-- What a field gives follows its fields, at every level below it. -/
theorem valueFollows_of_gives (hfail : s.missingField = .fail) : ∀ (t : Token) {depth : Nat},
    (∀ v ∈ Token.preorder depth t, v.1.IsNamedField) → ∀ {a : Path} {v : Json},
      Gives s d a t v → ValueFollows s d t a v
  | ⟨kind, name, span, markerId, children, address⟩, depth, hnamed, a, v, h => by
    have hbelow : ∀ v ∈ Token.preorderAll (depth + 1) children, v.1.IsNamedField := fun v hv =>
      hnamed v (by rw [Token.preorder]; exact List.mem_cons_of_mem _ hv)
    have hobject {n : Path} {ms : Fields} (hms : fieldsValue s d children [] n = .ok ms) :
        ObjectFollows s d ⟨kind, name, span, markerId, children, address⟩ n ms :=
      objectFollows_of_fieldsValue hfail
        (fun c hc => hbelow _ (Token.mem_preorderAll_of_mem hc _))
        (fun c hc v hv => valuesFollow_of_gives hfail children hbelow c hc hv) hms
    obtain ⟨n, hn, hfound⟩ := h
    cases hfound with
    | value hkind => exact .value hkind hn
    | object hkind hms => exact .object hkind hn (hobject hms)
    | list hkind hitems =>
      rw [itemsValue_eq_mapM_itemsFrom] at hitems
      obtain ⟨members, rfl, hlength, hall⟩ := exists_members hitems
      exact .list hkind hn hlength fun x hx => hobject (hall x hx)

/-- The same of each field of a list. -/
theorem valuesFollow_of_gives (hfail : s.missingField = .fail) :
    ∀ (ts : List Token) {depth : Nat}, (∀ v ∈ Token.preorderAll depth ts, v.1.IsNamedField) →
      ∀ t ∈ ts, ∀ {a : Path} {v : Json}, Gives s d a t v → ValueFollows s d t a v
  | [], _, _, _, ht, _, _, _ => nomatch ht
  | t :: ts, depth, hnamed, c, hc, a, v, h => by
    rw [Token.preorderAll] at hnamed
    obtain ⟨hhead, htail⟩ := List.forall_mem_append.1 hnamed
    rcases List.mem_cons.1 hc with hc | hc
    · rw [hc] at h ⊢
      exact valueFollows_of_gives hfail t hhead h
    · exact valuesFollow_of_gives hfail ts htail c hc h

end

/-! ## Whole extractions -/

/-- **Results follow the declared fields.** If missing fields are errors and all tokens below the
root of a blueprint are fields with names, then the value of a successful extraction is an object,
and it and all objects in it, at every depth and in every item of a list, follow the fields of their
token: the keys are the distinct names of the fields in the order in which they are declared first,
and under each name is what the field gives that is looked up by that name. -/
theorem result_follows_fields {b : Blueprint} {v : Json} (hfail : s.missingField = .fail)
    (hnamed : b.root.HoldsNamedFields) (h : extractFrom s b d = .ok v) :
    ∃ top ms, d.root? = some top ∧ v = .object ms ∧ ObjectFollows s d b.root top ms := by
  rw [extractFrom_eq_value, value] at h
  cases htop : d.root? with
  | none =>
    rw [htop] at h
    cases h
  | some top =>
    rw [htop] at h
    obtain ⟨ms, hms, rfl⟩ := map_eq_ok_iff.1 h
    refine ⟨top, ms, rfl, rfl, objectFollows_of_fieldsValue hfail (fun c hc => ?_) ?_ hms⟩
    · exact hnamed _ (Token.mem_preorderAll_of_mem hc 1)
    · exact fun c hc v hv => valuesFollow_of_gives hfail b.root.children hnamed c hc hv

/-- A value and a list of one name, with a field between them, and two values of one name in the
list. The list takes the place of the value, and the second value that of the first one. -/
theorem result_follows_fields_replaced :
    let first : Token := ⟨.value, some "x", none, none, [], some ⟨[⟨"b", some (.at 0)⟩]⟩⟩
    let other : Token := ⟨.value, some "y", none, none, [], some ⟨[⟨"b", some (.at 0)⟩]⟩⟩
    let second : Token := ⟨.value, some "x", none, none, [], some ⟨[⟨"i", some (.at 1)⟩]⟩⟩
    let text : Token := ⟨.value, some "rows", none, none, [], some ⟨[⟨"p", some (.at 0)⟩]⟩⟩
    let z : Token := ⟨.value, some "z", none, none, [], some ⟨[⟨"p", some (.at 0)⟩]⟩⟩
    let rows : Token := ⟨.listStart, some "rows", none, none, [first, other, second],
      some ⟨[⟨"li", some (.at 1)⟩]⟩⟩
    let b : Blueprint := ⟨"page", ⟨.root, none, none, none, [text, z, rows], none⟩⟩
    let d : Document := ⟨[.element "body" none [.element "p" none [.text "t"],
      .element "li" none [.element "b" none [.text "1"], .element "i" none [.text "2"]],
      .element "li" none [.element "b" none [.text "3"], .element "i" none [.text "4"]]]]⟩
    let s : ExtractionSettings := {}
    let v : Json := .object [("rows", .array [.object [("x", .string "2"), ("y", .string "1")],
      .object [("x", .string "4"), ("y", .string "3")]]), ("z", .string "t")]
    s.missingField = .fail ∧ b.root.HoldsNamedFields ∧ extractFrom s b d = .ok v ∧
      ∃ top ms, d.root? = some top ∧ v = .object ms ∧ ObjectFollows s d b.root top ms := by
  intro first other second text z rows b d s v
  have hnamed : b.root.HoldsNamedFields := by decide
  have hvalue : extractFrom s b d = .ok v := by
    rw [extractFrom_eq_value]
    decide +kernel
  exact ⟨rfl, hnamed, hvalue, result_follows_fields rfl hnamed hvalue⟩

end

end Extraction

/-- Compiled blueprints have such fields only. -/
theorem holdsNamedFields_of_compile {ids : IdSupply} {name sample : String} {b : Blueprint}
    (h : compile ids name sample = .ok b) : b.root.HoldsNamedFields := by
  obtain ⟨tokens, ht, hl⟩ := exists_of_compile h
  have hlisting := Sample.isListing_of_tokenize ht
  intro v hv
  have hwalk : v ∈ Token.preorder 0 b.root := by
    rw [Token.preorder_eq]
    exact List.mem_cons_of_mem _ hv
  obtain ⟨t, hmem, address, hbare⟩ := exists_of_mem_preorder hlisting hl hwalk
  have hkind : v.1.kind = t.kind := by rw [← Token.bare_kind v.1, hbare]
  have hname : v.1.name = t.name := by
    change v.1.bare.name = t.name
    rw [hbare]
  obtain ⟨_, hfields, _⟩ := Learning.placesAll_of_learn hlisting hl
  obtain ⟨hroot, hopen, _⟩ := (Token.isField_of_mem_preorderAll _ hfields hv).kind_cases
  obtain ⟨_, rfl⟩ := Sample.eq_of_tokenize ht
  rcases List.mem_cons.1 hmem with rfl | hmem
  · exact absurd hkind hroot
  · obtain ⟨a, ha, id, rfl⟩ := Sample.exists_of_mem_tokensFrom hmem
    obtain ⟨_, hclass⟩ := (isFoundIn_of_mem_scanFrom a ha).classified
    rw [hkind] at hopen
    rw [Token.IsNamedField, hkind, hname]
    exact Annotation.named_of_classify hclass hopen

end Stencil
