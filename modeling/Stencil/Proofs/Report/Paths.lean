import Stencil.Proofs.Extraction.RepeatedNames
import Stencil.Proofs.Report.Indexes
import Stencil.Proofs.Sample.Recognition

/-!
# Leaves of values and rows of fields

A value that is extracted with a blueprint has a leaf for every text that was read, and the listing
of the blueprint has a row for every field. The members of a value are put into its objects by the
fields, so the path of a leaf takes the same names as the row of the field it was read for
(`leavesIn_of_fieldValue`). If nothing may be missing, and no member replaces another one, every
field for a value has been read at least once (`leavesOver_of_gives`): a list has a first item then.
-/

namespace Stencil

open Branching (Throughout at?)

namespace Json

theorem mem_leavesBelow_array_iff {leaf : String × String} {path : String} {items : List Json} :
    leaf ∈ leavesBelow path (.array items) ↔
      ∃ i j, items[i]? = some j ∧ leaf ∈ leavesBelow (itemPath path i) j := by
  rw [leavesBelow, leavesOfItems_eq_flatten]
  simp only [List.mem_flatten, List.mem_iff_getElem? (l := List.mapIdx _ _), List.getElem?_mapIdx,
    Option.map_eq_some_iff, Nat.zero_add]
  constructor
  · rintro ⟨_, ⟨i, j, hj, rfl⟩, hleaf⟩
    exact ⟨i, j, hj, hleaf⟩
  · rintro ⟨i, j, hj, hleaf⟩
    exact ⟨_, ⟨i, j, hj, rfl⟩, hleaf⟩

theorem mem_leavesBelow_object_iff {leaf : String × String} {path : String}
    {ms : List (String × Json)} :
    leaf ∈ leavesBelow path (.object ms) ↔
      ∃ m ∈ ms, leaf ∈ leavesBelow (memberPath path m.1) m.2 := by
  rw [leavesBelow, leavesOfMembers_eq_flatMap, List.mem_flatMap]

end Json

/-- Every leaf stands, without its indexes, in a row for a value. -/
def LeavesIn (rows : List FieldRow) (leaves : List (String × String)) : Prop :=
  ∀ leaf ∈ leaves, ∃ row ∈ rows, row.kind = .value ∧ row.path = unindexed leaf.1

/-- Every row for a value is, without its indexes, one of the leaves. -/
def LeavesOver (rows : List FieldRow) (leaves : List (String × String)) : Prop :=
  ∀ row ∈ rows, row.kind = .value → ∃ leaf ∈ leaves, unindexed leaf.1 = row.path

namespace Token

/-- The path of a field is that of a member of its name, with brackets for the items of a list. -/
theorem fieldPath_eq (above : String) (t : Token) :
    t.fieldPath above = Json.memberPath above t.label ++ if t.kind = .listStart then "[]" else "" :=
  rfl

theorem fieldPath_of_ne_list {t : Token} (h : t.kind ≠ .listStart) (above : String) :
    t.fieldPath above = Json.memberPath above t.label := by
  rw [fieldPath_eq, if_neg h, String.append_empty]

theorem fieldPath_of_list {t : Token} (h : t.kind = .listStart) (above : String) :
    t.fieldPath above = Json.memberPath above t.label ++ "[]" := by
  rw [fieldPath_eq, if_pos h]

end Token

namespace Extraction

open Json (itemPath leavesBelow memberPath)
open Token (fieldPath_of_list fieldPath_of_ne_list rowsBelow rowsBelow_eq rowsOfAll
  rowsOfAll_eq_flatMap)

section
variable {s : ExtractionSettings} {d : Document}

/-! ## What fields add -/

/-- A field adds nothing, the empty list, or what it gives. -/
theorem fieldValue_cases {t : Token} {a : Path} {before ms : Fields}
    (h : fieldValue s d t before a = .ok ms) :
    ms = before ∨ ∃ v, ms = Json.insert t.label v before ∧ (v = .array [] ∨ Gives s d a t v) := by
  obtain ⟨kind, name, span, markerId, children, address⟩ := t
  rw [fieldValue] at h
  cases hn : d.resolve? a (address.getD .empty) with
  | none =>
    rw [hn] at h
    cases hs : s.missingField with
    | fail => rw [hs] at h; cases h
    | skip =>
      rw [hs] at h
      dsimp only at h
      split at h
      · cases h
        exact .inr ⟨_, rfl, .inl rfl⟩
      · cases h
        exact .inl rfl
  | some n =>
    rw [hn] at h
    cases kind with
    | value =>
      cases h
      exact .inr ⟨_, rfl, .inr ⟨n, hn, .value rfl⟩⟩
    | objectStart =>
      obtain ⟨ms', hms, rfl⟩ := map_eq_ok_iff.1 h
      exact .inr ⟨_, rfl, .inr ⟨n, hn, .object rfl hms⟩⟩
    | listStart =>
      obtain ⟨items, hitems, rfl⟩ := map_eq_ok_iff.1 h
      exact .inr ⟨_, rfl, .inr ⟨n, hn, .list rfl hitems⟩⟩
    | root | objectEnd | listEnd =>
      cases h
      exact .inl rfl

/-- A member of an object is the empty list or what a field of its name gives. -/
theorem exists_of_mem_fieldsValue {ts : List Token} {a : Path} {before ms : Fields}
    (h : fieldsValue s d ts before a = .ok ms) {m : String × Json} (hm : m ∈ ms) :
    m ∈ before ∨ ∃ t ∈ ts, m.1 = t.label ∧ (m.2 = .array [] ∨ Gives s d a t m.2) := by
  induction ts generalizing before with
  | nil =>
    rw [fieldsValue] at h
    cases h
    exact .inl hm
  | cons t ts ih =>
    obtain ⟨ms₁, hv, hrest⟩ := fieldsValue_cons_eq_ok_iff.1 h
    rcases ih hrest with hm₁ | ⟨u, hu, hgives⟩
    · rcases fieldValue_cases hv with rfl | ⟨v, rfl, hgives⟩
      · exact .inl hm₁
      · rcases Json.eq_or_mem_of_mem_insert hm₁ with rfl | hm₁
        · exact .inr ⟨t, List.mem_cons_self .., rfl, hgives⟩
        · exact .inl hm₁
    · exact .inr ⟨u, List.mem_cons_of_mem _ hu, hgives⟩

/-- A list has a first item, and its items are objects of its fields. -/
theorem objects_of_itemsValue {fields : Path → Except StructuralError Fields}
    {itemTag : Option String} {more : Nat} {item : Path} {items : List Json}
    (h : itemsValue s d fields itemTag more item = .ok items) :
    items ≠ [] ∧ ∀ x ∈ items, ∃ q ms, fields q = .ok ms ∧ x = .object ms := by
  rw [itemsValue_eq_mapM_itemsFrom, mapM_eq_ok_iff] at h
  constructor
  · rintro rfl
    cases more <;> cases h
  · intro x hx
    obtain ⟨q, _, hq⟩ := Learning.exists_of_mem_forall₂ h hx
    obtain ⟨ms, hms, rfl⟩ := map_eq_ok_iff.1 hq
    exact ⟨q, ms, hms, rfl⟩

/-! ## Every leaf has a row -/

/-- The leaves of an object of fields stand in the rows of these fields. -/
theorem leavesIn_object {ts : List Token} {path : String}
    (hts : ∀ t ∈ ts, ∀ {a v}, Gives s d a t v →
      LeavesIn (rowsBelow (unindexed path) t) (leavesBelow (memberPath path t.label) v))
    {a : Path} {ms : Fields} (h : fieldsValue s d ts [] a = .ok ms) :
    LeavesIn (rowsOfAll (unindexed path) ts) (leavesBelow path (.object ms)) := by
  intro leaf hleaf
  obtain ⟨m, hm, hleaf⟩ := Json.mem_leavesBelow_object_iff.1 hleaf
  rcases exists_of_mem_fieldsValue h hm with hm | ⟨t, ht, hname, hv⟩
  · cases hm
  · rw [hname] at hleaf
    rcases hv with hempty | hgives
    · rw [hempty, leavesBelow, Json.leavesOfItems] at hleaf
      cases hleaf
    · obtain ⟨row, hrow, hpath⟩ := hts t ht hgives leaf hleaf
      exact ⟨row, by rw [rowsOfAll_eq_flatMap]; exact List.mem_flatMap.2 ⟨t, ht, hrow⟩, hpath⟩

/-- **The leaves of what a field gives stand in its rows.** -/
theorem leavesIn_of_gives {t : Token} (ht : Throughout (fun t => '[' ∉ t.label.toList) t)
    {a : Path} {v : Json} (h : Gives s d a t v) (above : String) :
    LeavesIn (rowsBelow (unindexed above) t) (leavesBelow (memberPath above t.label) v) := by
  induction t using Branching.induction generalizing a v above with
  | h t ih =>
    have hpath := Json.unindexed_memberPath ht.here above
    have hbelow (path : String) {n : Path} {ms : Fields}
        (hms : fieldsValue s d t.children [] n = .ok ms) :
        LeavesIn (rowsOfAll (unindexed path) t.children) (leavesBelow path (.object ms)) :=
      leavesIn_object (fun c hc _ _ hgives => ih c hc (ht.part hc) hgives path) hms
    obtain ⟨n, _, hfound⟩ := h
    intro leaf hleaf
    rw [rowsBelow_eq]
    cases hfound with
    | value hkind =>
      have hrow := fieldPath_of_ne_list (by rw [hkind]; decide) (unindexed above)
      rw [leavesBelow, List.mem_singleton] at hleaf
      subst hleaf
      exact ⟨_, List.mem_cons_self .., hkind, hrow.trans hpath.symm⟩
    | object hkind hms =>
      have hrow := fieldPath_of_ne_list (t := t) (by rw [hkind]; decide) (unindexed above)
      obtain ⟨row, hmem, hrest⟩ := hbelow _ hms leaf hleaf
      rw [hpath, ← hrow] at hmem
      exact ⟨row, List.mem_cons_of_mem _ hmem, hrest⟩
    | list hkind hitems =>
      have hrow := fieldPath_of_list hkind (unindexed above)
      obtain ⟨i, x, hx, hleaf⟩ := Json.mem_leavesBelow_array_iff.1 hleaf
      obtain ⟨q, ms, hms, rfl⟩ := (objects_of_itemsValue hitems).2 x (List.mem_of_getElem? hx)
      obtain ⟨row, hmem, hrest⟩ := hbelow _ hms leaf hleaf
      rw [Json.unindexed_itemPath, hpath, ← hrow] at hmem
      exact ⟨row, List.mem_cons_of_mem _ hmem, hrest⟩

/-! ## Every row for a value has a leaf -/

/-- If nothing may be missing and all names differ, then every row for a value below a container is
the path of a leaf of an object of its fields. -/
theorem leavesOver_object (hfail : s.missingField = .fail) {ts : List Token} {path : String}
    (hnamed : ∀ t ∈ ts, t.IsNamedField) (hnames : (ts.map (·.name)).Nodup)
    (hts : ∀ t ∈ ts, ∀ {a v}, Gives s d a t v →
      LeavesOver (rowsBelow (unindexed path) t) (leavesBelow (memberPath path t.label) v))
    {a : Path} {ms : Fields} (h : fieldsValue s d ts [] a = .ok ms) :
    LeavesOver (rowsOfAll (unindexed path) ts) (leavesBelow path (.object ms)) := by
  obtain ⟨ps, rfl, hgives, rfl⟩ := exists_of_fieldsValue hfail hnamed h
  -- No member takes the place of another one, since the names of the fields differ.
  have hlabels : (ps.map (·.1)).map (·.name) = (ps.map (·.1.label)).map some := by
    rw [List.map_map, List.map_map]
    exact List.map_congr_left fun p hp => (hnamed _ (List.mem_map_of_mem hp)).name_eq
  have hkeys : ((ps.map fun p => (p.1.label, p.2)).map (·.1)).Nodup := by
    rw [List.map_map]
    exact (hlabels ▸ hnames).of_map
  rw [Json.insertAll_of_nodup hkeys]
  intro row hrow hkind
  rw [rowsOfAll_eq_flatMap, List.mem_flatMap] at hrow
  obtain ⟨t, ht, hrow⟩ := hrow
  obtain ⟨p, hp, rfl⟩ := List.mem_map.1 ht
  obtain ⟨leaf, hleaf, hpath⟩ := hts p.1 ht (hgives p hp) row hrow hkind
  exact ⟨leaf, Json.mem_leavesBelow_object_iff.2 ⟨_, List.mem_map_of_mem hp, hleaf⟩, hpath⟩

/-- What is asked of a token for each of its rows to have a leaf: it is a field with a name without
brackets, a value holds no fields, and no two fields in it share a name. -/
structure IsDistinctField (t : Token) : Prop where
  named : t.IsNamedField
  plain : '[' ∉ t.label.toList
  empty : t.kind = .value → t.children = []
  names : (t.children.map (·.name)).Nodup

/-- **Every row for a value in a field has a leaf in what the field gives.** -/
theorem leavesOver_of_gives (hfail : s.missingField = .fail) {t : Token}
    (ht : Throughout IsDistinctField t) {a : Path} {v : Json} (h : Gives s d a t v)
    (above : String) :
    LeavesOver (rowsBelow (unindexed above) t) (leavesBelow (memberPath above t.label) v) := by
  induction t using Branching.induction generalizing a v above with
  | h t ih =>
    have hpath := Json.unindexed_memberPath ht.here.plain above
    have hparts : ∀ c ∈ t.children, Throughout IsDistinctField c := fun c hc => ht.part hc
    have hbelow (path : String) {n : Path} {ms : Fields}
        (hms : fieldsValue s d t.children [] n = .ok ms) :
        LeavesOver (rowsOfAll (unindexed path) t.children) (leavesBelow path (.object ms)) :=
      leavesOver_object hfail (fun c hc => (hparts c hc).here.named) ht.here.names
        (fun c hc _ _ hgives => ih c hc (hparts c hc) hgives path) hms
    obtain ⟨n, _, hfound⟩ := h
    intro row hrow hvalue
    rw [rowsBelow_eq] at hrow
    cases hfound with
    | value hkind =>
      have hrow' := fieldPath_of_ne_list (t := t) (by rw [hkind]; decide) (unindexed above)
      rw [ht.here.empty hkind, rowsOfAll, List.mem_singleton] at hrow
      subst hrow
      refine ⟨(memberPath above t.label, textValue s d n), ?_, hpath.trans hrow'.symm⟩
      rw [leavesBelow]
      exact List.mem_singleton.2 rfl
    | object hkind hms =>
      have hrow' := fieldPath_of_ne_list (t := t) (by rw [hkind]; decide) (unindexed above)
      rcases List.mem_cons.1 hrow with rfl | hrow
      · cases hkind.symm.trans hvalue
      · rw [hrow', ← hpath] at hrow
        exact hbelow _ hms row hrow hvalue
    | list hkind hitems =>
      have hrow' := fieldPath_of_list hkind (unindexed above)
      rcases List.mem_cons.1 hrow with rfl | hrow
      · cases hkind.symm.trans hvalue
      · obtain ⟨hne, hall⟩ := objects_of_itemsValue hitems
        obtain ⟨x, rest, rfl⟩ := List.exists_cons_of_ne_nil hne
        obtain ⟨q, ms, hms, rfl⟩ := hall x (List.mem_cons_self ..)
        rw [hrow', ← hpath, ← Json.unindexed_itemPath _ 0] at hrow
        obtain ⟨leaf, hleaf, hrest⟩ := hbelow _ hms row hrow hvalue
        exact ⟨leaf, Json.mem_leavesBelow_array_iff.2 ⟨0, _, rfl, hleaf⟩, hrest⟩

end

end Extraction

/-! ## Compiled blueprints -/

/-- A recognized name has no bracket in it. -/
theorem Annotation.bracket_notMem_of_classify {inner : List Char} {kind : TokenKind}
    {name : Option String} (h : Annotation.classify inner = some (kind, name)) :
    '[' ∉ (name.getD "").toList := by
  have hname {cs : List Char} (hcs : IsName cs) : '[' ∉ (String.ofList cs).toList := by
    rw [String.toList_ofList]
    intro hmem
    rcases hcs.2 _ hmem with h | h <;> exact absurd h (by decide)
  cases Annotation.classify_eq_some_iff.1 h with
  | listEnd | objectEnd => exact nofun
  | listStart hn | objectStart hn | value hn => exact hname hn

/-- No token of a compiled blueprint has a bracket in its name. -/
theorem bracket_notMem_label_of_compile {ids : IdSupply} {name sample : String} {b : Blueprint}
    (h : compile ids name sample = .ok b) :
    Throughout (fun t => '[' ∉ t.label.toList) b.root := by
  obtain ⟨tokens, ht, hl⟩ := exists_of_compile h
  intro p u hu
  obtain ⟨t, hmem, address, hbare⟩ := exists_of_mem_preorder
    (Sample.isListing_of_tokenize ht) hl (Token.mem_preorder_of_at? hu)
  have hname : u.name = t.name := by
    change u.bare.name = t.name
    rw [hbare]
  rw [Token.label, hname]
  obtain ⟨_, rfl⟩ := Sample.eq_of_tokenize ht
  rcases List.mem_cons.1 hmem with rfl | hmem
  · exact List.not_mem_nil
  · obtain ⟨a, ha, id, rfl⟩ := Sample.exists_of_mem_tokensFrom hmem
    obtain ⟨_, hclass⟩ := (isFoundIn_of_mem_scanFrom a ha).classified
    exact Annotation.bracket_notMem_of_classify hclass

/-- Every token below the root of a compiled blueprint whose fields have different names at every
token is such a field. -/
theorem isDistinctField_of_compile {ids : IdSupply} {name sample : String} {b : Blueprint}
    (h : compile ids name sample = .ok b)
    (hnames : Throughout (fun t => (t.children.map (·.name)).Nodup) b.root) :
    ∀ c ∈ b.root.children, Throughout Extraction.IsDistinctField c := by
  obtain ⟨tokens, ht, hl⟩ := exists_of_compile h
  obtain ⟨_, hfields, _⟩ := Learning.placesAll_of_learn (Sample.isListing_of_tokenize ht) hl
  intro c hc p u hu
  have hmem : (u, 1 + p.length) ∈ Token.preorderAll 1 b.root.children := by
    rw [Token.preorderAll_eq_flatMap, List.mem_flatMap]
    exact ⟨(c, 1), List.mem_map_of_mem hc, Token.mem_preorder_of_at? hu⟩
  exact ⟨holdsNamedFields_of_compile h _ hmem,
    ((bracket_notMem_label_of_compile h).part hc) p u hu,
    (Token.isField_of_mem_preorderAll _ hfields hmem).kind_cases.2.2, (hnames.part hc) p u hu⟩

/-- **Values and listings use the same paths.** Whatever a compiled blueprint extracts under any
settings from any document, the path of every leaf of the value is, without its indexes, the path of
a row for a value in the listing of the blueprint. If missing fields are errors and no two fields of
a token share a name, there is a leaf for every such row. -/
theorem leaf_paths_are_row_paths {ids : IdSupply} {name sample : String} {b : Blueprint}
    {s : ExtractionSettings} {d : Document} {v : Json} (hb : compile ids name sample = .ok b)
    (hv : Extraction.extractFrom s b d = .ok v) :
    LeavesIn b.root.fieldRows v.leaves ∧
      (s.missingField = .fail →
        Throughout (fun t : Token => (t.children.map (·.name)).Nodup) b.root →
          LeavesOver b.root.fieldRows v.leaves) := by
  obtain ⟨top, ms, _, hms, rfl⟩ := Extraction.exists_of_extractFrom hv
  have hroot : b.root.fieldRows = Token.rowsOfAll (unindexed "") b.root.children := by
    rw [unindexed_empty, Token.fieldRows_eq_rowsOfAll]
  rw [Json.leaves_eq_leavesBelow, hroot]
  have hplain := bracket_notMem_label_of_compile hb
  refine ⟨Extraction.leavesIn_object (fun c hc _ _ hgives => ?_) hms, fun hfail hnames => ?_⟩
  · exact Extraction.leavesIn_of_gives (hplain.part hc) hgives ""
  · have hdistinct := isDistinctField_of_compile hb hnames
    exact Extraction.leavesOver_object hfail (fun c hc => (hdistinct c hc).here.named) hnames.here
      (fun c hc _ _ hgives => Extraction.leavesOver_of_gives hfail (hdistinct c hc) hgives "") hms

/-- A list of two items has a leaf in each of them for its one row for a value. -/
theorem leaf_paths_are_row_paths_list :
    let sample := "<ul>\x7b::rows\x7d<li><b>\x7b$name\x7dx</b></li>\x7b::\x7d</ul>"
    let d := Html.parse "<ul><li><b>1</b></li><li><b>2</b></li></ul>".toList
    let s : ExtractionSettings := {}
    ∃ b v, compile MarkerId.ofNat "page" sample = .ok b ∧ Extraction.extractFrom s b d = .ok v ∧
      s.missingField = .fail ∧
      Throughout (fun t : Token => (t.children.map (·.name)).Nodup) b.root ∧
      v.leaves = [("rows[0].name", "1"), ("rows[1].name", "2")] ∧
      LeavesIn b.root.fieldRows v.leaves ∧ LeavesOver b.root.fieldRows v.leaves := by
  intro sample d s
  have hrun : ((compile MarkerId.ofNat "page" sample).toOption.bind fun b =>
      (Extraction.value s b d).toOption.map fun v =>
        (v.leaves, (Token.preorder 0 b.root).all fun u => (u.1.children.map (·.name)).Nodup)) =
      some ([("rows[0].name", "1"), ("rows[1].name", "2")], true) := by
    decide +kernel
  obtain ⟨b, hb, hrun⟩ := Option.bind_eq_some_iff.1 hrun
  obtain ⟨v, hv, hrun⟩ := Option.map_eq_some_iff.1 hrun
  obtain ⟨hleaves, hall⟩ := Prod.mk.inj hrun
  rw [toOption_eq_some_iff] at hb hv
  rw [← Extraction.extractFrom_eq_value] at hv
  have hnames : Throughout (fun t : Token => (t.children.map (·.name)).Nodup) b.root :=
    fun p u hu => of_decide_eq_true (List.all_eq_true.1 hall _ (Token.mem_preorder_of_at? hu))
  obtain ⟨hin, hover⟩ := leaf_paths_are_row_paths hb hv
  exact ⟨b, v, hb, hv, rfl, hnames, hleaves, hin, hover rfl hnames⟩

end Stencil
