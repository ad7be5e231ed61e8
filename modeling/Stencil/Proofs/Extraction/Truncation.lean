import Stencil.Proofs.Extraction.Refinement
import Stencil.Proofs.Outcomes

/-!
# The list cap only truncates

Two extractions that differ in how many items a list may hold leave their lists at different items,
at every level. `Json.truncate` cuts all arrays of a tree. It commutes with the setting of a member
(`Json.truncateMembers_insert`), so a field that both extractions find adds the same to what came
before it, once cut (`fieldValue_truncate`), and the items that the smaller cap leaves are the first
ones of those that the larger cap leaves (`itemsValue_truncate`).
-/

namespace Stencil

/-! ## Cutting arrays -/

namespace Json

mutual

/-- A tree with every array in it cut to its first `m` items. -/
def truncate (m : Nat) : Json → Json
  | .null => .null
  | .bool b => .bool b
  | .number literal => .number literal
  | .string text => .string text
  | .array items => .array ((truncateItems m items).take m)
  | .object members => .object (truncateMembers m members)

/-- Trees with every array in them cut. -/
def truncateItems (m : Nat) : List Json → List Json
  | [] => []
  | j :: rest => truncate m j :: truncateItems m rest

/-- Members with every array in their values cut. -/
def truncateMembers (m : Nat) : List (String × Json) → List (String × Json)
  | [] => []
  | (key, j) :: rest => (key, truncate m j) :: truncateMembers m rest

end

/-- To cut what is put in is to put in what is cut. -/
theorem truncateMembers_insert (m : Nat) (key : String) (value : Json)
    (ms : List (String × Json)) :
    truncateMembers m (insert key value ms) =
      insert key (truncate m value) (truncateMembers m ms) := by
  induction ms with
  | nil => rfl
  | cons x rest ih =>
    obtain ⟨k, v⟩ := x
    rw [insert, truncateMembers, insert]
    split
    · rw [truncateMembers]
    · rw [truncateMembers, ih]

end Json

/-- The same settings with room for another number of items in a list. -/
def ExtractionSettings.capped (s : ExtractionSettings) (m : Nat) : ExtractionSettings :=
  { s with maxListItems := m }

@[simp] theorem ExtractionSettings.maxListItems_capped (s : ExtractionSettings) (m : Nat) :
    (s.capped m).maxListItems = m := rfl

namespace Extraction

open Json (truncate truncateItems truncateMembers)

section
variable {s : ExtractionSettings} {d : Document} {m m' : Nat}

/-! ## Items -/

/-- How a list comes to its items from one of them on: that item is the last there is room for, or
no other follows it, or another does. -/
inductive Collects (s : ExtractionSettings) (d : Document)
    (fields : Path → Except StructuralError Fields) (itemTag : Option String) :
    (more : Nat) → (item : Path) → List Json → Prop where
  | full {item : Path} {ms : Fields} (h : fields item = .ok ms) :
    Collects s d fields itemTag 0 item [.object ms]
  | last {more : Nat} {item : Path} {ms : Fields} (h : fields item = .ok ms)
    (hnext : nextRepetition? s d item itemTag = none) :
    Collects s d fields itemTag (more + 1) item [.object ms]
  | next {more : Nat} {item next : Path} {ms : Fields} {rest : List Json}
    (h : fields item = .ok ms) (hnext : nextRepetition? s d item itemTag = some next)
    (hrest : itemsValue s d fields itemTag more next = .ok rest) :
    Collects s d fields itemTag (more + 1) item (.object ms :: rest)

theorem collects_of_itemsValue {fields : Path → Except StructuralError Fields}
    {itemTag : Option String} {more : Nat} {item : Path} {items : List Json}
    (h : itemsValue s d fields itemTag more item = .ok items) :
    Collects s d fields itemTag more item items := by
  cases hf : fields item with
  | error e => cases more <;> (rw [itemsValue, hf] at h; cases h)
  | ok ms =>
    cases more with
    | zero =>
      rw [itemsValue, hf] at h
      cases h
      exact .full hf
    | succ more =>
      rw [itemsValue, hf] at h
      dsimp only at h
      split at h
      · next hnext =>
        cases h
        exact .last hf hnext
      · next next hnext =>
        obtain ⟨rest, hrest, rfl⟩ := map_eq_ok_iff.1 h
        exact .next hf hnext hrest

/-- With room for fewer items a list gives the first ones, if its fields at each item are cut. -/
theorem itemsValue_truncate {fields fields' : Path → Except StructuralError Fields}
    (hfields : ∀ q ms, fields' q = .ok ms → fields q = .ok (truncateMembers m ms))
    {itemTag : Option String} {more more' : Nat} (hmore : more ≤ more') {item : Path}
    {items : List Json}
    (h : itemsValue (s.capped m') d fields' itemTag more' item = .ok items) :
    itemsValue (s.capped m) d fields itemTag more item =
      .ok ((truncateItems m items).take (more + 1)) := by
  induction more generalizing more' item items with
  | zero =>
    rw [itemsValue]
    -- The smaller cap ends the list here, however the larger one goes on.
    cases collects_of_itemsValue h with
    | full hf | last hf _ | next hf _ _ =>
      rw [hfields _ _ hf, truncateItems, truncate]
      rfl
  | succ more ih =>
    rw [itemsValue]
    cases collects_of_itemsValue h with
    | full hf => exact absurd hmore (Nat.not_succ_le_zero more)
    | last hf hnext =>
      rw [hfields _ _ hf, show nextRepetition? (s.capped m) d item itemTag = none from hnext]
      rfl
    | @next _ _ next ms rest hf hnext hrest =>
      rw [hfields _ _ hf, show nextRepetition? (s.capped m) d item itemTag = some next from hnext]
      dsimp only
      rw [ih (Nat.le_of_succ_le_succ hmore) hrest, truncateItems, truncate]
      rfl

/-! ## Fields -/

mutual

/-- A field that is found with the larger cap is found with the smaller one, and what it leaves is
cut, if what was there before it is. -/
theorem fieldValue_truncate (hm : 1 ≤ m) (hle : m ≤ m') : ∀ (t : Token) (before : Fields)
    (anchor : Path) {ms : Fields}, fieldValue (s.capped m') d t before anchor = .ok ms →
      fieldValue (s.capped m) d t (truncateMembers m before) anchor = .ok (truncateMembers m ms)
  | ⟨kind, name, _, _, children, address⟩, before, anchor, ms, h => by
    rw [fieldValue] at h ⊢
    cases hr : d.resolve? anchor (address.getD .empty) with
    | none =>
      rw [hr] at h
      dsimp only [ExtractionSettings.capped] at h ⊢
      cases hmissing : s.missingField with
      | fail => rw [hmissing] at h; cases h
      | skip =>
        rw [hmissing] at h
        cases h
        dsimp only
        split
        · rw [Json.truncateMembers_insert, truncate, truncateItems, List.take_nil]
        · rfl
    | some node =>
      have hchildren : ∀ q ms', fieldsValue (s.capped m') d children [] q = .ok ms' →
          fieldsValue (s.capped m) d children [] q = .ok (truncateMembers m ms') :=
        fun q _ h => fieldsValue_truncate hm hle children [] q h
      rw [hr] at h
      cases kind with
      | value =>
        cases h
        rw [Json.truncateMembers_insert, truncate]
        rfl
      | objectStart =>
        obtain ⟨ms', hms', rfl⟩ := map_eq_ok_iff.1 h
        dsimp only
        rw [hchildren node ms' hms', Json.truncateMembers_insert, truncate]
        rfl
      | listStart =>
        obtain ⟨items, hitems, rfl⟩ := map_eq_ok_iff.1 h
        have hcut := itemsValue_truncate hchildren (Nat.sub_le_sub_right hle 1) hitems
        rw [Nat.sub_add_cancel hm] at hcut
        dsimp only [ExtractionSettings.maxListItems_capped]
        rw [hcut, Json.truncateMembers_insert, truncate]
        rfl
      | root | objectEnd | listEnd =>
        cases h
        rfl

/-- Fields that are found with the larger cap are found with the smaller one. -/
theorem fieldsValue_truncate (hm : 1 ≤ m) (hle : m ≤ m') : ∀ (ts : List Token) (before : Fields)
    (anchor : Path) {ms : Fields}, fieldsValue (s.capped m') d ts before anchor = .ok ms →
      fieldsValue (s.capped m) d ts (truncateMembers m before) anchor = .ok (truncateMembers m ms)
  | [], before, anchor, ms, h => by
    rw [fieldsValue] at h ⊢
    cases h
    rfl
  | t :: rest, before, anchor, ms, h => by
    obtain ⟨ms', ht, hrest⟩ := fieldsValue_cons_eq_ok_iff.1 h
    exact fieldsValue_cons_eq_ok_iff.2 ⟨truncateMembers m ms',
      fieldValue_truncate hm hle t before anchor ht,
      fieldsValue_truncate hm hle rest ms' anchor hrest⟩

end

end

/-- **The list cap only truncates.** If an extraction succeeds, it also succeeds with room for fewer
items in a list, but for one at least, and its value is the one before with every array, at every
depth, cut to as many items. -/
theorem smaller_cap_truncates (s : ExtractionSettings) (b : Blueprint) (d : Document) {m m' : Nat}
    (hm : 1 ≤ m) (hle : m ≤ m') {v : Json}
    (h : extractFrom { s with maxListItems := m' } b d = .ok v) :
    extractFrom { s with maxListItems := m } b d = .ok (v.truncate m) := by
  change extractFrom (s.capped m') b d = .ok v at h
  change extractFrom (s.capped m) b d = .ok (v.truncate m)
  rw [extractFrom_eq_value, value] at h ⊢
  cases hroot : d.root? with
  | none => rw [hroot] at h; cases h
  | some top =>
    rw [hroot] at h
    obtain ⟨ms, hms, rfl⟩ := map_eq_ok_iff.1 h
    have hcut := fieldsValue_truncate hm hle b.root.children [] top hms
    rw [truncateMembers] at hcut
    dsimp only
    rw [hcut, truncate]
    rfl

/-- Rows of cells, with room for two items in a list and with room for one. -/
theorem smaller_cap_truncates_nested :
    let cell : Token := ⟨.value, some "x", none, none, [], some .empty⟩
    let cells : Token :=
      ⟨.listStart, some "cells", none, none, [cell], some ⟨[⟨"td", some (.at 0)⟩]⟩⟩
    let rows : Token :=
      ⟨.listStart, some "rows", none, none, [cells], some ⟨[⟨"tr", some (.at 0)⟩]⟩⟩
    let b : Blueprint := ⟨"page", ⟨.root, none, none, none, [rows], none⟩⟩
    let d : Document := ⟨[.element "table" none [
      .element "tr" none [.element "td" none [.text "1"], .element "td" none [.text "2"],
        .element "td" none [.text "3"]],
      .element "tr" none [.element "td" none [.text "4"]]]]⟩
    let s : ExtractionSettings := {}
    1 ≤ 1 ∧ 1 ≤ 2 ∧
      extractFrom { s with maxListItems := 2 } b d = .ok (.object [("rows", .array [
        .object [("cells", .array [.object [("x", .string "1")], .object [("x", .string "2")]])],
        .object [("cells", .array [.object [("x", .string "4")]])]])]) ∧
      extractFrom { s with maxListItems := 1 } b d = .ok (.object [("rows", .array [
        .object [("cells", .array [.object [("x", .string "1")]])]])]) := by
  intro cell cells rows b d s
  have hvalue : value { s with maxListItems := 2 } b d = .ok (.object [("rows", .array [
      .object [("cells", .array [.object [("x", .string "1")], .object [("x", .string "2")]])],
      .object [("cells", .array [.object [("x", .string "4")]])]])]) := by
    decide +kernel
  rw [← extractFrom_eq_value] at hvalue
  exact ⟨by decide, by decide, hvalue,
    smaller_cap_truncates s b d (by decide) (by decide) hvalue⟩

end Extraction

end Stencil
