import Stencil.Extraction.SettingsFile
import Stencil.Proofs.Json.Records
import Stencil.Proofs.Toml.Document

/-!
# Extraction settings are read back

The five lines of the settings are a table of five members (`tomlMembers`), and the settings are read
back from it. They can be written if both limits are below 2^63, which is where whole numbers end in
a file.
-/

namespace Stencil

open Toml (Written assignments says_line shows_boolText shows_numberText shows_stringText
  written_of_says)

theorem MissingField.ofKeyword?_keyword (m : MissingField) : ofKeyword? m.keyword = some m := by
  cases m <;> rfl

namespace Toml

theorem numberText?_eq_none_iff {n : Nat} : numberText? n = none ↔ Nat.pow 2 63 ≤ n := by
  rw [numberText?]
  split
  · next h => exact iff_of_false (Option.some_ne_none _) (Nat.not_le.2 h)
  · next h => exact iff_of_true rfl (Nat.not_lt.1 h)

/-- A number is decoded from a file to itself, if it could be written. -/
theorem asWord?_toJson_integer {n : Nat} {text : String} (h : numberText? n = some text) :
    Json.asWord? (integer n).toJson = some n := by
  have hlt : n < Nat.pow 2 63 := by
    rw [numberText?] at h
    split at h
    · assumption
    · cases h
  have hword : n < Text.wordSize := Nat.lt_trans hlt (by decide)
  have hliteral : (integer n).toJson = Json.ofNat n := rfl
  rw [hliteral, Json.asWord?_ofNat, if_pos hword]

end Toml

namespace ExtractionSettings

/-- The settings as members of a table. -/
def tomlMembers (s : ExtractionSettings) : Toml.Members :=
  [("max_document_length", .integer s.maxDocumentLength), ("max_list_items", .integer s.maxListItems),
    ("match_sibling_tag", .boolean s.matchSiblingTag), ("trim_values", .boolean s.trimValues),
    ("missing_field", .string s.missingField.keyword)]

theorem toToml?_eq_none_iff {s : ExtractionSettings} :
    s.toToml? = none ↔ Nat.pow 2 63 ≤ s.maxDocumentLength ∨ Nat.pow 2 63 ≤ s.maxListItems := by
  rw [← Toml.numberText?_eq_none_iff, ← Toml.numberText?_eq_none_iff, toToml?]
  cases Toml.numberText? s.maxDocumentLength with
  | none => exact ⟨fun _ => .inl rfl, fun _ => rfl⟩
  | some length =>
    cases Toml.numberText? s.maxListItems with
    | none => exact ⟨fun _ => .inr rfl, fun _ => rfl⟩
    | some items => exact ⟨nofun, by rintro (h | h) <;> cases h⟩

/-- The lines of the settings say their members. -/
theorem written_of_toToml? {s : ExtractionSettings} {text : String} (h : s.toToml? = some text) :
    Written text (assignments s.tomlMembers) := by
  obtain ⟨length, hlength, h⟩ := Option.bind_eq_some_iff.1 h
  obtain ⟨items, hitems, h⟩ := Option.bind_eq_some_iff.1 h
  cases h
  simp only [String.append_assoc]
  exact .line (says_line (by decide) (shows_numberText hlength)) <|
    .line (says_line (by decide) (shows_numberText hitems)) <|
    .line (says_line (by decide) (shows_boolText _)) <|
    .line (says_line (by decide) (shows_boolText _)) <|
    written_of_says (says_line (by decide) (shows_stringText _))

theorem nodup_tomlMembers (s : ExtractionSettings) : (s.tomlMembers.map (·.1)).Nodup :=
  (by decide : members.Nodup)

/-- The settings are read back from their members. -/
theorem ofTomlTree?_tomlMembers {s : ExtractionSettings} {text : String}
    (h : s.toToml? = some text) (origin : TableOrigin) :
    ofTomlTree? (Toml.table origin s.tomlMembers).toJson = some s := by
  obtain ⟨length, hlength, h⟩ := Option.bind_eq_some_iff.1 h
  obtain ⟨items, hitems, _⟩ := Option.bind_eq_some_iff.1 h
  have hfields : Toml.fields? members (Toml.table origin s.tomlMembers).toJson =
      some [some (Toml.integer s.maxDocumentLength).toJson,
        some (Toml.integer s.maxListItems).toJson, some (.bool s.matchSiblingTag),
        some (.bool s.trimValues), some (.string s.missingField.keyword)] :=
    Json.fields?_of_nodup (nodup_tomlMembers s)
  have hmissing : missingFieldOfJson? Toml.isUnit (.string s.missingField.keyword) =
      some s.missingField :=
    s.missingField.ofKeyword?_keyword
  rw [ofTomlTree?, hfields, Option.bind_some, ofFields?]
  simp only [setting?, Toml.asWord?_toJson_integer hlength, Toml.asWord?_toJson_integer hitems,
    hmissing, Json.asBool?]
  rfl

/-- **Settings that can be written are read back from their text.** -/
theorem ofToml?_toToml? {s : ExtractionSettings} {text : String} (h : s.toToml? = some text) :
    ofToml? text = some s := by
  have hwritten : Written text (Toml.statements s.tomlMembers []) := by
    rw [Toml.statements, List.flatMap_nil, List.append_nil]
    exact written_of_toToml? h
  have hmembers : Toml.documentMembers s.tomlMembers [] = s.tomlMembers := List.append_nil _
  have htree := Toml.ofString?_of_written hwritten
    (by rw [hmembers]; exact nodup_tomlMembers s) (List.forall_mem_nil _)
  rw [ofToml?, htree, hmembers]
  exact ofTomlTree?_tomlMembers h .header

end ExtractionSettings

end Stencil
