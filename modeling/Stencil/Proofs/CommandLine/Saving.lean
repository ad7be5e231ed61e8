import Stencil.CommandLine.Run
import Stencil.Proofs.Extraction.SettingsFile
import Stencil.Proofs.FileSystem.Files

/-!
# Saved preferences load back

Preferences are written as a document of one assignment, if there is a store directory, and of two
tables. It is read back as the same preferences (`ofToml_of_toToml?`), which are refused only for a
limit that is zero. A file that can be written at a path is what is read at the path afterwards
(`readAt_of_writeAt`), so that what holds of the text holds of saving and loading.
-/

namespace Stencil

open Toml (Members Written assignments says_headerLine says_line shows_boolText shows_stringText)

theorem OutputFormat.ofKeyword?_keyword (f : OutputFormat) : ofKeyword? f.keyword = some f := by
  cases f <;> rfl

namespace DisplaySettings

/-- The settings as members of a table. -/
def tomlMembers (d : DisplaySettings) : Members :=
  [("color", .boolean d.color), ("format", .string d.format.keyword)]

theorem written_toToml (d : DisplaySettings) : Written d.toToml (assignments d.tomlMembers) :=
  .line (says_line (by decide) (shows_boolText _)) <|
    Toml.written_of_says (says_line (by decide) (shows_stringText _))

/-- The settings are read back from their members. -/
theorem ofTomlTree?_tomlMembers (d : DisplaySettings) (origin : TableOrigin) :
    ofTomlTree? (Toml.table origin d.tomlMembers).toJson = some d := by
  have hfields : Toml.fields? members (Toml.table origin d.tomlMembers).toJson =
      some [some (.bool d.color), some (.string d.format.keyword)] :=
    Json.fields?_of_nodup (by decide : members.Nodup)
  have hformat : OutputFormat.ofJson? Toml.isUnit (.string d.format.keyword) = some d.format :=
    d.format.ofKeyword?_keyword
  rw [ofTomlTree?, hfields, Option.bind_some, ofFields?]
  simp only [ExtractionSettings.setting?, hformat, Json.asBool?]
  rfl

end DisplaySettings

namespace Preferences

/-- The assignments before the tables. -/
def tomlTop (p : Preferences) : Members :=
  match p.storeDirectory with
  | some directory => [("store_dir", .string directory)]
  | none => []

/-- The tables. -/
def tomlTables (p : Preferences) : List (String × Members) :=
  [("settings", p.display.tomlMembers), ("extraction", p.extraction.tomlMembers)]

/-- The lines of preferences say their assignments and tables. -/
theorem written_of_toToml? {p : Preferences} {text : String} (h : p.toToml? = some text) :
    Written text (Toml.statements p.tomlTop p.tomlTables) := by
  obtain ⟨extraction, hextraction, h⟩ := Option.bind_eq_some_iff.1 h
  have htables : Written (Toml.headerLine "settings" ++ (p.display.toToml ++ ("\n" ++
      (Toml.headerLine "extraction" ++ extraction))))
      (p.tomlTables.flatMap fun t => .header [t.1] :: assignments t.2) := by
    have hsecond : Written (Toml.headerLine "extraction" ++ extraction)
        (.header ["extraction"] :: assignments p.extraction.tomlMembers) :=
      .line (says_headerLine (by decide)) (ExtractionSettings.written_of_toToml? hextraction)
    exact .line (says_headerLine (by decide)) (p.display.written_toToml.append (.blank hsecond))
  obtain ⟨store, display, settings⟩ := p
  cases h
  cases store with
  | none =>
    simp only [String.append_assoc, String.empty_append]
    exact htables
  | some directory =>
    simp only [String.append_assoc]
    exact .line (says_line (by decide) (shows_stringText _)) (.blank htables)

/-- The parts of a file are found under their names. -/
theorem fields?_documentMembers (p : Preferences) (origin : TableOrigin) :
    Toml.fields? members (Toml.table origin (Toml.documentMembers p.tomlTop p.tomlTables)).toJson =
      some [p.storeDirectory.map .string, some (Toml.table .header p.display.tomlMembers).toJson,
        some (Toml.table .header p.extraction.tomlMembers).toJson] := by
  obtain ⟨store, display, extraction⟩ := p
  cases store with
  | some directory => exact Json.fields?_of_nodup (by decide : members.Nodup)
  | none =>
    have htables : Json.fields? ["settings", "extraction"]
        (.object [("settings", (Toml.table .header display.tomlMembers).toJson),
          ("extraction", (Toml.table .header extraction.tomlMembers).toJson)]) =
        some [some (Toml.table .header display.tomlMembers).toJson,
          some (Toml.table .header extraction.tomlMembers).toJson] :=
      Json.fields?_of_nodup (by decide : ["settings", "extraction"].Nodup)
    change Json.fields? members (.object [("settings", _), ("extraction", _)]) = _
    rw [Json.fields?] at htables ⊢
    rw [members, List.mapM_cons,
      Json.member?_of_notMem (by decide : "store_dir" ∉ ["settings", "extraction"]), htables]
    rfl

/-- The text of preferences is read back as they are, and refused if a limit is zero. -/
theorem ofToml_of_toToml? {p : Preferences} {text : String} (h : p.toToml? = some text) :
    ofToml text =
      match p.extraction.fault? with
      | none => .ok p
      | some fault => .error (.invalid fault) := by
  obtain ⟨extraction, hextraction, _⟩ := Option.bind_eq_some_iff.1 h
  have hkeys : ((Toml.documentMembers p.tomlTop p.tomlTables).map (·.1)).Nodup := by
    obtain ⟨store, display, extraction⟩ := p
    cases store with
    | some directory => exact (by decide : members.Nodup)
    | none => exact (by decide : ["settings", "extraction"].Nodup)
  have htables : ∀ t ∈ p.tomlTables, (t.2.map (·.1)).Nodup := by
    simp only [tomlTables, List.forall_mem_cons]
    exact ⟨(by decide : DisplaySettings.members.Nodup), p.extraction.nodup_tomlMembers, nofun⟩
  have htree := Toml.ofString?_of_written (written_of_toToml? h) hkeys htables
  have hread :
      ofTomlTree? (Toml.table .header (Toml.documentMembers p.tomlTop p.tomlTables)).toJson =
        some p := by
    rw [ofTomlTree?, fields?_documentMembers]
    obtain ⟨store, display, settings⟩ := p
    simp only [ExtractionSettings.setting?, display.ofTomlTree?_tomlMembers,
      ExtractionSettings.ofTomlTree?_tomlMembers hextraction]
    cases store <;> rfl
  rw [ofToml, htree, Option.bind_some, hread]
  dsimp only
  cases p.extraction.fault? <;> rfl

theorem toToml?_eq_none_iff {p : Preferences} :
    p.toToml? = none ↔ Nat.pow 2 63 - 1 < p.extraction.maxDocumentLength ∨
      Nat.pow 2 63 - 1 < p.extraction.maxListItems := by
  have hlt (n : Nat) : Nat.pow 2 63 - 1 < n ↔ Nat.pow 2 63 ≤ n :=
    ⟨fun h => Nat.le_of_pred_lt h, fun h => Nat.lt_of_lt_of_le (by decide) h⟩
  rw [hlt, hlt, ← ExtractionSettings.toToml?_eq_none_iff, toToml?]
  cases p.extraction.toToml? with
  | none => exact ⟨fun _ => rfl, fun _ => rfl⟩
  | some extraction => exact ⟨nofun, nofun⟩

end Preferences

theorem ExtractionSettings.fault?_eq_none_iff {s : ExtractionSettings} :
    s.fault? = none ↔ 0 < s.maxDocumentLength ∧ 0 < s.maxListItems := by
  rw [fault?, Nat.pos_iff_ne_zero, Nat.pos_iff_ne_zero]
  split
  · next h => exact ⟨nofun, fun hne => absurd h hne.1⟩
  · next hlength =>
    split
    · next h => exact ⟨nofun, fun hne => absurd h hne.2⟩
    · next hitems => exact ⟨fun _ => ⟨hlength, hitems⟩, fun _ => rfl⟩

/-- Whether a file of any text can be saved at a path: the directories above it can be made, and
then it can be written. -/
structure FileSystem.CanSaveAt (disk : FileSystem) (path : String) : Prop where
  made : (makeDirectories (Way.ofText path).parent disk).1 = .ok ()
  written : ∀ text, (writeAt path text (makeDirectories (Way.ofText path).parent disk).2).1 = .ok ()

namespace CommandLine

variable {disk : FileSystem} {path : String}

/-- Where a file can be saved, preferences are saved if they have a text, and it is what is read
there afterwards. -/
theorem savePreferences_of_canSaveAt (h : disk.CanSaveAt path) (p : Preferences) :
    (p.toToml? = none → (savePreferences p path disk).1 = .error .unwritable) ∧
      ∀ text, p.toToml? = some text → (savePreferences p path disk).1 = .ok () ∧
        (savePreferences p path disk).2.readAt path = .ok text := by
  obtain ⟨hmade, hwritten⟩ := h
  rw [savePreferences]
  cases hmake : FileSystem.makeDirectories (Way.ofText path).parent disk with
  | mk result made =>
    rw [hmake] at hmade hwritten
    obtain rfl : result = .ok () := hmade
    dsimp only at hwritten ⊢
    cases htext : p.toToml? with
    | none => exact ⟨fun _ => rfl, nofun⟩
    | some text =>
      refine ⟨nofun, ?_⟩
      rintro _ ⟨⟩
      have hread := FileSystem.readAt_of_writeAt (hwritten text)
      have hok := hwritten text
      cases hwrite : FileSystem.writeAt path text made with
      | mk result saved =>
        rw [hwrite] at hok hread
        obtain rfl : result = .ok () := hok
        dsimp only
        rw [hwrite]
        exact ⟨rfl, hread⟩

/-- **Saved preferences load back.** Where a file can be saved, saving preferences fails exactly for
a limit above 2^63 - 1, since whole numbers of a file end there. Otherwise the same preferences are
loaded from the file if both limits are positive, and the first limit that is zero is complained
about if there is one. -/
theorem saved_preferences_load_back (h : disk.CanSaveAt path) (p : Preferences) :
    ((savePreferences p path disk).1 = .error .unwritable ↔
        Nat.pow 2 63 - 1 < p.extraction.maxDocumentLength ∨
          Nat.pow 2 63 - 1 < p.extraction.maxListItems) ∧
      (¬ (Nat.pow 2 63 - 1 < p.extraction.maxDocumentLength ∨
          Nat.pow 2 63 - 1 < p.extraction.maxListItems) →
        (savePreferences p path disk).1 = .ok () ∧
          (0 < p.extraction.maxDocumentLength ∧ 0 < p.extraction.maxListItems →
            loadPreferences (savePreferences p path disk).2 path = .ok p) ∧
          (p.extraction.maxDocumentLength = 0 ∨ p.extraction.maxListItems = 0 →
            ∃ fault, p.extraction.fault? = some fault ∧
              loadPreferences (savePreferences p path disk).2 path =
                .error (.preferences (.invalid fault)))) := by
  obtain ⟨hnone, hsome⟩ := savePreferences_of_canSaveAt h p
  rw [← Preferences.toToml?_eq_none_iff]
  cases htext : p.toToml? with
  | none => exact ⟨⟨fun _ => rfl, fun _ => hnone htext⟩, fun hne => absurd rfl hne⟩
  | some text =>
    obtain ⟨hsaved, hread⟩ := hsome text htext
    have hload : loadPreferences (savePreferences p path disk).2 path =
        match p.extraction.fault? with
        | none => .ok p
        | some fault => .error (.preferences (.invalid fault)) := by
      rw [loadPreferences, hread]
      dsimp only
      rw [Preferences.ofToml_of_toToml? htext]
      cases p.extraction.fault? <;> rfl
    refine ⟨⟨fun herror => ?_, nofun⟩, fun _ => ⟨hsaved, fun hpos => ?_, fun hzero => ?_⟩⟩
    · rw [hsaved] at herror
      cases herror
    · rw [hload, ExtractionSettings.fault?_eq_none_iff.2 hpos]
    · cases hfault : p.extraction.fault? with
      | none =>
        obtain ⟨hlength, hitems⟩ := ExtractionSettings.fault?_eq_none_iff.1 hfault
        omega
      | some fault => exact ⟨fault, rfl, by rw [hload, hfault]⟩

/-- A store directory with quotes of both kinds, a backslash and a line break. -/
theorem saved_preferences_load_back_quoted :
    let disk : FileSystem := {}
    let p : Preferences := { storeDirectory := some "\"a\" \\ '''b'''\n" }
    disk.CanSaveAt "d/f" ∧ (savePreferences p "d/f" disk).1 = .ok () ∧
      loadPreferences (savePreferences p "d/f" disk).2 "d/f" = .ok p := by
  intro disk p
  have hway : Way.ofText "d/f" = ["d", "f"] := by decide
  have hsave : disk.CanSaveAt "d/f" := by
    constructor
    · rw [hway]
      decide
    · intro text
      rw [FileSystem.writeAt, hway]
      rfl
  obtain ⟨_, hload⟩ := saved_preferences_load_back hsave p
  obtain ⟨hsaved, hpos, _⟩ := hload (by decide)
  exact ⟨hsave, hsaved, hpos (by decide)⟩

end CommandLine

end Stencil
