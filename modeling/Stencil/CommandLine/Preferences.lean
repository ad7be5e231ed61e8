import Stencil.Extraction.SettingsFile
import Stencil.Report.Format

/-!
# Preferences

What a user sets once for all runs of the program: where blueprints are kept, how results are shown
and how documents are extracted. Preferences are kept in a TOML file; one that is missing stands for
the defaults.
-/

namespace Stencil

/-- How output looks. -/
structure DisplaySettings where
  color : Bool := true
  format : OutputFormat := .table
  deriving DecidableEq, Repr, Inhabited

namespace DisplaySettings

/-- The names of the settings in files. -/
def members : List String := ["color", "format"]

/-- Reads settings from the values of their fields. -/
def ofFields? (isUnit : Json → Bool) : List (Option Json) → Option DisplaySettings
  | [color, format] => do
    return {
      color := ← ExtractionSettings.setting? true Json.asBool? color
      format := ← ExtractionSettings.setting? .table (OutputFormat.ofJson? isUnit) format }
  | _ => none

/-- Reads settings; those not given have their default values. -/
def ofJson? (j : Json) : Option DisplaySettings :=
  (Json.fields? members j).bind (ofFields? Json.isNull)

/-- Reads settings from the tree of a TOML table. -/
def ofTomlTree? (j : Json) : Option DisplaySettings :=
  (Toml.fields? members j).bind (ofFields? Toml.isUnit)

/-- The settings as TOML lines. -/
def toToml (d : DisplaySettings) : String :=
  Toml.line "color" (Toml.boolText d.color) ++
    Toml.line "format" (Toml.stringText d.format.keyword)

end DisplaySettings

/-- The preferences of a user. -/
structure Preferences where
  /-- The directory of the blueprints, if it is not the one in the home directory. -/
  storeDirectory : Option String := none
  display : DisplaySettings := {}
  extraction : ExtractionSettings := {}
  deriving DecidableEq, Repr, Inhabited

/-- Why preferences cannot be used. -/
inductive PreferencesError where
  /-- Their text is not TOML, or a value is not of its type. -/
  | malformed
  /-- A limit is zero. -/
  | invalid (fault : ZeroLimit)
  deriving DecidableEq, Repr

/-- The text shown for an error. -/
def PreferencesError.message : PreferencesError → String
  | malformed => "TOML parsing error"
  | invalid fault => "Configuration error: " ++ fault.reason

namespace Preferences

/-- The names of the parts of a file. -/
def members : List String := ["store_dir", "settings", "extraction"]

/-- The preferences as the text of a file, if they can be written. -/
def toToml? (p : Preferences) : Option String := do
  let extraction ← p.extraction.toToml?
  let store := match p.storeDirectory with
    | some directory => Toml.line "store_dir" (Toml.stringText directory) ++ "\n"
    | none => ""
  return store ++ Toml.headerLine "settings" ++ p.display.toToml ++ "\n" ++
    Toml.headerLine "extraction" ++ extraction

/-- Reads preferences from the tree of a TOML document. -/
def ofTomlTree? (j : Json) : Option Preferences :=
  match Toml.fields? members j with
  | some [store, display, extraction] => do
    return {
      storeDirectory := ← ExtractionSettings.setting? none (fun j => (Json.asString? j).map some) store
      display := ← ExtractionSettings.setting? {} DisplaySettings.ofTomlTree? display
      extraction := ← ExtractionSettings.setting? {} ExtractionSettings.ofTomlTree? extraction }
  | _ => none

/-- Reads preferences from the text of a file. Their limits must not be zero. -/
def ofToml (text : String) : Except PreferencesError Preferences :=
  match (Toml.ofString? text).bind fun t => ofTomlTree? t.toJson with
  | none => .error .malformed
  | some p =>
    match p.extraction.fault? with
    | some fault => .error (.invalid fault)
    | none => .ok p

/-- The preferences of a file that may be missing. -/
def ofFile : Option String → Except PreferencesError Preferences
  | none => .ok {}
  | some text => ofToml text

end Preferences

end Stencil
