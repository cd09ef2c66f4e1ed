import AstGrammar.Codec.DecodeError
import AstGrammar.Rendering
import AstGrammar.Settings.Setting

/-!
# Settings

What a configuration decides: where the hints for attribute orders are, how
strict they are taken, and which optional parts a rendering has.

In a configuration a section is a table of settings or the list of their values
in order. What is missing keeps its standard value. Unknown names are passed
over, but numbers under them must have a value. Whether a list may have more
values than settings depends on the format. The first fault decides, with its
place.
-/

namespace AstGrammar

/-- Settings for loading. -/
structure SourceSettings where
  attributeOrder : Option String
  strictOrder : Bool
  deriving DecidableEq

/-- All settings. -/
structure Settings where
  source : SourceSettings
  render : RenderOptions
  deriving DecidableEq

namespace Settings

def standard : Settings := ⟨⟨none, false⟩, .standard⟩

def withAttributeOrder (settings : Settings) (path : String) : Settings :=
  { settings with source := { settings.source with attributeOrder := some path } }

end Settings

/-- Why a configuration cannot be read. -/
inductive SettingFault where
  | unfit (error : Codec.DecodeError)
  | badNumber
  deriving DecidableEq

def SettingFault.message : SettingFault → String
  | .unfit error => error.message
  | .badNumber => "number without a value"

/-- A fault of a configuration, and the place of the value if known. -/
structure SettingError where
  fault : SettingFault
  place : Option Text.Span
  deriving DecidableEq

namespace Settings

open Codec

abbrev Read (α : Type) : Type := Except SettingError α

/-- Refuses a value of the wrong type. A number without a value has no type. -/
def refuse {α : Type} (found : Setting) (expected : Expected) : Read α :=
  match found with
  | .scalar place .badNumber => .error ⟨.badNumber, place⟩
  | _ => .error ⟨.unfit (.wrongType found.description expected), found.place⟩

/-- Passes over a value in which all numbers have a value. -/
def ignore (setting : Setting) : Read Unit :=
  match setting.badNumber? with
  | some place => .error ⟨.badNumber, place⟩
  | none => .ok ()

def readBoolean : Setting → Read Bool
  | .scalar _ (.boolean value) => .ok value
  | other => refuse other .boolean

def readPath : Setting → Read (Option String)
  | .scalar _ (.text path) => .ok (some path)
  | .scalar _ .null => .ok none
  | other => refuse other .path

/-- How to read a section: its name in messages, and for each field its name
and what its value changes. -/
structure Schema (α : Type) where
  record : String
  fields : List (String × (Setting → α → Read α))

def readEntries {α : Type} (schema : Schema α) (value : α) :
    List (String × Setting) → Read α
  | [] => .ok value
  | (name, setting) :: rest =>
      match schema.fields.lookup name with
      | none => do
          ignore setting
          readEntries schema value rest
      | some change => do readEntries schema (← change setting value) rest

/-- Reads the items of a list into the fields of a section. `excess` is the
error when there are more items than fields, if that is one. -/
def readItems {α : Type} (excess : Option SettingError) (value : α) :
    List (String × (Setting → α → Read α)) → List Setting → Read α
  | _, [] => .ok value
  | [], _ :: _ =>
      match excess with
      | some error => .error error
      | none => .ok value
  | (_, change) :: fields, item :: rest => do
      readItems excess (← change item value) fields rest

/-- Reads a section, where `standard` holds what is not configured. `isExact`
refuses lists with more values than the section has settings. -/
def readSection {α : Type} (isExact : Bool) (schema : Schema α) (standard : α) :
    Setting → Read α
  | .table _ entries => readEntries schema standard entries
  | .list place items =>
      readItems (if isExact then some ⟨.unfit (.excessElements items.length), place⟩ else none)
        standard schema.fields items
  | other => refuse other (.record schema.record)

def sourceSchema : Schema SourceSettings where
  record := "SourceConfig"
  fields := [
    ("attribute_order", fun setting settings => do
      return { settings with attributeOrder := ← readPath setting }),
    ("strict_order", fun setting settings => do
      return { settings with strictOrder := ← readBoolean setting })]

def renderSchema : Schema RenderOptions where
  record := "RenderConfig"
  fields := [
    ("children_fallback", fun setting options => do
      return { options with childrenFallback := ← readBoolean setting }),
    ("trailing_blank_line", fun setting options => do
      return { options with trailingBlankLine := ← readBoolean setting })]

def schema (isExact : Bool) : Schema Settings where
  record := "AppConfig"
  fields := [
    ("source", fun setting settings => do
      return { settings with
        source := ← readSection isExact sourceSchema standard.source setting }),
    ("render", fun setting settings => do
      return { settings with
        render := ← readSection isExact renderSchema standard.render setting })]

/-- Reads a configuration. `isExact` refuses lists that are too long. -/
def ofSetting (isExact : Bool) (setting : Setting) : Read Settings :=
  readSection isExact (schema isExact) standard setting

/-- Reads a configuration from JSON, where lists must not be too long. -/
def ofJson (json : Json) : Read Settings := ofSetting true (.ofJson json)

end Settings

end AstGrammar
