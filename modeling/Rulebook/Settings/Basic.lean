import Std.Data.TreeMap
import Rulebook.Number.Layout
import Rulebook.Settings.Logging
import Rulebook.Text.Parts
import Rulebook.Toml.Reader

/-!
The settings of the program and the layers that they come from: built-in values, three files and the
environment, each laid over the ones before.
-/

namespace Rulebook

inductive SettingsError where
  /-- A file is not TOML. -/
  | malformedFile
  /-- A setting cannot be converted to the kind that is asked for. -/
  | wrongKind
  /-- A setting stands where a table is due. -/
  | noTable
  deriving DecidableEq, Repr

namespace Setting

def toText : Setting → Except SettingsError String
  | boolean value => .ok (toString value)
  | integer value => .ok (toString value)
  | decimal value => .ok value.settingText
  | text value => .ok value
  | unset | list _ | table _ => .error .wrongKind

def toBoolean : Setting → Except SettingsError Bool
  | boolean value => .ok value
  | integer value => .ok (value != 0)
  | decimal value => .ok !value.isZero
  | text value =>
    let word := String.ofList (Variables.lowercase value.toList)
    if ["1", "true", "on", "yes"].contains word then .ok true
    else if ["0", "false", "off", "no"].contains word then .ok false
    else .error .wrongKind
  | unset | list _ | table _ => .error .wrongKind

/-- The settings of a section by name. A list gives them in order. -/
def toSection (names : List String) : Setting → Except SettingsError (List (String × Setting))
  | table entries => .ok entries
  | list items => .ok (names.zip items)
  | _ => .error .noTable

def toTable : Setting → Except SettingsError (List (String × Setting))
  | table entries => .ok entries
  | _ => .error .noTable

def get {α : Type} (convert : Setting → Except SettingsError α)
    (entries : List (String × Setting)) (name : String) (usual : α) : Except SettingsError α :=
  match find? name entries with
  | some setting => convert setting
  | none => .ok usual

end Setting

structure Settings where
  serviceName : String := ""
  environment : String := ""
  logging : LoggingSettings := {}
  strictComparison : Bool := false
  definitions : Std.TreeMap String String := ∅

namespace Settings

def isProduction (settings : Settings) : Bool := settings.environment == "production"

def readLogging (setting : Setting) : Except SettingsError LoggingSettings := do
  let usual : LoggingSettings := {}
  let entries ← setting.toSection ["service_name", "log_level", "json_logs"]
  .ok {
    serviceName := ← Setting.get Setting.toText entries "service_name" usual.serviceName
    logLevel := ← Setting.get Setting.toText entries "log_level" usual.logLevel
    jsonLogs := ← Setting.get Setting.toBoolean entries "json_logs" usual.jsonLogs }

def readRules (setting : Setting) : Except SettingsError (Bool × Std.TreeMap String String) := do
  let entries ← setting.toSection ["strict_comparison", "definitions"]
  let strict ← Setting.get Setting.toBoolean entries "strict_comparison" false
  let table ← Setting.get Setting.toTable entries "definitions" []
  let definitions ← table.mapM fun (name, text) => do .ok (name, ← text.toText)
  .ok (strict, .ofList definitions)

/-- Converts merged settings. Settings that are not asked for do not matter. -/
def ofEntries (entries : List (String × Setting)) : Except SettingsError Settings := do
  let serviceName ← Setting.get Setting.toText entries "service_name" ""
  let environment ← Setting.get Setting.toText entries "environment" ""
  let logging ← Setting.get readLogging entries "observability" {}
  let (strictComparison, definitions) ← Setting.get readRules entries "rules" (false, ∅)
  .ok { serviceName, environment, logging, strictComparison, definitions }

def nameService (settings : Settings) : Settings :=
  let name := settings.logging.serviceName
  if name.isEmpty ∨ name = ({} : LoggingSettings).serviceName then
    { settings with logging := settings.logging.withServiceName settings.serviceName }
  else settings

def environmentName (environment : Variables.Environment) : String :=
  (environment.lookup "PHOTOBOOTH_ENV").getD "development"

def builtIn (service : String) (environment : Variables.Environment) : Layer :=
  [("service_name", .text service), ("environment", .text (environmentName environment))]

/-- The layer of a file. A file that does not exist, or would have no name before its ending, says
nothing. A byte order mark in front belongs to the file and not to its text, which may have one
more. -/
def fileLayer (fileText? : String → Option String) (stem : String) : Except SettingsError Layer :=
  match if stem.isEmpty then none else fileText? (stem ++ ".toml") with
  | none => .ok []
  | some source =>
    match Toml.read? (String.ofList (Text.dropOrderMark source.toList)) with
    | some layer => .ok layer
    | none => .error .malformedFile

/-- All layers from the lowest to the highest: built-in values, the common file, the file of the
environment, the file of the service, and the variables. -/
def layers (service : String) (fileText? : String → Option String)
    (environment : Variables.Environment) : Except SettingsError (List Layer) := do
  let common ← fileLayer fileText? "default"
  let specific ← fileLayer fileText? (environmentName environment)
  let own ← fileLayer fileText? service
  .ok [builtIn service environment, common, specific, own, Variables.layer environment]

def merge (layers : List Layer) : Setting :=
  layers.foldl (fun lower layer => layer.overlay lower) (.table [])

def load (service : String) (fileText? : String → Option String)
    (environment : Variables.Environment) : Except SettingsError Settings := do
  let settings ← ofEntries (merge (← layers service fileText? environment)).entries
  .ok settings.nameService

end Settings

end Rulebook
