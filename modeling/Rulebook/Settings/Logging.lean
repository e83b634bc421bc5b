import Rulebook.Json.Reader
import Rulebook.Settings.Variables

/-!
Settings of the log.
-/

namespace Rulebook

structure LoggingSettings where
  serviceName : String := "unknown-service"
  logLevel : String := "info"
  jsonLogs : Bool := false
  deriving DecidableEq, Repr

namespace LoggingSettings

open Json (Fault Parsed)

def withServiceName (settings : LoggingSettings) (name : String) : LoggingSettings :=
  { settings with serviceName := name }

def levelVariable : String := "RUST_LOG"

def ofEnvironment (name : String) (environment : Variables.Environment) : LoggingSettings where
  serviceName := name
  logLevel := (environment.lookup levelVariable).getD "info"
  jsonLogs := (environment.lookup "JSON_LOGS").any fun value => value = "true" ∨ value = "1"

structure Outline where
  serviceName : Option String := none
  logLevel : Option String := none
  jsonLogs : Option Bool := none

namespace Outline

def settings (outline : Outline) : LoggingSettings :=
  let usual : LoggingSettings := {}
  { serviceName := outline.serviceName.getD usual.serviceName
    logLevel := outline.logLevel.getD usual.logLevel
    jsonLogs := outline.jsonLogs.getD usual.jsonLogs }

def readMember (outline : Outline) (name : String) (text : List Char) :
    Except Fault (Parsed Outline) := do
  let once (given : Bool) : Except Fault (List Char) :=
    if given then .error .mismatched else Json.readColon text
  if name = "service_name" then
    let (value, text) ← Json.readString (← once outline.serviceName.isSome)
    .ok ({ outline with serviceName := some value }, text)
  else if name = "log_level" then
    let (value, text) ← Json.readString (← once outline.logLevel.isSome)
    .ok ({ outline with logLevel := some value }, text)
  else if name = "json_logs" then
    let (value, text) ← Json.readBoolean (← once outline.jsonLogs.isSome)
    .ok ({ outline with jsonLogs := some value }, text)
  else
    let text ← Json.readColon text
    let ((), text) ← Json.skipValue text.length text
    .ok (outline, text)

def readItems (text : List Char) : Except Fault (Parsed Outline) := do
  let some text ← Json.nextItem? true text | .ok ({}, text)
  let (serviceName, text) ← Json.readString text
  let outline : Outline := { serviceName := some serviceName }
  let some text ← Json.nextItem? false text | .ok (outline, text)
  let (logLevel, text) ← Json.readString text
  let outline := { outline with logLevel := some logLevel }
  let some text ← Json.nextItem? false text | .ok (outline, text)
  let (jsonLogs, text) ← Json.readBoolean text
  .ok ({ outline with jsonLogs := some jsonLogs }, text)

end Outline

/-- Reads the settings from the beginning of a text: an object, or a list in the order of the
fields. -/
def readWrapped (text : List Char) : Except Fault (Parsed LoggingSettings) :=
  match Json.skipBlanks text with
  | '\x7b' :: rest => do
    let (outline, rest) ←
      Json.foldMembers Json.readText Outline.readMember (rest.length + 1) true {} rest
    .ok (outline.settings, rest)
  | '[' :: rest => do
    let (outline, rest) ← Outline.readItems rest
    .ok (outline.settings, ← Json.endItems rest)
  | text => .error (Json.refusal text)

def readJson (source : String) : Except Fault LoggingSettings := Json.readAll readWrapped source

end LoggingSettings

end Rulebook
