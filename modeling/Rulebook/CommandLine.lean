import Rulebook.Context.Stored
import Rulebook.Log.Filter
import Rulebook.Settings.Basic
import Rulebook.Store

/-!
The command line: loads the rules of the settings, reads a context from a file or from standard
input, and reports on every rule in the order of the names.
-/

namespace Rulebook.CommandLine

def service : String := "rule-engine"

structure Invocation where
  arguments : List String
  environment : Variables.Environment
  /-- The text of the file at a path, if it can be read. -/
  fileText? : String → Option String
  standardInput : String

inductive Failure where
  | unreadableFile (path : String)
  /-- The context is no object of plain values. -/
  | malformedContext
  | rule (error : RuleError)
  deriving DecidableEq, Repr

def Failure.message : Failure → String
  | unreadableFile path => "Failed to read context file " ++ path
  | malformedContext => "Context must be a flat JSON object of primitives"
  | rule error => error.message

structure Outcome where
  /-- Whether the settings could not be loaded, so that the built-in ones were used. -/
  settingsError : Option SettingsError
  /-- Whether the log is written as JSON. -/
  jsonLogs : Bool
  /-- The entries that the filter lets through. -/
  log : List Log.Entry
  /-- The reports on the rules, or why there are none. -/
  result : Except Failure (List Report)

def joinPath (directory file : String) : String :=
  if directory.isEmpty ∨ directory.endsWith "/" then directory ++ file
  else directory ++ "/" ++ file

def settingsDirectory (environment : Variables.Environment) : String :=
  (environment.lookup "CONFIG_DIR").getD "config"

def loadSettings (invocation : Invocation) : Except SettingsError Settings :=
  let directory := settingsDirectory invocation.environment
  Settings.load service (fun file => invocation.fileText? (joinPath directory file))
    invocation.environment

def contextText (invocation : Invocation) : Except Failure String :=
  match invocation.arguments with
  | [] => .ok invocation.standardInput
  | path :: _ =>
    match invocation.fileText? path with
    | some text => .ok text
    | none => .error (.unreadableFile path)

def readContext (text : String) : Except Failure Context :=
  if Text.isBlankText text then .ok .empty
  else
    match Context.readJson text with
    | .ok context => .ok context
    | .error _ => .error .malformedContext

def startEntry (settings : LoggingSettings) : Log.Entry :=
  ⟨.info, "Observability initialized",
    [("service", settings.serviceName), ("log_level", settings.logLevel),
      ("json_logs", toString settings.jsonLogs)]⟩

def loadedEntries (configured loaded : Nat) : List Log.Entry :=
  let missing : List Log.Entry :=
    if loaded < configured then
      [⟨.warn, "Some rules failed to load",
        [("configured", toString configured), ("loaded", toString loaded)]⟩]
    else []
  missing ++ [⟨.info, s!"Loaded {loaded} rules", []⟩]

def loadRules (settings : Settings) : Store.Outcome (List String) :=
  Store.empty.loadBatch settings.definitions.toList

def comparisonMode (settings : Settings) : ComparisonMode :=
  if settings.strictComparison then .strict else .loose

def reports (store : Store) (context : Context) (mode : ComparisonMode) :
    Except RuleError (List Report) :=
  store.names.mapM fun name => store.evaluate name context ⟨false, mode⟩

def result (invocation : Invocation) (store : Store) (mode : ComparisonMode) :
    Except Failure (List Report) := do
  let context ← readContext (← contextText invocation)
  (reports store context mode).mapError .rule

def runWith (settings : Settings) (invocation : Invocation) :
    List Log.Entry × Except Failure (List Report) :=
  let loaded := loadRules settings
  let log := startEntry (settings.logging.withServiceName service) ::
    (loaded.log ++ loadedEntries settings.definitions.size loaded.result.length)
  (log, result invocation loaded.store (comparisonMode settings))

/-- Runs the program. Settings that cannot be loaded are as good as none. -/
def run (invocation : Invocation) : Outcome :=
  let (settingsError, settings) := match loadSettings invocation with
    | .ok settings => (none, settings)
    | .error error => (some error, {})
  let (log, result) := runWith settings invocation
  let filter := Log.Filter.choose (invocation.environment.lookup LoggingSettings.levelVariable)
    settings.logging.logLevel
  { settingsError, jsonLogs := settings.logging.jsonLogs, log := log.filter filter.allows, result }

namespace Outcome

def exitCode (outcome : Outcome) : Nat :=
  match outcome.result with
  | .ok _ => 0
  | .error _ => 1

def output? (outcome : Outcome) : Option String :=
  match outcome.result with
  | .ok reports => some (Json.list (reports.map (·.toJson 0))).pretty
  | .error _ => none

end Outcome

end Rulebook.CommandLine
