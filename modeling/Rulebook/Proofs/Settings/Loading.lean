import Rulebook.Proofs.Settings.Conversion
import Rulebook.Proofs.Settings.Variables
import Rulebook.Proofs.Toml.Distinct

/-!
Loading the settings of the program. Each one has the value of the highest source that sets it.
-/

namespace Rulebook.Settings

open Setting (Gives)

/-! ## The layers of the program -/

theorem distinct_builtIn (service : String) (environment : Variables.Environment) :
    ∀ entry ∈ builtIn service environment, entry.2.Distinct := by
  intro entry isEntry
  rcases List.mem_pair.mp isEntry with rfl | rfl
  all_goals exact Setting.distinct_of_entries_eq_nil rfl

theorem path_service_name : Layer.path "service_name" = [.name "service_name"] := by decide

theorem path_environment : Layer.path "environment" = [.name "environment"] := by decide

theorem fits_builtIn (service : String) (environment : Variables.Environment) :
    (builtIn service environment).Fits Declaration.settings := by
  intro entry isEntry
  rcases List.mem_pair.mp isEntry with rfl | rfl
  · exact ⟨.text, congrArg (Declaration.along? · _) path_service_name, rfl⟩
  · exact ⟨.text, congrArg (Declaration.along? · _) path_environment, rfl⟩

theorem at?_builtIn (service : String) (environment : Variables.Environment) (name : String)
    (names : List String) :
    (builtIn service environment).at? (name :: names) =
      if name = "service_name" then (Setting.text service).at? names
      else if name = "environment" then (Setting.text (environmentName environment)).at? names
      else none := by
  simp only [builtIn, Layer.at?, List.reverse_cons, List.reverse_nil, List.nil_append,
    List.cons_append, List.findSome?_cons, List.findSome?_nil, Layer.entryAt?, path_service_name,
    path_environment, Layer.remaining?, eq_comm (b := name)]
  by_cases isService : name = "service_name"
  · cases found : (Setting.text service).at? names <;> simp [isService, found]
  · by_cases isEnvironment : name = "environment"
    · cases found : (Setting.text (environmentName environment)).at? names <;>
        simp [isEnvironment, found]
    · simp [isService, isEnvironment]

theorem distinct_of_fileLayer {fileText? : String → Option String} {stem : String} {layer : Layer}
    (isLayer : fileLayer fileText? stem = .ok layer) : ∀ entry ∈ layer, entry.2.Distinct := by
  rw [fileLayer] at isLayer
  split at isLayer
  · cases isLayer
    nofun
  · split at isLayer
    · next source entries isRead =>
        cases isLayer
        rcases Setting.distinct_table_iff.mp (Toml.distinct_of_read? isRead) with ⟨nodup, each⟩
        intro entry isEntry
        exact each entry.1 entry.2 (Setting.find?_of_mem nodup isEntry)
    · contradiction

theorem entries_variable (value : String) : (Variables.setting value).entries = [] := by
  rw [Variables.setting]
  split
  · rfl
  · split
    · rfl
    · split
      · rfl
      · split <;> rfl

theorem distinct_variables (environment : Variables.Environment) :
    ∀ entry ∈ Variables.layer environment, entry.2.Distinct := by
  intro entry isEntry
  rcases List.mem_filterMap.mp isEntry with ⟨⟨name, value⟩, -, isKey⟩
  rcases Option.map_eq_some_iff.mp isKey with ⟨key, -, rfl⟩
  exact Setting.distinct_of_entries_eq_nil (entries_variable value)

/-! ## Loading -/

def highest? (sources : List Layer) (place : List String) : Option Setting :=
  sources.findSome? (Layer.at? place)

/-- Variables are above all files: the last one for a place decides. -/
theorem highest?_of_leadsTo {name : String} {place : List String}
    (leads : Variables.LeadsTo name place) (before : Variables.Environment) (value : String)
    {after : Variables.Environment} (last : (Variables.layer after).at? place = none)
    (others : List Layer) :
    highest? (Variables.layer (before ++ (name, value) :: after) :: others) place =
      some (Variables.setting value) := by
  rw [highest?, List.findSome?_cons, leads.at?_layer before value last]

/-- Each setting has the value of the highest source that sets it; where no source does, it has the
built-in value. The name in the log is that of the service, unless another one is set. -/
structure TakesHighest (sources : List Layer) (service environment : String)
    (settings : Settings) : Prop where
  serviceName : Gives (highest? sources ["service_name"]) Setting.toText service
    settings.serviceName
  environment : Gives (highest? sources ["environment"]) Setting.toText environment
    settings.environment
  logLevel : Gives (highest? sources ["observability", "log_level"]) Setting.toText "info"
    settings.logging.logLevel
  jsonLogs : Gives (highest? sources ["observability", "json_logs"]) Setting.toBoolean false
    settings.logging.jsonLogs
  strictComparison : Gives (highest? sources ["rules", "strict_comparison"]) Setting.toBoolean false
    settings.strictComparison
  definition : ∀ name, Gives (highest? sources ["rules", "definitions", name])
    (fun setting => some <$> setting.toText) none settings.definitions[name]?
  mem_definitions : ∀ name, name ∈ settings.definitions ↔
    ∃ source ∈ sources, (source.at? ["rules", "definitions", name]).isSome
  logName : ∃ layered,
    Gives (highest? sources ["observability", "service_name"]) Setting.toText "unknown-service"
      layered ∧
    settings.logging.serviceName =
      if layered = "" ∨ layered = "unknown-service" then settings.serviceName else layered

theorem gives_of_or {found : Option Setting} {lowest usual value : String}
    (gives : Gives (found.or (some (.text lowest))) Setting.toText usual value) :
    Gives found Setting.toText lowest value := by
  cases found with
  | none => exact (Except.ok.inj gives).symm
  | some setting => exact gives

theorem isSome_iff_of_gives {found : Option Setting} {value : Option String}
    (gives : Gives found (fun setting => some <$> setting.toText) none value) :
    value.isSome ↔ found.isSome := by
  cases found with
  | none =>
      have isNone : value = none := gives
      rw [isNone]
      rfl
  | some setting =>
      rw [Gives] at gives
      cases isText : setting.toText with
      | error =>
          rw [isText] at gives
          contradiction
      | ok text =>
          rw [isText] at gives
          cases gives
          rfl

theorem Reads.of_highest {given : List String → Option Setting} {sources : List Layer}
    {service : String} {environment : Variables.Environment} {settings : Settings}
    (reads : Reads given "" "" settings)
    (atPlace : ∀ names, Declaration.settings.ScalarAt names →
      given names = (highest? sources names).or ((builtIn service environment).at? names)) :
    Reads (highest? sources) service (environmentName environment) settings := by
  have atService : given ["service_name"] =
      (highest? sources ["service_name"]).or (some (.text service)) := by
    rw [atPlace ["service_name"] trivial, at?_builtIn]
    rfl
  have atEnvironment : given ["environment"] =
      (highest? sources ["environment"]).or (some (.text (environmentName environment))) := by
    rw [atPlace ["environment"] trivial, at?_builtIn]
    rfl
  have atLogging (names : List String) (isScalar : Declaration.logging.ScalarAt names) :
      given ("observability" :: names) = highest? sources ("observability" :: names) := by
    rw [atPlace ("observability" :: names) isScalar, at?_builtIn]
    exact Option.or_none
  have atRules (names : List String) (isScalar : Declaration.rules.ScalarAt names) :
      given ("rules" :: names) = highest? sources ("rules" :: names) := by
    rw [atPlace ("rules" :: names) isScalar, at?_builtIn]
    exact Option.or_none
  exact {
    serviceName := gives_of_or (atService ▸ reads.serviceName)
    environment := gives_of_or (atEnvironment ▸ reads.environment)
    logging := {
      serviceName := atLogging ["service_name"] trivial ▸ reads.logging.serviceName
      logLevel := atLogging ["log_level"] trivial ▸ reads.logging.logLevel
      jsonLogs := atLogging ["json_logs"] trivial ▸ reads.logging.jsonLogs }
    rules := {
      strictComparison := atRules ["strict_comparison"] trivial ▸ reads.rules.strictComparison
      definitions := fun name =>
        atRules ["definitions", name] trivial ▸ reads.rules.definitions name } }

theorem nameService_eq (settings : Settings) :
    settings.nameService = { settings with
      logging := settings.logging.withServiceName
        (if settings.logging.serviceName = "" ∨ settings.logging.serviceName = "unknown-service"
          then settings.serviceName else settings.logging.serviceName) } := by
  simp only [nameService, String.isEmpty_iff]
  split <;> rfl

theorem Reads.takesHighest {sources : List Layer} {service environment : String}
    {settings : Settings} (reads : Reads (highest? sources) service environment settings) :
    settings.nameService.TakesHighest sources service environment := by
  rw [nameService_eq]
  exact {
    serviceName := reads.serviceName
    environment := reads.environment
    logLevel := reads.logging.logLevel
    jsonLogs := reads.logging.jsonLogs
    strictComparison := reads.rules.strictComparison
    definition := reads.rules.definitions
    mem_definitions := fun name => by
      rw [Std.TreeMap.mem_iff_isSome_getElem?, isSome_iff_of_gives (reads.rules.definitions name)]
      exact List.findSome?_isSome_iff
    logName := ⟨settings.logging.serviceName, reads.logging.serviceName, rfl⟩ }

/-- Whatever the files and the variables say, as long as all settings have their declared kinds:
loading succeeds, and each setting comes from the highest source that sets it. -/
theorem load_takes_highest {service : String} {fileText? : String → Option String}
    {environment : Variables.Environment} {common specific own : Layer}
    (isCommon : fileLayer fileText? "default" = .ok common)
    (isSpecific : fileLayer fileText? (environmentName environment) = .ok specific)
    (isOwn : fileLayer fileText? service = .ok own)
    (fits : ∀ source ∈ [Variables.layer environment, own, specific, common],
      source.Fits Declaration.settings) :
    ∃ settings, load service fileText? environment = .ok settings ∧
      settings.TakesHighest [Variables.layer environment, own, specific, common] service
        (environmentName environment) := by
  have areLayers : layers service fileText? environment =
      .ok [builtIn service environment, common, specific, own, Variables.layer environment] := by
    simp only [layers, isCommon, isSpecific, isOwn, ok_bind]
  have allFit : ∀ layer ∈ [builtIn service environment, common, specific, own,
      Variables.layer environment], layer.Fits Declaration.settings := by
    simp only [List.forall_mem_cons] at fits ⊢
    rcases fits with ⟨variablesFit, ownFits, specificFits, commonFits, -⟩
    exact ⟨fits_builtIn service environment, commonFits, specificFits, ownFits, variablesFit, nofun⟩
  have allDistinct : ∀ layer ∈ [builtIn service environment, common, specific, own,
      Variables.layer environment], ∀ entry ∈ layer, entry.2.Distinct := by
    simp only [List.forall_mem_cons]
    exact ⟨distinct_builtIn service environment, distinct_of_fileLayer isCommon,
      distinct_of_fileLayer isSpecific, distinct_of_fileLayer isOwn,
      distinct_variables environment, nofun⟩
  have covers := covers_merge allFit allDistinct
  rcases exists_ofEntries covers.accepted with ⟨settings, isSettings, reads⟩
  refine ⟨settings.nameService, ?_, Reads.takesHighest (reads.of_highest ?_)⟩
  · simp only [load, areLayers, isSettings, ok_bind]
  · intro names isScalar
    rw [covers.at_place names isScalar, List.reverse_cons, List.findSome?_append,
      List.findSome?_singleton]
    cases names with
    | nil => contradiction
    | cons name names => exact Option.or_none

def kioskFile? (name : String) : Option String :=
  if name = "default.toml" then
    some "[observability]\nlog_level = \"debug\"\n[rules.definitions]\nprint = \"copies > 0\"\n"
  else if name = "staging.toml" then some "rules.definitions.print = \"copies > 1\"\n"
  else none

def kioskVariables : Variables.Environment :=
  [("PHOTOBOOTH_ENV", "staging"), ("PHOTOBOOTH_RULES__STRICT_COMPARISON", "true")]

/-- The file for staging replaces a definition of the common file, and a variable makes comparisons
strict. -/
theorem load_takes_highest_staging :
    let common : Layer := [("observability", .table [("log_level", .text "debug")]),
      ("rules", .table [("definitions", .table [("print", .text "copies > 0")])])]
    let specific : Layer :=
      [("rules", .table [("definitions", .table [("print", .text "copies > 1")])])]
    fileLayer kioskFile? "default" = .ok common ∧
      fileLayer kioskFile? (environmentName kioskVariables) = .ok specific ∧
      fileLayer kioskFile? "kiosk" = .ok [] ∧
      ∃ settings, load "kiosk" kioskFile? kioskVariables = .ok settings ∧
        settings.TakesHighest [Variables.layer kioskVariables, [], specific, common] "kiosk"
          "staging" ∧
        settings.strictComparison = true ∧ settings.definitions["print"]? = some "copies > 1" := by
  intro common specific
  have isCommon : fileLayer kioskFile? "default" = .ok common := by decide +kernel
  have isSpecific : fileLayer kioskFile? (environmentName kioskVariables) = .ok specific := by
    decide +kernel
  have isOwn : fileLayer kioskFile? "kiosk" = .ok [] := by decide +kernel
  rcases load_takes_highest isCommon isSpecific isOwn (by decide) with ⟨settings, loaded, takes⟩
  have leads : Variables.LeadsTo "PHOTOBOOTH_RULES__STRICT_COMPARISON"
      ["rules", "strict_comparison"] := ⟨by decide, by decide, by decide, by decide⟩
  have isTrue : Variables.setting "true" = .boolean true :=
    Variables.setting_of_lowercase (by decide)
  have isStrict : highest? [Variables.layer kioskVariables, [], specific, common]
      ["rules", "strict_comparison"] = some (.boolean true) :=
    (highest?_of_leadsTo leads [("PHOTOBOOTH_ENV", "staging")] "true" rfl _).trans
      (congrArg some isTrue)
  have isDefined : highest? [Variables.layer kioskVariables, [], specific, common]
      ["rules", "definitions", "print"] = some (.text "copies > 1") := by decide +kernel
  have strict := takes.strictComparison
  have definition := takes.definition "print"
  rw [isStrict] at strict
  rw [isDefined] at definition
  exact ⟨isCommon, isSpecific, isOwn, settings, loaded, takes, (Except.ok.inj strict).symm,
    (Except.ok.inj definition).symm⟩

end Rulebook.Settings
