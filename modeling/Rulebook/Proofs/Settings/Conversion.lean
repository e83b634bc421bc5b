import Rulebook.Proofs.Except
import Rulebook.Proofs.Settings.Layers

/-!
Converting settings that fit their declarations succeeds, and each value depends only on the setting
at its place.
-/

namespace Rulebook

namespace Declaration

def logging : Declaration :=
  .table fun
    | "service_name" | "log_level" => .text
    | "json_logs" => .boolean
    | _ => .free

def rules : Declaration :=
  .table fun
    | "strict_comparison" => .boolean
    | "definitions" => .table fun _ => .text
    | _ => .free

/-- The settings that the program declares. It passes over all others. -/
def settings : Declaration :=
  .table fun
    | "service_name" | "environment" => .text
    | "observability" => logging
    | "rules" => rules
    | _ => .free

end Declaration

namespace Setting

def Gives {α : Type} (found : Option Setting) (convert : Setting → Except SettingsError α)
    (usual value : α) : Prop :=
  match found with
  | some setting => convert setting = .ok value
  | none => value = usual

/-- Converting the setting of a name: what holds of the places inside of a setting and the value
that it is converted to holds of the places under the name and the outcome. -/
theorem exists_get {declared : String → Declaration} {entries : List (String × Setting)}
    (accepted : (Declaration.table declared).Accepts (.table entries)) (name : String) {α : Type}
    {convert : Setting → Except SettingsError α}
    (reads : (List String → Option Setting) → α → Prop)
    (converts : ∀ setting, (declared name).Accepts setting →
      ∃ value, convert setting = .ok value ∧ reads (fun names => setting.at? names) value)
    (usual : α) (usually : reads (fun _ => none) usual) :
    ∃ value, get convert entries name usual = .ok value ∧
      reads (fun names => (table entries).at? (name :: names)) value := by
  have atInside (names : List String) : (table entries).at? (name :: names) =
      (find? name entries).bind (at? names) := rfl
  simp only [get, atInside]
  cases found : find? name entries with
  | none => exact ⟨usual, rfl, usually⟩
  | some setting =>
      have distinct := (distinct_table_iff.mp accepted.distinct).2 name setting found
      exact converts setting ⟨accepted.fits _ (mem_of_find? found), distinct⟩

theorem exists_get_scalar {declared : String → Declaration} {entries : List (String × Setting)}
    (accepted : (Declaration.table declared).Accepts (.table entries)) (name : String) {α : Type}
    {convert : Setting → Except SettingsError α}
    (converts : ∀ setting, (declared name).Fits setting → (convert setting).isOk) (usual : α) :
    ∃ value, get convert entries name usual = .ok value ∧
      Gives ((table entries).at? [name]) convert usual value := by
  refine exists_get accepted name (fun given value => Gives (given []) convert usual value) ?_
    usual rfl
  intro setting settingAccepted
  rcases exists_eq_ok (converts setting settingAccepted.fits) with ⟨value, isValue⟩
  exact ⟨value, isValue, isValue⟩

end Setting

namespace Settings

open Setting (find? Gives)

variable {entries : List (String × Setting)}

/-! ## Tables of texts -/

def textOf (setting : Setting) : String := (setting.toText.toOption).getD ""

theorem toText_eq_textOf {setting : Setting} (fits : Declaration.text.Fits setting) :
    setting.toText = .ok (textOf setting) := by
  rcases exists_eq_ok fits with ⟨text, isText⟩
  rw [textOf, isText]
  rfl

theorem exists_ofList (distinct : (entries.map Prod.fst).Nodup)
    (fits : ∀ entry ∈ entries, Declaration.text.Fits entry.2) :
    ∃ texts, (entries.mapM fun entry => do .ok (entry.1, ← entry.2.toText)) = .ok texts ∧
      ∀ name, Gives (find? name entries) (fun setting => some <$> setting.toText) none
        (Std.TreeMap.ofList texts)[name]? := by
  let named (entry : String × Setting) := (entry.1, textOf entry.2)
  have converts : ∀ entry ∈ entries, (do .ok (entry.1, ← entry.2.toText) :
      Except SettingsError (String × String)) = .ok (named entry) := by
    intro entry isEntry
    rw [toText_eq_textOf (fits entry isEntry)]
    rfl
  have sameNames : (entries.map named).map Prod.fst = entries.map Prod.fst := List.map_map
  refine ⟨entries.map named, mapM_eq_ok_map converts, ?_⟩
  intro name
  cases found : find? name entries with
  | none =>
      apply Std.TreeMap.getElem?_ofList_of_contains_eq_false
      rw [sameNames, List.contains_eq_mem, decide_eq_false_iff_not]
      exact Setting.find?_eq_none_iff.mp found
  | some setting =>
      have isEntry := Setting.mem_of_find? found
      have separate : (entries.map named).Pairwise fun one other =>
          ¬compare one.1 other.1 = .eq := by
        rw [← sameNames, List.nodup_iff_pairwise_ne, List.pairwise_map] at distinct
        exact distinct.imp fun different same => different (Std.LawfulEqOrd.eq_of_compare same)
      have isNamed : (name, textOf setting) ∈ entries.map named := List.mem_map_of_mem isEntry
      rw [Std.TreeMap.getElem?_ofList_of_mem Std.ReflOrd.compare_self separate isNamed, Gives,
        toText_eq_textOf (fits _ isEntry)]
      rfl

/-! ## What is read

How outcomes depend on the settings that are given for places. -/

structure ReadsLogging (given : List String → Option Setting) (logging : LoggingSettings) :
    Prop where
  serviceName : Gives (given ["service_name"]) Setting.toText "unknown-service" logging.serviceName
  logLevel : Gives (given ["log_level"]) Setting.toText "info" logging.logLevel
  jsonLogs : Gives (given ["json_logs"]) Setting.toBoolean false logging.jsonLogs

structure ReadsTexts (given : List String → Option Setting) (entries : List (String × Setting)) :
    Prop where
  distinct : (entries.map Prod.fst).Nodup
  fits : ∀ entry ∈ entries, Declaration.text.Fits entry.2
  at_name : ∀ name, given [name] = find? name entries

structure ReadsRules (given : List String → Option Setting)
    (rules : Bool × Std.TreeMap String String) : Prop where
  strictComparison : Gives (given ["strict_comparison"]) Setting.toBoolean false rules.1
  definitions : ∀ name, Gives (given ["definitions", name])
    (fun setting => some <$> setting.toText) none rules.2[name]?

structure Reads (given : List String → Option Setting) (service environment : String)
    (settings : Settings) : Prop where
  serviceName : Gives (given ["service_name"]) Setting.toText service settings.serviceName
  environment : Gives (given ["environment"]) Setting.toText environment settings.environment
  logging : ReadsLogging (fun names => given ("observability" :: names)) settings.logging
  rules : ReadsRules (fun names => given ("rules" :: names))
    (settings.strictComparison, settings.definitions)

/-! ## Conversion -/

theorem exists_logging {setting : Setting} (accepted : Declaration.logging.Accepts setting) :
    ∃ logging, readLogging setting = .ok logging ∧
      ReadsLogging (fun names => setting.at? names) logging := by
  cases setting with
  | table entries =>
      rcases Setting.exists_get_scalar accepted "service_name" (fun _ => id) "unknown-service" with
        ⟨serviceName, isServiceName, givesServiceName⟩
      rcases Setting.exists_get_scalar accepted "log_level" (fun _ => id) "info" with
        ⟨logLevel, isLogLevel, givesLogLevel⟩
      rcases Setting.exists_get_scalar accepted "json_logs" (fun _ => id) false with
        ⟨jsonLogs, isJsonLogs, givesJsonLogs⟩
      refine ⟨⟨serviceName, logLevel, jsonLogs⟩, ?_,
        givesServiceName, givesLogLevel, givesJsonLogs⟩
      simp only [readLogging, Setting.toSection, isServiceName, isLogLevel, isJsonLogs, ok_bind]
  | _ => cases accepted.fits

theorem exists_definitions {setting : Setting}
    (accepted : (Declaration.table fun _ => .text).Accepts setting) :
    ∃ definitions, setting.toTable = .ok definitions ∧
      ReadsTexts (fun names => setting.at? names) definitions := by
  cases setting with
  | table entries =>
      have atName (name : String) := Setting.at?_singleton name (.table entries)
      exact ⟨entries, rfl, accepted.distinct.nodup_entries, accepted.fits, atName⟩
  | _ => cases accepted.fits

theorem exists_rules {setting : Setting} (accepted : Declaration.rules.Accepts setting) :
    ∃ rules, readRules setting = .ok rules ∧
      ReadsRules (fun names => setting.at? names) rules := by
  cases setting with
  | table entries =>
      rcases Setting.exists_get_scalar accepted "strict_comparison" (fun _ => id) false with
        ⟨strict, isStrict, givesStrict⟩
      rcases Setting.exists_get accepted "definitions" ReadsTexts (fun _ => exists_definitions)
        [] ⟨.nil, nofun, fun _ => rfl⟩ with ⟨definitions, isTable, reads⟩
      rcases exists_ofList reads.distinct reads.fits with ⟨texts, areTexts, givesTexts⟩
      refine ⟨(strict, .ofList texts), ?_, givesStrict, ?_⟩
      · simp only [readRules, Setting.toSection, isStrict, isTable, areTexts, ok_bind]
      · intro name
        rw [reads.at_name]
        exact givesTexts name
  | _ => cases accepted.fits

theorem exists_ofEntries {setting : Setting} (accepted : Declaration.settings.Accepts setting) :
    ∃ settings, ofEntries setting.entries = .ok settings ∧
      Reads (fun names => setting.at? names) "" "" settings := by
  cases setting with
  | table entries =>
      rcases Setting.exists_get_scalar accepted "service_name" (fun _ => id) "" with
        ⟨serviceName, isServiceName, givesServiceName⟩
      rcases Setting.exists_get_scalar accepted "environment" (fun _ => id) "" with
        ⟨environment, isEnvironment, givesEnvironment⟩
      rcases Setting.exists_get accepted "observability" ReadsLogging (fun _ => exists_logging)
        {} ⟨rfl, rfl, rfl⟩ with ⟨logging, isLogging, readsLogging⟩
      rcases Setting.exists_get accepted "rules" ReadsRules (fun _ => exists_rules)
        (false, ∅) ⟨rfl, fun _ => rfl⟩ with ⟨rules, isRules, readsRules⟩
      refine ⟨⟨serviceName, environment, logging, rules.1, rules.2⟩, ?_,
        givesServiceName, givesEnvironment, readsLogging, readsRules⟩
      simp only [ofEntries, Setting.entries, isServiceName, isEnvironment, isLogging, isRules,
        ok_bind]
  | _ => cases accepted.fits

end Settings

end Rulebook
