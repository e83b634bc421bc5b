import Rulebook.CommandLine
import Rulebook.Proofs.Except
import Rulebook.Proofs.Report
import Rulebook.Proofs.Store.Batch
import Rulebook.Proofs.Store.Refinement

/-!
What the command line prints: one report on each configured rule that can be read, in the order of
the names.
-/

namespace Rulebook

/-! ## Reports on the rules of a store -/

def Catalogue.report (catalogue : Catalogue) (context : Context) (mode : ComparisonMode)
    (name : String) : Report :=
  ⟨name, (catalogue.tree? name).elim (.boolean true) (·.evaluate context mode), []⟩

namespace Store.Refines

variable {store : Store} {catalogue : Catalogue}

theorem mem_names_iff_exists (refines : store.Refines catalogue) {name : String} :
    name ∈ store.names ↔ ∃ source, catalogue name = some source := by
  rw [Store.mem_names_iff, refines.contains, Option.isSome_iff_exists]

theorem evaluate_eq_report (refines : store.Refines catalogue) {name source : String}
    (listed : catalogue name = some source) (context : Context) (mode : ComparisonMode) :
    store.evaluate name context ⟨false, mode⟩ = .ok (catalogue.report context mode name) := by
  rcases refines.exists_compiled listed with ⟨compiled, found, isFor⟩
  have sameReport :
      Executor.execute ⟨false, mode⟩ compiled context = catalogue.report context mode name := by
    rw [Executor.execute, Catalogue.report, refines.tree?_eq found, isFor.name_eq,
      Rule.evaluate.eq_def]
    cases compiled.rule.tree <;> rfl
  rw [evaluate, found]
  exact congrArg Except.ok sameReport

theorem reports_eq (refines : store.Refines catalogue) (context : Context)
    (mode : ComparisonMode) :
    CommandLine.reports store context mode =
      .ok (store.names.map (catalogue.report context mode)) := by
  apply mapM_eq_ok_map
  intro name member
  rcases refines.mem_names_iff_exists.mp member with ⟨source, listed⟩
  exact refines.evaluate_eq_report listed context mode

end Store.Refines

namespace CommandLine

/-! ## The configured rules -/

def configured (settings : Settings) : Catalogue :=
  settings.definitions.toList.foldl (fun catalogue pair => catalogue.load pair.1 pair.2) .empty

theorem loadRules_refines (settings : Settings) :
    (loadRules settings).store.Refines (configured settings) :=
  Store.refines_empty.loadBatch settings.definitions.toList

theorem configured_eq_some_iff {settings : Settings} {name source : String} :
    configured settings name = some source ↔
      settings.definitions[name]? = some source ∧ Compiler.accepts (name, source) = true := by
  have distinct : (settings.definitions.toList.map Prod.fst).Nodup := by
    rw [List.nodup_iff_pairwise_ne, List.pairwise_map]
    apply Std.TreeMap.distinct_keys_toList.imp
    intro first second different same
    exact different (by simp [same])
  rw [configured, Catalogue.foldl_load_eq_some_iff distinct,
    Std.TreeMap.mem_toList_iff_getElem?_eq_some]

theorem mem_names_loadRules_iff {settings : Settings} {name : String} :
    name ∈ (loadRules settings).store.names ↔
      ∃ source tree?, settings.definitions[name]? = some source ∧
        Text.trim name.toList ≠ [] ∧ Tree.read source = .ok tree? := by
  rw [(loadRules_refines settings).mem_names_iff_exists]
  simp only [configured_eq_some_iff, Compiler.accepts_iff, exists_and_left]

theorem report_configured {settings : Settings} {name source : String} {tree? : Option Tree}
    (listed : configured settings name = some source) (read : Tree.read source = .ok tree?)
    (context : Context) (mode : ComparisonMode) :
    (configured settings).report context mode name =
      ⟨name, tree?.elim (.boolean true) (·.evaluate context mode), []⟩ := by
  simp [Catalogue.report, Catalogue.tree?, listed, read, Except.toOption]

/-! ## Runs of the program -/

/-- The context that a text stands for: a blank text for the empty one, any other for the context
that it spells in JSON. -/
def GivesContext (text : String) (context : Context) : Prop :=
  Text.trim text.toList = [] ∧ context = .empty ∨
    Text.trim text.toList ≠ [] ∧ Context.readJson text = .ok context

theorem GivesContext.readContext_eq {text : String} {context : Context}
    (gives : GivesContext text context) : readContext text = .ok context := by
  rw [readContext, Text.isBlankText]
  rcases gives with ⟨blank, rfl⟩ | ⟨notBlank, read⟩
  · rw [Text.trim_eq_nil_iff] at blank
    rw [if_pos blank]
  · rw [ne_eq, Text.trim_eq_nil_iff] at notBlank
    rw [if_neg notBlank, read]

theorem result_runWith (settings : Settings) {invocation : Invocation} {text : String}
    {context : Context} (isText : contextText invocation = .ok text)
    (gives : GivesContext text context) :
    (runWith settings invocation).2 =
      .ok ((loadRules settings).store.names.map
        ((configured settings).report context (comparisonMode settings))) := by
  rw [runWith, result, isText, ok_bind, gives.readContext_eq, ok_bind,
    (loadRules_refines settings).reports_eq]
  rfl

theorem result_run {settings : Settings} {invocation : Invocation}
    (loaded : loadSettings invocation = .ok settings) :
    (run invocation).result = (runWith settings invocation).2 := by
  rw [run, loaded]

/-- With a context the program prints a list of reports: one on each definition whose name is not
blank and whose source can be read, in the order of the names, and no other. Each shows the value
that the source has in the context, in the configured mode. No look-up by a name fails. What is
printed is read back as this list, as far as its numbers survive JSON. -/
theorem runWith_reports_definitions (settings : Settings) (invocation : Invocation)
    {text : String} {context : Context} (isText : contextText invocation = .ok text)
    (gives : GivesContext text context) :
    let mode : ComparisonMode := if settings.strictComparison then .strict else .loose
    let store := (loadRules settings).store
    ∃ reports, (runWith settings invocation).2 = .ok reports ∧
      (reports.map Report.ruleName).Pairwise (· < ·) ∧
      (∀ name, name ∈ reports.map Report.ruleName ↔
        ∃ source tree?, settings.definitions[name]? = some source ∧
          Text.trim name.toList ≠ [] ∧ Tree.read source = .ok tree?) ∧
      (∀ report ∈ reports, ∃ source tree?,
        settings.definitions[report.ruleName]? = some source ∧ Tree.read source = .ok tree? ∧
          report.value = tree?.elim (.boolean true) (·.evaluate context mode) ∧
          report.matched = report.value.isTruthy) ∧
      (∀ name ∈ store.names,
        store.evaluate name context ⟨false, mode⟩ ≠ .error (.ruleNotFound name)) ∧
      (loadSettings invocation = .ok settings →
        ∃ printed, (run invocation).output? = some printed ∧
          printed = (Json.list (reports.map fun report =>
            .object [("rule_name", .string report.ruleName), ("value", .ofValue report.value),
              ("matched", .boolean report.value.isTruthy), ("evaluation_trace", .list []),
              ("evaluation_time_us", .integer 0)])).pretty ∧
          Report.readAll printed = reports.mapM Report.rereadJson) := by
  intro mode store
  have refines := loadRules_refines settings
  have sameNames :
      (store.names.map ((configured settings).report context mode)).map Report.ruleName =
        store.names := by
    rw [List.map_map]
    exact List.map_id _
  have isResult : (runWith settings invocation).2 =
      .ok (store.names.map ((configured settings).report context mode)) :=
    result_runWith settings isText gives
  refine ⟨_, isResult, ?_, ?_, ?_, ?_, ?_⟩
  · rw [sameNames]
    exact store.pairwise_lt_names
  · intro name
    rw [sameNames]
    exact mem_names_loadRules_iff
  · intro report member
    rcases List.mem_map.mp member with ⟨name, isName, rfl⟩
    rcases refines.mem_names_iff_exists.mp isName with ⟨source, listed⟩
    rcases configured_eq_some_iff.mp listed with ⟨isDefined, accepted⟩
    rcases (Compiler.accepts_iff.mp accepted).2 with ⟨tree?, read⟩
    rw [report_configured listed read]
    exact ⟨source, tree?, isDefined, read, rfl, rfl⟩
  · intro name isName
    rcases refines.mem_names_iff_exists.mp isName with ⟨source, listed⟩
    rw [refines.evaluate_eq_report listed]
    intro equal
    contradiction
  · intro loaded
    refine ⟨_, ?_, ?_, Report.readAll_pretty _⟩
    · rw [Outcome.output?, result_run loaded, isResult]
    · simp [Report.toJson, Report.matched, Catalogue.report, Function.comp_def]

/-- Settings in which a blank name and an unfinished source are left out. -/
def kioskSettings : String :=
  "[rules]\nstrict_comparison = true\n[rules.definitions]\n" ++
    "free = \"\"\n\" \" = \"copies > 1\"\nfew = \"copies <\"\nmany = \"copies > '1'\"\n"

def kioskInvocation : Invocation :=
  ⟨[], [], fun path => if path = "config/default.toml" then some kioskSettings else none,
    "\x7b\"copies\": 2\x7d"⟩

def kioskReports : String :=
  "[\n  \x7b\n    \"rule_name\": \"free\",\n    \"value\": true,\n    \"matched\": true,\n" ++
    "    \"evaluation_trace\": [],\n    \"evaluation_time_us\": 0\n  \x7d,\n" ++
    "  \x7b\n    \"rule_name\": \"many\",\n    \"value\": false,\n    \"matched\": false,\n" ++
    "    \"evaluation_trace\": [],\n    \"evaluation_time_us\": 0\n  \x7d\n]"

theorem runWith_reports_definitions_strict :
    let definitions := [(" ", "copies > 1"), ("few", "copies <"), ("free", ""),
      ("many", "copies > '1'")]
    let reports : List Report := [⟨"free", .boolean true, []⟩, ⟨"many", .boolean false, []⟩]
    ∃ settings context, loadSettings kioskInvocation = .ok settings ∧
      settings.strictComparison = true ∧ settings.definitions.toList = definitions ∧
      contextText kioskInvocation = .ok kioskInvocation.standardInput ∧
      GivesContext kioskInvocation.standardInput context ∧
      (runWith settings kioskInvocation).2 = .ok reports ∧
      (∀ report ∈ reports, ∃ source tree?,
        settings.definitions[report.ruleName]? = some source ∧ Tree.read source = .ok tree? ∧
          report.value = tree?.elim (.boolean true) (·.evaluate context .strict) ∧
          report.matched = report.value.isTruthy) ∧
      (run kioskInvocation).output? = some kioskReports ∧
      Report.readAll kioskReports = .ok reports := by
  intro definitions reports
  have areSettings : (loadSettings kioskInvocation).toOption.map
      (fun settings => (settings.strictComparison, settings.definitions.toList)) =
        some (true, definitions) := by decide +kernel
  have isRead : (Context.readJson kioskInvocation.standardInput).isOk := by decide +kernel
  have evaluated : result kioskInvocation (Store.empty.loadBatch definitions).store .strict =
      .ok reports := by decide +kernel
  rcases exists_eq_ok isRead with ⟨context, read⟩
  have gives : GivesContext kioskInvocation.standardInput context := .inr ⟨by decide, read⟩
  cases loaded : loadSettings kioskInvocation with
  | error => simp [loaded, Except.toOption] at areSettings
  | ok settings =>
      rw [loaded] at areSettings
      rcases Prod.mk.inj (Option.some.inj areSettings) with ⟨strict, areDefinitions⟩
      have computed : (runWith settings kioskInvocation).2 = .ok reports := by
        rw [runWith, loadRules, areDefinitions, comparisonMode, strict]
        exact evaluated
      rcases runWith_reports_definitions settings kioskInvocation rfl gives with
        ⟨others, isResult, -, -, values, -, prints⟩
      have same : reports = others := by simpa [computed] using isResult
      subst same
      simp only [strict, if_true] at values
      rcases prints loaded with ⟨printed, isOutput, isPretty, readsBack⟩
      have isText : printed = kioskReports := isPretty.trans (by decide +kernel)
      rw [isText] at isOutput readsBack
      exact ⟨settings, context, rfl, strict, areDefinitions, rfl, gives, computed, values,
        isOutput, readsBack⟩

end CommandLine

end Rulebook
