import Rulebook.Execution
import Rulebook.Proofs.Json.Indented

/-!
Reports in JSON. What is printed of a list of reports is read back as that list, except that a
number may not survive JSON.
-/

namespace Rulebook

open Json (Fault)

namespace Report

/-! ## Reading reports -/

def text? : Json → Option String
  | .string text => some text
  | _ => none

/-- The report that an object spells, if its members are those of a report, in their order. -/
def ofJson? : Json → Option Report
  | .object [("rule_name", .string ruleName), ("value", value), ("matched", .boolean _),
      ("evaluation_trace", .list lines), ("evaluation_time_us", .integer _)] => do
    some ⟨ruleName, ← value.toValue?, ← lines.mapM text?⟩
  | _ => none

def readAll (source : String) : Except Fault (List Report) := do
  match ← Json.readAll (Json.readValue Json.depthLimit) source with
  | .list items => (items.mapM ofJson?).elim (.error .mismatched) .ok
  | _ => .error .mismatched

def rereadJson (report : Report) : Except Fault Report :=
  report.value.rereadJson.map fun value => { report with value }

theorem mapM_text? (lines : List String) : (lines.map Json.string).mapM text? = some lines := by
  induction lines with
  | nil => rfl
  | cons line lines induction => simp [text?, induction]

theorem ofJson?_object {ruleName : String} {lines : List String} {json : Json} {value : Value}
    (isValue : json.toValue? = some value) (matched : Bool) (microseconds : Int) :
    ofJson? (.object [("rule_name", .string ruleName), ("value", json),
      ("matched", .boolean matched), ("evaluation_trace", .list (lines.map .string)),
      ("evaluation_time_us", .integer microseconds)]) = some ⟨ruleName, value, lines⟩ := by
  rw [ofJson?, isValue, mapM_text?]
  rfl

theorem reread_string (depth : Nat) (text : String) :
    (Json.string text).reread depth = .ok (.string text) :=
  (Json.RereadsAs.string text).rereadAt_eq

theorem reread_lines (depth : Nat) (lines : List String) :
    (Json.list (lines.map .string)).reread (depth + 1) = .ok (.list (lines.map .string)) := by
  have each : ∀ item ∈ lines.map Json.string, item.reread depth = .ok (id item) := by
    intro item isItem
    rcases List.mem_map.mp isItem with ⟨line, -, rfl⟩
    exact reread_string depth line
  rw [Json.reread, Json.rereadItems_eq_mapM, mapM_eq_ok_map each, List.map_id]
  rfl

theorem reread_toJson (report : Report) (depth microseconds : Nat)
    (fits : Word.fitsSigned microseconds = true) :
    ((report.toJson microseconds).reread (depth + 3)).map ofJson? = report.rereadJson.map some := by
  have name := reread_string (depth + 2) report.ruleName
  have matched : (Json.boolean report.matched).reread (depth + 2) = .ok (.boolean report.matched) :=
    (Json.RereadsAs.boolean report.matched).rereadAt_eq
  have lines := reread_lines (depth + 1) report.trace
  have time : (Json.integer microseconds).reread (depth + 2) = .ok (.integer microseconds) :=
    Json.rereadAt_integer fits (depth + 2)
  have isScalar : (Json.ofValue report.value).IsScalar := by
    rw [Json.IsScalar, Json.toValue?_ofValue, Option.isSome_some]
  have value := isScalar.reread_eq (depth + 2)
  rcases Value.rereads_ofValue report.value with
    ⟨json, other, rereads, isOther, isReread⟩ | ⟨refused, isRefused⟩
  · rw [(rereads (depth + 2)).rereadAt_eq] at value
    rw [rereadJson, isReread, toJson, Json.reread]
    simp only [Json.rereadMembers, name, value, matched, lines, time, ok_bind]
    exact congrArg Except.ok (ofJson?_object isOther _ _)
  · rw [(refused (depth + 2)).rereadAt_eq] at value
    rw [rereadJson, isRefused, toJson, Json.reread]
    simp only [Json.rereadMembers, name, value, ok_bind]
    rfl

/-! ## Printed reports -/

theorem mapM_reread_toJson (reports : List Report) (depth : Nat) :
    ((reports.map (·.toJson 0)).mapM (Json.reread (depth + 3))).map (·.mapM ofJson?) =
      (reports.mapM rereadJson).map some := by
  have agree : ∀ report ∈ reports, ((report.toJson 0).reread (depth + 3)).map ofJson? =
      report.rereadJson.map some :=
    fun report _ => reread_toJson report depth 0 (by decide)
  rw [List.mapM_map]
  exact mapM_map_eq_map_some agree

/-- What is printed of reports is read as these reports, each value being read on its own. -/
theorem readAll_pretty (reports : List Report) :
    readAll (Json.list (reports.map (·.toJson 0))).pretty = reports.mapM rereadJson := by
  have isReread : (Json.list (reports.map (·.toJson 0))).reread Json.depthLimit =
      ((reports.map (·.toJson 0)).mapM (Json.reread (Json.depthLimit - 1))).map .list := by
    rw [← Json.rereadItems_eq_mapM]
    rfl
  have read := mapM_reread_toJson reports (Json.depthLimit - 4)
  rw [readAll, Json.readAll_pretty, isReread]
  rcases map_eq_map_some_iff.mp read with
    ⟨jsons, others, areJsons, areOthers, areReread⟩ | ⟨fault, failed, sameFault⟩
  · have areRead : (reports.map (·.toJson 0)).mapM (Json.reread (Json.depthLimit - 1)) =
        .ok jsons := areJsons
    rw [areRead, areReread]
    simp [Except.map, ok_bind, areOthers]
  · have areRefused : (reports.map (·.toJson 0)).mapM (Json.reread (Json.depthLimit - 1)) =
        .error fault := failed
    rw [areRefused, sameFault]
    rfl

end Report

end Rulebook
