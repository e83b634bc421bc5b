import Mathlib.Data.List.Nodup
import Rulebook.Settings.Layer

/-!
Places inside of settings: the ways of names through tables. Laying a setting over another one keeps
the names of every table distinct.
-/

namespace Rulebook.Setting

def at? : List String → Setting → Option Setting
  | [], setting => some setting
  | name :: names, setting => (find? name setting.entries).bind (at? names)

theorem at?_singleton (name : String) (setting : Setting) :
    setting.at? [name] = find? name setting.entries :=
  Option.bind_fun_some _

def Distinct (setting : Setting) : Prop :=
  ∀ names inner, setting.at? names = some inner → (inner.entries.map Prod.fst).Nodup

/-! ## Entries -/

theorem mem_of_find? {entries : List (String × Setting)} {name : String} {setting : Setting}
    (found : find? name entries = some setting) : (name, setting) ∈ entries := by
  induction entries with
  | nil => contradiction
  | cons head rest induction =>
      rcases head with ⟨other, old⟩
      rw [find?] at found
      split at found
      · next same =>
          cases found
          rw [same]
          exact List.mem_cons_self
      · exact List.mem_cons_of_mem _ (induction found)

theorem find?_eq_none_iff {entries : List (String × Setting)} {name : String} :
    find? name entries = none ↔ name ∉ entries.map Prod.fst := by
  induction entries with
  | nil => simp [find?]
  | cons head rest induction =>
      rcases head with ⟨other, old⟩
      rw [find?]
      split
      · next same => simp [same]
      · next different => simp [induction, Ne.symm different]

theorem find?_of_mem {entries : List (String × Setting)}
    (distinct : (entries.map Prod.fst).Nodup) {name : String} {setting : Setting}
    (isEntry : (name, setting) ∈ entries) : find? name entries = some setting := by
  induction entries with
  | nil => contradiction
  | cons head rest induction =>
      rcases head with ⟨other, old⟩
      rw [List.map_cons, List.nodup_cons] at distinct
      rw [find?]
      rcases List.mem_cons.mp isEntry with same | inRest
      · cases same
        exact if_pos rfl
      · have different : other ≠ name := by
          rintro rfl
          exact distinct.1 (List.mem_map.mpr ⟨_, inRest, rfl⟩)
        rw [if_neg different]
        exact induction distinct.2 inRest

theorem nodup_set {entries : List (String × Setting)} (distinct : (entries.map Prod.fst).Nodup)
    (name : String) (setting : Setting) : ((set entries name setting).map Prod.fst).Nodup := by
  induction entries with
  | nil => simp [set]
  | cons head rest induction =>
      rcases head with ⟨other, old⟩
      rw [List.map_cons, List.nodup_cons] at distinct
      rw [set]
      split
      · next same =>
          subst same
          exact List.nodup_cons.mpr distinct
      · next different =>
          have absent : other ∉ (set rest name setting).map Prod.fst := by
            rw [← find?_eq_none_iff, find?_set, if_neg (Ne.symm different), find?_eq_none_iff]
            exact distinct.1
          exact List.nodup_cons.mpr ⟨absent, induction distinct.2⟩

/-! ## Distinct names -/

theorem distinct_of_entries_eq_nil {setting : Setting} (isEmpty : setting.entries = []) :
    setting.Distinct := by
  intro names inner found
  cases names with
  | nil =>
      cases found
      simp [isEmpty]
  | cons name names => simp [at?, isEmpty, find?] at found

theorem distinct_table_iff {entries : List (String × Setting)} :
    (table entries).Distinct ↔
      (entries.map Prod.fst).Nodup ∧
        ∀ name inner, find? name entries = some inner → inner.Distinct := by
  constructor
  · intro distinct
    refine ⟨distinct [] _ rfl, ?_⟩
    intro name inner isInner names setting found
    apply distinct (name :: names)
    rw [at?, Setting.entries, isInner, Option.bind_some, found]
  · rintro ⟨nodup, each⟩ names setting found
    cases names with
    | nil =>
        cases found
        exact nodup
    | cons name names =>
        rcases Option.bind_eq_some_iff.mp found with ⟨inner, isInner, foundInside⟩
        exact each name inner isInner names setting foundInside

theorem Distinct.nodup_entries {setting : Setting} (distinct : setting.Distinct) :
    (setting.entries.map Prod.fst).Nodup :=
  distinct [] setting rfl

theorem Distinct.getD_find? {setting : Setting} (distinct : setting.Distinct) (name : String) :
    ((find? name setting.entries).getD unset).Distinct := by
  cases found : find? name setting.entries with
  | none => exact distinct_of_entries_eq_nil rfl
  | some inner =>
      intro names other foundInside
      apply distinct (name :: names)
      rw [at?, found]
      exact foundInside

theorem Distinct.table_set {lower setting : Setting} (lowerDistinct : lower.Distinct)
    (distinct : setting.Distinct) (name : String) :
    (table (set lower.entries name setting)).Distinct := by
  refine distinct_table_iff.mpr ⟨nodup_set lowerDistinct.nodup_entries name setting, ?_⟩
  intro other inner isInner
  rw [find?_set] at isInner
  split at isInner
  · cases isInner
    exact distinct
  · have isOld := lowerDistinct.getD_find? other
    rwa [isInner] at isOld

mutual
/-- Whatever the upper setting is: its tables are laid over the lower ones name by name. -/
theorem distinct_overlay : ∀ (upper : Setting) {lower : Setting}, lower.Distinct →
    (upper.overlay lower).Distinct
  | table upper, lower, distinct => by
      cases lower with
      | unset => exact distinct_overlayEntries upper (distinct_of_entries_eq_nil rfl)
      | _ => exact distinct_overlayEntries upper distinct
  | unset, _, _ => distinct_of_entries_eq_nil rfl
  | boolean _, _, _ => distinct_of_entries_eq_nil rfl
  | integer _, _, _ => distinct_of_entries_eq_nil rfl
  | decimal _, _, _ => distinct_of_entries_eq_nil rfl
  | text _, _, _ => distinct_of_entries_eq_nil rfl
  | list _, _, _ => distinct_of_entries_eq_nil rfl

theorem distinct_overlayEntries : ∀ (upper : List (String × Setting)) {lower : Setting},
    lower.Distinct → (overlayEntries upper lower).Distinct
  | [], _, distinct => distinct
  | (name, setting) :: upper, _, distinct =>
      distinct_overlayEntries upper
        (distinct.table_set (distinct_overlay setting (distinct.getD_find? name)) name)
end

/-- Over distinct names the order of the entries does not matter: each name gets its upper setting
laid over its lower one. -/
theorem find?_overlayEntries {upper : List (String × Setting)}
    (distinct : (upper.map Prod.fst).Nodup) (lower : List (String × Setting)) (name : String) :
    find? name (overlayEntries upper (table lower)).entries =
      match find? name upper with
      | some setting => some (setting.overlay ((find? name lower).getD unset))
      | none => find? name lower := by
  induction upper generalizing lower with
  | nil => rfl
  | cons head rest induction =>
      rcases head with ⟨other, setting⟩
      rw [List.map_cons, List.nodup_cons] at distinct
      rw [overlayEntries, induction distinct.2, find?, find?_set, Setting.entries]
      by_cases same : other = name
      · subst same
        rw [find?_eq_none_iff.mpr distinct.1, if_pos rfl, if_pos rfl]
      · rw [if_neg same, if_neg same]

end Rulebook.Setting
