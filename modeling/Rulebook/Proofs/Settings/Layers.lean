import Rulebook.Proofs.Settings.Place
import Rulebook.Settings.Basic

/-!
What is declared of settings, place by place, and what layers that keep to it come to when they are
merged: the highest layer that sets a place decides, and no layer takes a place away.
-/

namespace Rulebook

open Setting (Step find?)

inductive Declaration where
  /-- Any setting may stand there. -/
  | free
  | text
  | boolean
  /-- A table, with a declaration for each name. -/
  | table (declared : String → Declaration)

namespace Declaration

/-- Converting the setting to the declared kind succeeds, at all places inside of it. -/
def Fits : Declaration → Setting → Prop
  | free, _ => True
  | text, setting => setting.toText.isOk
  | boolean, setting => setting.toBoolean.isOk
  | table declared, .table entries => ∀ entry ∈ entries, (declared entry.1).Fits entry.2
  | table _, _ => False

def decideFits : (declaration : Declaration) → (setting : Setting) →
    Decidable (declaration.Fits setting)
  | free, _ => .isTrue trivial
  | text, setting => inferInstanceAs (Decidable (setting.toText.isOk = true))
  | boolean, setting => inferInstanceAs (Decidable (setting.toBoolean.isOk = true))
  | table declared, .table entries =>
      -- The instance for the bounded quantifier takes the one for each entry from here.
      let _ (entry : String × Setting) := decideFits (declared entry.1) entry.2
      inferInstanceAs (Decidable (∀ entry ∈ entries, (declared entry.1).Fits entry.2))
  | table _, .unset | table _, .boolean _ | table _, .integer _ | table _, .decimal _
  | table _, .text _ | table _, .list _ => .isFalse id

instance (declaration : Declaration) : DecidablePred declaration.Fits := declaration.decideFits

def along? : List Step → Declaration → Option Declaration
  | [], declaration => some declaration
  | _ :: _, free => some free
  | .name name :: path, table declared => along? path (declared name)
  | _ :: _, _ => none

def ScalarAt : List String → Declaration → Prop
  | [], text | [], boolean => True
  | name :: names, table declared => (declared name).ScalarAt names
  | _, _ => False

def FitsIfSet (declaration : Declaration) (setting : Setting) : Prop :=
  setting = .unset ∨ declaration.Fits setting

variable {declaration : Declaration} {declared : String → Declaration} {upper lower : Setting}

theorem FitsIfSet.entries (fits : (table declared).FitsIfSet lower) :
    ∀ entry ∈ lower.entries, (declared entry.1).Fits entry.2 := by
  rcases fits with rfl | fits
  · nofun
  · cases lower with
    | table entries => exact fits
    | _ => contradiction

theorem fitsIfSet_getD_find? {entries : List (String × Setting)}
    (fits : ∀ entry ∈ entries, (declared entry.1).Fits entry.2) (name : String) :
    (declared name).FitsIfSet ((find? name entries).getD .unset) := by
  cases found : find? name entries with
  | none => exact .inl rfl
  | some setting => exact .inr (fits _ (Setting.mem_of_find? found))

theorem fits_set {entries : List (String × Setting)}
    (fits : ∀ entry ∈ entries, (declared entry.1).Fits entry.2) {name : String}
    {setting : Setting} (settingFits : (declared name).Fits setting) :
    ∀ entry ∈ Setting.set entries name setting, (declared entry.1).Fits entry.2 := by
  induction entries with
  | nil =>
      intro entry isEntry
      cases List.mem_singleton.mp isEntry
      exact settingFits
  | cons head rest induction =>
      rcases head with ⟨other, old⟩
      rw [List.forall_mem_cons] at fits
      rw [Setting.set]
      split
      · exact List.forall_mem_cons.mpr ⟨settingFits, fits.2⟩
      · exact List.forall_mem_cons.mpr ⟨fits.1, induction fits.2⟩

/-! ## One setting over another -/

theorem overlay_table (lowerFits : (table declared).FitsIfSet lower)
    (entries : List (String × Setting)) :
    (Setting.table entries).overlay lower =
      Setting.overlayEntries entries (.table lower.entries) := by
  rcases lowerFits with rfl | fits
  · rfl
  · cases lower with
    | table => rfl
    | _ => contradiction

theorem overlay_scalar (isScalar : declaration.ScalarAt []) (fits : declaration.Fits upper)
    (lower : Setting) : upper.overlay lower = upper := by
  cases upper with
  | table entries => cases declaration <;> contradiction
  | _ => rfl

mutual
theorem fits_overlay : ∀ (upper : Setting) {lower : Setting} {declaration : Declaration},
    declaration.Fits upper → declaration.FitsIfSet lower → declaration.Fits (upper.overlay lower)
  | .table entries, lower, declaration, fits, lowerFits => by
      cases declaration with
      | free => trivial
      | table declared =>
          rw [overlay_table lowerFits]
          exact fits_overlayEntries entries fits lowerFits.entries
      | _ => contradiction
  | .unset, _, _, fits, _ => fits
  | .boolean _, _, _, fits, _ => fits
  | .integer _, _, _, fits, _ => fits
  | .decimal _, _, _, fits, _ => fits
  | .text _, _, _, fits, _ => fits
  | .list _, _, _, fits, _ => fits

theorem fits_overlayEntries : ∀ (upper : List (String × Setting))
    {lower : List (String × Setting)} {declared : String → Declaration},
    (∀ entry ∈ upper, (declared entry.1).Fits entry.2) →
      (∀ entry ∈ lower, (declared entry.1).Fits entry.2) →
      (table declared).Fits (Setting.overlayEntries upper (.table lower))
  | [], _, _, _, lowerFits => lowerFits
  | (name, setting) :: upper, _, _, fits, lowerFits => by
      rw [List.forall_mem_cons] at fits
      have settingFits := fits_overlay setting fits.1 (fitsIfSet_getD_find? lowerFits name)
      exact fits_overlayEntries upper fits.2 (fits_set lowerFits settingFits)
end

theorem or_at?_getD {names : List String} {found : Option Setting}
    (isFound : names = [] → found.isSome) (old : Option Setting) :
    found.or ((old.getD .unset).at? names) = found.or (old.bind (Setting.at? names)) := by
  cases old with
  | some setting => rfl
  | none =>
      cases names with
      | cons name names => rfl
      | nil =>
          rcases Option.isSome_iff_exists.mp (isFound rfl) with ⟨setting, rfl⟩
          rfl

/-- Joining tables, each place has the upper setting if there is one, and else the lower one. -/
theorem at?_overlay {names : List String} (isScalar : declaration.ScalarAt names)
    (distinct : upper.Distinct) (fits : declaration.Fits upper)
    (lowerFits : declaration.FitsIfSet lower) :
    (upper.overlay lower).at? names = (upper.at? names).or (lower.at? names) := by
  induction names generalizing declaration upper lower with
  | nil => rw [overlay_scalar isScalar fits, Setting.at?, Option.some_or]
  | cons name names induction =>
      cases declaration with
      | table declared =>
          cases upper with
          | table entries =>
              rcases Setting.distinct_table_iff.mp distinct with ⟨nodup, each⟩
              rw [overlay_table lowerFits, Setting.at?, Setting.find?_overlayEntries nodup]
              rw [Setting.at?, Setting.at?, Setting.entries]
              cases found : find? name entries with
              | none => rfl
              | some setting =>
                  have settingFits := fits _ (Setting.mem_of_find? found)
                  have oldFits := fitsIfSet_getD_find? lowerFits.entries name
                  have isFound : names = [] → (setting.at? names).isSome := by
                    rintro rfl
                    rfl
                  rw [Option.bind_some, Option.bind_some,
                    induction isScalar (each name setting found) settingFits oldFits,
                    or_at?_getD isFound]
          | _ => contradiction
      | _ => contradiction

/-! ## A setting at the end of a path -/

theorem distinct_changeAt {change : Setting → Setting}
    (changeDistinct : ∀ setting : Setting, setting.Distinct → (change setting).Distinct) :
    ∀ (path : List Step) {setting : Setting}, setting.Distinct →
      (Setting.changeAt change path setting).Distinct
  | [], _, distinct => changeDistinct _ distinct
  | .name name :: path, _, distinct =>
      distinct.table_set (distinct_changeAt changeDistinct path (distinct.getD_find? name)) name
  | .index _ :: _, _, _ => Setting.distinct_of_entries_eq_nil rfl

theorem fits_changeAt {path : List Step} {inner : Declaration}
    (leads : declaration.along? path = some inner) {change : Setting → Setting}
    (changeFits : ∀ setting, inner.FitsIfSet setting → inner.Fits (change setting))
    (fits : declaration.FitsIfSet lower) :
    declaration.Fits (Setting.changeAt change path lower) := by
  induction path generalizing declaration lower with
  | nil =>
      cases leads
      exact changeFits lower fits
  | cons step path induction =>
      cases declaration with
      | free => trivial
      | table declared =>
          cases step with
          | name name =>
              have oldFits := fitsIfSet_getD_find? fits.entries name
              exact fits_set fits.entries (induction leads oldFits)
          | index => contradiction
      | _ => cases step <;> contradiction

theorem eq_nil_of_scalarAt_nil (isScalar : declaration.ScalarAt []) {path : List Step}
    {inner : Declaration} (leads : declaration.along? path = some inner) : path = [] := by
  cases path with
  | nil => rfl
  | cons step path => cases declaration <;> cases step <;> contradiction

structure Accepts (declaration : Declaration) (setting : Setting) : Prop where
  fits : declaration.Fits setting
  distinct : setting.Distinct

/-- What is given to a place stands there, and what was there before stands where nothing is
given. -/
structure Covers (declaration : Declaration) (given : List String → Option Setting)
    (lower upper : Setting) : Prop where
  accepted : declaration.Accepts upper
  at_place : ∀ names, declaration.ScalarAt names →
    upper.at? names = (given names).or (lower.at? names)

/-- When settings are laid over another one in steps, the last step that gives a place counts. -/
theorem covers_foldl {α : Type} {step : Setting → α → Setting}
    {given : List String → α → Option Setting} {items : List α}
    (covers : ∀ item ∈ items, ∀ lower, declaration.Accepts lower →
      declaration.Covers (given · item) lower (step lower item))
    (accepted : declaration.Accepts lower) :
    declaration.Covers (fun names => items.reverse.findSome? (given names)) lower
      (items.foldl step lower) := by
  induction items generalizing lower with
  | nil => exact ⟨accepted, fun _ _ => rfl⟩
  | cons item items induction =>
      rw [List.forall_mem_cons] at covers
      have first := covers.1 lower accepted
      have last := induction covers.2 first.accepted
      refine ⟨last.accepted, ?_⟩
      intro names isScalar
      calc
        _ = (items.reverse.findSome? (given names)).or ((step lower item).at? names) :=
          last.at_place names isScalar
        _ = (items.reverse.findSome? (given names)).or
            ((given names item).or (lower.at? names)) := by
          rw [first.at_place names isScalar]
        _ = ((item :: items).reverse.findSome? (given names)).or (lower.at? names) := by
          rw [List.reverse_cons, List.findSome?_append, Option.or_assoc, List.findSome?_singleton]

end Declaration

namespace Layer

def remaining? : List Step → List String → Option (List String)
  | [], names => some names
  | .name name :: path, other :: names => if name = other then remaining? path names else none
  | _ :: _, _ => none

def entryAt? (names : List String) (entry : String × Setting) : Option Setting :=
  (remaining? (path entry.1) names).bind fun rest => entry.2.at? rest

def at? (names : List String) (layer : Layer) : Option Setting :=
  layer.reverse.findSome? (entryAt? names)

def Fits (declaration : Declaration) (layer : Layer) : Prop :=
  ∀ entry ∈ layer, ∃ inner ∈ declaration.along? (path entry.1), inner.Fits entry.2

instance (declaration : Declaration) (layer : Layer) : Decidable (layer.Fits declaration) :=
  inferInstanceAs (Decidable (∀ entry ∈ layer, ∃ inner ∈ declaration.along? (path entry.1),
    inner.Fits entry.2))

variable {declaration : Declaration} {names : List String} {lower upper : Setting}

theorem at?_changeAt {path : List Step} {inner : Declaration}
    (isScalar : declaration.ScalarAt names) (leads : declaration.along? path = some inner)
    (accepted : inner.Accepts upper) (fits : declaration.FitsIfSet lower) :
    (Setting.changeAt upper.overlay path lower).at? names =
      ((remaining? path names).bind fun rest => upper.at? rest).or (lower.at? names) := by
  induction path generalizing declaration names lower with
  | nil =>
      cases leads
      exact Declaration.at?_overlay isScalar accepted.distinct accepted.fits fits
  | cons step path induction =>
      cases declaration with
      | table declared =>
          cases names with
          | nil => contradiction
          | cons other names =>
              cases step with
              | index => contradiction
              | name name =>
                  rw [Setting.at?, Setting.find?_changeAt, remaining?, Setting.at?]
                  by_cases same : name = other
                  · subst same
                    have scalarInside : (declared name).ScalarAt names := isScalar
                    have leadsInside : (declared name).along? path = some inner := leads
                    have oldFits := Declaration.fitsIfSet_getD_find? fits.entries name
                    rw [if_pos rfl, if_pos rfl, Option.bind_some,
                      induction scalarInside leadsInside oldFits]
                    apply Declaration.or_at?_getD
                    rintro rfl
                    rw [Declaration.eq_nil_of_scalarAt_nil scalarInside leadsInside]
                    rfl
                  · rw [if_neg same, if_neg same]
                    rfl
      | _ => cases names <;> cases step <;> contradiction

/-! ## Layers upon layers -/

theorem covers_overlay {layer : Layer} (fits : layer.Fits declaration)
    (distinct : ∀ entry ∈ layer, entry.2.Distinct) (accepted : declaration.Accepts lower) :
    declaration.Covers (layer.at? ·) lower (layer.overlay lower) := by
  refine Declaration.covers_foldl ?_ accepted
  intro entry isEntry lower accepted
  rcases fits entry isEntry with ⟨inner, leads, entryFits⟩
  have entryDistinct := distinct entry isEntry
  refine ⟨⟨?_, ?_⟩, ?_⟩
  · apply Declaration.fits_changeAt leads _ (.inr accepted.fits)
    intro old oldFits
    exact Declaration.fits_overlay entry.2 entryFits oldFits
  · apply Declaration.distinct_changeAt _ _ accepted.distinct
    intro old oldDistinct
    exact Setting.distinct_overlay entry.2 oldDistinct
  · intro names isScalar
    exact at?_changeAt isScalar leads ⟨entryFits, entryDistinct⟩ (.inr accepted.fits)

end Layer

theorem Settings.covers_merge {declared : String → Declaration} {layers : List Layer}
    (fits : ∀ layer ∈ layers, layer.Fits (.table declared))
    (distinct : ∀ layer ∈ layers, ∀ entry ∈ layer, entry.2.Distinct) :
    (Declaration.table declared).Covers (fun names => layers.reverse.findSome? (Layer.at? names))
      (.table []) (merge layers) := by
  refine Declaration.covers_foldl ?_ ⟨nofun, Setting.distinct_of_entries_eq_nil rfl⟩
  intro layer isLayer lower accepted
  exact Layer.covers_overlay (fits layer isLayer) (distinct layer isLayer) accepted

end Rulebook
