import Rulebook.Proofs.Settings.Place
import Rulebook.Toml.Reader

/-!
No table of a TOML document has two entries of one name.
-/

namespace Rulebook.Toml

/-! ## Tables while they are read -/

theorem settings_set (entries : Entries) (key : String) (item : Item) :
    settings (Entries.set key item entries) = Setting.set (settings entries) key item.setting := by
  induction entries with
  | nil => rfl
  | cons head rest induction =>
      rcases head with ⟨other, old⟩
      rw [Entries.set, settings, Setting.set]
      split
      · rfl
      · rw [settings, induction]

theorem find?_settings (entries : Entries) (key : String) :
    Setting.find? key (settings entries) = (entries.lookup key).map Item.setting := by
  induction entries with
  | nil => rfl
  | cons head rest induction =>
      rcases head with ⟨other, old⟩
      rw [settings, Setting.find?, List.lookup_cons]
      by_cases same : other = key
      · simp [same]
      · rw [if_neg same, induction, beq_false_of_ne (Ne.symm same)]

namespace Entries

def Distinct (entries : Entries) : Prop := (Setting.table (settings entries)).Distinct

theorem distinct_nil : Distinct [] := Setting.distinct_of_entries_eq_nil rfl

theorem distinct_set {entries : Entries} (distinct : Distinct entries) (key : String)
    (item : Item) (itemDistinct : item.setting.Distinct) : Distinct (set key item entries) := by
  rw [Distinct, settings_set]
  exact Setting.Distinct.table_set distinct itemDistinct key

theorem distinct_inner {entries inner : Entries} {key : String} {origin : Origin}
    (distinct : Distinct entries) (found : entries.lookup key = some (.table origin inner)) :
    Distinct inner := by
  have each := (Setting.distinct_table_iff.mp distinct).2 key
  rw [find?_settings, found] at each
  exact each _ rfl

theorem distinct_map_table {entries : Entries} (distinct : Distinct entries)
    {changed? : Option Entries} (each : ∀ inner ∈ changed?, Distinct inner) (key : String)
    (origin : Origin) :
    ∀ changed ∈ changed?.map fun inner => set key (.table origin inner) entries,
      Distinct changed := by
  intro changed isChanged
  rcases Option.map_eq_some_iff.mp isChanged with ⟨inner, isInner, rfl⟩
  exact distinct_set distinct key (.table origin inner) (each inner isInner)

theorem distinct_map_tables {entries : Entries} (distinct : Distinct entries)
    (changed? : Option Entries) (key : String) (earlier : List Entries) :
    ∀ changed ∈ changed?.map fun latest => set key (.tables (latest :: earlier)) entries,
      Distinct changed := by
  intro changed isChanged
  rcases Option.map_eq_some_iff.mp isChanged with ⟨latest, -, rfl⟩
  exact distinct_set distinct key (.tables _) (Setting.distinct_of_entries_eq_nil rfl)

theorem distinct_openTable? (path : List String) {entries : Entries}
    (distinct : Distinct entries) : ∀ opened ∈ openTable? path entries, Distinct opened := by
  fun_induction openTable? path entries with
  | case1 | case4 | case8 => nofun
  | case2 key entries =>
      rintro _ ⟨⟩
      exact distinct_set distinct key (.table .headed []) distinct_nil
  | case3 key entries inner isInner =>
      rintro _ ⟨⟩
      exact distinct_set distinct key (.table .headed inner) (distinct_inner distinct isInner)
  | case5 key path entries _ _ induction =>
      exact distinct_map_table distinct (induction distinct_nil) key .implied
  | case6 key path entries _ origin inner isInner induction =>
      exact distinct_map_table distinct (induction (distinct_inner distinct isInner)) key origin
  | case7 key path entries _ latest earlier =>
      exact distinct_map_tables distinct _ key earlier

theorem distinct_openItem? (path : List String) {entries : Entries}
    (distinct : Distinct entries) : ∀ opened ∈ openItem? path entries, Distinct opened := by
  fun_induction openItem? path entries with
  | case1 | case4 | case8 => nofun
  | case2 key entries | case3 key entries =>
      rintro _ ⟨⟩
      exact distinct_set distinct key (.tables _) (Setting.distinct_of_entries_eq_nil rfl)
  | case5 key path entries _ _ induction =>
      exact distinct_map_table distinct (induction distinct_nil) key .implied
  | case6 key path entries _ origin inner isInner induction =>
      exact distinct_map_table distinct (induction (distinct_inner distinct isInner)) key origin
  | case7 key path entries _ latest earlier =>
      exact distinct_map_tables distinct _ key earlier

theorem distinct_insert? {setting : Setting} (settingDistinct : setting.Distinct)
    (path : List String) {entries : Entries} (distinct : Distinct entries) :
    ∀ inserted ∈ insert? setting path entries, Distinct inserted := by
  fun_induction insert? setting path entries with
  | case1 | case3 | case5 | case7 | case9 => nofun
  | case2 key entries =>
      rintro _ ⟨⟩
      exact distinct_set distinct key (.value setting) settingDistinct
  | case4 key path entries _ _ induction =>
      exact distinct_map_table distinct (induction distinct_nil) key .dotted
  | case6 key path entries _ _ inner _ isInner origin induction =>
      exact distinct_map_table distinct (induction (distinct_inner distinct isInner)) key origin
  | case8 key path entries _ latest earlier =>
      exact distinct_map_tables distinct _ key earlier

theorem distinct_insertUnder? {setting : Setting} (settingDistinct : setting.Distinct)
    (key header : List String) {entries : Entries} (distinct : Distinct entries) :
    ∀ inserted ∈ insertUnder? setting key header entries, Distinct inserted := by
  fun_induction insertUnder? setting key header entries with
  | case1 entries => exact distinct_insert? settingDistinct key distinct
  | case2 step header entries origin inner isInner induction =>
      exact distinct_map_table distinct (induction (distinct_inner distinct isInner)) step origin
  | case3 step header entries latest earlier =>
      exact distinct_map_tables distinct _ step earlier
  | case4 => nofun

end Entries

/-! ## Values and documents -/

theorem distinct_of_readEntries? {readItem : List Char → Option (Parsed Setting)}
    (itemDistinct : ∀ text item rest, readItem text = some (item, rest) → item.Distinct)
    (bound : Nat) {entries found : Entries} (distinct : entries.Distinct) {text rest : List Char}
    (isRead : readEntries? readItem bound entries text = some (found, rest)) :
    found.Distinct := by
  induction bound generalizing entries text with
  | zero => contradiction
  | succ bound induction =>
      rw [readEntries?] at isRead
      rcases Option.bind_eq_some_iff.mp isRead with ⟨text, -, isRead⟩
      split at isRead
      · cases isRead
        exact distinct
      · rcases Option.bind_eq_some_iff.mp isRead with ⟨⟨key, afterKey⟩, -, isRead⟩
        rcases Option.bind_eq_some_iff.mp isRead with ⟨afterMark, -, isRead⟩
        rcases Option.bind_eq_some_iff.mp isRead with ⟨⟨item, afterItem⟩, isItem, isRead⟩
        rcases Option.bind_eq_some_iff.mp isRead with ⟨inserted, isInserted, isRead⟩
        rcases Option.bind_eq_some_iff.mp isRead with ⟨afterEntry, -, isRead⟩
        have insertedDistinct := Entries.distinct_insert? (itemDistinct _ _ _ isItem) key distinct
          inserted isInserted
        split at isRead
        · exact induction insertedDistinct isRead
        · cases isRead
          exact insertedDistinct
        · contradiction

theorem entries_inRange? {value : Int} {setting : Setting}
    (isInRange : inRange? value = some setting) : setting.entries = [] := by
  rw [inRange?] at isInRange
  split at isInRange
  · cases isInRange
    rfl
  · contradiction

theorem entries_integer? {text : List Char} {setting : Setting}
    (isInteger : integer? text = some setting) : setting.entries = [] := by
  unfold integer? at isInteger
  split at isInteger
  case h_4 =>
    rcases Option.bind_eq_some_iff.mp isInteger with ⟨digits, -, isInteger⟩
    exact entries_inRange? isInteger
  all_goals
    rcases Option.bind_eq_some_iff.mp isInteger with ⟨digits, -, isInteger⟩
    rcases Option.bind_eq_some_iff.mp isInteger with ⟨value, -, isInteger⟩
    exact entries_inRange? isInteger

theorem entries_decimal? {text : List Char} {setting : Setting}
    (isDecimal : decimal? text = some setting) : setting.entries = [] := by
  have ofNumber {number : Number}
      (isFinite : (if number = .infinity false ∨ number = .infinity true then none
        else some (Setting.decimal number)) = some setting) : setting.entries = [] := by
    split at isFinite
    · contradiction
    · cases isFinite
      rfl
  unfold decimal? at isDecimal
  dsimp only at isDecimal
  split at isDecimal
  · contradiction
  · rcases Option.bind_eq_some_iff.mp isDecimal with ⟨whole, -, isDecimal⟩
    split at isDecimal
    all_goals
      rcases Option.bind_eq_some_iff.mp isDecimal with ⟨fraction, -, isDecimal⟩
      split at isDecimal
      · exact ofNumber isDecimal
      · rcases Option.bind_eq_some_iff.mp isDecimal with ⟨digits, -, isDecimal⟩
        exact ofNumber isDecimal

theorem entries_namedNumber? {text : List Char} {setting : Setting}
    (isNamed : namedNumber? text = some setting) : setting.entries = [] := by
  unfold namedNumber? at isNamed
  dsimp only at isNamed
  split at isNamed
  · cases isNamed
    rfl
  · split at isNamed
    · cases isNamed
      rfl
    · contradiction

theorem entries_scalar? {text : List Char} {setting : Setting}
    (isScalar : scalar? text = some setting) : setting.entries = [] := by
  unfold scalar? at isScalar
  split at isScalar
  · cases isScalar
    rfl
  · split at isScalar
    · cases isScalar
      rfl
    · rcases Option.or_eq_some_iff.mp isScalar with isNamed | ⟨-, isScalar⟩
      · exact entries_namedNumber? isNamed
      rcases Option.or_eq_some_iff.mp isScalar with isInteger | ⟨-, isScalar⟩
      · exact entries_integer? isInteger
      rcases Option.or_eq_some_iff.mp isScalar with isDecimal | ⟨-, isDate⟩
      · exact entries_decimal? isDecimal
      · rcases Option.map_eq_some_iff.mp isDate with ⟨date, -, rfl⟩
        rfl

theorem readValue?_entries {depth : Nat} {text rest : List Char} {setting : Setting}
    (isRead : readValue? depth text = some (setting, rest)) :
    setting.entries = [] ∨ ∃ inner entries after,
      depth = inner + 1 ∧ setting = .table (settings entries) ∧
        readEntries? (readValue? inner) (after.length + 1) [] after = some (entries, rest) := by
  fun_induction readValue? depth text with
  | case1 | case3 => contradiction
  | case2 after inner =>
      rcases Option.bind_eq_some_iff.mp isRead with ⟨⟨items, _⟩, -, isList⟩
      cases isList
      exact .inl rfl
  | case4 after inner =>
      rcases Option.bind_eq_some_iff.mp isRead with ⟨⟨entries, _⟩, isEntries, isTable⟩
      cases isTable
      exact .inr ⟨inner, entries, after, rfl, rfl, isEntries⟩
  | case5 | case6 =>
      rcases Option.map_eq_some_iff.mp isRead with ⟨⟨value, _⟩, -, isText⟩
      cases isText
      exact .inl rfl
  | case7 =>
      rcases Option.bind_eq_some_iff.mp isRead with ⟨scalar, isScalar, isValue⟩
      cases isValue
      exact .inl (entries_scalar? isScalar)

theorem distinct_of_readValue? (depth : Nat) {text rest : List Char} {setting : Setting}
    (isRead : readValue? depth text = some (setting, rest)) : setting.Distinct := by
  induction depth generalizing text setting rest with
  | zero =>
      rcases readValue?_entries isRead with isEmpty | ⟨inner, entries, after, isSuccessor, -⟩
      · exact Setting.distinct_of_entries_eq_nil isEmpty
      · contradiction
  | succ depth induction =>
      rcases readValue?_entries isRead with isEmpty | ⟨inner, entries, after, same, rfl, isEntries⟩
      · exact Setting.distinct_of_entries_eq_nil isEmpty
      · cases same
        exact distinct_of_readEntries? (fun _ _ _ => induction) _ Entries.distinct_nil isEntries

namespace Document

theorem distinct_of_readStatement? {document changed : Document} {text rest : List Char}
    (distinct : document.entries.Distinct)
    (isRead : readStatement? document text = some (changed, rest)) :
    changed.entries.Distinct := by
  unfold readStatement? at isRead
  split at isRead
  case h_1 | h_2 | h_3 | h_4 =>
    cases isRead
    exact distinct
  case h_5 =>
    rcases Option.bind_eq_some_iff.mp isRead with ⟨⟨key, after⟩, -, isRead⟩
    rcases Option.bind_eq_some_iff.mp isRead with ⟨opened, isOpened, isChanged⟩
    cases isChanged
    exact Entries.distinct_openItem? key distinct opened isOpened
  case h_6 =>
    rcases Option.bind_eq_some_iff.mp isRead with ⟨⟨key, after⟩, -, isRead⟩
    rcases Option.bind_eq_some_iff.mp isRead with ⟨opened, isOpened, isChanged⟩
    cases isChanged
    exact Entries.distinct_openTable? key distinct opened isOpened
  case h_7 =>
    rcases Option.bind_eq_some_iff.mp isRead with ⟨⟨key, after⟩, -, isRead⟩
    rcases Option.bind_eq_some_iff.mp isRead with ⟨afterMark, -, isRead⟩
    rcases Option.bind_eq_some_iff.mp isRead with ⟨⟨setting, _⟩, isValue, isRead⟩
    rcases Option.bind_eq_some_iff.mp isRead with ⟨inserted, isInserted, isChanged⟩
    cases isChanged
    exact Entries.distinct_insertUnder? (distinct_of_readValue? depthLimit isValue) key _ distinct
      inserted isInserted

theorem distinct_of_readLines? (bound : Nat) {document last : Document} {text : List Char}
    (distinct : document.entries.Distinct)
    (isRead : readLines? bound document text = some last) : last.entries.Distinct := by
  induction bound generalizing document text with
  | zero => contradiction
  | succ bound induction =>
      rw [readLines?] at isRead
      rcases Option.bind_eq_some_iff.mp isRead with ⟨⟨changed, rest⟩, isStatement, isRead⟩
      rcases Option.bind_eq_some_iff.mp isRead with ⟨after, -, isRead⟩
      have changedDistinct := distinct_of_readStatement? distinct isStatement
      split at isRead
      · exact induction changedDistinct isRead
      · split at isRead
        · cases isRead
          exact changedDistinct
        · contradiction

end Document

/-- The settings of a document have distinct names, and so have the tables inside of them. -/
theorem distinct_of_read? {source : String} {entries : List (String × Setting)}
    (isRead : read? source = some entries) : (Setting.table entries).Distinct := by
  rcases Option.bind_eq_some_iff.mp isRead with ⟨document, isDocument, isEntries⟩
  cases isEntries
  exact Document.distinct_of_readLines? _ Entries.distinct_nil isDocument

end Rulebook.Toml
