/-
# What a layer of settings does

A layer is read entry by entry. An entry whose key names a setting replaces the value of this
setting and of no other one, or it is refused and ends the reading. So a layer succeeds exactly if
no entry offends, the last entry for a setting decides, and the first entry that offends is the one
in the error. Layers compose: one layer after another one does what their entries do in a row.

A refusal shows the value that it is about. This fails for a value with an integer of more than
4300 digits in it, and then the refusal is lost behind the fault of the numeral.
-/
import ModuleGrammar.Style.Layer

namespace ModuleGrammar

/-! ## Keys -/

namespace Setting

/-- The name of a setting, with underscores between its parts. -/
def name : Setting → Text
  | .size .indentSize => "indent_size".toList
  | .size .maxLineLength => "max_line_length".toList
  | .flag .useTabs => "use_tabs".toList
  | .flag .insertNewlineAfterBrackets => "insert_newline_after_brackets".toList
  | .flag .insertNewlineBeforeBrackets => "insert_newline_before_brackets".toList
  | .flag .insertFinalNewline => "insert_final_newline".toList
  | .flag .trimTrailingWhitespace => "trim_trailing_whitespace".toList
  | .flag .enabled => "enabled".toList
  | .flag .formatOnSave => "format_on_save".toList

/-- A word with a capital in front. -/
def capitalized : Text → Text
  | [] => []
  | c :: rest => c.toUpper :: rest

/-- A name with capitals in place of its underscores. -/
def camelCase (name : Text) : Text :=
  match name.cut '_' with
  | [] => []
  | first :: others => first ++ (others.map capitalized).flatten

/-- The two ways to write the key of a setting. -/
def aliases (setting : Setting) : List Text :=
  [setting.name, camelCase setting.name]

theorem ofKey?_of_mem_aliases {setting : Setting} {key : Text} (written : key ∈ setting.aliases) :
    ofKey? key = some setting := by
  have all : ∀ key ∈ setting.aliases, ofKey? key = some setting := by
    rcases setting with setting | setting <;> cases setting <;> decide
  exact all key written

theorem mem_aliases_of_mem_keys : ∀ entry ∈ keys, entry.1 ∈ entry.2.aliases := by
  decide +kernel

/-- A key names a setting exactly if it is one of the two ways to write it. -/
theorem ofKey?_eq_some_iff {setting : Setting} {key : Text} :
    ofKey? key = some setting ↔ key ∈ setting.aliases := by
  refine ⟨fun named => ?_, ofKey?_of_mem_aliases⟩
  obtain ⟨before, after, split, -⟩ := List.lookup_eq_some_iff.mp named
  exact mem_aliases_of_mem_keys (key, setting) (by simp [split])

/-- A key names one setting only. -/
theorem mem_aliases_iff {setting other : Setting} {key : Text} (written : key ∈ setting.aliases) :
    key ∈ other.aliases ↔ other = setting := by
  rw [← ofKey?_eq_some_iff, ofKey?_of_mem_aliases written, Option.some.injEq, eq_comm]

/-! ## Values -/

/-- The values that a setting can have. -/
inductive Takes : Setting → Value → Prop
  | size (setting : SizeSetting) {number : Int} (natural : 0 ≤ number) :
      Takes (.size setting) (.integer number)
  | flag (setting : FlagSetting) (truth : Bool) : Takes (.flag setting) (.boolean truth)

/-- What is wrong with the other values. -/
inductive Refuses : Setting → Value → SettingFault → Prop
  | notInteger (setting : SizeSetting) {value : Value} (other : ∀ number, value ≠ .integer number) :
      Refuses (.size setting) value (.notInteger value)
  | negative (setting : SizeSetting) {number : Int} (negative : number < 0) :
      Refuses (.size setting) (.integer number) (.negative number)
  | notBoolean (setting : FlagSetting) {value : Value} (other : ∀ truth, value ≠ .boolean truth) :
      Refuses (.flag setting) value (.notBoolean value)

theorem takes_or_refuses (setting : Setting) (value : Value) :
    setting.Takes value ∨ ∃ fault, setting.Refuses value fault := by
  cases setting with
  | size setting =>
      by_cases isInteger : ∃ number, value = .integer number
      · obtain ⟨number, rfl⟩ := isInteger
        rcases Int.lt_or_le number 0 with negative | natural
        · exact .inr ⟨_, .negative setting negative⟩
        · exact .inl (.size setting natural)
      · exact .inr ⟨_, .notInteger setting (not_exists.mp isInteger)⟩
  | flag setting =>
      by_cases isBoolean : ∃ truth, value = .boolean truth
      · obtain ⟨truth, rfl⟩ := isBoolean
        exact .inl (.flag setting truth)
      · exact .inr ⟨_, .notBoolean setting (not_exists.mp isBoolean)⟩

/-- The value that the last entry for a setting gives to it. -/
def given? (setting : Setting) (table : Table) : Option Value :=
  (table.reverse.find? fun entry => setting.aliases.contains entry.1).map (·.2)

theorem given?_cons (setting : Setting) (entry : Text × Value) (table : Table) :
    setting.given? (entry :: table) =
      (setting.given? table).or (if entry.1 ∈ setting.aliases then some entry.2 else none) := by
  rw [given?, List.reverse_cons, List.find?_append, given?]
  cases table.reverse.find? fun entry => setting.aliases.contains entry.1 with
  | some later => rfl
  | none => by_cases written : entry.1 ∈ setting.aliases <;> simp [written]

theorem given?_append (setting : Setting) (first second : Table) :
    setting.given? (first ++ second) = (setting.given? second).or (setting.given? first) := by
  rw [given?, List.reverse_append, List.find?_append, Option.map_or]
  rfl

end Setting

/-- An entry offends if its key names a setting that cannot have its value. -/
def Offends (entry : Text × Value) : Prop :=
  ∃ setting : Setting, entry.1 ∈ setting.aliases ∧ ¬ setting.Takes entry.2

theorem offends_iff {setting : Setting} {entry : Text × Value}
    (written : entry.1 ∈ setting.aliases) : Offends entry ↔ ¬ setting.Takes entry.2 := by
  constructor
  · rintro ⟨other, written', refused⟩
    rwa [(Setting.mem_aliases_iff written).mp written'] at refused
  · intro refused
    exact ⟨setting, written, refused⟩

/-- A table has no entry that offends, or there is a first one. -/
theorem offends_cases (table : Table) :
    (∀ entry ∈ table, ¬ Offends entry) ∨
      ∃ before entry after, table = before ++ entry :: after ∧
        (∀ earlier ∈ before, ¬ Offends earlier) ∧ Offends entry := by
  induction table with
  | nil => exact .inl (List.forall_mem_nil _)
  | cons first table ih =>
      by_cases offends : Offends first
      · exact .inr ⟨[], first, table, rfl, List.forall_mem_nil _, offends⟩
      · rcases ih with fits | ⟨before, entry, after, rfl, fits, last⟩
        · exact .inl (List.forall_mem_cons.mpr ⟨offends, fits⟩)
        · exact .inr ⟨first :: before, entry, after, rfl,
            List.forall_mem_cons.mpr ⟨offends, fits⟩, last⟩

theorem Setting.takes_of_not_offends (setting : Setting) {entry : Text × Value}
    (written : entry.1 ∈ setting.aliases) (fits : ¬ Offends entry) : setting.Takes entry.2 :=
  Classical.byContradiction fun refused => fits ((offends_iff written).mpr refused)

namespace Style

/-- The value of a setting in a style. -/
def value (style : Style) : Setting → Value
  | .size .indentSize => .integer style.indentSize
  | .size .maxLineLength => .integer style.maxLineLength
  | .flag .useTabs => .boolean style.useTabs
  | .flag .insertNewlineAfterBrackets => .boolean style.insertNewlineAfterBrackets
  | .flag .insertNewlineBeforeBrackets => .boolean style.insertNewlineBeforeBrackets
  | .flag .insertFinalNewline => .boolean style.insertFinalNewline
  | .flag .trimTrailingWhitespace => .boolean style.trimTrailingWhitespace
  | .flag .enabled => .boolean style.enabled
  | .flag .formatOnSave => .boolean style.formatOnSave

theorem value_setSize (style : Style) (number : Int) (setting : SizeSetting) (other : Setting) :
    (style.setSize number setting).value other =
      if other = .size setting then .integer number else style.value other := by
  rcases other with other | other <;> cases setting <;> cases other <;> rfl

theorem value_setFlag (style : Style) (truth : Bool) (setting : FlagSetting) (other : Setting) :
    (style.setFlag truth setting).value other =
      if other = .flag setting then .boolean truth else style.value other := by
  rcases other with other | other <;> cases setting <;> cases other <;> rfl

/-! ## One entry -/

section Entry

variable {setting : Setting} {key : Text} {value : Value}

theorem assign_of_unknown (style : Style) (unknown : ∀ setting : Setting, key ∉ setting.aliases)
    (value : Value) : style.assign key value = .ok style := by
  have none : Setting.ofKey? key = none := by
    refine Option.eq_none_iff_forall_ne_some.mpr fun setting named => ?_
    exact unknown setting (Setting.ofKey?_eq_some_iff.mp named)
  simp only [assign, none]

/-- A setting takes its value, and no other setting changes. -/
theorem assign_of_takes (style : Style) (written : key ∈ setting.aliases)
    (takes : setting.Takes value) :
    ∃ result, style.assign key value = .ok result ∧
      ∀ other, result.value other = if other = setting then value else style.value other := by
  have named := Setting.ofKey?_eq_some_iff.mpr written
  cases takes with
  | @size setting number natural =>
      refine ⟨style.setSize number setting, ?_, value_setSize style number setting⟩
      simp only [assign, named]
      rw [if_neg (Int.not_lt.mpr natural)]
  | flag setting truth =>
      refine ⟨style.setFlag truth setting, ?_, value_setFlag style truth setting⟩
      simp only [assign, named]

theorem assign_of_refuses (style : Style) (written : key ∈ setting.aliases) {fault : SettingFault}
    (refuses : setting.Refuses value fault) :
    style.assign key value = .error ⟨key, fault⟩ := by
  have named := Setting.ofKey?_eq_some_iff.mpr written
  cases refuses with
  | notInteger setting other =>
      cases value with
      | integer number => exact absurd rfl (other number)
      | _ => simp only [assign, named]
  | negative setting negative =>
      simp only [assign, named]
      rw [if_pos negative]
  | notBoolean setting other =>
      cases value with
      | boolean truth => exact absurd rfl (other truth)
      | _ => simp only [assign, named]

end Entry

/-- An entry that does not offend gives its value to the setting that it names. -/
theorem assign_of_not_offends (style : Style) {entry : Text × Value} (fits : ¬ Offends entry) :
    ∃ result, style.assign entry.1 entry.2 = .ok result ∧
      ∀ setting : Setting, result.value setting =
        if entry.1 ∈ setting.aliases then entry.2 else style.value setting := by
  by_cases known : ∃ setting : Setting, entry.1 ∈ setting.aliases
  · obtain ⟨setting, written⟩ := known
    have takes := setting.takes_of_not_offends written fits
    obtain ⟨result, assigned, values⟩ := style.assign_of_takes written takes
    refine ⟨result, assigned, fun other => ?_⟩
    rw [values]
    simp only [Setting.mem_aliases_iff written]
  · have unknown := not_exists.mp known
    refine ⟨style, style.assign_of_unknown unknown entry.2, fun setting => ?_⟩
    rw [if_neg (unknown setting)]

theorem assign_of_offends (style : Style) {entry : Text × Value} (offends : Offends entry) :
    ∃ (setting : Setting) (fault : SettingFault), entry.1 ∈ setting.aliases ∧
      setting.Refuses entry.2 fault ∧ style.assign entry.1 entry.2 = .error ⟨entry.1, fault⟩ := by
  obtain ⟨setting, written, refused⟩ := offends
  obtain ⟨fault, refuses⟩ := (setting.takes_or_refuses entry.2).resolve_left refused
  exact ⟨setting, fault, written, refuses, style.assign_of_refuses written refuses⟩

/-! ## A table -/

theorem layer_cons_of_ok {style result : Style} {entry : Text × Value}
    (assigned : style.assign entry.1 entry.2 = .ok result) (table : Table) :
    style.layer (entry :: table) = result.layer table := by
  rw [layer, assigned]

theorem layer_cons_of_error {style : Style} {entry : Text × Value} {error : SettingError}
    (refused : style.assign entry.1 entry.2 = .error error) (table : Table) :
    style.layer (entry :: table) = .error error := by
  rw [layer, refused]

/-- Without an entry that offends, every setting gets what the last entry for it gives. -/
theorem layer_of_no_offends (style : Style) {table : Table}
    (fits : ∀ entry ∈ table, ¬ Offends entry) :
    ∃ result, style.layer table = .ok result ∧
      ∀ setting : Setting, result.value setting =
        (setting.given? table).getD (style.value setting) := by
  induction table generalizing style with
  | nil => exact ⟨style, rfl, fun _ => rfl⟩
  | cons entry table ih =>
      rw [List.forall_mem_cons] at fits
      obtain ⟨next, assigned, step⟩ := style.assign_of_not_offends fits.1
      obtain ⟨result, laid, values⟩ := ih next fits.2
      refine ⟨result, by rw [layer_cons_of_ok assigned, laid], fun setting => ?_⟩
      rw [values, step, Setting.given?_cons]
      cases setting.given? table with
      | some value => rfl
      | none => split <;> rfl

/-- Entries in front that do not offend do not keep an entry from offending. -/
theorem layer_of_offends (style : Style) {before : Table}
    (fits : ∀ entry ∈ before, ¬ Offends entry) {entry : Text × Value} (offends : Offends entry)
    (after : Table) :
    ∃ (setting : Setting) (fault : SettingFault), entry.1 ∈ setting.aliases ∧
      setting.Refuses entry.2 fault ∧
      style.layer (before ++ entry :: after) = .error ⟨entry.1, fault⟩ := by
  induction before generalizing style with
  | nil =>
      obtain ⟨setting, fault, written, refuses, refused⟩ := style.assign_of_offends offends
      exact ⟨setting, fault, written, refuses, layer_cons_of_error refused after⟩
  | cons first before ih =>
      rw [List.forall_mem_cons] at fits
      obtain ⟨next, assigned, -⟩ := style.assign_of_not_offends fits.1
      rw [List.cons_append, layer_cons_of_ok assigned]
      exact ih next fits.2

theorem layer_append (style : Style) (first second : Table) :
    style.layer (first ++ second) = style.layer first >>= fun result => result.layer second := by
  induction first generalizing style with
  | nil => rfl
  | cons entry first ih =>
      cases assigned : style.assign entry.1 entry.2 with
      | ok next => rw [List.cons_append, layer_cons_of_ok assigned, layer_cons_of_ok assigned, ih]
      | error error =>
          rw [List.cons_append, layer_cons_of_error assigned, layer_cons_of_error assigned]
          rfl

/-- A chain of layers does what all their entries do in a row. -/
theorem foldlM_layer (style : Style) (tables : List Table) :
    tables.foldlM layer style = style.layer tables.flatten := by
  induction tables generalizing style with
  | nil => rfl
  | cons table tables ih =>
      rw [List.foldlM_cons, List.flatten_cons, layer_append]
      simp only [ih]

/-! ## Sizes -/

/-- Every setting has a value that it can take exactly if the sizes are natural numbers. -/
theorem takes_value_iff (style : Style) :
    (∀ setting : Setting, setting.Takes (style.value setting)) ↔
      0 ≤ style.indentSize ∧ 0 ≤ style.maxLineLength := by
  constructor
  · intro valid
    have indentSize := valid (.size .indentSize)
    have maxLineLength := valid (.size .maxLineLength)
    cases indentSize with
    | size _ indentSize =>
        cases maxLineLength with
        | size _ maxLineLength => exact ⟨indentSize, maxLineLength⟩
  · rintro ⟨indentSize, maxLineLength⟩ (setting | setting)
    · cases setting with
      | indentSize => exact .size _ indentSize
      | maxLineLength => exact .size _ maxLineLength
    · cases setting <;> exact .flag _ _

theorem takes_value_of_assign {style result : Style} {entry : Text × Value}
    (valid : ∀ setting : Setting, setting.Takes (style.value setting))
    (assigned : style.assign entry.1 entry.2 = .ok result) (setting : Setting) :
    setting.Takes (result.value setting) := by
  by_cases offends : Offends entry
  · obtain ⟨_, _, -, -, refused⟩ := style.assign_of_offends offends
    rw [refused] at assigned
    cases assigned
  · obtain ⟨next, same, values⟩ := style.assign_of_not_offends offends
    rw [same] at assigned
    cases assigned
    rw [values]
    split
    case isTrue written => exact setting.takes_of_not_offends written offends
    case isFalse => exact valid setting

theorem takes_value_of_layer {style result : Style} {table : Table}
    (valid : ∀ setting : Setting, setting.Takes (style.value setting))
    (laid : style.layer table = .ok result) :
    ∀ setting : Setting, setting.Takes (result.value setting) := by
  induction table generalizing style with
  | nil =>
      cases laid
      exact valid
  | cons entry table ih =>
      cases assigned : style.assign entry.1 entry.2 with
      | ok next =>
          rw [layer_cons_of_ok assigned] at laid
          exact ih (takes_value_of_assign valid assigned) laid
      | error error =>
          rw [layer_cons_of_error assigned] at laid
          cases laid

end Style

/-! ## Refusals that can be shown -/

namespace Value

/-- An integer is a value or stands somewhere inside of it. -/
inductive Holds (number : Int) : Value → Prop
  | integer : Holds number (.integer number)
  | item {items : List Value} {item : Value} (member : item ∈ items) (inside : Holds number item) :
      Holds number (.list items)
  | entry {entries : Table} {key : Text} {value : Value} (member : (key, value) ∈ entries)
      (inside : Holds number value) : Holds number (.table entries)

/-- All integers of a value have few enough digits. -/
def HasShortNumerals (value : Value) : Prop :=
  ∀ number, value.Holds number → number.natAbs < Nat.pow 10 Text.maxNumeralDigits

theorem hasShortNumerals_integer (number : Int) :
    (Value.integer number).HasShortNumerals ↔ number.natAbs < Nat.pow 10 Text.maxNumeralDigits := by
  constructor
  · intro short
    exact short number .integer
  · intro short other inside
    cases inside with
    | integer => exact short

theorem hasShortNumerals_list (items : List Value) :
    (Value.list items).HasShortNumerals ↔ ∀ item ∈ items, item.HasShortNumerals := by
  constructor
  · intro short item member number inside
    exact short number (.item member inside)
  · intro short number inside
    cases inside with
    | item member inside => exact short _ member number inside

theorem hasShortNumerals_table (entries : Table) :
    (Value.table entries).HasShortNumerals ↔ ∀ entry ∈ entries, entry.2.HasShortNumerals := by
  constructor
  · intro short entry member number inside
    exact short number (.entry member inside)
  · intro short number inside
    cases inside with
    | entry member inside => exact short _ member number inside

mutual

/-- A value can be shown exactly if all its integers have few enough digits. -/
theorem isShowable_iff (value : Value) : value.isShowable = true ↔ value.HasShortNumerals := by
  cases value with
  | integer number =>
      rw [isShowable, Text.isShowable, decide_eq_true_iff, hasShortNumerals_integer]
  | list items => rw [isShowable, areShowable_iff items, hasShortNumerals_list]
  | table entries => rw [isShowable, entriesShowable_iff entries, hasShortNumerals_table]
  | _ =>
      refine iff_of_true (by simp only [isShowable]) ?_
      intro number inside
      cases inside

theorem areShowable_iff (items : List Value) :
    areShowable items = true ↔ ∀ item ∈ items, item.HasShortNumerals := by
  cases items with
  | nil => exact iff_of_true (by rw [areShowable]) (List.forall_mem_nil _)
  | cons item items =>
      rw [areShowable, Bool.and_eq_true, isShowable_iff item, areShowable_iff items,
        List.forall_mem_cons]

theorem entriesShowable_iff (entries : Table) :
    entriesShowable entries = true ↔ ∀ entry ∈ entries, entry.2.HasShortNumerals := by
  cases entries with
  | nil => exact iff_of_true (by rw [entriesShowable]) (List.forall_mem_nil _)
  | cons entry entries =>
      obtain ⟨key, value⟩ := entry
      rw [entriesShowable, Bool.and_eq_true, isShowable_iff value, entriesShowable_iff entries,
        List.forall_mem_cons]

end

end Value

/-- A refusal can be shown exactly if all integers of its value have few enough digits. -/
theorem Setting.Refuses.numeralFault?_eq_none_iff {setting : Setting} {key : Text} {value : Value}
    {fault : SettingFault} (refuses : setting.Refuses value fault) :
    SettingError.numeralFault? ⟨key, fault⟩ = none ↔ value.HasShortNumerals := by
  have same : fault.isShowable = value.isShowable := by
    cases refuses with
    | notInteger => rfl
    | negative => rw [SettingFault.isShowable, Value.isShowable]
    | notBoolean => rfl
  rw [SettingError.numeralFault?, same, ← Value.isShowable_iff]
  split
  case isTrue showable => exact iff_of_true rfl showable
  case isFalse hidden => exact iff_of_false (Option.some_ne_none _) hidden

/-- A layer succeeds exactly if every key that names a setting comes with a value that the setting
takes. It gives to each setting the value of the last entry for it and keeps the others. A layer
that fails names the key of the first entry that offends, as it is written, and says what is wrong
with its value; but it can be shown only if no integer in this value has too many digits. A table
behind another one acts on the result of the first, and no chain of layers makes a size negative. -/
theorem Style.layer_is_exact (style : Style) (table : Table) :
    ((∃ result, style.layer table = .ok result) ↔ ∀ entry ∈ table, ¬ Offends entry) ∧
    (∀ result, style.layer table = .ok result → ∀ setting : Setting,
      result.value setting = (setting.given? table).getD (style.value setting)) ∧
    (∀ error, style.layer table = .error error →
      ∃ (before after : Table) (setting : Setting) (value : Value),
        table = before ++ (error.key, value) :: after ∧
        (∀ entry ∈ before, ¬ Offends entry) ∧ Offends (error.key, value) ∧
        error.key ∈ setting.aliases ∧ setting.Refuses value error.fault ∧
        "invalid option '".toList ++ error.key ++ "': ".toList <+: error.message ∧
        (error.numeralFault? = none ↔ value.HasShortNumerals)) ∧
    (∀ second, style.layer (table ++ second) =
      style.layer table >>= fun result => result.layer second) ∧
    (∀ (tables : List Table) (result : Style), 0 ≤ style.indentSize ∧ 0 ≤ style.maxLineLength →
      tables.foldlM Style.layer style = .ok result →
        0 ≤ result.indentSize ∧ 0 ≤ result.maxLineLength) := by
  have sizes : ∀ (tables : List Table) (result : Style),
      0 ≤ style.indentSize ∧ 0 ≤ style.maxLineLength →
        tables.foldlM Style.layer style = .ok result →
          0 ≤ result.indentSize ∧ 0 ≤ result.maxLineLength := by
    intro tables result natural laid
    rw [Style.foldlM_layer] at laid
    rw [← Style.takes_value_iff] at natural ⊢
    exact Style.takes_value_of_layer natural laid
  rcases offends_cases table with fits | ⟨before, entry, after, rfl, fits, offends⟩
  · obtain ⟨result, laid, values⟩ := style.layer_of_no_offends fits
    refine ⟨⟨fun _ => fits, fun _ => ⟨result, laid⟩⟩, ?_, ?_, style.layer_append table, sizes⟩
    · intro same again
      cases laid.symm.trans again
      exact values
    · intro error failed
      cases laid.symm.trans failed
  · obtain ⟨setting, fault, written, refuses, refused⟩ := style.layer_of_offends fits offends after
    refine ⟨iff_of_false ?_ fun all => all entry (by simp) offends, ?_, ?_,
      style.layer_append _, sizes⟩
    · rintro ⟨result, laid⟩
      cases refused.symm.trans laid
    · intro result laid
      cases refused.symm.trans laid
    · intro error failed
      cases refused.symm.trans failed
      exact ⟨before, after, setting, entry.2, rfl, fits, offends, written, refuses,
        List.prefix_append _ _, refuses.numeralFault?_eq_none_iff⟩

/-- A value that is refused can be too long to be shown: the number has 4302 digits. -/
theorem Style.layer_refusal_cannot_be_shown :
    ∃ error, Style.layer {} [("use_tabs".toList, .integer (Int.ofNat (Nat.pow 16 3572)))] =
      .error error ∧ error.numeralFault? = some .shown := by
  refine ⟨⟨"use_tabs".toList, .notBoolean (.integer (Int.ofNat (Nat.pow 16 3572)))⟩, rfl, ?_⟩
  decide +kernel

end ModuleGrammar
