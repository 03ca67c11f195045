/-
# Which source decides a setting

A style has three sources: the options of the command, the table `format` of the configuration
file and the default style. The table is a layer over the default style and the options are a layer
over that, which comes to one layer of all entries in a row. So an option that was given decides its
setting, without one the last entry of the table does, and without an entry the default. The options
decide six of the settings. Of these only the size of the indentation can be refused, and only after
the whole table was taken.

The options stand in the words of the arguments. Reading the words comes to the same as taking the
options in them one after the other, so the last option for a setting is the one that is given.
-/
import ModuleGrammar.Proofs.Layering
import ModuleGrammar.Proofs.Request

namespace ModuleGrammar.Command

/-! ## Options that were given -/

/-- The value that the options give to a setting. -/
def Options.given? (options : Options) : Setting → Option Value
  | .size .indentSize => options.indentSize
  | .flag .useTabs => if options.useTabs then some (.boolean true) else none
  | .flag .insertNewlineAfterBrackets =>
    if options.noNewlineAfterBrackets then some (.boolean false) else none
  | .flag .insertNewlineBeforeBrackets =>
    if options.noNewlineBeforeBrackets then some (.boolean false) else none
  | .flag .insertFinalNewline => if options.noFinalNewline then some (.boolean false) else none
  | .flag .trimTrailingWhitespace =>
    if options.noTrimTrailingWhitespace then some (.boolean false) else none
  | .size .maxLineLength | .flag .enabled | .flag .formatOnSave => none

/-- The entry that an option is in a table of settings. -/
def Switch.assignment? : Switch → Text → Option (Text × Value)
  | .indentSize, text =>
    match Options.counted text with
    | none => some (Setting.name (.size .indentSize), .list [])
    | some digits =>
      digits.readInt?.map fun number => (Setting.name (.size .indentSize), .integer number)
  | .useTabs, _ => some (Setting.name (.flag .useTabs), .boolean true)
  | .noNewlineAfterBrackets, _ =>
    some (Setting.name (.flag .insertNewlineAfterBrackets), .boolean false)
  | .noNewlineBeforeBrackets, _ =>
    some (Setting.name (.flag .insertNewlineBeforeBrackets), .boolean false)
  | .noFinalNewline, _ => some (Setting.name (.flag .insertFinalNewline), .boolean false)
  | .noTrimTrailingWhitespace, _ =>
    some (Setting.name (.flag .trimTrailingWhitespace), .boolean false)
  | _, _ => none

/-- The settings that options decide, as a table. -/
def Switch.layer (switches : List (Switch × Text)) : Table :=
  switches.flatMap fun item => (item.1.assignment? item.2).toList

theorem Switch.layer_cons (switch : Switch) (text : Text) (rest : List (Switch × Text)) :
    layer ((switch, text) :: rest) = (switch.assignment? text).toList ++ layer rest :=
  List.flatMap_cons

/-- The options in words, each with its value. The value may be the next word, which is a plain one
then and holds no option. -/
def Word.switches : List Word → List (Switch × Text)
  | [] => []
  | .option switch isShort value :: rest =>
    match Cluster.ofWord switch isShort value rest.head? with
    | .ok cluster => cluster.1 ++ switches rest
    | .error _ => []
  | _ :: rest => switches rest

/-- An entry with the name of a setting is for this setting only. -/
theorem given?_named (setting other : Setting) (value : Value) :
    setting.given? [(other.name, value)] = if setting = other then some value else none := by
  have named : other.name ∈ other.aliases := List.mem_cons_self
  rw [Setting.given?_cons]
  simp only [Setting.mem_aliases_iff named]
  rfl

namespace Options

/-- An option that is taken decides its setting and leaves the others as they were. -/
theorem given?_take {options later : Options} {switch : Switch} {text : Text}
    (taken : options.take switch text = .ok later) (setting : Setting) :
    later.given? setting =
      (setting.given? (switch.assignment? text).toList).or (options.given? setting) := by
  cases switch with
  | help => cases taken
  | indentSize =>
      rw [take, setIndentSize] at taken
      rw [Switch.assignment?]
      cases kept : counted text with
      | none =>
          rw [kept] at taken
          cases taken
          dsimp only
          rw [Option.toList_some, given?_named]
          rcases setting with setting | setting <;> cases setting <;> rfl
      | some digits =>
          rw [kept] at taken
          dsimp only at taken ⊢
          cases read : digits.readInt? with
          | none =>
              rw [read] at taken
              cases taken
          | some number =>
              rw [read] at taken
              cases taken
              rw [Option.map_some, Option.toList_some, given?_named]
              rcases setting with setting | setting <;> cases setting <;> rfl
  | _ =>
      cases taken
      simp only [Switch.assignment?, Option.toList_some, Option.toList_none, given?_named]
      rcases setting with setting | setting <;> cases setting <;> rfl

/-- Of several options for a setting the last one decides. -/
theorem given?_takeAll {options later : Options} {switches : List (Switch × Text)}
    (taken : options.takeAll switches = .ok later) (setting : Setting) :
    later.given? setting =
      (setting.given? (Switch.layer switches)).or (options.given? setting) := by
  induction switches generalizing options with
  | nil =>
      cases taken
      rfl
  | cons item rest ih =>
      obtain ⟨switch, text⟩ := item
      rw [takeAll] at taken
      cases first : options.take switch text with
      | error halt =>
          rw [first] at taken
          cases taken
      | ok next =>
          rw [first] at taken
          rw [ih taken, given?_take first, Switch.layer_cons, Setting.given?_append,
            Option.or_assoc]

theorem takeAll_append {options later : Options} {first : List (Switch × Text)}
    (taken : options.takeAll first = .ok later) (second : List (Switch × Text)) :
    options.takeAll (first ++ second) = later.takeAll second := by
  induction first generalizing options with
  | nil =>
      cases taken
      rfl
  | cons item rest ih =>
      obtain ⟨switch, text⟩ := item
      rw [takeAll] at taken
      rw [List.cons_append, takeAll]
      cases next : options.take switch text with
      | error halt =>
          rw [next] at taken
          cases taken
      | ok middle =>
          rw [next] at taken
          exact ih taken

end Options

theorem Word.switches_option {switch : Switch} {short : Bool} {value : Option Text}
    {rest : List Word} {cluster : Cluster}
    (read : Cluster.ofWord switch short value rest.head? = .ok cluster) :
    switches (.option switch short value :: rest) = cluster.1 ++ switches rest := by
  simp only [switches, read]

/-- Reading words takes the options in them, one after the other. -/
theorem Reading.takeAll_of_readWords {reading result : Reading} {words : List Word}
    (read : reading.readWords words = .ok result) :
    reading.options.takeAll (Word.switches words) = .ok result.options := by
  fun_induction Reading.readWords reading words with
  | case1 reading =>
      cases read
      rfl
  | case2 reading text rest found ih => exact ih read
  | case3 reading text missing rest ih => exact ih read
  | case4 reading text missing rest next ih => exact ih read
  | case5 reading rest found ih => exact ih read
  | case6 reading missing text rest ih => exact ih read
  | case7 reading missing rest next ih => exact ih read
  | case8 reading text rest ih => exact ih read
  | case9 => cases read
  | case10 => cases read
  | case11 reading switch short value switches options taken head rest cluster ih =>
      obtain ⟨text, plain⟩ := Cluster.exists_plain_of_ofWord cluster
      obtain rfl : head = .plain text := by simpa using plain
      rw [Word.switches_option cluster, Options.takeAll_append taken]
      exact ih read
  | case12 reading switch short value switches usesNext options taken rest unused cluster ih =>
      rw [Word.switches_option cluster, Options.takeAll_append taken]
      exact ih read

/-- What the arguments give to a setting is what the last option for it in their words gives. -/
theorem Invocation.given?_of_ofArguments {arguments : List Text} {invocation : Invocation}
    (accepted : ofArguments arguments = .ok invocation) :
    ∃ words, Word.ofTexts arguments = .ok words ∧ ∀ setting,
      invocation.options.given? setting =
        setting.given? (Switch.layer (Word.switches words)) := by
  rw [ofArguments] at accepted
  split at accepted
  case h_1 => cases accepted
  case h_2 words texts =>
    refine ⟨words, texts, fun setting => ?_⟩
    split at accepted
    case h_1 => cases accepted
    case h_2 reading read =>
      have taken := Reading.takeAll_of_readWords read
      have untouched : Reading.initial.options.given? setting = none := by
        rcases setting with setting | setting <;> cases setting <;> rfl
      rw [Reading.finish.eq_def] at accepted
      split at accepted
      · cases accepted
      · cases accepted
        rw [Options.given?_takeAll taken, untouched, Option.or_none]
      · cases accepted

/-! ## The layer of the options -/

namespace Invocation

theorem given?_entryIf (setting : Setting) (other : FlagSetting) {key : String}
    (named : key.toList = Setting.name (.flag other)) (condition truth : Bool) :
    setting.given? (entryIf condition key truth) =
      if setting = .flag other then if condition then some (.boolean truth) else none
      else none := by
  cases condition with
  | false => simp [entryIf, Setting.given?]
  | true => rw [entryIf, if_pos rfl, named, given?_named, if_pos rfl]

theorem given?_optionLayer (options : Options) (setting : Setting) :
    setting.given? (optionLayer options) = options.given? setting := by
  have size : setting.given?
      (options.indentSize.map fun size => ("indent_size".toList, size)).toList =
        if setting = .size .indentSize then options.indentSize else none := by
    cases options.indentSize with
    | none => simp [Setting.given?]
    | some size => exact given?_named setting (.size .indentSize) size
  simp only [optionLayer, Setting.given?_append, size, given?_entryIf setting .useTabs rfl,
    given?_entryIf setting .insertNewlineAfterBrackets rfl,
    given?_entryIf setting .insertNewlineBeforeBrackets rfl,
    given?_entryIf setting .insertFinalNewline rfl,
    given?_entryIf setting .trimTrailingWhitespace rfl]
  rcases setting with setting | setting <;> cases setting <;> simp [Options.given?]

theorem not_offends_of_mem_entryIf (other : FlagSetting) {key : String}
    (named : key.toList = Setting.name (.flag other)) {condition truth : Bool}
    {entry : Text × Value} (member : entry ∈ entryIf condition key truth) : ¬ Offends entry := by
  rw [entryIf] at member
  split at member
  · rw [List.mem_singleton, named] at member
    subst member
    have written : Setting.name (.flag other) ∈ Setting.aliases (.flag other) := List.mem_cons_self
    rw [offends_iff written, not_not]
    exact .flag other truth
  · cases member

/-- Of the options only the size of the indentation can be refused. -/
theorem exists_offends_optionLayer_iff (options : Options) :
    (∃ entry ∈ optionLayer options, Offends entry) ↔
      ∃ size, options.indentSize = some size ∧ ¬ Setting.Takes (.size .indentSize) size := by
  have named : "indent_size".toList ∈ Setting.aliases (.size .indentSize) := List.mem_cons_self
  constructor
  · rintro ⟨entry, member, offends⟩
    simp only [optionLayer, List.mem_append, or_assoc] at member
    rcases member with member | member | member | member | member | member
    · rw [Option.mem_toList, Option.map_eq_some_iff] at member
      obtain ⟨size, given, rfl⟩ := member
      exact ⟨size, given, (offends_iff named).mp offends⟩
    · exact absurd offends (not_offends_of_mem_entryIf .useTabs rfl member)
    · exact absurd offends (not_offends_of_mem_entryIf .insertNewlineAfterBrackets rfl member)
    · exact absurd offends (not_offends_of_mem_entryIf .insertNewlineBeforeBrackets rfl member)
    · exact absurd offends (not_offends_of_mem_entryIf .insertFinalNewline rfl member)
    · exact absurd offends (not_offends_of_mem_entryIf .trimTrailingWhitespace rfl member)
  · rintro ⟨size, given, refused⟩
    refine ⟨("indent_size".toList, size), ?_, (offends_iff named).mpr refused⟩
    simp [optionLayer, given]

/-! ## The style -/

/-- The table and the options are one layer, the options behind the table. -/
theorem resolveStyle_eq (config : Table) (options : Options) :
    resolveStyle config options = Style.layer {} (configLayer config ++ optionLayer options) := by
  rw [resolveStyle, Style.layer_append]
  cases Style.layer {} (configLayer config) <;> rfl

section Resolve

variable {invocation : Invocation} {store : Store} {content : Option Bytes} {config : Table}

theorem resolveWith_of_readConfig (invocation : Invocation)
    (read : readConfig content = .ok config) :
    invocation.resolveWith content =
      ((Style.layer {} (configLayer config ++ optionLayer invocation.options)).mapError
        .setting).map invocation.request := by
  rw [resolveWith, read]
  dsimp only
  rw [resolveStyle_eq]
  cases Style.layer {} (configLayer config ++ optionLayer invocation.options) <;> rfl

/-- The first entry that offends, of the table or of the options, is the one in the error. -/
theorem resolveWith_of_offends (read : readConfig content = .ok config) {before after : Table}
    {entry : Text × Value}
    (entries : configLayer config ++ optionLayer invocation.options = before ++ entry :: after)
    (fits : ∀ earlier ∈ before, ¬ Offends earlier) (offends : Offends entry) :
    ∃ (setting : Setting) (fault : SettingFault), entry.1 ∈ setting.aliases ∧
      setting.Refuses entry.2 fault ∧
      invocation.resolveWith content = .error (.setting ⟨entry.1, fault⟩) := by
  obtain ⟨setting, fault, written, refuses, refused⟩ := Style.layer_of_offends {} fits offends after
  refine ⟨setting, fault, written, refuses, ?_⟩
  rw [resolveWith_of_readConfig invocation read, entries, refused]
  rfl

/-- Without an entry that offends, the options decide first, then the table. -/
theorem resolveWith_of_no_offends (read : readConfig content = .ok config)
    (fits : ∀ entry ∈ configLayer config ++ optionLayer invocation.options, ¬ Offends entry) :
    ∃ style, invocation.resolveWith content = .ok (invocation.request style) ∧
      ∀ setting : Setting, style.value setting =
        ((invocation.options.given? setting).or (setting.given? (configLayer config))).getD
          (Style.value {} setting) := by
  obtain ⟨style, laid, values⟩ := Style.layer_of_no_offends {} fits
  refine ⟨style, ?_, fun setting => ?_⟩
  · rw [resolveWith_of_readConfig invocation read, laid]
    rfl
  · rw [values, Setting.given?_append, given?_optionLayer]

theorem resolveWith_fails_iff (invocation : Invocation) (read : readConfig content = .ok config) :
    (∃ error, invocation.resolveWith content = .error error) ↔
      ∃ entry ∈ configLayer config ++ optionLayer invocation.options, Offends entry := by
  rcases offends_cases (configLayer config ++ optionLayer invocation.options) with
    fits | ⟨before, entry, after, entries, fits, offends⟩
  · obtain ⟨style, resolved, -⟩ := resolveWith_of_no_offends read fits
    refine iff_of_false ?_ ?_
    · rintro ⟨error, failed⟩
      cases resolved.symm.trans failed
    · rintro ⟨entry, member, offends⟩
      exact fits entry member offends
  · obtain ⟨_, _, -, -, failed⟩ := resolveWith_of_offends read entries fits offends
    refine iff_of_true ⟨_, failed⟩ ⟨entry, ?_, offends⟩
    rw [entries]
    exact List.mem_append_right before List.mem_cons_self

theorem resolve_of_configContent (found : invocation.configContent store = .ok content) :
    invocation.resolve store = invocation.resolveWith content := by
  rw [resolve, found]

theorem configFound_of_unread {path : Path} {isFile : Except FileFault Bool} {fault : FileFault}
    (found : configFound path isFile (.error fault) = .ok content) : content = none := by
  cases isFile with
  | error other =>
      rw [configFound] at found
      cases absence : other.meansAbsence with
      | true =>
          rw [absence] at found
          cases found
          rfl
      | false =>
          rw [absence] at found
          cases found
  | ok there =>
      cases there with
      | true => cases found
      | false =>
          cases found
          rfl

/-- A configuration file that cannot be read has no content. -/
theorem content_eq_none (found : invocation.configContent store = .ok content)
    (unread : ∃ fault, store.readFile invocation.configPath = .error fault) : content = none := by
  obtain ⟨fault, failed⟩ := unread
  rw [configContent, failed] at found
  cases null : invocation.configPath.hasNull with
  | true =>
      rw [null] at found
      cases found
      rfl
  | false =>
      rw [null] at found
      exact configFound_of_unread found

/-- A configuration file need not be there. -/
theorem configContent_of_absence
    (absent : invocation.configPath.hasNull = true ∨
      store.isFile invocation.configPath = .ok false ∨
      ∃ fault, store.isFile invocation.configPath = .error fault ∧ fault.meansAbsence = true) :
    invocation.configContent store = .ok none := by
  rw [configContent]
  cases null : invocation.configPath.hasNull with
  | true => rfl
  | false =>
      rw [null] at absent
      rcases absent with contradictory | directory | ⟨fault, missing, absence⟩
      · cases contradictory
      · rw [directory]
        rfl
      · rw [missing]
        simp [configFound, absence]

/-- A content that is not there and an entry that is no table are like an empty table. -/
theorem configLayer_eq_nil (read : readConfig content = .ok config)
    (missing : content = none ∨
      ∀ entries, config.lookup "format".toList ≠ some (.table entries)) :
    configLayer config = [] := by
  rcases missing with rfl | other
  · cases read
    rfl
  · rw [configLayer]
    split
    case h_1 entries isTable => exact absurd isTable (other entries)
    case h_2 => rfl

end Resolve

/-- A style follows its sources. An invocation is refused, whatever the content of its configuration
file, exactly if an entry of the table `format` offends or the options give a size of the
indentation that is negative or no integer. The error names the first entry of the table that
offends, whatever the options are, and it can be shown if the integers in the value of this entry
are short enough. Otherwise every setting has the value that the options give to it, or else the one
of the last entry for it in the table, or else its default. What the options give is what the last
option for the setting in the words of the arguments gives. A file that is not there has no content,
and no content has no entries; neither has one in which `format` is no table. -/
theorem style_follows_precedence {invocation : Invocation} {content : Option Bytes}
    {config : Table} (read : readConfig content = .ok config) :
    ((∃ error, invocation.resolveWith content = .error error) ↔
      (∃ entry ∈ configLayer config, Offends entry) ∨
        ∃ size, invocation.options.indentSize = some size ∧
          ¬ Setting.Takes (.size .indentSize) size) ∧
    (∀ before entry after, configLayer config = before ++ entry :: after →
      (∀ earlier ∈ before, ¬ Offends earlier) → Offends entry →
      ∃ (setting : Setting) (fault : SettingFault), entry.1 ∈ setting.aliases ∧
        setting.Refuses entry.2 fault ∧
        invocation.resolveWith content = .error (.setting ⟨entry.1, fault⟩) ∧
        (entry.2.HasShortNumerals → (ConfigError.setting ⟨entry.1, fault⟩).line =
          .ok ("error: ".toList ++ invalidOption entry.1 fault.message))) ∧
    ((∀ entry ∈ configLayer config, ¬ Offends entry) →
      ∀ size, invocation.options.indentSize = some size →
        ¬ Setting.Takes (.size .indentSize) size →
        ∃ fault, invocation.resolveWith content =
          .error (.setting ⟨"indent_size".toList, fault⟩)) ∧
    (∀ request, invocation.resolveWith content = .ok request → ∀ setting : Setting,
      request.style.value setting =
        ((invocation.options.given? setting).or (setting.given? (configLayer config))).getD
          (Style.value {} setting)) ∧
    (∀ arguments, ofArguments arguments = .ok invocation →
      ∃ words, Word.ofTexts arguments = .ok words ∧ ∀ setting : Setting,
        invocation.options.given? setting =
          setting.given? (Switch.layer (Word.switches words))) ∧
    (∀ store, invocation.configContent store = .ok content →
      invocation.resolve store = invocation.resolveWith content ∧
        ((∃ fault, store.readFile invocation.configPath = .error fault) → content = none)) ∧
    (∀ store, invocation.configPath.hasNull = true ∨
      store.isFile invocation.configPath = .ok false ∨
      (∃ fault, store.isFile invocation.configPath = .error fault ∧ fault.meansAbsence = true) →
      invocation.configContent store = .ok none) ∧
    (content = none ∨ (∀ entries, config.lookup "format".toList ≠ some (.table entries)) →
      configLayer config = []) := by
  refine ⟨?_, ?_, ?_, ?_, fun arguments => given?_of_ofArguments, fun store found => ?_,
    fun store => configContent_of_absence, configLayer_eq_nil read⟩
  · rw [resolveWith_fails_iff invocation read, ← exists_offends_optionLayer_iff]
    simp only [List.mem_append, or_and_right, exists_or]
  · intro before entry after table fits offends
    have entries : configLayer config ++ optionLayer invocation.options =
        before ++ entry :: (after ++ optionLayer invocation.options) := by
      rw [table, List.append_assoc, List.cons_append]
    obtain ⟨setting, fault, written, refuses, failed⟩ :=
      resolveWith_of_offends read entries fits offends
    refine ⟨setting, fault, written, refuses, failed, fun short => ?_⟩
    have shown : SettingError.numeralFault? ⟨entry.1, fault⟩ = none :=
      refuses.numeralFault?_eq_none_iff.mpr short
    rw [ConfigError.line, ConfigError.crash?, shown]
    rfl
  · intro fits size given refused
    have first : ∃ after,
        optionLayer invocation.options = ("indent_size".toList, size) :: after := by
      rw [optionLayer, given]
      exact ⟨_, rfl⟩
    obtain ⟨after, options⟩ := first
    have offends : Offends ("indent_size".toList, size) :=
      ⟨.size .indentSize, List.mem_cons_self, refused⟩
    obtain ⟨_, fault, -, -, failed⟩ :=
      resolveWith_of_offends read (congrArg (configLayer config ++ ·) options) fits offends
    exact ⟨fault, failed⟩
  · intro request resolved setting
    have fits : ∀ entry ∈ configLayer config ++ optionLayer invocation.options,
        ¬ Offends entry := by
      intro entry member offends
      obtain ⟨error, failed⟩ := (resolveWith_fails_iff invocation read).mpr ⟨entry, member, offends⟩
      cases failed.symm.trans resolved
    obtain ⟨style, same, values⟩ := resolveWith_of_no_offends read fits
    cases same.symm.trans resolved
    exact values setting
  · exact ⟨resolve_of_configContent found, content_eq_none found⟩

/-- Three sources: the size comes from the options, the tabs from the file and the length of a line
from the default style. -/
theorem style_follows_precedence_three_sources :
    let written := Utf8.encode "[format]\nindentSize = 4\nuse_tabs = true\n".toList
    let store := Store.empty.put ["work".toList, "pcgfmt.toml".toList] (.file written)
    let invocation : Invocation := ⟨['-'], { indentSize := some (.integer 3) }⟩
    ∃ config style, invocation.configContent store = .ok (some written) ∧
      readConfig (some written) = .ok config ∧
      invocation.resolve store = .ok (invocation.request style) ∧
      style.value (.size .indentSize) = .integer 3 ∧
      style.value (.flag .useTabs) = .boolean true ∧
      (Setting.given? (.flag .useTabs) (configLayer config)).getD (.boolean false) =
        .boolean true ∧
      style.value (.size .maxLineLength) =
        (Setting.given? (.size .maxLineLength) (configLayer config)).getD (.integer 80) := by
  intro written store invocation
  have found : invocation.configContent store = .ok (some written) := rfl
  have resolves : (invocation.resolve store).toOption =
      some (invocation.request { indentSize := 3, useTabs := true }) := by
    decide +kernel
  cases read : readConfig (some written) with
  | error error =>
      rw [resolve, found] at resolves
      simp only [resolveWith, read] at resolves
      cases resolves
  | ok config =>
      cases resolved : invocation.resolve store with
      | error error =>
          rw [resolved] at resolves
          cases resolves
      | ok request =>
          rw [resolved] at resolves
          cases resolves
          obtain ⟨-, -, -, values, -, stores, -⟩ := @style_follows_precedence invocation _ _ read
          have decided := values _ ((stores store found).1.symm.trans resolved)
          exact ⟨config, _, found, rfl, rfl, decided (.size .indentSize), rfl,
            (decided (.flag .useTabs)).symm, decided (.size .maxLineLength)⟩

/-- The value of an option is dropped if it is a double hyphen. A size that was dropped is refused,
although the table is empty and the size is not negative. -/
theorem resolve_refuses_dropped_size :
    ∃ invocation error,
      ofArguments ["-".toList, "--indent-size=--".toList] = .ok invocation ∧
      invocation.configContent Store.empty = .ok none ∧ readConfig none = .ok [] ∧
      (∀ entry ∈ configLayer [], ¬ Offends entry) ∧
      (∀ number, invocation.options.indentSize = some (.integer number) → 0 ≤ number) ∧
      invocation.resolve Store.empty = .error error := by
  have words : Word.ofTexts ["-".toList, "--indent-size=--".toList] =
      .ok [.plain "-".toList, .option .indentSize false (some "--".toList)] := by
    decide +kernel
  have accepted : ofArguments ["-".toList, "--indent-size=--".toList] =
      .ok ⟨['-'], { indentSize := some (.list []) }⟩ := by
    rw [ofArguments, words]
    rfl
  refine ⟨_, .setting ⟨"indent_size".toList, .notInteger (.list [])⟩, accepted, rfl, rfl,
    List.forall_mem_nil _, ?_, rfl⟩
  intro number given
  cases given

end Invocation

end ModuleGrammar.Command
