/-
# Reading the arguments

Options that set the layout may be spelled in many ways, and reading them comes to the same
as taking them one after the other. They leave all other options alone and look at none of
them, so the same layout options mean the same in every command. An option like the one for
checking stays as it was set: the words behind it do not take it back, and no option takes it
for its value.
-/
import Mathlib.Data.List.Basic
import ModuleGrammar.Command.Invocation

namespace ModuleGrammar.Command

/-- The options that set the layout. -/
def Switch.isLayout : Switch → Bool
  | .indentSize | .useTabs | .noNewlineAfterBrackets | .noNewlineBeforeBrackets
  | .noFinalNewline | .noTrimTrailingWhitespace => true
  | _ => false

/-- Arguments that are layout options, in any spelling, and the options that they stand for
with their values. A value stands in the next word or in the word of its option. -/
inductive LayoutFlags : List Text → List (Switch × Text) → Prop
  | nil : LayoutFlags [] []
  | flag {text : Text} {switch : Switch} {short : Bool} {rest : List Text}
      {switches : List (Switch × Text)}
      (spelled : Word.ofText text = .ok (.option switch short none))
      (layout : switch.isLayout = true) (valueless : switch.takesValue = false)
      (flags : LayoutFlags rest switches) : LayoutFlags (text :: rest) ((switch, []) :: switches)
  | nextWord {text value : Text} {switch : Switch} {short : Bool} {rest : List Text}
      {switches : List (Switch × Text)}
      (spelled : Word.ofText text = .ok (.option switch short none))
      (layout : switch.isLayout = true) (valued : switch.takesValue = true)
      (plain : Word.ofText value = .ok (.plain value)) (flags : LayoutFlags rest switches) :
      LayoutFlags (text :: value :: rest) ((switch, value) :: switches)
  | sameWord {text value : Text} {switch : Switch} {short : Bool} {rest : List Text}
      {switches : List (Switch × Text)}
      (spelled : Word.ofText text = .ok (.option switch short (some value)))
      (layout : switch.isLayout = true) (valued : switch.takesValue = true)
      (flags : LayoutFlags rest switches) :
      LayoutFlags (text :: rest) ((switch, value) :: switches)

theorem LayoutFlags.isLayout {flags : List Text} {switches : List (Switch × Text)}
    (layout : LayoutFlags flags switches) : ∀ item ∈ switches, item.1.isLayout = true := by
  induction layout with
  | nil => simp
  | flag _ layout _ _ ih => exact List.forall_mem_cons.mpr ⟨layout, ih⟩
  | nextWord _ layout _ _ _ ih => exact List.forall_mem_cons.mpr ⟨layout, ih⟩
  | sameWord _ layout _ _ ih => exact List.forall_mem_cons.mpr ⟨layout, ih⟩

namespace Options

/-- Options with the layout of other options. -/
def withLayout (options layout : Options) : Options :=
  { layout with
    output := options.output
    config := options.config
    check := options.check
    watch := options.watch
    debug := options.debug }

/-- A layout option looks only at the layout and changes only the layout. -/
theorem take_withLayout {switch : Switch} (isLayout : switch.isLayout = true)
    (options layout : Options) (value : Text) :
    (options.withLayout layout).take switch value =
      (layout.take switch value).map options.withLayout := by
  cases switch with
  | indentSize =>
      rw [take, take, setIndentSize, setIndentSize]
      cases counted value with
      | none => rfl
      | some value =>
          dsimp only
          cases value.readInt? <;> rfl
  | useTabs => rfl
  | noNewlineAfterBrackets => rfl
  | noNewlineBeforeBrackets => rfl
  | noFinalNewline => rfl
  | noTrimTrailingWhitespace => rfl
  | _ => cases isLayout

theorem takeAll_withLayout {switches : List (Switch × Text)}
    (isLayout : ∀ item ∈ switches, item.1.isLayout = true) (options layout : Options) :
    (options.withLayout layout).takeAll switches =
      (layout.takeAll switches).map options.withLayout := by
  induction switches generalizing layout with
  | nil => rfl
  | cons item rest ih =>
      obtain ⟨switch, value⟩ := item
      rw [List.forall_mem_cons] at isLayout
      rw [takeAll, takeAll, take_withLayout isLayout.1]
      cases layout.take switch value with
      | error halt => rfl
      | ok later => exact ih isLayout.2 later

/-- No layout option asks for help. -/
theorem exists_refused_of_takeAll {switches : List (Switch × Text)}
    (isLayout : ∀ item ∈ switches, item.1.isLayout = true) {options : Options} {halt : Halt}
    (halted : options.takeAll switches = .error halt) : ∃ error, halt = .refused error := by
  induction switches generalizing options with
  | nil => cases halted
  | cons item rest ih =>
      obtain ⟨switch, value⟩ := item
      rw [List.forall_mem_cons] at isLayout
      rw [takeAll] at halted
      split at halted
      case h_1 => exact ih isLayout.2 halted
      case h_2 error first =>
        cases halted
        cases switch with
        | indentSize =>
            rw [take, setIndentSize] at first
            split at first
            · cases first
            · split at first <;> cases first
              exact ⟨_, rfl⟩
        | help => cases isLayout.1
        | _ => cases first

end Options

namespace Word

/-- The double hyphen is short for every long option, and so for none. -/
theorem ne_doubleHyphen {text : Text} {word : Word} (read : ofText text = .ok word) :
    text ≠ doubleHyphen := by
  rintro rfl
  have refused : ∃ error, ofText doubleHyphen = .error error := ⟨_, rfl⟩
  obtain ⟨error, refused⟩ := refused
  rw [refused] at read
  cases read

theorem ofTexts_cons {text : Text} {word : Word} (read : ofText text = .ok word)
    (rest : List Text) : ofTexts (text :: rest) = (ofTexts rest).map (word :: ·) := by
  rw [ofTexts, if_neg (ne_doubleHyphen read), read]
  cases ofTexts rest <;> rfl

theorem ofText_of_head {text : Text} (first : text.head? ≠ some '-') :
    ofText text = .ok (.plain text) := by
  have other : (text.head? != some '-') = true := by simpa using first
  rw [ofText, other]
  rfl

end Word

namespace Reading

/-- An option whose value does not stand in the next word. -/
theorem readWords_option {switch : Switch} {short : Bool} {value : Option Text} {rest : List Word}
    {switches : List (Switch × Text)}
    (cluster : Cluster.ofWord switch short value rest.head? = .ok (switches, false))
    (reading : Reading) :
    reading.readWords (.option switch short value :: rest) =
      match reading.options.takeAll switches with
      | .error halt => .error halt
      | .ok options => readWords { reading with options } rest := by
  cases taken : reading.options.takeAll switches with
  | error halt => simp only [readWords, cluster, taken]
  | ok options => simp only [readWords, cluster, taken]

/-- An option whose value stands in the next word. -/
theorem readWords_option_plain {switch : Switch} {short : Bool} {value : Text}
    {switches : List (Switch × Text)} {rest : List Word}
    (cluster : Cluster.ofWord switch short none (some (.plain value)) = .ok (switches, true))
    (reading : Reading) :
    reading.readWords (.option switch short none :: .plain value :: rest) =
      match reading.options.takeAll switches with
      | .error halt => .error halt
      | .ok options => readWords { reading with options } rest := by
  cases taken : reading.options.takeAll switches with
  | error halt => simp only [readWords, List.head?_cons, cluster, taken]
  | ok options => simp only [readWords, List.head?_cons, cluster, taken]

/-- The first plain word is the input. -/
theorem readWords_plain {reading : Reading} (missing : reading.input = none) (text : Text)
    {rest : List Word} (next : rest.head? ≠ some .separator) :
    reading.readWords (.plain text :: rest) =
      readWords { reading with input := some text } rest := by
  rw [readWords, missing, if_neg (by simp)]
  rintro after rfl
  exact next rfl

end Reading

/-- Reading layout options comes to the same as taking them. -/
theorem LayoutFlags.exists_words {flags : List Text} {switches : List (Switch × Text)}
    (layout : LayoutFlags flags switches) :
    ∃ words, Word.ofTexts flags = .ok words ∧ words.head? ≠ some .separator ∧
      ∀ reading : Reading, reading.readWords words =
        (reading.options.takeAll switches).map fun options => { reading with options } := by
  -- What one option leaves to the words behind it.
  have step {words : List Word} {switches : List (Switch × Text)} {switch : Switch} {value : Text}
      (taken : ∀ reading : Reading, reading.readWords words =
        (reading.options.takeAll switches).map fun options => { reading with options })
      (reading : Reading) :
      (match reading.options.takeAll [(switch, value)] with
        | .error halt => .error halt
        | .ok options => Reading.readWords { reading with options } words) =
      (reading.options.takeAll ((switch, value) :: switches)).map
        fun options => { reading with options } := by
    rw [Options.takeAll, Options.takeAll]
    cases reading.options.take switch value with
    | error halt => rfl
    | ok options => exact taken { reading with options }
  induction layout with
  | nil => exact ⟨[], rfl, by simp, fun reading => rfl⟩
  | @flag _ switch short _ _ spelled layout valueless flags ih =>
      obtain ⟨words, read, -, taken⟩ := ih
      have cluster : Cluster.ofWord switch short none words.head? =
          .ok ([(switch, [])], false) := by
        simp [Cluster.ofWord, Cluster.single, valueless]
      refine ⟨_, by rw [Word.ofTexts_cons spelled, read]; rfl, by simp, fun reading => ?_⟩
      rw [Reading.readWords_option cluster]
      exact step taken reading
  | @nextWord _ value switch short _ _ spelled layout valued plain flags ih =>
      obtain ⟨words, read, -, taken⟩ := ih
      have cluster : Cluster.ofWord switch short none (some (.plain value)) =
          .ok ([(switch, value)], true) := by
        simp [Cluster.ofWord, Cluster.single, valued]
      refine ⟨_, by rw [Word.ofTexts_cons spelled, Word.ofTexts_cons plain, read]; rfl, by simp,
        fun reading => ?_⟩
      rw [Reading.readWords_option_plain cluster]
      exact step taken reading
  | @sameWord _ value switch short _ _ spelled layout valued flags ih =>
      obtain ⟨words, read, -, taken⟩ := ih
      have cluster : Cluster.ofWord switch short (some value) words.head? =
          .ok ([(switch, value)], false) := by
        simp [Cluster.ofWord, valued]
      refine ⟨_, by rw [Word.ofTexts_cons spelled, read]; rfl, by simp, fun reading => ?_⟩
      rw [Reading.readWords_option cluster]
      exact step taken reading

/-- What is read behind the input, if all the rest is layout options. -/
theorem LayoutFlags.finish_readWords {flags : List Text} {switches : List (Switch × Text)}
    (layout : LayoutFlags flags switches) (input : Text) (options : Options) {words : List Word}
    (taken : ∀ reading : Reading, reading.readWords words =
      (reading.options.takeAll switches).map fun options => { reading with options }) :
    (match Reading.readWords ⟨some input, [], options.withLayout {}⟩ words with
      | .error halt => .error halt
      | .ok reading => reading.finish) =
      (({} : Options).takeAll switches).map fun layout =>
        (⟨input, options.withLayout layout⟩ : Invocation) := by
  rw [taken, Options.takeAll_withLayout layout.isLayout]
  cases ({} : Options).takeAll switches <;> rfl

namespace Invocation

variable {flags : List Text} {switches : List (Switch × Text)}

/-- A command that writes: its input, its output and layout options. -/
theorem ofArguments_write (layout : LayoutFlags flags switches) {input output : Text}
    (plain : Word.ofText input = .ok (.plain input)) (first : output.head? ≠ some '-') :
    ofArguments (input :: "-o".toList :: output :: flags) =
      (({} : Options).takeAll switches).map fun layout =>
        ⟨input, ({ output := some output } : Options).withLayout layout⟩ := by
  obtain ⟨words, read, -, taken⟩ := layout.exists_words
  have option : Word.ofText "-o".toList = .ok (.option .output true none) := rfl
  have texts : Word.ofTexts (input :: "-o".toList :: output :: flags) =
      .ok (.plain input :: .option .output true none :: .plain output :: words) := by
    rw [Word.ofTexts_cons plain, Word.ofTexts_cons option,
      Word.ofTexts_cons (Word.ofText_of_head first), read]
    rfl
  have counted : Options.counted output = some output := by
    rw [Options.counted, if_neg]
    rintro rfl
    exact first rfl
  have cluster : Cluster.ofWord .output true none (some (.plain output)) =
      .ok ([(.output, output)], true) := rfl
  rw [ofArguments, texts]
  dsimp only
  rw [Reading.readWords_plain rfl input (by simp), Reading.readWords_option_plain cluster,
    Options.takeAll, Options.take, counted]
  exact layout.finish_readWords input { output := some output } taken

/-- A command that checks a file. -/
theorem ofArguments_check (layout : LayoutFlags flags switches) {file : Text}
    (first : file.head? ≠ some '-') :
    ofArguments ("--check".toList :: file :: flags) =
      (({} : Options).takeAll switches).map fun layout =>
        ⟨file, ({ check := true } : Options).withLayout layout⟩ := by
  obtain ⟨words, read, next, taken⟩ := layout.exists_words
  have option : Word.ofText "--check".toList = .ok (.option .check false none) := rfl
  have texts : Word.ofTexts ("--check".toList :: file :: flags) =
      .ok (.option .check false none :: .plain file :: words) := by
    rw [Word.ofTexts_cons option, Word.ofTexts_cons (Word.ofText_of_head first), read]
    rfl
  have cluster : Cluster.ofWord .check false none (some (.plain file)) =
      .ok ([(.check, [])], false) := rfl
  rw [ofArguments, texts]
  dsimp only
  rw [Reading.readWords_option cluster, Options.takeAll, Options.take]
  dsimp only
  rw [Options.takeAll]
  dsimp only
  rw [Reading.readWords_plain rfl file next]
  exact layout.finish_readWords file { check := true } taken

end Invocation

/-- A word in front of the double hyphen is read on its own. -/
theorem Word.mem_of_ofTexts {arguments : List Text} {words : List Word}
    (read : ofTexts arguments = .ok words) {text : Text}
    (member : text ∈ arguments.takeWhile (· != doubleHyphen)) {word : Word}
    (spelled : ofText text = .ok word) : word ∈ words := by
  induction arguments generalizing words with
  | nil => cases member
  | cons first rest ih =>
      by_cases separator : first = doubleHyphen
      · simp [separator] at member
      · rw [List.takeWhile_cons_of_pos (by simpa using separator), List.mem_cons] at member
        rw [ofTexts, if_neg separator] at read
        split at read
        case h_1 => cases read
        case h_2 head here =>
          split at read
          case h_1 => cases read
          case h_2 tail later =>
            cases read
            rcases member with rfl | member
            · rw [spelled] at here
              cases here
              exact List.mem_cons_self
            · exact List.mem_cons_of_mem _ (ih later member)

/-- Only a plain word is the value of an option. -/
theorem Cluster.exists_plain_of_single {switch : Switch} {next : Option Word}
    {switches : List (Switch × Text)} (cluster : single switch next = .ok (switches, true)) :
    ∃ text, next = some (.plain text) := by
  rw [single.eq_def] at cluster
  split at cluster
  · split at cluster
    · exact ⟨_, rfl⟩
    · cases cluster
  · cases cluster

theorem Cluster.exists_plain_of_short {next : Option Word} {switch : Switch} {text : Text}
    {switches : List (Switch × Text)} (cluster : short next switch text = .ok (switches, true)) :
    ∃ value, next = some (.plain value) := by
  fun_induction short next switch text generalizing switches with
  | case1 switch => exact exists_plain_of_single cluster
  | case2 => cases cluster
  | case3 => cases cluster
  | case4 => cases cluster
  | case5 switch c rest valueless other known switches usesNext later ih =>
      cases cluster
      exact ih later

theorem Cluster.exists_plain_of_ofWord {switch : Switch} {short : Bool} {value : Option Text}
    {next : Option Word} {switches : List (Switch × Text)}
    (cluster : ofWord switch short value next = .ok (switches, true)) :
    ∃ text, next = some (.plain text) := by
  rw [ofWord.eq_def] at cluster
  split at cluster
  · exact exists_plain_of_single cluster
  · split at cluster
    · cases cluster
    · split at cluster
      · exact exists_plain_of_short cluster
      · cases cluster

theorem Options.check_of_take {options later : Options} {switch : Switch} {value : Text}
    (taken : options.take switch value = .ok later)
    (was : options.check = true ∨ switch = .check) : later.check = true := by
  cases switch with
  | check => cases taken; rfl
  | indentSize =>
      rw [take, setIndentSize] at taken
      split at taken
      · cases taken
        simpa using was
      · split at taken
        · cases taken
          simpa using was
        · cases taken
  | help => cases taken
  | _ =>
    cases taken
    simpa using was

theorem Options.check_of_takeAll {options later : Options} {switches : List (Switch × Text)}
    (taken : options.takeAll switches = .ok later)
    (was : options.check = true ∨ (.check, []) ∈ switches) : later.check = true := by
  induction switches generalizing options with
  | nil =>
      cases taken
      simpa using was
  | cons item rest ih =>
      rw [takeAll] at taken
      split at taken
      case h_1 next first =>
        apply ih taken
        rcases was with set | member
        · exact .inl (check_of_take first (.inl set))
        · rcases List.mem_cons.mp member with rfl | member
          · exact .inl (check_of_take first (.inr rfl))
          · exact .inr member
      case h_2 => cases taken

/-- The option for checking is taken from its own word. -/
theorem Options.check_of_ofWord {options later : Options} {switch : Switch} {short : Bool}
    {value : Option Text} {next : Option Word} {switches : List (Switch × Text)} {usesNext : Bool}
    (cluster : Cluster.ofWord switch short value next = .ok (switches, usesNext))
    (taken : options.takeAll switches = .ok later)
    (was : options.check = true ∨ switch = .check ∧ value = none) : later.check = true := by
  rcases was with set | ⟨rfl, rfl⟩
  · exact check_of_takeAll taken (.inl set)
  · cases cluster
    exact check_of_takeAll taken (.inr List.mem_cons_self)

/-- The option for checking is neither taken back nor taken for a value. -/
theorem Reading.check_of_readWords {reading result : Reading} {words : List Word}
    (read : reading.readWords words = .ok result) {short : Bool}
    (was : reading.options.check = true ∨ .option .check short none ∈ words) :
    result.options.check = true := by
  fun_induction Reading.readWords reading words with
  | case1 reading =>
      cases read
      simpa using was
  | case2 reading text rest found ih => exact ih read (by simpa [addExtra] using was)
  | case3 reading text missing rest ih => exact ih read (by simpa using was)
  | case4 reading text missing rest next ih => exact ih read (by simpa using was)
  | case5 reading rest found ih => exact ih read (by simpa [addExtra] using was)
  | case6 reading missing text rest ih => exact ih read (by simpa using was)
  | case7 reading missing rest next ih => exact ih read (by simpa [addExtra] using was)
  | case8 reading text rest ih => exact ih read (by simpa [addExtra] using was)
  | case9 => cases read
  | case10 => cases read
  | case11 reading switch short' value switches options taken head rest cluster ih =>
      -- The word that is dropped is the value of an option, and so no option.
      obtain ⟨text, plain⟩ := Cluster.exists_plain_of_ofWord cluster
      obtain rfl : head = .plain text := by simpa using plain
      apply ih read
      rcases was with set | member
      · exact .inl (Options.check_of_ofWord cluster taken (.inl set))
      · simp only [List.mem_cons, reduceCtorEq, false_or] at member
        rcases member with here | member
        · cases here
          exact .inl (Options.check_of_ofWord cluster taken (.inr ⟨rfl, rfl⟩))
        · exact .inr member
  | case12 reading switch short' value switches usesNext options taken rest unused cluster ih =>
      apply ih read
      rcases was with set | member
      · exact .inl (Options.check_of_ofWord cluster taken (.inl set))
      · rcases List.mem_cons.mp member with here | member
        · cases here
          exact .inl (Options.check_of_ofWord cluster taken (.inr ⟨rfl, rfl⟩))
        · exact .inr member

/-- A word for checking in front of any double hyphen asks for a check, whatever stands
beside it. -/
theorem Invocation.check_of_mem {arguments : List Text} {invocation : Invocation}
    (accepted : ofArguments arguments = .ok invocation) {text : Text}
    (member : text ∈ arguments.takeWhile (· != Word.doubleHyphen)) {short : Bool}
    (spelled : Word.ofText text = .ok (.option .check short none)) :
    invocation.options.check = true := by
  rw [ofArguments] at accepted
  split at accepted
  case h_1 => cases accepted
  case h_2 words texts =>
    split at accepted
    case h_1 => cases accepted
    case h_2 reading read =>
      have asked := Reading.check_of_readWords read
        (.inr (Word.mem_of_ofTexts texts member spelled))
      rw [Reading.finish.eq_def] at accepted
      split at accepted
      · cases accepted
      · cases accepted
        exact asked
      · cases accepted

end ModuleGrammar.Command
