/-
# Reading the arguments

The arguments are read in two passes. The first one tells options from other
words; long options may be shortened as long as no second one fits. The second
pass goes from left to right, gives the options their values and stops at a
request for help or at the first error.
-/
import ModuleGrammar.Text.Numeral
import ModuleGrammar.Setting.Value
import ModuleGrammar.Command.Usage

namespace ModuleGrammar.Command

/-- A word of the arguments. -/
inductive Word
  /-- A word that is no option. -/
  | plain (text : Text)
  /-- The double hyphen, behind which no word is an option. -/
  | separator
  /-- An option, possibly shortened, with a value that was written in the same
  word. A short spelling has one hyphen. -/
  | option (switch : Switch) (short : Bool) (value : Option Text)
  /-- A word that looks like an option but is none. -/
  | unknown (text : Text)
  deriving DecidableEq, Repr

namespace Word

/-- The double hyphen. -/
def doubleHyphen : Text := ['-', '-']

/-- Whether a spelling has only one hyphen. -/
def isShort (spelling : Text) : Bool :=
  !doubleHyphen.isPrefixOf spelling

/-- Whether a text has a character and all its characters are decimal digits of
some script. -/
def isDigitRun (text : Text) : Bool :=
  !text.isEmpty && text.all fun c => (decimalDigit? c).isSome

/-- Whether a word is a negative number, which is no option. A newline at the end
does not count. -/
def isNegativeNumber : Text → Bool
  | '-' :: rest =>
    let body : Text := if rest.getLast? = some '\n' then rest.dropLast else rest
    isDigitRun body ||
      match body.divide? '.' with
      | none => false
      | some (whole, part) => (whole.isEmpty || isDigitRun whole) && isDigitRun part
  | _ => false

/-- The options that a word may be short for, with the spellings that fit and the
value that is written in the word. A word with one hyphen is a short option
followed by its value. -/
def candidates (text : Text) : List (Text × Switch × Option Text) :=
  match text with
  | '-' :: '-' :: _ =>
    let (name, value) :=
      match text.divide? '=' with
      | none => (text, none)
      | some (name, value) => (name, some value)
    (Switch.dictionary.filter fun (spelling, _) => name.isPrefixOf spelling).map
      fun (spelling, switch) => (spelling, switch, value)
  | '-' :: c :: rest =>
    (Switch.dictionary.filter fun (spelling, _) => spelling == ['-', c]).map
      fun (spelling, switch) => (spelling, switch, some rest)
  | _ => []

/-- The option whose spelling stands in front of an equals sign. -/
def withValue? (text : Text) : Option Word := do
  let (name, value) ← text.divide? '='
  let switch ← Switch.ofSpelling? name
  return .option switch (isShort name) (some value)

/-- Read a word with a hyphen at its start that is no complete option. -/
def ofIncomplete (text : Text) : Except UsageError Word :=
  match candidates text with
  | [(spelling, switch, value)] => .ok (.option switch (isShort spelling) value)
  | [] =>
    if isNegativeNumber text || text.contains ' ' then .ok (.plain text)
    else .ok (.unknown text)
  | several => .error (.ambiguous text (several.map (·.1)))

/-- Read a word. -/
def ofText (text : Text) : Except UsageError Word :=
  if text.head? != some '-' || text.length == 1 then .ok (.plain text)
  else
    match Switch.ofSpelling? text with
    | some switch => .ok (.option switch (isShort text) none)
    | none =>
      match withValue? text with
      | some word => .ok word
      | none => ofIncomplete text

/-- Read all words. -/
def ofTexts : List Text → Except UsageError (List Word)
  | [] => .ok []
  | text :: rest =>
    if text = doubleHyphen then .ok (.separator :: rest.map .plain)
    else
      match ofText text with
      | .error error => .error error
      | .ok word =>
        match ofTexts rest with
        | .error error => .error error
        | .ok words => .ok (word :: words)

end Word

/-- The options that were given, with their values. -/
structure Options where
  output : Option Text := none
  config : Option Text := none
  indentSize : Option Value := none
  useTabs : Bool := false
  noNewlineAfterBrackets : Bool := false
  noNewlineBeforeBrackets : Bool := false
  noFinalNewline : Bool := false
  noTrimTrailingWhitespace : Bool := false
  check : Bool := false
  watch : Bool := false
  debug : Bool := false
  deriving Repr

/-- A complete and correct list of arguments. -/
structure Invocation where
  input : Text
  options : Options
  deriving Repr

/-- Why there is nothing to do for some arguments. -/
inductive Halt
  | help
  | refused (error : UsageError)
  deriving DecidableEq, Repr

namespace Options

/-- A value that is a double hyphen does not count. -/
def counted (value : Text) : Option Text :=
  if value = Word.doubleHyphen then none else some value

/-- Set the indentation. -/
def setIndentSize (options : Options) (value : Text) : Except Halt Options :=
  match counted value with
  | none => .ok { options with indentSize := some (.list []) }
  | some value =>
    match value.readInt? with
    | some number => .ok { options with indentSize := some (.integer number) }
    | none => .error (.refused (.invalidInteger .indentSize value))

/-- Take an option with its value. Of a repeated option the last one counts. -/
def take (options : Options) (switch : Switch) (value : Text) : Except Halt Options :=
  match switch with
  | .help => .error .help
  | .output => .ok { options with output := counted value }
  | .config => .ok { options with config := counted value }
  | .indentSize => options.setIndentSize value
  | .useTabs => .ok { options with useTabs := true }
  | .noNewlineAfterBrackets => .ok { options with noNewlineAfterBrackets := true }
  | .noNewlineBeforeBrackets => .ok { options with noNewlineBeforeBrackets := true }
  | .noFinalNewline => .ok { options with noFinalNewline := true }
  | .noTrimTrailingWhitespace => .ok { options with noTrimTrailingWhitespace := true }
  | .check => .ok { options with check := true }
  | .watch => .ok { options with watch := true }
  | .debug => .ok { options with debug := true }

/-- Take several options, one after the other. -/
def takeAll (options : Options) : List (Switch × Text) → Except Halt Options
  | [] => .ok options
  | (switch, value) :: rest =>
    match options.take switch value with
    | .ok options => options.takeAll rest
    | .error halt => .error halt

end Options

/-- The options of one word, and whether the next word is the value of the last of
them. -/
abbrev Cluster := List (Switch × Text) × Bool

namespace Cluster

/-- An option without a value in its own word. -/
def single (switch : Switch) (next : Option Word) : Except UsageError Cluster :=
  if switch.takesValue then
    match next with
    | some (.plain value) => .ok ([(switch, value)], true)
    | _ => .error (.missingValue switch)
  else .ok ([(switch, [])], false)

/-- A short option and the rest of its word: its value if it takes one, and more
short options otherwise. -/
def short (next : Option Word) (switch : Switch) : Text → Except UsageError Cluster
  | [] => single switch next
  | c :: rest =>
    if switch.takesValue then .ok ([(switch, c :: rest)], false)
    else
      match Switch.ofSpelling? ['-', c] with
      | none => .error (.ignoredValue switch (c :: rest))
      | some other =>
        match short next other rest with
        | .error error => .error error
        | .ok (switches, usesNext) => .ok ((switch, []) :: switches, usesNext)

/-- The options of a word. -/
def ofWord (switch : Switch) (isShort : Bool) (value : Option Text) (next : Option Word) :
    Except UsageError Cluster :=
  match value with
  | none => single switch next
  | some value =>
    if switch.takesValue then .ok ([(switch, value)], false)
    else if isShort && !value.isEmpty then short next switch value
    else .error (.ignoredValue switch value)

end Cluster

/-- What was read of the arguments so far. -/
structure Reading where
  input : Option Text
  extras : List Text
  options : Options
  deriving Repr

namespace Reading

/-- Nothing was read. -/
def initial : Reading :=
  ⟨none, [], {}⟩

/-- Set aside a word that belongs to nothing. -/
def addExtra (reading : Reading) (text : Text) : Reading :=
  { reading with extras := reading.extras ++ [text] }

/-- Read words from left to right. The first word that is no option is the input;
a separator next to it counts as nothing. -/
def readWords (reading : Reading) : List Word → Except Halt Reading
  | [] => .ok reading
  | .plain text :: rest =>
    if reading.input.isSome then (reading.addExtra text).readWords rest
    else
      match rest with
      | .separator :: rest => readWords { reading with input := some text } rest
      | rest => readWords { reading with input := some text } rest
  | .separator :: rest =>
    if reading.input.isSome then (reading.addExtra Word.doubleHyphen).readWords rest
    else
      match rest with
      | .plain text :: rest => readWords { reading with input := some text } rest
      | rest => (reading.addExtra Word.doubleHyphen).readWords rest
  | .unknown text :: rest => (reading.addExtra text).readWords rest
  | .option switch isShort value :: rest =>
    match Cluster.ofWord switch isShort value rest.head? with
    | .error error => .error (.refused error)
    | .ok (switches, usesNext) =>
      match reading.options.takeAll switches with
      | .error halt => .error halt
      | .ok options =>
        match usesNext, rest with
        | true, _ :: rest => readWords { reading with options } rest
        | _, rest => readWords { reading with options } rest

/-- The invocation, if there is an input and nothing was set aside. -/
def finish (reading : Reading) : Except Halt Invocation :=
  match reading.input, reading.extras with
  | none, _ => .error (.refused .missingInput)
  | some input, [] => .ok ⟨input, reading.options⟩
  | some _, extras => .error (.refused (.unrecognized extras))

end Reading

/-- Read the arguments. -/
def Invocation.ofArguments (arguments : List Text) : Except Halt Invocation :=
  match Word.ofTexts arguments with
  | .error error => .error (.refused error)
  | .ok words =>
    match Reading.initial.readWords words with
    | .error halt => .error halt
    | .ok reading => reading.finish

end ModuleGrammar.Command
