/-
# Layers of settings

A table of settings is a layer over a style: it replaces the settings that it
names and keeps all others. A key may be written in two ways, with underscores
or with capitals; unknown keys are ignored. Of two entries for one setting the
later one counts. A value that a setting cannot take refuses the whole layer.
-/
import ModuleGrammar.Style
import ModuleGrammar.Setting.Value

namespace ModuleGrammar

/-- The settings that are numbers. -/
inductive SizeSetting
  | indentSize
  | maxLineLength
  deriving DecidableEq, Repr

/-- The settings that are on or off. -/
inductive FlagSetting
  | useTabs
  | insertNewlineAfterBrackets
  | insertNewlineBeforeBrackets
  | insertFinalNewline
  | trimTrailingWhitespace
  | enabled
  | formatOnSave
  deriving DecidableEq, Repr

/-- A setting of a style. -/
inductive Setting
  | size (setting : SizeSetting)
  | flag (setting : FlagSetting)
  deriving DecidableEq, Repr

namespace Setting

/-- The keys of the settings. -/
def keys : List (Text × Setting) :=
  [("indent_size".toList, .size .indentSize),
    ("indentSize".toList, .size .indentSize),
    ("use_tabs".toList, .flag .useTabs),
    ("useTabs".toList, .flag .useTabs),
    ("insert_newline_after_brackets".toList, .flag .insertNewlineAfterBrackets),
    ("insertNewlineAfterBrackets".toList, .flag .insertNewlineAfterBrackets),
    ("insert_newline_before_brackets".toList, .flag .insertNewlineBeforeBrackets),
    ("insertNewlineBeforeBrackets".toList, .flag .insertNewlineBeforeBrackets),
    ("insert_final_newline".toList, .flag .insertFinalNewline),
    ("insertFinalNewline".toList, .flag .insertFinalNewline),
    ("trim_trailing_whitespace".toList, .flag .trimTrailingWhitespace),
    ("trimTrailingWhitespace".toList, .flag .trimTrailingWhitespace),
    ("max_line_length".toList, .size .maxLineLength),
    ("maxLineLength".toList, .size .maxLineLength),
    ("enabled".toList, .flag .enabled),
    ("format_on_save".toList, .flag .formatOnSave),
    ("formatOnSave".toList, .flag .formatOnSave)]

/-- The setting that a key names. -/
def ofKey? (key : Text) : Option Setting :=
  keys.lookup key

end Setting

/-- Why a setting cannot take a value. -/
inductive SettingFault
  | notInteger (value : Value)
  | notBoolean (value : Value)
  | negative (number : Int)
  deriving Repr

/-- A value that the setting behind a key cannot take. -/
structure SettingError where
  key : Text
  fault : SettingFault
  deriving Repr

/-- The words for a fault. -/
def SettingFault.message : SettingFault → Text
  | .notInteger value => "expected an integer, got ".toList ++ value.text
  | .notBoolean value => "expected true or false, got ".toList ++ value.text
  | .negative number => "must not be negative, got ".toList ++ Text.ofInt number

/-- The message for an option that cannot be used. -/
def invalidOption (key detail : Text) : Text :=
  "invalid option '".toList ++ key ++ "': ".toList ++ detail

/-- Whether the value that a fault is about can be shown. -/
def SettingFault.isShowable : SettingFault → Bool
  | .notInteger value | .notBoolean value => value.isShowable
  | .negative number => Text.isShowable number

/-- The message of a refused layer. -/
def SettingError.message (error : SettingError) : Text :=
  invalidOption error.key error.fault.message

/-- The fault that takes the place of a message that cannot be shown. -/
def SettingError.numeralFault? (error : SettingError) : Option NumeralFault :=
  if error.fault.isShowable then none else some .shown

namespace Style

/-- Replace a number. -/
def setSize (style : Style) (number : Int) : SizeSetting → Style
  | .indentSize => { style with indentSize := number }
  | .maxLineLength => { style with maxLineLength := number }

/-- Replace a flag. -/
def setFlag (style : Style) (truth : Bool) : FlagSetting → Style
  | .useTabs => { style with useTabs := truth }
  | .insertNewlineAfterBrackets => { style with insertNewlineAfterBrackets := truth }
  | .insertNewlineBeforeBrackets => { style with insertNewlineBeforeBrackets := truth }
  | .insertFinalNewline => { style with insertFinalNewline := truth }
  | .trimTrailingWhitespace => { style with trimTrailingWhitespace := truth }
  | .enabled => { style with enabled := truth }
  | .formatOnSave => { style with formatOnSave := truth }

/-- Replace the setting that a key names. -/
def assign (style : Style) (key : Text) (value : Value) : Except SettingError Style :=
  match Setting.ofKey? key, value with
  | none, _ => .ok style
  | some (.size setting), .integer number =>
    if number < 0 then .error ⟨key, .negative number⟩ else .ok (style.setSize number setting)
  | some (.size _), value => .error ⟨key, .notInteger value⟩
  | some (.flag setting), .boolean truth => .ok (style.setFlag truth setting)
  | some (.flag _), value => .error ⟨key, .notBoolean value⟩

/-- Put a table of settings over a style. -/
def layer (style : Style) : Table → Except SettingError Style
  | [] => .ok style
  | (key, value) :: table =>
    match style.assign key value with
    | .ok style => style.layer table
    | .error error => .error error

end Style

end ModuleGrammar
