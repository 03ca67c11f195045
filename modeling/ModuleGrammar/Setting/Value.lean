/-
# Values of settings

A table of settings maps keys to values of many types. A value that a setting
cannot take is shown in a message, so every value has a text. A value with an
integer of too many digits in it cannot be shown.
-/
import ModuleGrammar.Text.Quoted
import ModuleGrammar.Text.Numeral
import ModuleGrammar.Setting.Calendar

namespace ModuleGrammar

/-- A value in a table of settings. A real number is held by its canonical
decimal, because nothing is done with it but to show it. -/
inductive Value
  | integer (number : Int)
  | real (decimal : Text)
  | string (text : Text)
  | boolean (truth : Bool)
  | nothing
  | date (day : Date)
  | time (hours : TimeOfDay)
  | moment (point : Moment)
  | list (items : List Value)
  | table (entries : List (Text × Value))
  deriving Repr

/-- A table: its entries in the order in which they were made. -/
abbrev Table := List (Text × Value)

namespace Value

mutual

/-- The text of a value in a message. -/
def text : Value → Text
  | .integer number => Text.ofInt number
  | .real decimal => decimal
  | .string text => text.quote
  | .boolean truth => if truth then "True".toList else "False".toList
  | .nothing => "None".toList
  | .date day => day.text
  | .time hours => hours.text
  | .moment point => point.text
  | .list items => '[' :: itemsText items ++ [']']
  | .table entries => '{' :: entriesText entries ++ ['}']

/-- The texts of the items of a list, with commas between them. -/
def itemsText : List Value → Text
  | [] => []
  | [item] => text item
  | item :: items => text item ++ ", ".toList ++ itemsText items

/-- The texts of the entries of a table, with commas between them. -/
def entriesText : List (Text × Value) → Text
  | [] => []
  | [(key, value)] => key.quote ++ ": ".toList ++ text value
  | (key, value) :: entries =>
    key.quote ++ ": ".toList ++ text value ++ ", ".toList ++ entriesText entries

end

mutual

/-- Whether a value can be shown. -/
def isShowable : Value → Bool
  | .integer number => Text.isShowable number
  | .list items => areShowable items
  | .table entries => entriesShowable entries
  | _ => true

/-- Whether all items of a list can be shown. -/
def areShowable : List Value → Bool
  | [] => true
  | item :: items => isShowable item && areShowable items

/-- Whether all entries of a table can be shown. -/
def entriesShowable : List (Text × Value) → Bool
  | [] => true
  | (_, value) :: entries => isShowable value && entriesShowable entries

end

end Value

end ModuleGrammar
