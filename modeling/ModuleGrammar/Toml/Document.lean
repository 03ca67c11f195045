/-
# Configuration files

A configuration file is a sequence of entries and of headers that open tables.
Reading it gives the table at its root, with the entries in the order of the
file. The readers that call themselves take a bound on the number of calls; the
length of the text gives one that is never reached.
-/
import ModuleGrammar.Text.Line
import ModuleGrammar.Toml.Scalar
import ModuleGrammar.Toml.Namespace

namespace ModuleGrammar.Toml

/-- The characters of a name without quotation marks. -/
def isBareChar (c : Char) : Bool :=
  ('a' ≤ c && c ≤ 'z') || ('A' ≤ c && c ≤ 'Z') || isDecimal c || c == '-' || c == '_'

/-- Read one name of a key. -/
def name (text : Text) : Option (Text × Text) :=
  match text.takeWhile isBareChar with
  | [] => lineString text
  | bare => some (bare, text.dropWhile isBareChar)

/-- Read a dotted key and the blanks behind it. -/
def key : Nat → Reader Key
  | 0, _ => none
  | bound + 1, text => do
    let (first, rest) ← name text
    match skipSpaces rest with
    | '.' :: rest =>
      let (names, rest) ← key bound (skipSpaces rest)
      return (first :: names, rest)
    | rest => return ([first], rest)

/-- Whether a value may not be changed once it is given. -/
def isClosedValue : Value → Bool
  | .list _ | .table _ => true
  | _ => false

/-- Add an entry to a table given as a value. -/
def addInline (marks : Marks) (table : Table) (path : Key) (value : Value) : Option Table :=
  match path.getLast? with
  | none => none
  | some last =>
    if marks.isFrozen path then none
    else updateAt false (insertNew last value) path.dropLast table

mutual

/-- Read a value. -/
def value : Nat → Text → Except Fault (Value × Text)
  | 0, _ => .error .malformed
  | bound + 1, '[' :: rest => do
    let (items, rest) ← listItems bound (← demand (skipFiller? false rest))
    return (.list items, rest)
  | bound + 1, '{' :: rest =>
    match skipSpaces rest with
    | '}' :: rest => .ok (.table [], rest)
    | rest => inlineTable bound .none [] rest
  | _ + 1, text => scalar text

/-- Read the items of a list, from behind a bracket or a comma on. -/
def listItems : Nat → Text → Except Fault (List Value × Text)
  | 0, _ => .error .malformed
  | _ + 1, ']' :: rest => .ok ([], rest)
  | bound + 1, text => do
    let (item, rest) ← value bound text
    match ← demand (skipFiller? false rest) with
    | ']' :: rest => return ([item], rest)
    | ',' :: rest =>
      let (items, rest) ← listItems bound (← demand (skipFiller? false rest))
      return (item :: items, rest)
    | _ => .error .malformed

/-- Read the entries of a table given as a value, on top of those before them. -/
def inlineTable : Nat → Marks → Table → Text → Except Fault (Value × Text)
  | 0, _, _, _ => .error .malformed
  | bound + 1, marks, table, text => do
    let (path, rest) ← demand (key text.length text)
    let rest ← demand (expect '=' rest)
    let (item, rest) ← value bound (skipSpaces rest)
    let table ← demand (addInline marks table path item)
    match skipSpaces rest with
    | '}' :: rest => return (.table table, rest)
    | ',' :: rest =>
      let marks := if isClosedValue item then marks.freeze path else marks
      inlineTable bound marks table (skipSpaces rest)
    | _ => .error .malformed

end

/-- Read a key and its value. -/
def entry (text : Text) : Except Fault ((Key × Value) × Text) := do
  let (path, rest) ← demand (key text.length text)
  let rest ← demand (expect '=' rest)
  let (item, rest) ← value (2 * rest.length + 2) (skipSpaces rest)
  return ((path, item), rest)

/-- What was read of a file so far: the key of the current section, the marks on
keys and the table at the root. -/
structure State where
  header : Key
  marks : Marks
  root : Table
  deriving Repr

namespace State

/-- Nothing was read. -/
def initial : State :=
  ⟨[], .none, []⟩

/-- The keys of the tables that a dotted key passes through, below a header. -/
def passed (header path : Key) : List Key :=
  (List.range (path.length - 1)).map fun index => header ++ path.take (index + 1)

/-- Add an entry to the current section. -/
def addEntry (state : State) (path : Key) (item : Value) : Option State :=
  match path.getLast? with
  | none => none
  | some last =>
    let parent := state.header ++ path.dropLast
    let tables := passed state.header path
    if tables.any state.marks.isDeclared || state.marks.isFrozen parent then none
    else
      let marks := state.marks.declareLater tables
      let marks := if isClosedValue item then marks.freeze (state.header ++ path) else marks
      (updateAt true (insertNew last item) parent state.root).map fun root =>
        { state with marks, root }

/-- Open the table of a header. -/
def openTable (state : State) (path : Key) : Option State :=
  let marks := state.marks.endSection
  if marks.isDeclared path || marks.isFrozen path then none
  else
    (updateAt true some path state.root).map fun root => ⟨path, marks.declare path, root⟩

/-- Open a new table at the end of the list of a header. -/
def openListItem (state : State) (path : Key) : Option State :=
  match path.getLast? with
  | none => none
  | some last =>
    let marks := state.marks.endSection
    if marks.isFrozen path then none
    else
      (updateAt true (appendTable last) path.dropLast state.root).map fun root =>
        ⟨path, (marks.release path).declare path, root⟩

/-- Read a header or an entry. -/
def statement (state : State) : Text → Except Fault (State × Text)
  | '[' :: '[' :: rest => do
    let (path, rest) ← demand (key rest.length (skipSpaces rest))
    let state ← demand (state.openListItem path)
    return (state, ← demand ((expect ']' rest).bind (expect ']')))
  | '[' :: rest => do
    let (path, rest) ← demand (key rest.length (skipSpaces rest))
    let state ← demand (state.openTable path)
    return (state, ← demand (expect ']' rest))
  | text => do
    let ((path, item), rest) ← entry text
    return (← demand (state.addEntry path item), rest)

/-- Read the rest of a file, line by line. -/
def readLines : Nat → State → Text → Except Fault State
  | 0, _, _ => .error .malformed
  | bound + 1, state, text =>
    match skipSpaces text with
    | [] => .ok state
    | '\n' :: rest => readLines bound state rest
    | start => do
      let (state, rest) ← if start.head? = some '#' then .ok (state, start) else state.statement start
      match ← demand (skipComment? (skipSpaces rest)) with
      | [] => return state
      | '\n' :: rest => readLines bound state rest
      | _ => .error .malformed

end State

/-- Read a configuration file. The first fault in it is the one that counts. -/
def read (text : Text) : Except Fault Table :=
  let contracted := text.contractBreaks
  (State.readLines (contracted.length + 1) .initial contracted).map (·.root)

end ModuleGrammar.Toml
