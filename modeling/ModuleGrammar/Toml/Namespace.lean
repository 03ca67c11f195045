/-
# Tables and their names

A dotted key leads through tables within tables. The rules on what a file may
define twice are kept in three marks on keys: tables that are sealed because a
list or table was given as a value, tables that were opened by a header, and
tables that a dotted key of the current section has opened.
-/
import ModuleGrammar.Setting.Value

namespace ModuleGrammar.Toml

/-- A dotted key: the names on the way from the root. -/
abbrev Key := List Text

/-- The marks on keys. -/
structure Marks where
  /-- Keys of lists and tables given as values; nothing below them may change. -/
  frozen : List Key
  /-- Keys of tables that no header and no dotted key may open again. -/
  declared : List Key
  /-- Keys that will be declared when the section ends. -/
  pending : List Key
  deriving Repr

namespace Marks

/-- No key is marked. -/
def none : Marks :=
  ⟨[], [], []⟩

/-- Whether a key leads to or through something frozen. -/
def isFrozen (marks : Marks) (key : Key) : Bool :=
  marks.frozen.any (·.isPrefixOf key)

/-- Whether a table was declared. -/
def isDeclared (marks : Marks) (key : Key) : Bool :=
  marks.declared.contains key

/-- Freeze a key. -/
def freeze (marks : Marks) (key : Key) : Marks :=
  { marks with frozen := key :: marks.frozen }

/-- Declare a table. -/
def declare (marks : Marks) (key : Key) : Marks :=
  { marks with declared := key :: marks.declared }

/-- Declare tables when the section ends. -/
def declareLater (marks : Marks) (keys : List Key) : Marks :=
  { marks with pending := keys ++ marks.pending }

/-- End a section. -/
def endSection (marks : Marks) : Marks :=
  { marks with declared := marks.pending ++ marks.declared, pending := [] }

/-- Forget the marks on a key and below it. -/
def release (marks : Marks) (key : Key) : Marks :=
  { marks with
    frozen := marks.frozen.filter (!key.isPrefixOf ·)
    declared := marks.declared.filter (!key.isPrefixOf ·) }

end Marks

/-- Change the value behind a name, which is `none` if there is none yet. A new
value comes last. -/
def updateEntry (name : Text) (f : Option Value → Option Value) : Table → Option Table
  | [] => (f none).map fun value => [(name, value)]
  | (other, value) :: rest =>
    if other = name then (f (some value)).map fun value => (other, value) :: rest
    else (updateEntry name f rest).map fun rest => (other, value) :: rest

/-- Change a value that is a table, or a list whose last item is one if lists may
be entered. -/
def updateTable (enterLists : Bool) (f : Table → Option Table) : Option Value → Option Value
  | none => (f []).map .table
  | some (.table entries) => (f entries).map .table
  | some (.list items) =>
    match enterLists, items.getLast? with
    | true, some (.table entries) =>
      (f entries).map fun entries => .list (items.dropLast ++ [.table entries])
    | _, _ => none
  | some _ => none

/-- Change the table behind a key. Tables on the way are made if they are not
there. -/
def updateAt (enterLists : Bool) (f : Table → Option Table) : Key → Table → Option Table
  | [], table => f table
  | name :: names, table =>
    updateEntry name (updateTable enterLists (updateAt enterLists f names)) table

/-- Make a new entry. -/
def insertNew (name : Text) (value : Value) (table : Table) : Option Table :=
  updateEntry name (fun
    | none => some value
    | some _ => none) table

/-- Add an empty table to the list behind a name, which is made if it is not
there. -/
def appendTable (name : Text) (table : Table) : Option Table :=
  updateEntry name (fun
    | none => some (.list [.table []])
    | some (.list items) => some (.list (items ++ [.table []]))
    | some _ => none) table

end ModuleGrammar.Toml
