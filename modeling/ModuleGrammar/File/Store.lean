/-
# Files

A store is a file system: the files and directories below a root, each with a
stamp that tells when it was last modified, and the working directory from which
relative paths are read. At some locations the system may put up obstacles of its
own, such as a directory that may not be searched or a device that fills up.
-/
import ModuleGrammar.Text.Utf8
import ModuleGrammar.File.Fault

namespace ModuleGrammar

/-- When something was modified: at a time that was set from outside, or at a tick
of the store's own clock. -/
inductive Stamp
  | time (value : Int)
  | tick (count : Nat)
  deriving DecidableEq, Repr

/-- A location in a store: the names on the way from the root. -/
abbrev Location := List Text

/-- What is at a location. -/
inductive Node
  | file (content : Bytes)
  | directory
  deriving DecidableEq, Repr

/-- What is at a location and when it was last modified. -/
structure Entry where
  node : Node
  stamp : Stamp
  deriving DecidableEq, Repr

/-- What the system refuses at a location: to search a directory for a name, to
read, to write to a file or make one in a directory, and to take more than so many
bytes. -/
structure Obstacle where
  search : Option SystemError := none
  read : Option SystemError := none
  write : Option SystemError := none
  limit : Option Limit := none
  deriving DecidableEq, Repr

/-- A file system with a working directory, and a clock that ticks with every
change. -/
structure Store where
  entries : List (Location × Entry)
  workingDirectory : Location
  obstacles : List (Location × Obstacle)
  clock : Nat
  deriving DecidableEq, Repr

/-- The location of a name in a directory. The root is its own directory above. -/
def Location.child (location : Location) (name : Text) : Location :=
  if name = Path.up then location.dropLast else location ++ [name]

namespace Store

/-- A root with nothing but an empty working directory. -/
def empty : Store where
  entries := [([], ⟨.directory, .tick 0⟩), (["work".toList], ⟨.directory, .tick 0⟩)]
  workingDirectory := ["work".toList]
  obstacles := []
  clock := 0

/-- What is at a location. -/
def entry? (store : Store) (location : Location) : Option Entry :=
  store.entries.lookup location

/-- What the system refuses at a location. -/
def obstacle (store : Store) (location : Location) : Obstacle :=
  (store.obstacles.lookup location).getD {}

/-- Where a path starts. -/
def start (store : Store) : Anchor → Location
  | .workingDirectory => store.workingDirectory
  | .root | .doubleRoot => []

/-- The most bytes of a name. -/
def maxNameBytes : Nat := 255

/-- The most bytes of a path. -/
def maxPathBytes : Nat := 4095

/-- Follow names from a location. Every name must be looked up in a directory. -/
def follow (store : Store) (location : Location) : List Text → Except FileFault Location
  | [] => .ok location
  | name :: names =>
    match store.entry? location with
    | some ⟨.directory, _⟩ =>
      match (store.obstacle location).search with
      | some error => .error (.system error)
      | none =>
        if maxNameBytes < (Utf8.encode name).length then .error .nameTooLong
        else store.follow (location.child name) names
    | some ⟨.file _, _⟩ => .error .notDirectory
    | none => .error .missing

/-- Where a path leads to. -/
def locate (store : Store) (path : Path) : Except FileFault Location :=
  if maxPathBytes < (Utf8.encode path.text).length then .error .nameTooLong
  else store.follow (store.start path.anchor) path.names

/-- What a path leads to. -/
def find (store : Store) (path : Path) : Except FileFault Entry :=
  match store.locate path with
  | .error fault => .error fault
  | .ok location =>
    match store.entry? location with
    | some entry => .ok entry
    | none => .error .missing

/-- Whether a path leads to a file. -/
def isFile (store : Store) (path : Path) : Except FileFault Bool :=
  match store.find path with
  | .error fault => .error fault
  | .ok ⟨.file _, _⟩ => .ok true
  | .ok ⟨.directory, _⟩ => .ok false

/-- The content of a file. -/
def readFile (store : Store) (path : Path) : Except FileFault Bytes :=
  match store.locate path with
  | .error fault => .error fault
  | .ok location =>
    match store.entry? location with
    | none => .error .missing
    | some ⟨node, _⟩ =>
      match (store.obstacle location).read, node with
      | some error, _ => .error (.system error)
      | none, .file content => .ok content
      | none, .directory => .error .isDirectory

/-- Replace the entry at a location, or add it behind the others. -/
def assign (location : Location) (entry : Entry) :
    List (Location × Entry) → List (Location × Entry)
  | [] => [(location, entry)]
  | (other, old) :: rest =>
    if other = location then (location, entry) :: rest
    else (other, old) :: assign location entry rest

/-- Set the stamp of an entry that is there. -/
def setStamp (store : Store) (location : Location) (stamp : Stamp) : Store :=
  match store.entry? location with
  | none => store
  | some entry => { store with entries := assign location { entry with stamp } store.entries }

/-- Put a node at a location at the next tick. A directory is modified when it
gets a new entry. -/
def put (store : Store) (location : Location) (node : Node) : Store :=
  let tick := store.clock + 1
  let isNew := (store.entry? location).isNone
  let entries := assign location ⟨node, .tick tick⟩ store.entries
  let next : Store := { store with entries, clock := tick }
  if isNew then next.setStamp location.dropLast (.tick tick) else next

/-- Why what is at a location cannot be opened for writing. A file that is not
there is made in its directory. -/
def refusal? (store : Store) (location : Location) : Option FileFault :=
  match store.entry? location with
  | some ⟨.directory, _⟩ => some .isDirectory
  | some ⟨.file _, _⟩ => (store.obstacle location).write.map .system
  | none => (store.obstacle location.dropLast).write.map .system

/-- What comes of writing a file: the fault, if there is one, and the files
then. -/
structure Written where
  fault? : Option FileFault
  store : Store
  deriving DecidableEq, Repr

/-- Write a file. A file that cannot be opened stays as it is, and one that breaks
off keeps the part that got through. -/
def writeFile (store : Store) (path : Path) (content : Bytes) : Written :=
  match store.locate path with
  | .error fault => ⟨some fault, store⟩
  | .ok location =>
    match store.refusal? location with
    | some fault => ⟨some fault, store⟩
    | none =>
      let (part, error?) := Limit.pass (store.obstacle location).limit content
      ⟨error?.map .system, store.put location (.file part)⟩

/-- Make a directory if nothing is at its location. -/
def makeDirectory (store : Store) (location : Location) : Store :=
  if (store.entry? location).isSome then store else store.put location .directory

/-- Put a node at a location and make the directories above it. -/
def install (store : Store) (location : Location) (node : Node) : Store :=
  let parents := (List.range location.length).map location.take
  (parents.foldl makeDirectory store).put location node

/-- Remove what is at a location and below it. -/
def remove (store : Store) (location : Location) : Store :=
  if (store.entry? location).isNone then store
  else
    let tick := store.clock + 1
    let entries := store.entries.filter fun entry => !location.isPrefixOf entry.1
    Store.setStamp { store with entries, clock := tick } location.dropLast (.tick tick)

/-- The files below the working directory, in the order of their paths from
there. -/
def files (store : Store) : List (Text × Bytes) :=
  let home := store.workingDirectory
  let found := store.entries.filterMap fun (location, entry) =>
    match entry.node with
    | .directory => none
    | .file content =>
      if home.isPrefixOf location then
        some (Text.join ['/'] (location.drop home.length), content)
      else none
  found.mergeSort fun first second => Text.le first.1 second.1

/-- The files that are new or changed in a later store, in the order of their
paths. -/
def changes (before after : Store) : List (Text × Bytes) :=
  after.files.filter fun (path, content) => before.files.lookup path != some content

end Store

end ModuleGrammar
