/-
# Laws of the store

Of an entry only its node decides where paths lead; stamps do not. Writing a file changes the
node at one location and no other, never that of a directory, and nothing of what the system
refuses. So every path that could be followed before can be followed after, and the path that was
written leads to what was written. What breaks off has written a part from the front.
-/
import Mathlib.Data.List.TakeDrop
import ModuleGrammar.File.Store

namespace ModuleGrammar

namespace Limit

variable {α : Type} (limit : Option Limit) (items : List α)

/-- What gets through is the front of what was to be written. -/
theorem pass_isFront : (pass limit items).1 <+: items := by
  cases limit with
  | none => exact List.prefix_rfl
  | some limit =>
      rw [pass]
      split
      · exact List.prefix_rfl
      · exact List.take_prefix _ _

/-- Everything gets through exactly if there is no error. -/
theorem pass_eq_self_iff : (pass limit items).1 = items ↔ (pass limit items).2 = none := by
  cases limit with
  | none => simp [pass]
  | some limit =>
      rw [pass]
      split
      case isTrue fits => simp
      case isFalse long =>
        have shorter : items.take limit.room ≠ items :=
          fun whole => long ((List.take_eq_self_iff items).mp whole)
        simp [shorter]

end Limit

namespace Store

/-- What is at a location, without its stamp. -/
def node? (store : Store) (location : Location) : Option Node :=
  store.entry? location |>.map (·.node)

theorem lookup_cons_eq (location other : Location) (entry : Entry)
    (rest : List (Location × Entry)) :
    ((location, entry) :: rest).lookup other =
      if other = location then some entry else rest.lookup other := by
  by_cases same : other = location
  · rw [same, List.lookup_cons_self, if_pos rfl]
  · rw [List.lookup_cons, beq_eq_false_iff_ne.mpr same, if_neg same]

theorem lookup_assign (location other : Location) (entry : Entry)
    (entries : List (Location × Entry)) :
    (assign location entry entries).lookup other =
      if other = location then some entry else entries.lookup other := by
  induction entries with
  | nil => rw [assign, lookup_cons_eq]
  | cons first rest ih =>
      obtain ⟨key, old⟩ := first
      rw [assign, lookup_cons_eq key other]
      by_cases here : key = location
      · rw [if_pos here, lookup_cons_eq, here]
        split <;> rfl
      · rw [if_neg here, lookup_cons_eq, ih]
        by_cases found : other = key
        · have apart : other ≠ location := found ▸ here
          rw [if_pos found, if_pos found, if_neg apart]
        · rw [if_neg found, if_neg found]

theorem node?_setStamp (store : Store) (location : Location) (stamp : Stamp)
    (other : Location) : (store.setStamp location stamp).node? other = store.node? other := by
  rw [setStamp]
  cases found : store.entry? location with
  | none => rfl
  | some entry =>
      simp only [node?, entry?, lookup_assign]
      by_cases same : other = location
      · rw [ entry?] at found
        simp [same, found]
      · simp [same]

/-- A node is put at its location and nowhere else. -/
theorem node?_put (store : Store) (location : Location) (node : Node) (other : Location) :
    (store.put location node).node? other =
      if other = location then some node else store.node? other := by
  have assigned (clock : Nat) (stamp : Stamp) :
      node? { store with entries := assign location ⟨node, stamp⟩ store.entries, clock } other =
        if other = location then some node else store.node? other := by
    simp only [node?, entry?, lookup_assign]
    split <;> rfl
  rw [put]
  split
  · rw [node?_setStamp, assigned]
  · exact assigned _ _

theorem setStamp_frame (store : Store) (location : Location) (stamp : Stamp) :
    (store.setStamp location stamp).workingDirectory = store.workingDirectory ∧
      (store.setStamp location stamp).obstacles = store.obstacles := by
  rw [setStamp]
  cases store.entry? location <;> exact ⟨rfl, rfl⟩

theorem put_frame (store : Store) (location : Location) (node : Node) :
    (store.put location node).workingDirectory = store.workingDirectory ∧
      (store.put location node).obstacles = store.obstacles := by
  rw [put]
  split
  · exact setStamp_frame _ _ _
  · exact ⟨rfl, rfl⟩

/-- A location without a directory gets a file with some content, and nothing else changes. -/
structure ReceivesAt (store : Store) (location : Location) (content : Bytes) (later : Store) :
    Prop where
  before : store.node? location ≠ some .directory
  file : later.node? location = some (.file content)
  others : ∀ other, other ≠ location → later.node? other = store.node? other
  workingDirectory : later.workingDirectory = store.workingDirectory
  obstacles : later.obstacles = store.obstacles

/-- The file of a path gets some content, and nothing else changes. -/
def Receives (store : Store) (path : Path) (content : Bytes) (later : Store) : Prop :=
  ∃ location, store.locate path = .ok location ∧ store.ReceivesAt location content later

theorem receivesAt_put {store : Store} {location : Location}
    (before : store.node? location ≠ some .directory) (content : Bytes) :
    store.ReceivesAt location content (store.put location (.file content)) where
  before := before
  file := by rw [node?_put, if_pos rfl]
  others other apart := by rw [node?_put, if_neg apart]
  workingDirectory := (put_frame store location _).1
  obstacles := (put_frame store location _).2

namespace ReceivesAt

variable {store later : Store} {location : Location} {content : Bytes}

theorem obstacle_eq (received : store.ReceivesAt location content later) (other : Location) :
    later.obstacle other = store.obstacle other := by
  rw [obstacle, obstacle, received.obstacles]

theorem directory (received : store.ReceivesAt location content later) {other : Location}
    (found : store.node? other = some .directory) : later.node? other = some .directory := by
  have apart : other ≠ location := by
    rintro rfl
    exact received.before found
  rw [received.others other apart, found]

/-- A path is followed through directories only, and all of them are still there. -/
theorem follow_eq (received : store.ReceivesAt location content later) {names : List Text}
    {start target : Location} (followed : store.follow start names = .ok target) :
    later.follow start names = .ok target := by
  induction names generalizing start with
  | nil => exact followed
  | cons name names ih =>
      rw [follow] at followed
      split at followed
      case h_1 stamp found =>
        have directory : later.node? start = some .directory :=
          received.directory (by simp [node?, found])
        obtain ⟨⟨node, other⟩, found', rfl⟩ := Option.map_eq_some_iff.mp directory
        rw [follow, found']
        dsimp only
        rw [received.obstacle_eq]
        split at followed
        case h_1 error refused => cases followed
        case h_2 searched =>
          split at followed
          case isTrue long => cases followed
          case isFalse fits =>
            rw [if_neg fits]
            exact ih followed
      case h_2 => cases followed
      case h_3 => cases followed

theorem locate_eq (received : store.ReceivesAt location content later) {path : Path}
    {target : Location} (located : store.locate path = .ok target) :
    later.locate path = .ok target := by
  have start : later.start path.anchor = store.start path.anchor := by
    cases path.anchor with
    | workingDirectory => exact received.workingDirectory
    | root | doubleRoot => rfl
  rw [locate] at located ⊢
  split at located
  case isTrue long => cases located
  case isFalse fits =>
    rw [if_neg fits, start]
    exact received.follow_eq located

end ReceivesAt

theorem readFile_eq_ok_iff {store : Store} {path : Path} {content : Bytes} :
    store.readFile path = .ok content ↔
      ∃ location, store.locate path = .ok location ∧ (store.obstacle location).read = none ∧
        store.node? location = some (.file content) := by
  rw [readFile]
  cases store.locate path with
  | error fault => simp
  | ok location =>
      dsimp only
      cases found : store.entry? location with
      | none => simp [node?, found]
      | some entry =>
          obtain ⟨node, stamp⟩ := entry
          cases refused : (store.obstacle location).read with
          | some error => simp [refused]
          | none => cases node <;> simp [node?, found, refused]

/-- A file that can be read is there. -/
theorem exists_find_of_readFile {store : Store} {path : Path} {content : Bytes}
    (read : store.readFile path = .ok content) : ∃ entry, store.find path = .ok entry := by
  obtain ⟨location, located, -, file⟩ := readFile_eq_ok_iff.mp read
  obtain ⟨entry, found, -⟩ := Option.map_eq_some_iff.mp file
  refine ⟨entry, ?_⟩
  rw [find, located]
  dsimp only
  rw [found]

namespace Receives

variable {store later : Store} {path : Path} {content : Bytes}

/-- What is read from a file is what was written to it. -/
theorem eq_of_readFile (received : store.Receives path content later) {read : Bytes}
    (readable : later.readFile path = .ok read) : read = content := by
  obtain ⟨location, located, received⟩ := received
  obtain ⟨other, found, -, file⟩ := readFile_eq_ok_iff.mp readable
  rw [received.locate_eq located] at found
  cases found
  rw [received.file] at file
  cases file
  rfl

/-- A file that could be read before has the content that was written to it. -/
theorem readFile_eq (received : store.Receives path content later) {old : Bytes}
    (found : store.readFile path = .ok old) : later.readFile path = .ok content := by
  obtain ⟨location, located, received⟩ := received
  obtain ⟨other, located', readable, -⟩ := readFile_eq_ok_iff.mp found
  rw [located] at located'
  cases located'
  refine readFile_eq_ok_iff.mpr ⟨location, received.locate_eq located, ?_, received.file⟩
  rw [received.obstacle_eq, readable]

end Receives

theorem node?_ne_directory_of_refusal? {store : Store} {location : Location}
    (free : store.refusal? location = none) : store.node? location ≠ some .directory := by
  intro directory
  obtain ⟨⟨node, stamp⟩, found, rfl⟩ := Option.map_eq_some_iff.mp directory
  rw [refusal?, found] at free
  cases free

/-- What comes of writing a file: it is refused and nothing changes, or the front of the content
is received, all of it if there is no fault. -/
theorem writeFile_cases (store : Store) (path : Path) (content : Bytes) :
    ((store.writeFile path content).store = store ∧
        (store.writeFile path content).fault? ≠ none) ∨
      ∃ part, part <+: content ∧
        store.Receives path part (store.writeFile path content).store ∧
        ((store.writeFile path content).fault? = none ↔ part = content) := by
  rw [writeFile]
  cases located : store.locate path with
  | error fault => exact .inl ⟨rfl, by simp⟩
  | ok location =>
      dsimp only
      cases free : store.refusal? location with
      | some fault => exact .inl ⟨rfl, by simp⟩
      | none =>
          right
          refine ⟨(Limit.pass (store.obstacle location).limit content).1, Limit.pass_isFront _ _,
            ⟨location, located, receivesAt_put (node?_ne_directory_of_refusal? free) _⟩, ?_⟩
          rw [Limit.pass_eq_self_iff]
          exact Option.map_eq_none_iff

/-- A file that is written without a fault receives its content. -/
theorem receives_of_writeFile {store : Store} {path : Path} {content : Bytes}
    (faultless : (store.writeFile path content).fault? = none) :
    store.Receives path content (store.writeFile path content).store := by
  rcases store.writeFile_cases path content with ⟨-, refused⟩ | ⟨part, -, received, whole⟩
  · exact absurd faultless refused
  · exact whole.mp faultless ▸ received

/-- Everything can be written to a path. -/
def Writable (store : Store) (path : Path) : Prop :=
  ∀ content, (store.writeFile path content).fault? = none

end Store

end ModuleGrammar
