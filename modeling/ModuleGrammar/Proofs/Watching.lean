/-
# What a watch has written

A watch remembers the stamp of the input that it noticed last, and whatever happens to the files
meanwhile, a look that meets the same stamp again does nothing. So the text that was written last
belongs to the source that is there now, as long as a stamp belongs to one source only. There are
two exceptions. A watch starts as if it had already noticed an input of the time zero, and it
remembers the stamp of an input that it then fails to read.
-/
import ModuleGrammar.Proofs.Outcome

namespace ModuleGrammar.Command

/-- A look at the input: what the watch remembers and the files that it meets. -/
structure Look where
  watch : Watch
  store : Store
  deriving DecidableEq, Repr

namespace Look

/-- What comes of a look. -/
def course (look : Look) (request : Request) (path : Path) (streams : Streams) : Course :=
  (look.watch.poll request path look.store streams).2

/-- The stamp of the input, if the input is there. -/
def stamp? (look : Look) (path : Path) : Option Stamp :=
  (look.store.find path).toOption.map (·.stamp)

/-- The source, if it can be read. -/
def source? (look : Look) (request : Request) (streams : Streams) : Option Text :=
  (request.readSource look.store streams).toOption

/-- A look that prints nothing and leaves the files as they are. -/
def Idle (look : Look) (request : Request) (path : Path) (streams : Streams) : Prop :=
  look.course request path streams = ⟨.ok 0, .nothing, look.store⟩

/-- A look that brings the text of a source to its target, and tells what was found in the source
and that the input was formatted. -/
structure Formats (look : Look) (request : Request) (path : Path) (streams : Streams)
    (source : Text) : Prop where
  result : (look.course request path streams).result = .ok 0
  delivered : Delivered (format request.style source).text
    (look.course request path streams).printed.out look.store
    (look.course request path streams).store request.output
  err : (look.course request path streams).printed.err =
    (request.report source (format request.style source).diagnostics).err ++
      ("Formatted ".toList ++ path.text ++ ['\n'])

/-- A look notices an input with another stamp than the remembered one. -/
structure Notices (look : Look) (path : Path) (stamp : Stamp) : Prop where
  met : look.stamp? path = some stamp
  other : stamp ≠ look.watch.seen

section Step

variable {look : Look} {request : Request} {path : Path} {streams : Streams}

theorem stamp?_eq_some_iff {stamp : Stamp} :
    look.stamp? path = some stamp ↔ ∃ entry, look.store.find path = .ok entry ∧
      entry.stamp = stamp := by
  rw [stamp?]
  cases look.store.find path <;> simp [Except.toOption]

theorem source?_eq_some_iff {source : Text} :
    look.source? request streams = some source ↔
      request.readSource look.store streams = .ok source := by
  rw [source?]
  cases request.readSource look.store streams <;> simp [Except.toOption]

/-- A source is read from an input that is there. -/
theorem exists_stamp_of_source (input : request.input = some path) {source : Text}
    (readable : look.source? request streams = some source) :
    ∃ stamp, look.stamp? path = some stamp := by
  obtain ⟨-, content, file, -⟩ :=
    (Request.readSource_eq_ok_iff input).mp (source?_eq_some_iff.mp readable)
  obtain ⟨entry, found⟩ := Store.exists_find_of_readFile file
  exact ⟨entry.stamp, stamp?_eq_some_iff.mpr ⟨entry, found, rfl⟩⟩

/-- What a watch makes of the stamp of its input. -/
theorem notice_stampOf (nonnull : path.hasNull = false) (look : Look) :
    look.watch.notice (Watch.stampOf look.store path) =
      .ok ((look.stamp? path).bind fun stamp =>
        if stamp = look.watch.seen then none else some ⟨stamp⟩) := by
  rw [Watch.stampOf, if_neg (by simp [nonnull]), stamp?]
  cases look.store.find path <;> rfl

/-- A look that notices an input remembers its stamp and goes on to format it. -/
theorem Notices.poll_eq {stamp : Stamp} (notices : look.Notices path stamp)
    (nonnull : path.hasNull = false) :
    look.watch.poll request path look.store streams =
      (⟨stamp⟩, Watch.refresh request path look.store streams) := by
  rw [Watch.poll, notice_stampOf nonnull, notices.met, Option.bind_some, if_neg notices.other]

/-- What one look can do: it notices the input, or it is idle and remembers what it did before. -/
theorem poll_cases (nonnull : path.hasNull = false) (look : Look) :
    (∃ stamp, look.Notices path stamp) ∨
      look.Idle request path streams ∧
        (look.watch.poll request path look.store streams).1 = look.watch ∧
        ∀ stamp, look.stamp? path = some stamp → stamp = look.watch.seen := by
  rw [or_iff_not_imp_left]
  intro unnoticed
  have same (stamp : Stamp) (met : look.stamp? path = some stamp) : stamp = look.watch.seen := by
    by_contra other
    exact unnoticed ⟨stamp, met, other⟩
  have idle : look.watch.notice (Watch.stampOf look.store path) = .ok none := by
    rw [notice_stampOf nonnull]
    cases met : look.stamp? path with
    | none => rfl
    | some stamp => rw [Option.bind_some, if_pos (same stamp met)]
  rw [Idle, course, Watch.poll, idle]
  exact ⟨rfl, rfl, same⟩

/-- What comes of a source that was noticed. -/
theorem Notices.formats {stamp : Stamp} (notices : look.Notices path stamp)
    (input : request.input = some path) {source : Text}
    (readable : look.source? request streams = some source)
    (writable : (request.deliver look.store streams
      (format request.style source).text).failure? = none) :
    (request.style.indentFault? = none → look.Formats request path streams source) ∧
      ∀ code, (look.course request path streams).result = .ok code →
        look.Formats request path streams source := by
  have read := source?_eq_some_iff.mp readable
  obtain ⟨nonnull, -⟩ := (Request.readSource_eq_ok_iff input).mp read
  have course : look.course request path streams =
      Watch.refresh request path look.store streams := by
    rw [Look.course, notices.poll_eq nonnull]
  rw [Watch.refresh, read, Watch.plan] at course
  cases valid : request.style.indentFault? with
  | none =>
      rw [Request.proceed_eq_next valid, Watch.publish, Request.carryOut] at course
      simp only [writable, Plan.conclude] at course
      have formats : look.Formats request path streams source := by
        constructor <;> rw [course]
        · simpa [Printed.append, Request.report, Printed.errLine] using
            Request.delivered_of_deliver writable
        · simp [Printed.append, Request.err_deliver, Printed.errLine]
      exact ⟨fun _ => formats, fun _ _ => formats⟩
  | some fault =>
      rw [Request.proceed_of_indentFault valid] at course
      refine ⟨fun none => by simp at none, fun code ended => ?_⟩
      rw [course] at ended
      cases ended

end Step

end Look

namespace Watch

/-- The looks of a watch. There is no look after one that stops the run. -/
def looks (watch : Watch) (request : Request) (path : Path) (store : Store)
    (streams : Streams) : List (Store → Store) → List Look
  | [] => [⟨watch, store⟩]
  | change :: changes =>
    let (later, course) := watch.poll request path store streams
    ⟨watch, store⟩ ::
      match course.result with
      | .error _ => []
      | .ok _ => later.looks request path (change course.store) streams changes

variable {request : Request} {path : Path} {streams : Streams}

theorem looks_zero (watch : Watch) (store : Store) (changes : List (Store → Store)) :
    (watch.looks request path store streams changes)[0]? = some ⟨watch, store⟩ := by
  cases changes <;> rfl

/-- A look has a next one only if it does not stop the run, and hands on what it remembers. -/
theorem looks_succ {watch : Watch} {store : Store} {changes : List (Store → Store)} {index : Nat}
    {look next : Look} (here : (watch.looks request path store streams changes)[index]? = some look)
    (after : (watch.looks request path store streams changes)[index + 1]? = some next) :
    next.watch = (look.watch.poll request path look.store streams).1 ∧
      ∃ code, (look.course request path streams).result = .ok code := by
  induction changes generalizing watch store index with
  | nil => simp [looks] at after
  | cons change changes ih =>
      rw [looks] at here after
      dsimp only at here after
      rw [List.getElem?_cons_succ] at after
      cases result : (watch.poll request path store streams).2.result with
      | error crash =>
          rw [result] at after
          simp at after
      | ok code =>
          rw [result] at here after
          cases index with
          | zero =>
              rw [looks_zero] at after
              cases here
              cases after
              exact ⟨rfl, code, result⟩
          | succ index => exact ih here after

/-- The looks of a watch are what its history is made of. -/
theorem history_eq (watch : Watch) (store : Store) (changes : List (Store → Store)) :
    ∃ last, (watch.looks request path store streams changes).getLast? = some last ∧
      watch.history request path store streams changes =
        ⟨(last.course request path streams).result,
          (watch.looks request path store streams changes).map fun look =>
            (look.course request path streams).printed,
          (last.course request path streams).store⟩ := by
  induction changes generalizing watch store with
  | nil => exact ⟨⟨watch, store⟩, rfl, rfl⟩
  | cons change changes ih =>
      rw [looks, history]
      dsimp only
      cases result : (watch.poll request path store streams).2.result with
      | error crash => exact ⟨⟨watch, store⟩, rfl, rfl⟩
      | ok code =>
          obtain ⟨last, ends, went⟩ := ih (watch.poll request path store streams).1
            (change (watch.poll request path store streams).2.store)
          refine ⟨last, ?_, ?_⟩
          · simp [List.getLast?_cons, ends]
          · dsimp only
            rw [went]
            rfl

end Watch

/-- The looks from one index up to another are idle. -/
def IdleFrom (looks : List Look) (request : Request) (path : Path) (streams : Streams)
    (first last : Nat) : Prop :=
  ∀ index look, first ≤ index → index < last → looks[index]? = some look →
    look.Idle request path streams

section Run

variable {request : Request} {path : Path} {streams : Streams}

namespace IdleFrom

theorem refl {looks : List Look} (index : Nat) : IdleFrom looks request path streams index index :=
  fun _ _ start upto => absurd upto (Nat.not_lt.mpr start)

theorem succ {looks : List Look} {first last : Nat} {look : Look}
    (idle : IdleFrom looks request path streams first last) (here : looks[last]? = some look)
    (next : look.Idle request path streams) :
    IdleFrom looks request path streams first (last + 1) := by
  intro index other start upto there
  rcases Nat.lt_succ_iff_lt_or_eq.mp upto with before | rfl
  · exact idle index other start before there
  · rw [here] at there
    cases there
    exact next

end IdleFrom

/-- Where the remembered stamp comes from: it is the one that the watch started with, or that of
an input that was noticed. All looks since then are idle. -/
theorem Watch.remembers (nonnull : path.hasNull = false) {watch : Watch} {store : Store}
    {changes : List (Store → Store)} {looks : List Look}
    (watched : watch.looks request path store streams changes = looks) {index : Nat} {look : Look}
    (here : looks[index]? = some look) :
    look.watch = watch ∧ IdleFrom looks request path streams 0 index ∨
      ∃ earlier other, earlier < index ∧ looks[earlier]? = some other ∧
        other.Notices path look.watch.seen ∧
        (∃ code, (other.course request path streams).result = .ok code) ∧
        IdleFrom looks request path streams (earlier + 1) index := by
  subst watched
  induction index generalizing look with
  | zero =>
      rw [looks_zero] at here
      cases here
      exact .inl ⟨rfl, .refl 0⟩
  | succ index ih =>
      obtain ⟨within, -⟩ := List.getElem?_eq_some_iff.mp here
      obtain ⟨last, there⟩ :
          ∃ last, (watch.looks request path store streams changes)[index]? = some last :=
        ⟨_, List.getElem?_eq_getElem (Nat.lt_of_succ_lt within)⟩
      obtain ⟨handed, ended⟩ := looks_succ there here
      rcases Look.poll_cases nonnull last with ⟨stamp, notices⟩ | ⟨idle, kept, -⟩
      · rw [notices.poll_eq nonnull] at handed
        exact .inr ⟨index, last, Nat.lt_succ_self index, there, handed ▸ notices, ended, .refl _⟩
      · rw [handed, kept]
        rcases ih there with ⟨started, since⟩ | ⟨earlier, other, before, found, rest⟩
        · exact .inl ⟨started, since.succ there idle⟩
        · obtain ⟨notices, went, since⟩ := rest
          exact .inr ⟨earlier, other, by omega, found, notices, went, since.succ there idle⟩

end Run

/-- Whatever happens to the files between the looks of a watch, as long as inputs with the same
stamp have the same source and every text can be written: at the end of a look that meets a source,
the text that was written last is that of this source. There are two exceptions, in which the look
does nothing. The input has the time zero, and nothing has been noticed before. Or an input with
the same stamp was the last that was noticed, and it could not be read. -/
theorem watch_output_is_current {request : Request} {path : Path} {streams : Streams}
    (input : request.input = some path) {store : Store} {changes : List (Store → Store)}
    {looks : List Look} (watched : Watch.initial.looks request path store streams changes = looks)
    (told : ∀ look ∈ looks, ∀ other ∈ looks, look.stamp? path = other.stamp? path →
      ∀ source ∈ look.source? request streams, ∀ text ∈ other.source? request streams,
        source = text)
    (writable : ∀ look ∈ looks, ∀ source ∈ look.source? request streams,
      (request.deliver look.store streams (format request.style source).text).failure? = none) :
    (∃ last, looks.getLast? = some last ∧
      Watch.initial.history request path store streams changes =
        ⟨(last.course request path streams).result,
          looks.map fun look => (look.course request path streams).printed,
          (last.course request path streams).store⟩) ∧
    ∀ index look, looks[index]? = some look → ∀ source ∈ look.source? request streams,
      (request.style.indentFault? = none → (look.course request path streams).result = .ok 0) ∧
      ∀ code, (look.course request path streams).result = .ok code →
        (∃ earlier other, earlier ≤ index ∧ looks[earlier]? = some other ∧
          other.Formats request path streams source ∧
          IdleFrom looks request path streams (earlier + 1) (index + 1)) ∨
        (look.stamp? path = some (.time 0) ∧ IdleFrom looks request path streams 0 (index + 1)) ∨
        ∃ earlier other, earlier < index ∧ looks[earlier]? = some other ∧
          other.stamp? path = look.stamp? path ∧ other.source? request streams = none ∧
          IdleFrom looks request path streams (earlier + 1) (index + 1) := by
  refine ⟨watched ▸ Watch.initial.history_eq store changes, ?_⟩
  intro index look here source readable
  have member := List.mem_of_getElem? here
  obtain ⟨nonnull, -⟩ :=
    (Request.readSource_eq_ok_iff input).mp (Look.source?_eq_some_iff.mp readable)
  obtain ⟨stamp, met⟩ := Look.exists_stamp_of_source input readable
  rcases Look.poll_cases nonnull look with ⟨stamp, notices⟩ | ⟨idle, -, same⟩
  · obtain ⟨made, went⟩ := notices.formats input readable (writable look member source readable)
    refine ⟨fun valid => (made valid).result, fun code ended => ?_⟩
    exact .inl ⟨index, look, le_rfl, here, went code ended, .refl _⟩
  · refine ⟨fun _ => by rw [idle], fun _ _ => ?_⟩
    obtain rfl := same stamp met
    -- The stamp is remembered, so it depends on what the watch made of it when it was noticed.
    rcases Watch.remembers nonnull watched here with
      ⟨started, since⟩ | ⟨earlier, other, before, found, notices, ⟨code, ended⟩, since⟩
    · rw [started] at met
      exact .inr (.inl ⟨met, since.succ here idle⟩)
    · have agrees : other.stamp? path = look.stamp? path := notices.met.trans met.symm
      have otherMember := List.mem_of_getElem? found
      cases was : other.source? request streams with
      | none => exact .inr (.inr ⟨earlier, other, before, found, agrees, was, since.succ here idle⟩)
      | some text =>
          obtain rfl := told other otherMember look member agrees text was source readable
          have formats := (notices.formats input was (writable other otherMember text was)).2
          exact .inl ⟨earlier, other, before.le, found, formats code ended, since.succ here idle⟩

/-- An input that is removed and comes back as it was. -/
theorem watch_output_is_current_restored :
    let location := ["work".toList, "g.pcg".toList]
    let store := (Store.empty.put location (.file (Utf8.encode "[a,b]".toList))).setStamp location
      (.time 5)
    let request := Invocation.request ⟨"g.pcg".toList, { watch := true }⟩ {}
    let path := Path.ofText "g.pcg".toList
    let streams := Streams.ofInput []
    let looks := Watch.initial.looks request path store streams
      [fun _ => Store.empty, fun _ => store]
    ∃ earlier other, earlier ≤ 2 ∧ looks[earlier]? = some other ∧
      other.Formats request path streams "[a,b]".toList ∧
      IdleFrom looks request path streams (earlier + 1) 3 := by
  intro location store request path streams looks
  let last : Look := ⟨⟨.time 5⟩, store⟩
  have watched : looks = [⟨Watch.initial, store⟩, ⟨⟨.time 5⟩, Store.empty⟩, last] := by
    decide +kernel
  have met : last.stamp? path = some (.time 5) := by decide +kernel
  have sources : looks.map (·.source? request streams) =
      [some "[a,b]".toList, none, some "[a,b]".toList] := by
    decide +kernel
  have read (look : Look) (member : look ∈ looks) (source : Text)
      (readable : source ∈ look.source? request streams) : source = "[a,b]".toList := by
    have found := List.mem_map_of_mem (f := (·.source? request streams)) member
    rw [sources, readable] at found
    simpa using found
  obtain ⟨-, current⟩ := @watch_output_is_current request path streams rfl store _ looks rfl
    (fun look member other otherMember _ source readable text otherReadable =>
      (read look member source readable).trans (read other otherMember text otherReadable).symm)
    (fun _ _ _ _ => rfl)
  have fresh := (current 2 last (by rw [watched]; rfl) "[a,b]".toList (by decide +kernel)).2 0
    (by decide +kernel)
  rcases fresh with fresh | ⟨zero, -⟩ | ⟨earlier, other, before, found, same, unread, -⟩
  · exact fresh
  · rw [met] at zero
    cases zero
  · rw [watched] at found
    obtain rfl | rfl : earlier = 0 ∨ earlier = 1 := by omega
    · cases Option.some.inj found
      exact absurd unread (by decide +kernel)
    · cases Option.some.inj found
      exact absurd same (by decide +kernel)

/-- An input of the time zero can be read, and a watch never formats it. -/
theorem watch_skips_time_zero :
    let location := ["work".toList, "g.pcg".toList]
    let store := (Store.empty.put location (.file (Utf8.encode "[a,b]".toList))).setStamp location
      (.time 0)
    let history := perform store (.ofInput []) ["--watch".toList, "g.pcg".toList] [id]
    store.readFile (Path.ofText "g.pcg".toList) = .ok (Utf8.encode "[a,b]".toList) ∧
      history.entries =
        [.errLine "Watching g.pcg for changes...".toList, .nothing, .nothing] ∧
      (format {} "[a,b]".toList).text ≠ [] := by
  decide +kernel

end ModuleGrammar.Command
