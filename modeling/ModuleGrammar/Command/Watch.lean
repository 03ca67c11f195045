/-
# Watching a file

A watch looks at the stamp of its input again and again and formats the input
whenever the stamp is not the one it saw last. A failure is printed and the
watch goes on. Between two looks the files may change in any way, which is a
function on the store here; a session is the list of these changes.
-/
import ModuleGrammar.Command.Run

namespace ModuleGrammar.Command

/-- The history of a session: the code that it ends with or what stops it, what
was printed up to each pause and behind the last one, and the files. -/
structure History where
  result : Except Crash Nat
  entries : List Printed
  store : Store
  deriving Repr

namespace History

/-- The history of a run without a pause. -/
def ofCourse (course : Course) : History :=
  ⟨course.result, [course.printed], course.store⟩

/-- A history with something that was printed up to a pause before it. -/
def behind (history : History) (printed : Printed) : History :=
  { history with entries := printed :: history.entries }

/-- A history in which something is printed first. -/
def greet (history : History) (greeting : Printed) : History :=
  match history.entries with
  | [] => { history with entries := [greeting] }
  | first :: rest => { history with entries := greeting.append first :: rest }

/-- Nothing is printed behind the last pause, at which a session is interrupted. -/
def interrupt (history : History) : History :=
  match history.result with
  | .error _ => history
  | .ok _ => { history with entries := history.entries ++ [.nothing] }

end History

/-- What a watch remembers: the stamp that it saw last. -/
structure Watch where
  seen : Stamp
  deriving DecidableEq, Repr

namespace Watch

/-- At first a watch behaves as if it had seen the time zero. -/
def initial : Watch :=
  ⟨.time 0⟩

/-- Write the formatted input. -/
def publish (request : Request) (path : Path) (source : Text) (formatted : Formatted) : Plan :=
  let done := Printed.errLine ("Formatted ".toList ++ path.text)
  .write (request.report source formatted.diagnostics) formatted.text ⟨.ok 0, done⟩ 0

/-- What a watch does with an input that it has noticed. -/
def plan (request : Request) (path : Path) (source : Except Failure Text) : Plan :=
  request.proceed 0 (publish request path) source

/-- What a watch remembers once it has noticed an input. An input that is not there
is left alone, and so is one with the remembered stamp. -/
def notice (watch : Watch) : Except Failure Stamp → Except Crash (Option Watch)
  | .error .embeddedNull => .error .embeddedNull
  | .error _ => .ok none
  | .ok stamp => .ok (if stamp = watch.seen then none else some ⟨stamp⟩)

/-- The stamp of a path. -/
def stampOf (store : Store) (path : Path) : Except Failure Stamp :=
  if path.hasNull then .error .embeddedNull
  else
    match store.find path with
    | .error fault => .error (.file fault path)
    | .ok entry => .ok entry.stamp

/-- Format the input once. -/
def refresh (request : Request) (path : Path) (store : Store) (streams : Streams) : Course :=
  request.carryOut store streams (plan request path (request.readSource store streams))

/-- Look at the input once. A stamp is remembered whatever comes of the input. -/
def poll (watch : Watch) (request : Request) (path : Path) (store : Store)
    (streams : Streams) : Watch × Course :=
  match watch.notice (stampOf store path) with
  | .error crash => (watch, ⟨.error crash, .nothing, store⟩)
  | .ok none => (watch, ⟨.ok 0, .nothing, store⟩)
  | .ok (some next) => (next, refresh request path store streams)

/-- Look at the input, let the first change happen, look again, and so on, until
the watch is interrupted after the last change. -/
def history (watch : Watch) (request : Request) (path : Path) (store : Store)
    (streams : Streams) : List (Store → Store) → History
  | [] => .ofCourse (watch.poll request path store streams).2
  | change :: changes =>
    let (watch, course) := watch.poll request path store streams
    match course.result with
    | .error _ => .ofCourse course
    | .ok _ =>
      (watch.history request path (change course.store) streams changes).behind course.printed

/-- What is printed before the first look. -/
def greeting (path : Path) : Printed :=
  .errLine ("Watching ".toList ++ path.text ++ " for changes...".toList)

end Watch

/-- The end of a run that is to watch the standard input. -/
def Request.unwatchable : Ending :=
  ⟨.ok 0, .errLine "error: --watch needs an input file".toList⟩

/-- The end of a run that cannot use its configuration. -/
def ConfigError.ending (error : ConfigError) : Ending :=
  match error.line with
  | .error crash => ⟨.error crash, .nothing⟩
  | .ok line => ⟨.ok 2, .errLine line⟩

/-- The end of a run for which there is nothing to do. -/
def Halt.ending : Halt → Ending
  | .help => ⟨.ok 0, ⟨Command.help, []⟩⟩
  | .refused error => ⟨.ok 2, ⟨[], error.report⟩⟩

/-- The course of a run that only ends. -/
def Ending.course (ending : Ending) (store : Store) : Course :=
  ⟨ending.result, ending.printed, store⟩

/-- Watch the input of a request. -/
def Request.watchInput (request : Request) (store : Store) (streams : Streams)
    (changes : List (Store → Store)) : History :=
  match request.input with
  | none => .ofCourse (unwatchable.course store)
  | some path =>
    ((Watch.initial.history request path store streams changes).greet
      (Watch.greeting path)).interrupt

/-- Do what an invocation says. If it watches its input, the changes happen one
after the other in its pauses. -/
def Invocation.perform (invocation : Invocation) (store : Store) (streams : Streams)
    (changes : List (Store → Store)) : History :=
  match invocation.resolve store with
  | .error error => .ofCourse (error.ending.course store)
  | .ok request =>
    if request.watch then request.watchInput store streams changes
    else .ofCourse (request.runOnce store streams)

/-- Do what some arguments say. -/
def perform (store : Store) (streams : Streams) (arguments : List Text)
    (changes : List (Store → Store)) : History :=
  match Invocation.ofArguments arguments with
  | .error halt => .ofCourse (halt.ending.course store)
  | .ok invocation => invocation.perform store streams changes

/-- A session that ended with a code. -/
structure Session where
  code : Nat
  entries : List Printed
  store : Store
  deriving DecidableEq, Repr

/-- The end of a run that has a code. -/
structure Outcome where
  code : Nat
  printed : Printed
  store : Store
  deriving DecidableEq, Repr

/-- The outcome of a session, with all that was printed in one piece. -/
def Session.outcome (session : Session) : Outcome :=
  ⟨session.code, session.entries.foldl Printed.append .nothing, session.store⟩

/-- Run the command with some arguments over a store. If it watches its input, the
changes happen one after the other in its pauses. -/
def runSession (store : Store) (streams : Streams) (arguments : List Text)
    (changes : List (Store → Store)) : Except Crash Session :=
  let history := perform store streams arguments changes
  match history.result with
  | .error crash => .error crash
  | .ok code => .ok ⟨code, history.entries, history.store⟩

/-- Run the command with some arguments over a store. A watch is interrupted at
its first pause. -/
def run (store : Store) (streams : Streams) (arguments : List Text) :
    Except Crash Outcome :=
  match runSession store streams arguments [] with
  | .error crash => .error crash
  | .ok session => .ok session.outcome

end ModuleGrammar.Command
