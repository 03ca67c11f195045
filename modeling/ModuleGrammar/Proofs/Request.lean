/-
# What the arguments come to

The invocation fixes its request up to the style, and the style depends on the input, on the
configuration that was given and on the layout. So commands that differ in nothing else come
to the same style. A run that does not watch is one course of its request, and one that ends
neither with help nor with code 2 has a request: a configuration that cannot be used stops it.
-/
import ModuleGrammar.Command.Watch
import ModuleGrammar.Proofs.Arguments

namespace ModuleGrammar.Command

namespace Invocation

/-- The style of an invocation. -/
def style (invocation : Invocation) (store : Store) : Except ConfigError Style :=
  match invocation.configContent store with
  | .error error => .error error
  | .ok content =>
    match readConfig content with
    | .error error => .error error
    | .ok config => (resolveStyle config invocation.options).mapError .setting

/-- The request of an invocation in a style. -/
def request (invocation : Invocation) (style : Style) : Request where
  input := invocation.inputPath
  output := givenPath invocation.options.output
  style
  check := invocation.options.check
  watch := invocation.options.watch
  debug := invocation.options.debug

theorem resolve_eq (invocation : Invocation) (store : Store) :
    invocation.resolve store = (invocation.style store).map invocation.request := by
  rw [resolve, style]
  cases invocation.configContent store with
  | error error => rfl
  | ok content =>
      dsimp only
      rw [resolveWith]
      cases readConfig content with
      | error error => rfl
      | ok config =>
          dsimp only
          cases resolveStyle config invocation.options <;> rfl

theorem exists_style_of_resolve {invocation : Invocation} {store : Store} {request : Request}
    (resolved : invocation.resolve store = .ok request) :
    ∃ style, request = invocation.request style := by
  rw [resolve_eq] at resolved
  cases styled : invocation.style store with
  | error error =>
      rw [styled] at resolved
      cases resolved
  | ok style =>
      rw [styled] at resolved
      exact ⟨style, (Except.ok.inj resolved).symm⟩

/-- Of the other options only the configuration matters to the style. -/
theorem style_withLayout {options other : Options} (same : options.config = other.config)
    (input : Text) (layout : Options) (store : Store) :
    style ⟨input, options.withLayout layout⟩ store =
      style ⟨input, other.withLayout layout⟩ store := by
  have path : configPath ⟨input, options.withLayout layout⟩ =
      configPath ⟨input, other.withLayout layout⟩ := by
    simp only [configPath, Options.withLayout, same]
    rfl
  have content : configContent ⟨input, options.withLayout layout⟩ store =
      configContent ⟨input, other.withLayout layout⟩ store := by
    rw [configContent, configContent, path]
  rw [style, style, content]
  rfl

end Invocation

/-- The style that some arguments come to, if they and the configuration can be used. -/
def resolvedStyle? (store : Store) (arguments : List Text) : Option Style :=
  match Invocation.ofArguments arguments with
  | .error _ => none
  | .ok invocation =>
    match invocation.resolve store with
    | .error _ => none
    | .ok request => some request.style

theorem resolvedStyle?_eq (store : Store) (arguments : List Text) :
    resolvedStyle? store arguments =
      match Invocation.ofArguments arguments with
      | .error _ => none
      | .ok invocation => (invocation.style store).toOption := by
  rw [resolvedStyle?]
  cases Invocation.ofArguments arguments with
  | error halt => rfl
  | ok invocation =>
      dsimp only
      rw [Invocation.resolve_eq]
      cases invocation.style store <;> rfl

theorem resolvedStyle?_eq_some_iff {store : Store} {arguments : List Text} {style : Style} :
    resolvedStyle? store arguments = some style ↔
      ∃ invocation, Invocation.ofArguments arguments = .ok invocation ∧
        invocation.style store = .ok style := by
  rw [resolvedStyle?_eq]
  cases Invocation.ofArguments arguments with
  | error halt => simp
  | ok invocation =>
      cases styled : invocation.style store with
      | error error => simp [styled, Except.toOption]
      | ok other => simp [styled, Except.toOption]

/-- The outcome of a run without a pause. -/
def Course.outcome (course : Course) : Except Crash Outcome :=
  course.result.map fun code => ⟨code, course.printed, course.store⟩

theorem Course.outcome_eq_ok_iff {course : Course} {outcome : Outcome} :
    course.outcome = .ok outcome ↔
      course.result = .ok outcome.code ∧ course.printed = outcome.printed ∧
        course.store = outcome.store := by
  obtain ⟨result, printed, store⟩ := course
  obtain ⟨code, text, later⟩ := outcome
  cases result <;> simp [Course.outcome, Except.map]

/-- A run without a pause is a session of one entry. -/
theorem run_eq_outcome {store : Store} {streams : Streams} {arguments : List Text}
    {course : Course} (performed : perform store streams arguments [] = .ofCourse course) :
    run store streams arguments = course.outcome := by
  rw [run, runSession, performed]
  obtain ⟨result, printed, later⟩ := course
  cases result <;> rfl

/-- A run that does not get to check or write: it is stopped or ends with code 2, prints nothing to
the standard output and leaves the files as they are. -/
structure Course.Stopped (course : Course) (store : Store) : Prop where
  code : ∀ code, course.result = .ok code → code = 2
  out : course.printed.out = []
  store : course.store = store

/-- A configuration that cannot be used stops a run. -/
theorem ConfigError.stopped_course (error : ConfigError) (store : Store) :
    (error.ending.course store).Stopped store := by
  rw [ending]
  cases error.line with
  | error crash =>
      refine ⟨?_, rfl, rfl⟩
      intro code ended
      cases ended
  | ok line => exact ⟨fun code ended => (Except.ok.inj ended).symm, rfl, rfl⟩

/-- A run that ends neither with help nor with code 2 has a style. -/
theorem exists_style_of_run {store : Store} {streams : Streams} {arguments : List Text}
    {outcome : Outcome} (ran : run store streams arguments = .ok outcome)
    (code : outcome.code ≠ 2) (helpless : Invocation.ofArguments arguments ≠ .error .help) :
    ∃ style, resolvedStyle? store arguments = some style := by
  -- Refused arguments and a configuration that cannot be used have courses of their own, and
  -- neither ends with another code.
  cases accepted : Invocation.ofArguments arguments with
  | error halt =>
      cases halt with
      | help => exact absurd accepted helpless
      | refused error =>
          have performed : perform store streams arguments [] =
              .ofCourse ((Halt.refused error).ending.course store) := by
            rw [perform, accepted]
          rw [run_eq_outcome performed] at ran
          cases ran
          exact absurd rfl code
  | ok invocation =>
      cases styled : invocation.style store with
      | error error =>
          have performed : perform store streams arguments [] =
              .ofCourse (error.ending.course store) := by
            rw [perform, accepted]
            dsimp only
            rw [Invocation.perform, Invocation.resolve_eq, styled]
            rfl
          rw [run_eq_outcome performed] at ran
          obtain ⟨ended, -, -⟩ := Course.outcome_eq_ok_iff.mp ran
          exact absurd ((error.stopped_course store).code _ ended) code
      | ok style => exact ⟨style, resolvedStyle?_eq_some_iff.mpr ⟨invocation, accepted, styled⟩⟩

section Layout

variable {flags : List Text} {switches : List (Switch × Text)}

/-- Layout options leave all of a request but its style as it is. -/
theorem run_of_layout {store : Store} {arguments : List Text} {input : Text} {options : Options}
    (accepted : Invocation.ofArguments arguments =
      (({} : Options).takeAll switches).map fun layout => ⟨input, options.withLayout layout⟩)
    (once : options.watch = false) {style : Style}
    (resolved : resolvedStyle? store arguments = some style) (streams : Streams) :
    run store streams arguments =
      ((Invocation.request ⟨input, options⟩ style).runOnce store streams).outcome := by
  obtain ⟨invocation, read, styled⟩ := resolvedStyle?_eq_some_iff.mp resolved
  have performed : perform store streams arguments [] =
      if (invocation.request style).watch then
        (invocation.request style).watchInput store streams []
      else .ofCourse ((invocation.request style).runOnce store streams) := by
    rw [perform, read]
    dsimp only
    rw [Invocation.perform, Invocation.resolve_eq, styled]
    rfl
  rw [accepted] at read
  cases taken : ({} : Options).takeAll switches with
  | error halt =>
      rw [taken] at read
      cases read
  | ok layout =>
      rw [taken] at read
      cases read
      rw [if_neg (by simpa [Invocation.request, Options.withLayout] using once)] at performed
      exact run_eq_outcome performed

theorem run_write (layout : LayoutFlags flags switches) {store : Store} {input output : Text}
    (plain : Word.ofText input = .ok (.plain input)) (first : output.head? ≠ some '-')
    {style : Style}
    (resolved : resolvedStyle? store (input :: "-o".toList :: output :: flags) = some style)
    (streams : Streams) :
    run store streams (input :: "-o".toList :: output :: flags) =
      ((Invocation.request ⟨input, { output := some output }⟩ style).runOnce store
        streams).outcome :=
  run_of_layout (Invocation.ofArguments_write layout plain first) rfl resolved streams

theorem run_check (layout : LayoutFlags flags switches) {store : Store} {file : Text}
    (first : file.head? ≠ some '-') {style : Style}
    (resolved : resolvedStyle? store ("--check".toList :: file :: flags) = some style)
    (streams : Streams) :
    run store streams ("--check".toList :: file :: flags) =
      ((Invocation.request ⟨file, { check := true }⟩ style).runOnce store streams).outcome :=
  run_of_layout (Invocation.ofArguments_check layout first) rfl resolved streams

/-- Checking a file and writing it to any place come to the same style. -/
theorem resolvedStyle?_check (layout : LayoutFlags flags switches) {store : Store}
    {file output : Text} (first : file.head? ≠ some '-') (other : output.head? ≠ some '-') :
    resolvedStyle? store ("--check".toList :: file :: flags) =
      resolvedStyle? store (file :: "-o".toList :: output :: flags) := by
  rw [resolvedStyle?_eq, resolvedStyle?_eq, Invocation.ofArguments_check layout first,
    Invocation.ofArguments_write layout (Word.ofText_of_head first) other]
  cases ({} : Options).takeAll switches with
  | error halt => rfl
  | ok layout =>
      simp only [Except.map]
      rw [Invocation.style_withLayout]
      rfl

theorem ofArguments_write_ne_help (layout : LayoutFlags flags switches) {input output : Text}
    (plain : Word.ofText input = .ok (.plain input)) (first : output.head? ≠ some '-') :
    Invocation.ofArguments (input :: "-o".toList :: output :: flags) ≠ .error .help := by
  rw [Invocation.ofArguments_write layout plain first]
  cases taken : ({} : Options).takeAll switches with
  | error halt =>
      obtain ⟨error, rfl⟩ := Options.exists_refused_of_takeAll layout.isLayout taken
      simp [Except.map]
  | ok layout => simp [Except.map]

end Layout

end ModuleGrammar.Command
