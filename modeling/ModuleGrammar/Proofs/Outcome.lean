/-
# The outcome of a plain run

A run that neither watches nor checks resolves its options, reads a source, formats it and
writes the text. Each of these stages can fail, and the text is written in the last one. So a
run that fails before has written nothing, and one that fails there has written at most the front
of its text, while whatever is found in a source is only printed and never keeps the text from its
target.
-/
import ModuleGrammar.Proofs.Course

namespace ModuleGrammar.Command

/-- A run without effect: it ends with code 2, prints nothing to the standard output and leaves
the files as they are. -/
structure Outcome.Refused (outcome : Outcome) (store : Store) : Prop where
  code : outcome.code = 2
  out : outcome.printed.out = []
  store : outcome.store = store

/-- A text has come to its target and nowhere else: what was printed to the standard output, and
the files before and after. The target is a file, or the standard output if there is no file. -/
def Delivered (text out : Text) (store later : Store) : Option Path → Prop
  | none => out = text ∧ later = store
  | some path => out = [] ∧ store.Receives path (Utf8.encode text) later

/-- At most the front of a text has come to its target, and nothing to anywhere else. -/
def BrokenOff (text out : Text) (store later : Store) : Option Path → Prop
  | none => out <+: text ∧ later = store
  | some path =>
    out = [] ∧ (later = store ∨ ∃ part, part <+: Utf8.encode text ∧ store.Receives path part later)

theorem Course.Stopped.refused {course : Course} {store : Store} {outcome : Outcome}
    (stopped : course.Stopped store) (ended : course.outcome = .ok outcome) :
    outcome.Refused store := by
  obtain ⟨code, printed, later⟩ := outcome_eq_ok_iff.mp ended
  exact ⟨stopped.code _ code, printed ▸ stopped.out, later ▸ stopped.store⟩

namespace Request

variable {request : Request} {store : Store} {streams : Streams}

/-- Nothing is delivered to the error output. -/
theorem err_deliver (request : Request) (store : Store) (streams : Streams) (text : Text) :
    (request.deliver store streams text).printed.err = [] := by
  rw [deliver]
  cases request.output with
  | none => rfl
  | some path =>
      dsimp only
      split <;> rfl

/-- A text that is delivered without a failure comes to its target. -/
theorem delivered_of_deliver {text : Text}
    (delivered : (request.deliver store streams text).failure? = none) :
    Delivered text (request.deliver store streams text).printed.out store
      (request.deliver store streams text).store request.output := by
  cases output : request.output with
  | none =>
      rw [deliver, output] at delivered ⊢
      exact ⟨(Limit.pass_eq_self_iff _ _).mpr (Option.map_eq_none_iff.mp delivered), rfl⟩
  | some path =>
      obtain ⟨nonnull, faultless⟩ := (failure?_deliver_eq_none_iff output).mp delivered
      rw [deliver_eq_of_output output nonnull]
      exact ⟨rfl, Store.receives_of_writeFile faultless⟩

/-- Whatever comes of delivering a text, its front comes to its target. -/
theorem brokenOff_deliver (request : Request) (store : Store) (streams : Streams) (text : Text) :
    BrokenOff text (request.deliver store streams text).printed.out store
      (request.deliver store streams text).store request.output := by
  cases output : request.output with
  | none =>
      rw [deliver, output]
      exact ⟨Limit.pass_isFront _ _, rfl⟩
  | some path =>
      cases nonnull : path.hasNull with
      | true =>
          rw [deliver, output]
          simp [nonnull, BrokenOff, Printed.nothing]
      | false =>
          rw [deliver_eq_of_output output nonnull]
          refine ⟨rfl, ?_⟩
          rcases store.writeFile_cases path (Utf8.encode text) with
            ⟨kept, -⟩ | ⟨part, front, received, -⟩
          · exact .inl kept
          · exact .inr ⟨part, front, received⟩

/-- A run that has read its source and ends with a code has an indentation that can be made. -/
theorem indentFault?_of_outcome {source : Text}
    (read : request.readSource store streams = .ok source) {outcome : Outcome}
    (ended : (request.runOnce store streams).outcome = .ok outcome) :
    request.style.indentFault? = none := by
  cases valid : request.style.indentFault? with
  | none => rfl
  | some fault =>
      rw [runOnce_of_indentFault read valid] at ended
      cases ended

/-- A failure to deliver is told behind the report and ends a run with code 2. -/
theorem brokenOff_of_failure (unasked : request.check = false) {source : Text}
    {formatted : Formatted} {failure : Failure}
    (failed : (request.deliver store streams formatted.text).failure? = some failure)
    {outcome : Outcome}
    (ended : (request.carryOut store streams (request.finish source formatted)).outcome =
      .ok outcome) :
    outcome.code = 2 ∧
      BrokenOff formatted.text outcome.printed.out store outcome.store request.output ∧
      ∃ line, failure.line = .ok line ∧ outcome.printed.err =
        (request.report source formatted.diagnostics).err ++ line ++ ['\n'] := by
  rw [carryOut_finish_of_failure unasked failed] at ended
  obtain ⟨code, printed, later⟩ := Course.outcome_eq_ok_iff.mp ended
  obtain ⟨line, told, last⟩ := Failure.exists_line_of_ending code
  refine ⟨failure.code_ending code, ?_, line, told, ?_⟩
  · rw [← printed, ← later]
    simpa [Printed.append, report, failure.out_ending] using
      request.brokenOff_deliver store streams formatted.text
  · rw [← printed]
    simp [Printed.append, err_deliver, last, Printed.errLine]

end Request

/-- Accepted arguments that neither watch nor check come to one of three ends. If the configuration
cannot be used or the source cannot be read, the run has no effect and ends with code 2. If the text
cannot be written, the run tells so and ends with code 2, and at most the front of the text has come
to its target. Otherwise the target receives the text and nothing else changes, the error output
receives the tokens, if they were asked for, and then one excerpt for each diagnostic, and the code
tells whether there is a diagnostic. -/
theorem plain_run_delivers {arguments : List Text} {invocation : Invocation}
    (accepted : Invocation.ofArguments arguments = .ok invocation)
    (once : invocation.options.watch = false) (unasked : invocation.options.check = false)
    {store : Store} {streams : Streams} {outcome : Outcome}
    (ran : run store streams arguments = .ok outcome) :
    (∀ error, invocation.resolve store = .error error → outcome.Refused store) ∧
    ∀ request, invocation.resolve store = .ok request →
      (∀ failure, request.readSource store streams = .error failure → outcome.Refused store) ∧
      ∀ source, request.readSource store streams = .ok source →
        (∀ failure,
          (request.deliver store streams (format request.style source).text).failure? =
            some failure →
          outcome.code = 2 ∧
          BrokenOff (format request.style source).text outcome.printed.out store outcome.store
            (Invocation.givenPath invocation.options.output) ∧
          ∃ line, failure.line = .ok line ∧ outcome.printed.err =
            (request.report source (format request.style source).diagnostics).err ++ line ++
              ['\n']) ∧
        ((request.deliver store streams (format request.style source).text).failure? = none →
          outcome.code = (if (format request.style source).diagnostics = [] then 0 else 1) ∧
          Delivered (format request.style source).text outcome.printed.out store outcome.store
            (Invocation.givenPath invocation.options.output) ∧
          outcome.printed.err =
            (if invocation.options.debug = true then (Token.listing (Token.scan source)).text
              else []) ++
              (format request.style source).diagnostics.flatMap fun diagnostic =>
                diagnostic.excerpt source request.displayName ++ ['\n']) := by
  have performed : perform store streams arguments [] =
      invocation.perform store streams [] := by
    rw [perform, accepted]
  refine ⟨fun error failed => ?_, fun request resolved => ?_⟩
  · rw [Invocation.perform, failed] at performed
    rw [run_eq_outcome performed] at ran
    exact (error.stopped_course store).refused ran
  · obtain ⟨style, rfl⟩ := Invocation.exists_style_of_resolve resolved
    have unwatched : (invocation.request style).watch = false := once
    rw [Invocation.perform, resolved] at performed
    simp only [unwatched, Bool.false_eq_true, if_false] at performed
    rw [run_eq_outcome performed] at ran
    refine ⟨fun failure unread => ?_, fun source read => ?_⟩
    · rw [Request.runOnce_of_failure unread] at ran
      exact (failure.stopped_course store).refused ran
    · rw [Request.runOnce_eq_finish read (Request.indentFault?_of_outcome read ran)] at ran
      refine ⟨fun failure failed => Request.brokenOff_of_failure unasked failed ran,
        fun wrote => ?_⟩
      rw [Request.carryOut_finish_of_deliver unasked wrote] at ran
      obtain ⟨code, whole, later⟩ := Course.outcome_eq_ok_iff.mp ran
      refine ⟨?_, ?_, ?_⟩
      · rw [← Except.ok.inj code, Request.cleanCode, Formatted.isClean]
        simp only [List.isEmpty_iff]
      · rw [← whole, ← later]
        exact Request.delivered_of_deliver wrote
      · rw [← whole, Printed.append, Request.err_deliver, List.append_nil]
        rfl

/-- A bracket that is not closed does not keep the text from its file. On a standard output that is
full after two characters, the front of the text gets through. -/
theorem plain_run_delivers_unclosed :
    let store := Store.empty.put ["work".toList, "in.pcg".toList]
      (.file (Utf8.encode "[a".toList))
    let arguments := ["--debug".toList, "../work/in.pcg".toList, "-o".toList, "/out.pcg".toList]
    let full : Streams :=
      ⟨.ok (Utf8.encode "[a".toList), some ⟨2, 28, "No space left on device".toList, false⟩⟩
    (∃ outcome, run store (.ofInput []) arguments = .ok outcome ∧ outcome.code = 1 ∧
      outcome.code = (if (format {} "[a".toList).diagnostics = [] then 0 else 1) ∧
      Delivered (format {} "[a".toList).text outcome.printed.out store outcome.store
        (some (Path.ofText "/out.pcg".toList)) ∧
      outcome.printed.err = (Token.listing (Token.scan "[a".toList)).text ++
        (format {} "[a".toList).diagnostics.flatMap fun diagnostic =>
          diagnostic.excerpt "[a".toList "../work/in.pcg".toList ++ ['\n']) ∧
    ∃ outcome, run store full ["-".toList] = .ok outcome ∧ outcome.printed.out = "[\n".toList ∧
      outcome.code = 2 ∧
      BrokenOff (format {} "[a".toList).text outcome.printed.out store outcome.store none := by
  intro store arguments full
  constructor
  · let invocation : Invocation :=
      ⟨"../work/in.pcg".toList, { output := some "/out.pcg".toList, debug := true }⟩
    have ran : run store (.ofInput []) arguments =
        .ok ⟨1, ⟨[], (Token.listing (Token.scan "[a".toList)).text ++
          "error: Unclosed square bracket\n  --> ../work/in.pcg:1:1\n  |\n1 | [a\n  | ^\n".toList⟩,
          store.put ["out.pcg".toList] (.file (Utf8.encode "[\n  a".toList))⟩ := by
      decide +kernel
    have resolved : invocation.resolve store = .ok (invocation.request {}) := rfl
    have read : (invocation.request {}).readSource store (.ofInput []) = .ok "[a".toList := by
      decide +kernel
    have resolves := (@plain_run_delivers arguments invocation rfl rfl rfl store _ _ ran).2
    exact ⟨_, ran, rfl, ((resolves _ resolved).2 _ read).2 (by decide +kernel)⟩
  · let invocation : Invocation := ⟨"-".toList, {}⟩
    have ran : run store full ["-".toList] =
        .ok ⟨2, ⟨"[\n".toList,
          "error: Unclosed square bracket\n  --> <stdin>:1:1\n  |\n1 | [a\n  | ^\n".toList ++
            "error: [Errno 28] No space left on device\n".toList⟩, store⟩ := by
      decide +kernel
    have resolved : invocation.resolve store = .ok (invocation.request {}) := rfl
    have read : (invocation.request {}).readSource store full = .ok "[a".toList := by
      decide +kernel
    have failed :
        ((invocation.request {}).deliver store full (format {} "[a".toList).text).failure? =
          some (.stream ⟨28, "No space left on device".toList, false⟩) := by
      decide +kernel
    have resolves := (@plain_run_delivers ["-".toList] invocation rfl rfl rfl store full _ ran).2
    obtain ⟨code, front, -⟩ := ((resolves _ resolved).2 _ read).1 _ failed
    exact ⟨_, ran, rfl, code, front⟩

end ModuleGrammar.Command
