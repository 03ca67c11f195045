/-
# The course of a request

A run that does not watch reads its source, formats it and then checks or writes. What keeps it
from checking or writing is said once: it is stopped or ends with code 2, and has written nothing
by then. From this it follows when a run to a file ends with another code, when a check ends with
code 0, and that a check leaves everything as it is.
-/
import ModuleGrammar.Proofs.Formatting
import ModuleGrammar.Proofs.Request
import ModuleGrammar.Proofs.Storage

namespace ModuleGrammar.Command

namespace Failure

/-- A failure ends a run with its code, if it does not stop it. -/
theorem code_ending (failure : Failure) {code other : Nat}
    (ended : (failure.ending code).result = .ok other) : other = code := by
  rw [ending] at ended
  cases line : failure.line <;> rw [line] at ended <;> cases ended
  rfl

/-- A failure that does not stop a run is printed. -/
theorem exists_line_of_ending {failure : Failure} {code other : Nat}
    (ended : (failure.ending code).result = .ok other) :
    ∃ line, failure.line = .ok line ∧ (failure.ending code).printed = .errLine line := by
  rw [ending] at ended ⊢
  cases told : failure.line with
  | error crash =>
      rw [told] at ended
      cases ended
  | ok line => exact ⟨line, rfl, rfl⟩

theorem out_ending (failure : Failure) (code : Nat) : (failure.ending code).printed.out = [] := by
  rw [ending]
  cases failure.line <;> rfl

theorem stopped_course (failure : Failure) (store : Store) :
    ((failure.ending 2).course store).Stopped store :=
  ⟨fun _ => failure.code_ending, failure.out_ending 2, rfl⟩

end Failure

theorem decodeSource_eq_ok_iff {content : Bytes} {source : Text} :
    decodeSource content = .ok source ↔
      ∃ text, Utf8.decode content = .ok text ∧ text.unifyBreaks = source := by
  rw [decodeSource]
  cases Utf8.decode content <;> simp

namespace Request

variable {request : Request} {store : Store} {streams : Streams} {path : Path}

/-- A file is read as a source if it can be read and decoded. -/
theorem readSource_eq_ok_iff (input : request.input = some path) {source : Text} :
    request.readSource store streams = .ok source ↔
      path.hasNull = false ∧ ∃ content, store.readFile path = .ok content ∧
        decodeSource content = .ok source := by
  rw [readSource, input]
  dsimp only
  cases path.hasNull with
  | true => simp
  | false => cases store.readFile path <;> simp

theorem formatSource_eq_ok (valid : request.style.indentFault? = none) (source : Text) :
    request.formatSource source = .ok (format request.style source) := by
  rw [formatSource, tryFormat_eq_ok_iff.mpr ⟨valid, rfl⟩]

theorem formatSource_eq_error {fault : IndentFault}
    (faulty : request.style.indentFault? = some fault) (source : Text) :
    request.formatSource source = .error (.indentation fault) := by
  rw [formatSource, tryFormat_eq_error_iff.mpr faulty]

/-- A source that was read is formatted, as long as the indentation can be made. -/
theorem proceed_eq_next (valid : request.style.indentFault? = none) (failureCode : Nat)
    (next : Text → Formatted → Plan) (source : Text) :
    request.proceed failureCode next (.ok source) = next source (format request.style source) := by
  rw [proceed, formatSource_eq_ok valid]

/-- An indentation that cannot be made stops a run once its source is read. -/
theorem proceed_of_indentFault {fault : IndentFault}
    (faulty : request.style.indentFault? = some fault) (failureCode : Nat)
    (next : Text → Formatted → Plan) (source : Text) :
    request.proceed failureCode next (.ok source) =
      .stop ⟨.error (.indentation fault), ⟨[], request.listing source⟩⟩ := by
  rw [proceed, formatSource_eq_error faulty]

theorem runOnce_eq_finish {source : Text}
    (read : request.readSource store streams = .ok source)
    (valid : request.style.indentFault? = none) :
    request.runOnce store streams =
      request.carryOut store streams (request.finish source (format request.style source)) := by
  rw [runOnce, read, plan, proceed_eq_next valid]

theorem runOnce_of_indentFault {source : Text}
    (read : request.readSource store streams = .ok source) {fault : IndentFault}
    (faulty : request.style.indentFault? = some fault) :
    request.runOnce store streams =
      ⟨.error (.indentation fault), ⟨[], request.listing source⟩, store⟩ := by
  rw [runOnce, read, plan, proceed_of_indentFault faulty]
  rfl

/-- A run whose source cannot be read ends with the failure. -/
theorem runOnce_of_failure {failure : Failure}
    (unread : request.readSource store streams = .error failure) :
    request.runOnce store streams = (failure.ending 2).course store := by
  rw [runOnce, unread]
  rfl

theorem runOnce_cases (request : Request) (store : Store) (streams : Streams) :
    (request.runOnce store streams).Stopped store ∨
      ∃ source, request.readSource store streams = .ok source ∧
        request.style.indentFault? = none := by
  cases read : request.readSource store streams with
  | error failure =>
      left
      rw [runOnce_of_failure read]
      exact failure.stopped_course store
  | ok source =>
      cases valid : request.style.indentFault? with
      | none => exact .inr ⟨source, rfl, rfl⟩
      | some fault =>
          left
          rw [runOnce_of_indentFault read valid]
          refine ⟨?_, rfl, rfl⟩
          intro code ended
          cases ended

theorem carryOut_finish_of_check (asked : request.check = true) (store : Store)
    (streams : Streams) (source : Text) (formatted : Formatted) :
    request.carryOut store streams (request.finish source formatted) =
      ⟨.ok (request.compare source formatted).1,
        (request.report source formatted.diagnostics).append (request.compare source formatted).2,
        store⟩ := by
  rw [finish, if_pos asked]
  rfl

/-- The course of a check that finds its source in layout. -/
theorem runOnce_of_check_of_layOut (asked : request.check = true) {source : Text}
    (read : request.readSource store streams = .ok source)
    (valid : request.style.indentFault? = none) (fixed : layOut request.style source = source) :
    request.runOnce store streams =
      ⟨.ok (cleanCode (format request.style source)), request.report source (diagnose source),
        store⟩ := by
  have matched : (format request.style source).text = source := fixed
  rw [runOnce_eq_finish read valid, carryOut_finish_of_check asked, compare, if_pos matched]
  simp [Printed.append, Printed.nothing, report, format]

/-- A text that is delivered leaves the code of its diagnostics. -/
theorem carryOut_finish_of_deliver (unasked : request.check = false) {formatted : Formatted}
    (delivered : (request.deliver store streams formatted.text).failure? = none)
    (source : Text) :
    request.carryOut store streams (request.finish source formatted) =
      ⟨.ok (cleanCode formatted),
        (request.report source formatted.diagnostics).append
          (request.deliver store streams formatted.text).printed,
        (request.deliver store streams formatted.text).store⟩ := by
  rw [finish, unasked]
  simp [carryOut, delivered, Plan.conclude, Printed.append, Printed.nothing]

/-- A text that is not delivered leaves code 2. -/
theorem carryOut_finish_of_failure (unasked : request.check = false) {formatted : Formatted}
    {failure : Failure}
    (failed : (request.deliver store streams formatted.text).failure? = some failure)
    (source : Text) :
    request.carryOut store streams (request.finish source formatted) =
      ⟨(failure.ending 2).result,
        ((request.report source formatted.diagnostics).append
          (request.deliver store streams formatted.text).printed).append
            (failure.ending 2).printed,
        (request.deliver store streams formatted.text).store⟩ := by
  rw [finish, unasked]
  simp [carryOut, failed, Plan.conclude]

theorem deliver_eq_of_output (output : request.output = some path)
    (nonnull : path.hasNull = false) (text : Text) :
    request.deliver store streams text =
      ⟨(store.writeFile path (Utf8.encode text)).fault?.map (.file · path), .nothing,
        (store.writeFile path (Utf8.encode text)).store⟩ := by
  rw [deliver, output]
  dsimp only
  rw [nonnull]
  rfl

theorem failure?_deliver_eq_none_iff (output : request.output = some path) {text : Text} :
    (request.deliver store streams text).failure? = none ↔
      path.hasNull = false ∧ (store.writeFile path (Utf8.encode text)).fault? = none := by
  cases nonnull : path.hasNull with
  | true => simp [deliver, output, nonnull]
  | false => simp [deliver_eq_of_output output nonnull]

/-- What makes a run to a file end with code 0 or 1. -/
theorem runOnce_writes_iff (unasked : request.check = false)
    (output : request.output = some path) {code : Nat} (usable : code ≠ 2) {later : Store} :
    (request.runOnce store streams).result = .ok code ∧
        (request.runOnce store streams).store = later ↔
      ∃ source, request.readSource store streams = .ok source ∧
        request.style.indentFault? = none ∧ path.hasNull = false ∧
        (store.writeFile path (Utf8.encode (layOut request.style source))).fault? = none ∧
        (store.writeFile path (Utf8.encode (layOut request.style source))).store = later ∧
        cleanCode (format request.style source) = code := by
  constructor
  · rintro ⟨ended, left⟩
    rcases runOnce_cases request store streams with stopped | ⟨source, read, valid⟩
    · exact absurd (stopped.code code ended) usable
    · rw [runOnce_eq_finish read valid] at ended left
      cases delivered :
          (request.deliver store streams (format request.style source).text).failure? with
      | some failure =>
          rw [carryOut_finish_of_failure unasked delivered] at ended
          exact absurd (failure.code_ending ended) usable
      | none =>
          obtain ⟨nonnull, faultless⟩ := (failure?_deliver_eq_none_iff output).mp delivered
          rw [carryOut_finish_of_deliver unasked delivered] at ended left
          rw [deliver_eq_of_output output nonnull] at left
          exact ⟨source, read, valid, nonnull, faultless, left, Except.ok.inj ended⟩
  · rintro ⟨source, read, valid, nonnull, faultless, left, ended⟩
    have delivered :
        (request.deliver store streams (format request.style source).text).failure? = none :=
      (failure?_deliver_eq_none_iff output).mpr ⟨nonnull, faultless⟩
    rw [runOnce_eq_finish read valid, carryOut_finish_of_deliver unasked delivered,
      deliver_eq_of_output output nonnull]
    exact ⟨congrArg Except.ok ended, left⟩

theorem cleanCode_eq_zero_iff {formatted : Formatted} :
    cleanCode formatted = 0 ↔ formatted.diagnostics = [] := by
  simp [cleanCode, Formatted.isClean]

/-- What makes a check end with code 0. -/
theorem result_runOnce_eq_zero_iff (asked : request.check = true) :
    (request.runOnce store streams).result = .ok 0 ↔
      ∃ source, request.readSource store streams = .ok source ∧
        request.style.indentFault? = none ∧ diagnose source = [] ∧
        layOut request.style source = source := by
  constructor
  · intro ended
    rcases runOnce_cases request store streams with stopped | ⟨source, read, valid⟩
    · exact absurd (stopped.code 0 ended) (by decide)
    · rw [runOnce_eq_finish read valid, carryOut_finish_of_check asked, compare] at ended
      split at ended
      case isTrue fixed =>
        exact ⟨source, read, valid, cleanCode_eq_zero_iff.mp (Except.ok.inj ended), fixed⟩
      case isFalse => cases ended
  · rintro ⟨source, read, valid, clean, fixed⟩
    rw [runOnce_of_check_of_layOut asked read valid fixed]
    exact congrArg Except.ok (cleanCode_eq_zero_iff.mpr clean)

/-- A check leaves the files alone and prints nothing to the standard output. -/
theorem runOnce_keeps_of_check (asked : request.check = true) (store : Store)
    (streams : Streams) :
    (request.runOnce store streams).store = store ∧
      (request.runOnce store streams).printed.out = [] := by
  rcases runOnce_cases request store streams with stopped | ⟨source, read, valid⟩
  · exact ⟨stopped.store, stopped.out⟩
  · rw [runOnce_eq_finish read valid, carryOut_finish_of_check asked, compare]
    split <;> exact ⟨rfl, rfl⟩

end Request

end ModuleGrammar.Command
