/-
# Checking a file

A check formats its input and compares, where another run writes. So a file that was written
passes its check: a layout is laid out as itself, has the findings of its source and is read
from a file as it was written there. A check passes where formatting in place finds nothing and
changes at most carriage returns. It writes nothing, unless it is asked to watch: a watch does
not look at the option for checking.
-/
import ModuleGrammar.Proofs.Course
import ModuleGrammar.Proofs.Encoding
import ModuleGrammar.Proofs.Finding
import ModuleGrammar.Proofs.Spacing

namespace ModuleGrammar.Command

namespace Invocation

theorem inputPath_of_head {file : Text} (first : file.head? ≠ some '-') (options : Options) :
    inputPath ⟨file, options⟩ = some (Path.ofText file) := by
  rw [inputPath, if_neg]
  rintro rfl
  exact first rfl

/-- A file is read as its text, with newlines of one kind. -/
theorem readSource_request_iff {file : Text} (first : file.head? ≠ some '-') {store : Store}
    {content : Bytes} {text : Text} (found : store.readFile (Path.ofText file) = .ok content)
    (decoded : Utf8.decode content = .ok text) {options : Options} {style : Style}
    {streams : Streams} {source : Text} :
    (request ⟨file, options⟩ style).readSource store streams = .ok source ↔
      (Path.ofText file).hasNull = false ∧ text.unifyBreaks = source := by
  rw [Request.readSource_eq_ok_iff (inputPath_of_head first options)]
  simp [found, decodeSource_eq_ok_iff, decoded]

theorem givenPath_of_ne_nil {text : Text} (nonempty : text ≠ []) :
    givenPath (some text) = some (Path.ofText text) := by
  simp [givenPath, Option.filter, nonempty]

end Invocation

/-- A layout has the findings of its source, and so the same code. -/
theorem cleanCode_format_layOut (style : Style) (source : Text) :
    Request.cleanCode (format style (layOut style source)) =
      Request.cleanCode (format style source) := by
  have same : (diagnose (layOut style source)).isEmpty = (diagnose source).isEmpty := by
    rw [← List.isEmpty_map, map_content_diagnose_eq (lexemes_layOut style source),
      List.isEmpty_map]
  rw [Request.cleanCode, Request.cleanCode, Formatted.isClean, Formatted.isClean, format, format,
    same]

section Layout

variable {flags : List Text} {switches : List (Switch × Text)}

/-- A file that was written with code 0 or 1, and can be read, passes the check in the same style
with the same code. The check leaves all files as they are and prints the diagnostics of the file
and nothing else; in particular it does not say that it would reformat the file. -/
theorem check_agrees_with_write (layout : LayoutFlags flags switches) {store : Store}
    {streams : Streams} {input output : Text}
    (plain : Word.ofText input = .ok (.plain input)) (nonempty : output ≠ [])
    (first : output.head? ≠ some '-') {written : Outcome}
    (ran : run store streams (input :: "-o".toList :: output :: flags) = .ok written)
    (code : written.code = 0 ∨ written.code = 1) {content : Bytes}
    (readable : written.store.readFile (Path.ofText output) = .ok content)
    (same : resolvedStyle? written.store ("--check".toList :: output :: flags) =
      resolvedStyle? store (input :: "-o".toList :: output :: flags))
    (nextStreams : Streams) :
    ∃ text, written.store.readFile (Path.ofText output) = .ok (Utf8.encode text) ∧
      run written.store nextStreams ("--check".toList :: output :: flags) =
        .ok ⟨written.code,
          ⟨[], (diagnose text).flatMap fun diagnostic =>
            diagnostic.excerpt text (Path.ofText output).text ++ ['\n']⟩,
          written.store⟩ := by
  have usable : written.code ≠ 2 := by omega
  obtain ⟨style, resolved⟩ :=
    exists_style_of_run ran usable (ofArguments_write_ne_help layout plain first)
  -- The first run got to its end, so the output holds the layout of some source.
  rw [run_write layout plain first resolved, Course.outcome_eq_ok_iff] at ran
  obtain ⟨source, -, valid, nonnull, faultless, left, ended⟩ :=
    (Request.runOnce_writes_iff rfl (Invocation.givenPath_of_ne_nil nonempty) usable).mp
      ⟨ran.1, ran.2.2⟩
  have received := Store.receives_of_writeFile faultless
  rw [left] at received
  have found := readable
  rw [received.eq_of_readFile readable] at found
  refine ⟨layOut style source, found, ?_⟩
  -- A layout has no carriage return, so the check reads what was written.
  have read : (Invocation.request ⟨output, { check := true }⟩ style).readSource written.store
      nextStreams = .ok (layOut style source) := by
    rw [Invocation.readSource_request_iff first found (Utf8.decode_encode _)]
    exact ⟨nonnull, unifyBreaks_layOut style source⟩
  rw [run_check layout first (same.trans resolved),
    Request.runOnce_of_check_of_layOut rfl read valid (layOut_layOut style style source),
    Course.outcome_eq_ok_iff]
  refine ⟨?_, ?_, rfl⟩
  · exact congrArg Except.ok ((cleanCode_format_layOut style source).trans ended)
  · rw [Request.report, Request.displayName, Invocation.request,
      Invocation.inputPath_of_head first]
    rfl

/-- A source with a carriage return and a bracket that is not closed, written with an indentation
of four to a file that is given from the root. -/
theorem check_agrees_with_write_unclosed :
    let store := Store.empty.put ["work".toList, "in.pcg".toList]
      (.file (Utf8.encode "[a\r".toList))
    let output := "/out.pcg".toList
    let flags := ["--indent-size".toList, "4".toList]
    ∃ written, run store (.ofInput []) ("in.pcg".toList :: "-o".toList :: output :: flags) =
        .ok written ∧ written.code = 1 ∧
      ∃ text, written.store.readFile (Path.ofText output) = .ok (Utf8.encode text) ∧
        run written.store (.ofInput []) ("--check".toList :: output :: flags) =
          .ok ⟨written.code,
            ⟨[], (diagnose text).flatMap fun diagnostic =>
              diagnostic.excerpt text (Path.ofText output).text ++ ['\n']⟩,
            written.store⟩ := by
  intro store output flags
  have layout : LayoutFlags flags [(.indentSize, "4".toList)] :=
    @LayoutFlags.nextWord "--indent-size".toList "4".toList .indentSize false [] [] rfl rfl rfl rfl
      .nil
  have ran : run store (.ofInput []) ("in.pcg".toList :: "-o".toList :: output :: flags) =
      .ok ⟨1, ⟨[], "error: Unclosed square bracket\n  --> in.pcg:1:1\n  |\n1 | [a\n  | ^\n".toList⟩,
        store.put ["out.pcg".toList] (.file (Utf8.encode "[\n    a".toList))⟩ := by
    decide +kernel
  have readable : (store.put ["out.pcg".toList] (.file (Utf8.encode "[\n    a".toList))).readFile
      (Path.ofText output) = .ok (Utf8.encode "[\n    a".toList) := by
    decide +kernel
  refine ⟨_, ran, rfl, ?_⟩
  exact check_agrees_with_write layout (Word.ofText_of_head (by decide)) (by decide) (by decide)
    ran (.inr rfl) readable (by decide +kernel) (.ofInput [])

variable {store : Store} {file : Text} {content : Bytes} {text : Text} {style : Style}

/-- A check of a file ends with code 0 if the file is in layout and nothing is found in it. -/
theorem run_check_zero_iff (layout : LayoutFlags flags switches) (first : file.head? ≠ some '-')
    (found : store.readFile (Path.ofText file) = .ok content)
    (decoded : Utf8.decode content = .ok text)
    (resolved : resolvedStyle? store ("--check".toList :: file :: flags) = some style)
    (streams : Streams) :
    (∃ outcome, run store streams ("--check".toList :: file :: flags) = .ok outcome ∧
        outcome.code = 0) ↔
      (Path.ofText file).hasNull = false ∧ style.indentFault? = none ∧
        diagnose text.unifyBreaks = [] ∧ layOut style text.unifyBreaks = text.unifyBreaks := by
  rw [run_check layout first resolved]
  constructor
  · rintro ⟨outcome, ended, code⟩
    have result := (Course.outcome_eq_ok_iff.mp ended).1
    rw [code, Request.result_runOnce_eq_zero_iff rfl] at result
    obtain ⟨source, read, valid, clean, fixed⟩ := result
    rw [Invocation.readSource_request_iff first found decoded] at read
    obtain ⟨nonnull, rfl⟩ := read
    exact ⟨nonnull, valid, clean, fixed⟩
  · rintro ⟨nonnull, valid, clean, fixed⟩
    have result : ((Invocation.request ⟨file, { check := true }⟩ style).runOnce store
        streams).result = .ok 0 := by
      rw [Request.result_runOnce_eq_zero_iff rfl]
      refine ⟨text.unifyBreaks, ?_, valid, clean, fixed⟩
      exact (Invocation.readSource_request_iff first found decoded).mpr ⟨nonnull, rfl⟩
    exact ⟨⟨0, _, _⟩, Course.outcome_eq_ok_iff.mpr ⟨result, rfl, rfl⟩, rfl⟩

/-- Formatting a file in place ends with code 0 if nothing is found in it, and leaves its layout
there. -/
theorem run_write_zero_iff (layout : LayoutFlags flags switches) (nonempty : file ≠ [])
    (first : file.head? ≠ some '-') (found : store.readFile (Path.ofText file) = .ok content)
    (decoded : Utf8.decode content = .ok text) (writable : store.Writable (Path.ofText file))
    (resolved : resolvedStyle? store (file :: "-o".toList :: file :: flags) = some style)
    (streams : Streams) (left : Bytes) :
    (∃ outcome, run store streams (file :: "-o".toList :: file :: flags) = .ok outcome ∧
        outcome.code = 0 ∧ outcome.store.readFile (Path.ofText file) = .ok left) ↔
      (Path.ofText file).hasNull = false ∧ style.indentFault? = none ∧
        diagnose text.unifyBreaks = [] ∧ Utf8.encode (layOut style text.unifyBreaks) = left := by
  have output := Invocation.givenPath_of_ne_nil nonempty
  rw [run_write layout (Word.ofText_of_head first) first resolved]
  constructor
  · rintro ⟨outcome, ended, code, kept⟩
    obtain ⟨result, -, later⟩ := Course.outcome_eq_ok_iff.mp ended
    rw [code] at result
    obtain ⟨source, read, valid, nonnull, faultless, left, clean⟩ :=
      (Request.runOnce_writes_iff rfl output (by decide)).mp ⟨result, later⟩
    rw [Invocation.readSource_request_iff first found decoded] at read
    obtain ⟨-, rfl⟩ := read
    have received := Store.receives_of_writeFile faultless
    rw [left] at received
    exact ⟨nonnull, valid, Request.cleanCode_eq_zero_iff.mp clean,
      (received.eq_of_readFile kept).symm⟩
  · rintro ⟨nonnull, valid, clean, rfl⟩
    have faultless := writable (Utf8.encode (layOut style text.unifyBreaks))
    have read : (Invocation.request ⟨file, { output := some file }⟩ style).readSource store
        streams = .ok text.unifyBreaks :=
      (Invocation.readSource_request_iff first found decoded).mpr ⟨nonnull, rfl⟩
    obtain ⟨result, left⟩ := (Request.runOnce_writes_iff rfl output (by decide)).mpr
      ⟨text.unifyBreaks, read, valid, nonnull, faultless, rfl,
        Request.cleanCode_eq_zero_iff.mpr clean⟩
    exact ⟨⟨0, _, _⟩, Course.outcome_eq_ok_iff.mpr ⟨result, rfl, left⟩, rfl,
      (Store.receives_of_writeFile faultless).readFile_eq found⟩

/-- A check of a file that can be read and written passes exactly if formatting in place would pass
and leave the file as it was, but for its newlines. The bytes stay the same exactly if moreover the
file has no carriage return: reading a file turns every carriage return into a newline, and a check
compares with what was read. -/
theorem check_passes_iff_format_in_place (layout : LayoutFlags flags switches)
    (nonempty : file ≠ []) (first : file.head? ≠ some '-')
    (found : store.readFile (Path.ofText file) = .ok content)
    (decoded : Utf8.decode content = .ok text) (writable : store.Writable (Path.ofText file))
    (resolved : resolvedStyle? store ("--check".toList :: file :: flags) = some style)
    (streams : Streams) :
    ((∃ outcome, run store streams ("--check".toList :: file :: flags) = .ok outcome ∧
        outcome.code = 0) ↔
      ∃ outcome, run store streams (file :: "-o".toList :: file :: flags) = .ok outcome ∧
        outcome.code = 0 ∧
        outcome.store.readFile (Path.ofText file) = .ok (Utf8.encode text.unifyBreaks)) ∧
    ((∃ outcome, run store streams (file :: "-o".toList :: file :: flags) = .ok outcome ∧
        outcome.code = 0 ∧ outcome.store.readFile (Path.ofText file) = .ok content) ↔
      (∃ outcome, run store streams ("--check".toList :: file :: flags) = .ok outcome ∧
        outcome.code = 0) ∧ '\r' ∉ text) := by
  have resolvedToo : resolvedStyle? store (file :: "-o".toList :: file :: flags) = some style := by
    rw [← resolvedStyle?_check layout first first, resolved]
  -- Both runs come down to the layout of the text that is read, and bytes to the texts that they
  -- encode.
  rw [run_check_zero_iff layout first found decoded resolved,
    run_write_zero_iff layout nonempty first found decoded writable resolvedToo,
    run_write_zero_iff layout nonempty first found decoded writable resolvedToo, Utf8.encode_inj,
    ← Utf8.encode_of_decode decoded, Utf8.encode_inj]
  refine ⟨Iff.rfl, ?_⟩
  constructor
  · rintro ⟨nonnull, valid, clean, fixed⟩
    have absent : '\r' ∉ text := by
      rw [← fixed]
      exact return_not_mem_layOut style _
    rw [Text.unifyBreaks_eq_self absent] at clean fixed ⊢
    exact ⟨⟨nonnull, valid, clean, fixed⟩, absent⟩
  · rintro ⟨⟨nonnull, valid, clean, fixed⟩, absent⟩
    rw [Text.unifyBreaks_eq_self absent] at clean fixed ⊢
    exact ⟨nonnull, valid, clean, fixed⟩

/-- A file with a carriage return that passes its check and is formatted to other bytes. It is
given from the root. -/
theorem check_passes_iff_format_in_place_return :
    let store := Store.empty.put ["a.pcg".toList] (.file (Utf8.encode "a,\r\nb".toList))
    let file := "/a.pcg".toList
    let inPlace := run store (.ofInput []) [file, "-o".toList, file]
    (∃ outcome, inPlace = .ok outcome ∧ outcome.code = 0 ∧
        outcome.store.readFile (Path.ofText file) = .ok (Utf8.encode "a,\nb".toList)) ∧
      ¬ ∃ outcome, inPlace = .ok outcome ∧ outcome.code = 0 ∧
        outcome.store.readFile (Path.ofText file) = .ok (Utf8.encode "a,\r\nb".toList) := by
  intro store file inPlace
  have writable : store.Writable (Path.ofText file) := fun content => rfl
  obtain ⟨passes, stays⟩ := check_passes_iff_format_in_place .nil (by decide) (by decide)
    (show store.readFile (Path.ofText file) = .ok (Utf8.encode "a,\r\nb".toList) by
      decide +kernel) (Utf8.decode_encode _) writable
    (show resolvedStyle? store ["--check".toList, file] = some {} by decide +kernel) (.ofInput [])
  have unified : Text.unifyBreaks "a,\r\nb".toList = "a,\nb".toList := by decide
  rw [unified] at passes
  refine ⟨passes.mp ⟨⟨0, .nothing, store⟩, by decide +kernel, rfl⟩, fun same => ?_⟩
  exact (stays.mp same).2 (by decide)

/-- The bytes of a file that passes its check need not stay the same. -/
theorem check_passes_but_bytes_change :
    let location := ["work".toList, "a.pcg".toList]
    let store := Store.empty.put location (.file (Utf8.encode "a,\r\nb".toList))
    let later := store.put location (.file (Utf8.encode "a,\nb".toList))
    run store (.ofInput []) ["--check".toList, "a.pcg".toList] = .ok ⟨0, .nothing, store⟩ ∧
      run store (.ofInput []) ["a.pcg".toList, "-o".toList, "a.pcg".toList] =
        .ok ⟨0, .nothing, later⟩ ∧
      later.readFile (Path.ofText "a.pcg".toList) ≠
        store.readFile (Path.ofText "a.pcg".toList) := by
  decide +kernel

end Layout

section Watching

/-- A request that is asked to check or not. -/
def Request.setCheck (request : Request) (asked : Bool) : Request :=
  { request with check := asked }

/-- An invocation that is asked to check or not. -/
def Invocation.setCheck (invocation : Invocation) (asked : Bool) : Invocation :=
  { invocation with options := { invocation.options with check := asked } }

/-- No look at the input depends on the option for checking. -/
theorem Watch.history_setCheck (watch : Watch) (request : Request) (asked : Bool)
    (path : Path) (store : Store) (streams : Streams) (changes : List (Store → Store)) :
    watch.history (request.setCheck asked) path store streams changes =
      watch.history request path store streams changes := by
  -- The request is used through its input, output, style and listing only.
  have poll_eq (watch : Watch) (store : Store) :
      watch.poll (request.setCheck asked) path store streams =
        watch.poll request path store streams := rfl
  induction changes generalizing watch store with
  | nil => rw [history, history, poll_eq]
  | cons change changes ih =>
      rw [history, history, poll_eq]
      dsimp only
      rw [ih]

theorem Request.watchInput_setCheck (request : Request) (asked : Bool) (store : Store)
    (streams : Streams) (changes : List (Store → Store)) :
    (request.setCheck asked).watchInput store streams changes =
      request.watchInput store streams changes := by
  have input : (request.setCheck asked).input = request.input := rfl
  rw [watchInput, watchInput, input]
  cases request.input with
  | none => rfl
  | some path =>
      dsimp only
      rw [Watch.history_setCheck]

theorem Invocation.resolve_setCheck (invocation : Invocation) (asked : Bool) (store : Store) :
    (invocation.setCheck asked).resolve store =
      (invocation.resolve store).map (·.setCheck asked) := by
  have styled : (invocation.setCheck asked).style store = invocation.style store :=
    style_withLayout rfl invocation.input invocation.options store
  rw [resolve_eq, resolve_eq, styled]
  cases invocation.style store <;> rfl

/-- An invocation that watches does the same with and without the option for checking. -/
theorem Invocation.perform_setCheck {invocation : Invocation}
    (watching : invocation.options.watch = true) (asked : Bool) (store : Store)
    (streams : Streams) (changes : List (Store → Store)) :
    (invocation.setCheck asked).perform store streams changes =
      invocation.perform store streams changes := by
  rw [perform, perform, resolve_setCheck, resolve_eq]
  cases invocation.style store with
  | error error => rfl
  | ok style =>
      have watched : (invocation.request style).watch = true := watching
      have watchedToo : ((invocation.request style).setCheck asked).watch = true := watching
      simp only [Except.map, watched, watchedToo, if_true, Request.watchInput_setCheck]

/-- A check that does not watch leaves the files alone and prints nothing to the standard
output. -/
theorem Invocation.perform_keeps_of_check {invocation : Invocation}
    (asked : invocation.options.check = true) (once : invocation.options.watch = false)
    (store : Store) (streams : Streams) (changes : List (Store → Store)) :
    (invocation.perform store streams changes).store = store ∧
      ∀ printed ∈ (invocation.perform store streams changes).entries, printed.out = [] := by
  have kept {course : Course} (kept : course.store = store ∧ course.printed.out = []) :
      (History.ofCourse course).store = store ∧
        ∀ printed ∈ (History.ofCourse course).entries, printed.out = [] :=
    ⟨kept.1, fun printed member => List.mem_singleton.mp member ▸ kept.2⟩
  rw [perform, resolve_eq]
  cases invocation.style store with
  | error error =>
      have stopped := error.stopped_course store
      exact kept ⟨stopped.store, stopped.out⟩
  | ok style =>
      have unwatched : (invocation.request style).watch = false := once
      simp only [Except.map, unwatched, Bool.false_eq_true, if_false]
      exact kept ((invocation.request style).runOnce_keeps_of_check asked store streams)

/-- Arguments with a word for checking, in any spelling and in front of any double hyphen, ask for
a run that leaves all files alone and prints nothing to the standard output, unless they ask to
watch as well. A watch does not look at the option: it goes on as if it had not been given, and
writes. -/
theorem check_writes_nothing_unless_watching {arguments : List Text} {invocation : Invocation}
    (accepted : Invocation.ofArguments arguments = .ok invocation) {text : Text}
    (member : text ∈ arguments.takeWhile (· != Word.doubleHyphen)) {short : Bool}
    (spelled : Word.ofText text = .ok (.option .check short none)) (store : Store)
    (streams : Streams) (changes : List (Store → Store)) :
    (invocation.options.watch = false →
      (perform store streams arguments changes).store = store ∧
        ∀ printed ∈ (perform store streams arguments changes).entries, printed.out = []) ∧
    (invocation.options.watch = true →
      perform store streams arguments changes =
        (invocation.setCheck false).perform store streams changes) := by
  have asked := Invocation.check_of_mem accepted member spelled
  have performed : perform store streams arguments changes =
      invocation.perform store streams changes := by
    rw [perform, accepted]
  rw [performed]
  refine ⟨fun once => ?_, fun watching => ?_⟩
  · exact Invocation.perform_keeps_of_check asked once store streams changes
  · exact (Invocation.perform_setCheck watching false store streams changes).symm

/-- A shortened word for checking, and a watch. -/
theorem check_writes_nothing_unless_watching_shortened :
    let store := Store.empty.put ["work".toList, "a.pcg".toList]
      (.file (Utf8.encode "[a,b]".toList))
    let rest := ["a.pcg".toList, "-o".toList, "b.pcg".toList]
    let options : Options := { output := some "b.pcg".toList }
    (perform store (.ofInput []) ("--che".toList :: rest) []).store = store ∧
      perform store (.ofInput []) ("--watch".toList :: "--check".toList :: rest) [] =
        Invocation.perform ⟨"a.pcg".toList, { options with watch := true }⟩ store (.ofInput [])
          [] := by
  intro store rest options
  constructor
  · exact ((@check_writes_nothing_unless_watching ("--che".toList :: rest)
      ⟨"a.pcg".toList, { options with check := true }⟩ rfl "--che".toList (by decide) false rfl
      store (.ofInput []) []).1 rfl).1
  · exact (@check_writes_nothing_unless_watching ("--watch".toList :: "--check".toList :: rest)
      ⟨"a.pcg".toList, { options with check := true, watch := true }⟩ rfl "--check".toList
      (by decide) false rfl store (.ofInput []) []).2 rfl

/-- A watch writes although it is asked to check. -/
theorem watch_writes_despite_check :
    let store := Store.empty.put ["work".toList, "a.pcg".toList]
      (.file (Utf8.encode "[a,b]".toList))
    let arguments := ["--check".toList, "--watch".toList, "a.pcg".toList, "-o".toList,
      "b.pcg".toList]
    store.readFile (Path.ofText "b.pcg".toList) = .error .missing ∧
      (perform store (.ofInput []) arguments []).store.readFile (Path.ofText "b.pcg".toList) =
        .ok (Utf8.encode "[\n  a,\n  b\n]".toList) := by
  decide +kernel

end Watching

end ModuleGrammar.Command
