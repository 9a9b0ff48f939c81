import ArgReport.CommandLine
import ArgReport.Proofs.Fragments
import ArgReport.Proofs.Report.Defaults
import ArgReport.Proofs.Text.WellFormed

/-!
# How the program ends

Three things can happen to a command line. It has no argument, and the program
says how it is called. The output takes nothing, and the very first notice fails.
Or everything is reported, and the output has the whole text of the report.

The usage is checked before anything is written, so where the output goes does
not matter to a command line without arguments.
-/

namespace ArgReport
namespace Report

/-- A report whose first notice fails has no more to it. -/
theorem blocks_of_openBlock_error
    {sink : Sink}
    {reporters : List Reporter}
    {failure : Failure}
    (failed : (openBlock sink reporters).result = .error failure)
    (index : Nat)
    (argument : String)
    (rest : List String) :
    blocks index (argument :: rest) sink reporters =
      openBlock sink reporters := by
  have first : block argument index sink reporters =
      openBlock sink reporters := by
    rw [block_eq, Run.andThen_of_error failed]
  rw [blocks_cons, first, Run.andThen_of_error failed]

end Report

/-- An output that takes nothing refuses the first notice. -/
theorem Output.openBlock_of_refusal
    {output : Output}
    {refusal : Refusal}
    (refuses : output.refusal? = some refusal)
    (final : ¬refusal.IsInterruption)
    (reporters : List Reporter) :
    (Report.openBlock output.sink reporters).result =
        .error (.notice (.refused refusal)) ∧
      (Report.openBlock output.sink reporters).sink.bytes = [] := by
  have nonempty : utf8 noticeText ≠ [] := by decide
  have struck : Fault.strike? output.sink.position output.sink.faults =
      some (.refuse refusal,
        [{ place := 0, effect := .refuse refusal, times := 0 }]) := by
    simp only [Output.sink, refuses]
    rfl
  have wrote := Sink.writeAll_of_refuse nonempty struck
  rw [if_neg final] at wrote
  simp only [Report.openBlock, Run.writing, writeNotice, bind, EStateM.bind,
    wrote]
  exact ⟨trivial, rfl⟩

/-- The exit of a program whose output takes nothing. -/
theorem runProgram_of_refusal
    {output : Output}
    {refusal : Refusal}
    (refuses : output.refusal? = some refusal)
    (final : ¬refusal.IsInterruption)
    {entries : List (List UInt8)}
    (enough : 2 ≤ entries.length) :
    runProgram output entries =
      { status := 1
        output := []
        errors := "error: writing message: " ++ refusal.message ++ "\n" } := by
  obtain ⟨failed, bytes⟩ :=
    output.openBlock_of_refusal refuses final Reporter.defaults
  have accepted : checkUsage (entries.map decodeLossy) = .ok () := by
    rw [checkUsage_eq_ok_iff, List.length_map]
    exact enough
  have opening : "error: writing message: " =
      "error: " ++ ("writing message" ++ ": ") := rfl
  cases entries with
  | nil => cases enough
  | cons name rest =>
      have stopped := Report.blocks_of_openBlock_error failed 0
        (decodeLossy name) (rest.map decodeLossy)
      rw [List.map_cons] at accepted
      simp only [runProgram, List.map_cons, accepted, stopped, Run.exit,
        failed, bytes, Failure.line_diagnostic, Failure.context,
        Failure.reason, SinkError.message, opening, String.append_assoc]

/-- The pipe is a sink that takes bytes and has no fault. -/
theorem Output.isQuiet_pipe :
    Output.pipe.sink.chunk ≠ some 0 ∧ Output.pipe.sink.IsQuiet := by
  refine ⟨by decide, ?_⟩
  constructor <;>
  · intro fault member
    cases member

theorem runProgram_pipe
    {entries : List (List UInt8)}
    (enough : 2 ≤ entries.length) :
    runProgram .pipe entries =
      { status := 0
        output := utf8 (reportText Reporter.defaults
          (entries.map decodeLossy))
        errors := "" } := by
  have accepted : checkUsage (entries.map decodeLossy) = .ok () := by
    rw [checkUsage_eq_ok_iff, List.length_map]
    exact enough
  have completed := Report.blocks_defaults_of_quiet Output.isQuiet_pipe.1
    Output.isQuiet_pipe.2 0 (entries.map decodeLossy)
  have empty : Output.pipe.sink.bytes = [] := rfl
  simp only [runProgram, accepted, Run.exit, completed,
    Report.bytes_blocks_defaults_of_ok completed, empty, List.nil_append]

theorem runProgram_of_length_lt
    {entries : List (List UInt8)}
    (few : entries.length < 2)
    (output : Output) :
    runProgram output entries =
      { status := 2
        output := []
        errors := UsageError.missingArgument.message } := by
  have refused : checkUsage (entries.map decodeLossy) =
      .error .missingArgument := by
    rw [checkUsage, if_pos (by rw [List.length_map]; exact few)]
  simp only [runProgram, refused]
  rfl

/-- The block of a text as the default reporters make it, spelled out. The length
that is told is that of the text, whatever bytes the text was decoded from. -/
def spelledBlock (text : String) : String :=
  "Here is a little message...\n" ++ borderText ++ "\n" ++
    "ham: " ++ text ++ "\n" ++
    "spam: " ++ text ++ " (" ++ toString (utf8 text).length ++ " bytes)" ++
      "\n" ++
    "eggs: " ++ String.ofList (Base64.encode (utf8 text)) ++ "\n" ++
    borderText ++ "\n"

theorem blockText_defaults_eq_spelledBlock :
    blockText Reporter.defaults = spelledBlock := by
  have closing : " bytes)\n" = " bytes)" ++ "\n" := rfl
  funext text
  rw [blockText_defaults]
  unfold spelledBlock
  simp only [Builtin.line_eq_spelledLine, Builtin.spelledLine, borderLine,
    noticeText, closing, String.append_assoc]

theorem reportText_defaults (arguments : List String) :
    reportText Reporter.defaults arguments =
      String.join (arguments.map spelledBlock) := by
  rw [reportText, blockText_defaults_eq_spelledBlock]

/-- How the program ends. Without an argument it ends with the usage on the error
output, wherever its output goes. With one, a reader gets exactly the bytes that
a report on the decoded entries adds to a sink without a fault, and they are
whole characters. An output that takes nothing is told of as the notice that it
refused, whatever the entries are. -/
theorem runProgram_exits (output : Output) (entries : List (List UInt8)) :
    let arguments := entries.map decodeLossy
    (entries.length < 2 ->
      runProgram output entries =
        { status := 2
          output := []
          errors := "error: at least one argument is required\n\n" ++
            "Usage: myapp <ARGS>...\n" }) ∧
    (2 ≤ entries.length -> output = .pipe -> ∃ written,
      runProgram output entries =
          { status := 0, output := written, errors := "" } ∧
        (∀ {sink : Sink}, sink.chunk ≠ some 0 -> sink.IsQuiet ->
          ∀ index : Nat,
            let run := Report.blocks index arguments sink Reporter.defaults
            run.result = .ok () ∧ run.sink.bytes = sink.bytes ++ written) ∧
        WellFormed written ∧
        written = utf8 (String.join (arguments.map spelledBlock))) ∧
    (2 ≤ entries.length -> output = .closed ->
      runProgram output entries =
        { status := 1
          output := []
          errors := "error: writing message: " ++
            "Broken pipe (os error 32)\n" }) ∧
    (2 ≤ entries.length -> output = .full ->
      runProgram output entries =
        { status := 1
          output := []
          errors := "error: writing message: " ++
            "No space left on device (os error 28)\n" }) ∧
    ∃ entry : List UInt8,
      (utf8 (decodeLossy entry)).length ≠ entry.length := by
  intro arguments
  refine ⟨?unused, ?read, ?closed, ?full, [0xFF], by decide⟩
  case unused =>
    intro few
    exact runProgram_of_length_lt few output
  case read =>
    rintro enough rfl
    refine ⟨_, runProgram_pipe enough, ?_, wellFormed_utf8 _,
      congrArg utf8 (reportText_defaults arguments)⟩
    intro sink takes quiet index run
    have completed :=
      Report.blocks_defaults_of_quiet takes quiet index arguments
    exact ⟨completed, Report.bytes_blocks_defaults_of_ok completed⟩
  case closed =>
    rintro enough rfl
    have refuses : Output.closed.refusal? = some (.system .brokenPipe) := rfl
    exact runProgram_of_refusal refuses (by decide) enough
  case full =>
    rintro enough rfl
    have refuses : Output.full.refusal? = some (.system .noSpace) := rfl
    exact runProgram_of_refusal refuses (by decide) enough

/-- A byte that encodes nothing is counted as the three bytes of its replacement
where there is a reader, is not looked at where there is none, and is no argument
where it is the name. -/
theorem runProgram_exits_on_damage :
    let entries : List (List UInt8) := [[0x61], [0xFF]]
    2 ≤ entries.length ∧ [[(0xFF : UInt8)]].length < 2 ∧
      runProgram .pipe entries =
        { status := 0
          output := utf8 (reportText Reporter.defaults ["a", "\uFFFD"])
          errors := "" } ∧
      (utf8 "\uFFFD").length = 3 ∧
      (Report.blocks 7 ["a", "\uFFFD"] {} Reporter.defaults).result =
        .ok () ∧
      runProgram .full entries =
        { status := 1
          output := []
          errors := "error: writing message: " ++
            "No space left on device (os error 28)\n" } ∧
      runProgram .full [[0xFF]] =
        { status := 2
          output := []
          errors := "error: at least one argument is required\n\n" ++
            "Usage: myapp <ARGS>...\n" } := by
  intro entries
  have enough : 2 ≤ entries.length := by decide
  have few : [[(0xFF : UInt8)]].length < 2 := by decide
  have decoded : entries.map decodeLossy = ["a", "\uFFFD"] := by
    decide +kernel
  obtain ⟨written, read, added, _, explicit⟩ :=
    (runProgram_exits .pipe entries).2.1 enough rfl
  rw [← reportText_defaults, decoded] at explicit
  have completed :=
    (added Output.isQuiet_pipe.1 Output.isQuiet_pipe.2 7).1
  rw [decoded] at completed
  refine ⟨enough, few, ?_, by decide +kernel, completed,
    (runProgram_exits .full entries).2.2.2.1 enough rfl,
    (runProgram_exits .full [[0xFF]]).1 few⟩
  rw [read, explicit]

end ArgReport
