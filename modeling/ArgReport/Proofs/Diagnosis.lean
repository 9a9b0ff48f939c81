import ArgReport.Proofs.Report.Part
import ArgReport.Proofs.Text.Quoted

/-!
# What an error line tells

The line of a failed report strings together a context, a colon and a reason, and
none of the three is kept from looking like the others: names, arguments and the
words of a sink may hold colons, quotes and whole contexts. The line can be read
all the same. Its first letters tell which part failed, an argument ends at the
first quote that no backslash introduces, and what is left is what the sink
said.

A context by itself is read from its other end, since a name may be anything.
-/

namespace ArgReport

namespace Failure

/-- The line of a failure after the word that opens it. -/
def told (failure : Failure) : List Char :=
  failure.context.toList ++ (": ".toList ++ failure.reason.toList)

theorem toList_line (failure : Failure) :
    failure.diagnostic.line.toList = "error: ".toList ++ failure.told := by
  rw [line_diagnostic, told]
  simp only [String.toList_append, List.append_assoc]

theorem line_eq_iff {first second : Failure} :
    first.diagnostic.line = second.diagnostic.line ↔
      first.told = second.told := by
  rw [← String.toList_inj, toList_line, toList_line, List.append_cancel_left_eq]

/-- What stands in a context before the quotation of the argument. -/
def subject (name : String) : String :=
  name ++ " failed on "

theorem getLast?_subject (name : String) :
    (subject name).toList.getLast? ≠ some '\\' := by
  have blank : " failed on ".toList = " failed on".toList ++ [' '] := by decide
  rw [subject, String.toList_append, blank, ← List.append_assoc,
    List.getLast?_concat]
  decide

theorem toList_context_reporter
    (name argument : String)
    (cause : ReporterError) :
    (context (.reporter name argument cause)).toList =
      (subject name).toList ++
        '\"' :: Quoted.interior argument.toList ++ ['\"'] := by
  rw [context, String.toList_append, Quoted.toList_quote, subject,
    List.append_assoc, List.cons_append]

/-- The context of a reporter's failure determines the reporter's name and the
argument. -/
theorem context_reporter_inj
    {name otherName argument otherArgument : String}
    {cause otherCause : ReporterError}
    (same : context (.reporter name argument cause) =
      context (.reporter otherName otherArgument otherCause)) :
    name = otherName ∧ argument = otherArgument := by
  rw [← String.toList_inj, toList_context_reporter, toList_context_reporter,
    List.append_cancel_right_eq] at same
  obtain ⟨sameSubject, sameArgument⟩ := Quoted.append_quote_interior_inj
    (getLast?_subject name) (getLast?_subject otherName) same
  rw [subject, subject, String.toList_append, String.toList_append,
    List.append_cancel_right_eq] at sameSubject
  exact ⟨String.toList_inj.1 sameSubject, String.toList_inj.1 sameArgument⟩

end Failure

/-- What a part is, whatever argument it is about. -/
inductive Part.Kind
  | notice
  | border
  | line (builtin : Builtin)
  deriving DecidableEq, Repr

namespace Part

/-- The kind of the part. -/
def kind : Part -> Kind
  | .notice => .notice
  | .border => .border
  | .line builtin _ => .line builtin

/-- What the failure of a part of this kind begins with. -/
def Kind.lead : Kind -> String
  | .notice => "writing message"
  | .border => "writing banner"
  | .line builtin => Failure.subject builtin.label

/-- Nine letters tell the kinds apart. -/
theorem Kind.eq_of_take_lead
    {first second : Kind}
    (same : first.lead.toList.take 9 = second.lead.toList.take 9) :
    first = second := by
  revert same
  cases first with
  | notice =>
      cases second with
      | line builtin => cases builtin <;> decide
      | _ => decide
  | border =>
      cases second with
      | line builtin => cases builtin <;> decide
      | _ => decide
  | line builtin =>
      cases second with
      | line other => cases builtin <;> cases other <;> decide
      | _ => cases builtin <;> decide

/-- What follows the argument in the failure of a line. -/
def sequel (builtin : Builtin) (cause : SinkError) : String :=
  ": " ++ (builtin.label ++ " write: " ++ cause.message)

theorem told_notice (cause : SinkError) :
    (Part.notice.failure cause).told =
      (Kind.lead .notice).toList ++ (": " ++ cause.message).toList := by
  rw [String.toList_append]
  rfl

theorem told_border (cause : SinkError) :
    (Part.border.failure cause).told =
      (Kind.lead .border).toList ++ (": " ++ cause.message).toList := by
  rw [String.toList_append]
  rfl

theorem told_line
    (builtin : Builtin)
    (argument : String)
    (cause : SinkError) :
    ((Part.line builtin argument).failure cause).told =
      (Kind.lead (.line builtin)).toList ++
        '\"' :: (Quoted.interior argument.toList ++
          '\"' :: (sequel builtin cause).toList) := by
  rw [Failure.told, failure, Failure.toList_context_reporter, sequel,
    String.toList_append]
  simp only [List.append_assoc, List.cons_append, List.nil_append]
  rfl

/-- Failures that tell the same are of parts of one kind. -/
theorem kind_eq_of_told_eq
    {first second : Part}
    {firstCause secondCause : SinkError}
    (same : (first.failure firstCause).told =
      (second.failure secondCause).told) :
    first.kind = second.kind := by
  have enough (kind : Kind) : 9 ≤ kind.lead.toList.length := by
    cases kind with
    | line builtin => cases builtin <;> decide
    | _ => decide
  have begins (part : Part) (cause : SinkError) :
      (part.failure cause).told.take 9 = part.kind.lead.toList.take 9 := by
    cases part with
    | notice =>
        rw [told_notice]
        exact List.take_append_of_le_length (enough .notice)
    | border =>
        rw [told_border]
        exact List.take_append_of_le_length (enough .border)
    | line builtin argument =>
        rw [told_line]
        exact List.take_append_of_le_length (enough (.line builtin))
  apply Kind.eq_of_take_lead
  rw [← begins first firstCause, same, begins]

/-- Two failures of parts tell the same exactly when the parts are the same and
the sink said the same. -/
theorem told_failure_eq_iff
    {first second : Part}
    {firstCause secondCause : SinkError} :
    (first.failure firstCause).told = (second.failure secondCause).told ↔
      first = second ∧ firstCause.message = secondCause.message := by
  constructor
  · intro same
    have sameKind := kind_eq_of_told_eq same
    cases first with
    | notice =>
        cases second with
        | notice =>
            rw [told_notice, told_notice, List.append_cancel_left_eq,
              String.toList_inj] at same
            exact ⟨rfl, (String.append_right_inj _).1 same⟩
        | border => cases sameKind
        | line builtin argument => cases sameKind
    | border =>
        cases second with
        | notice => cases sameKind
        | border =>
            rw [told_border, told_border, List.append_cancel_left_eq,
              String.toList_inj] at same
            exact ⟨rfl, (String.append_right_inj _).1 same⟩
        | line builtin argument => cases sameKind
    | line builtin argument =>
        cases second with
        | notice => cases sameKind
        | border => cases sameKind
        | line other otherArgument =>
            injection sameKind with sameBuiltin
            subst sameBuiltin
            rw [told_line, told_line, List.append_cancel_left_eq] at same
            obtain ⟨sameArgument, sameSequel⟩ :=
              Quoted.interior_append_quote_inj (List.cons.inj same).2
            rw [String.toList_inj, sequel, sequel, String.append_right_inj,
              String.append_right_inj] at sameSequel
            rw [String.toList_inj.1 sameArgument]
            exact ⟨rfl, sameSequel⟩
  · rintro ⟨rfl, same⟩
    cases first with
    | notice => rw [told_notice, told_notice, same]
    | border => rw [told_border, told_border, same]
    | line builtin argument => rw [told_line, told_line, sequel, sequel, same]

/-- The failure of a part is told on one line, if what the sink says is. -/
theorem newline_not_mem_told
    {cause : SinkError}
    (oneLine : '\n' ∉ cause.message.toList)
    (part : Part) :
    '\n' ∉ (part.failure cause).told := by
  have colon : '\n' ∉ (": " ++ cause.message).toList := by
    rw [String.toList_append, List.mem_append, not_or]
    exact ⟨by decide, oneLine⟩
  cases part with
  | notice =>
      rw [told_notice, List.mem_append, not_or]
      exact ⟨by decide, colon⟩
  | border =>
      rw [told_border, List.mem_append, not_or]
      exact ⟨by decide, colon⟩
  | line builtin argument =>
      have lead : '\n' ∉ (Kind.lead (.line builtin)).toList := by
        cases builtin <;> decide
      have label : '\n' ∉ (builtin.label ++ " write: ").toList := by
        cases builtin <;> decide
      have inside : '\n' ∉ Quoted.interior argument.toList :=
        fun member => (Quoted.standsRaw_of_mem_interior member).2.2.1 rfl
      have behind : '\n' ∉ (sequel builtin cause).toList := by
        rw [sequel, String.toList_append, String.toList_append,
          List.mem_append, List.mem_append, not_or, not_or]
        exact ⟨by decide, label, oneLine⟩
      rw [told_line]
      simp [lead, inside, behind]

end Part

namespace Report

/-- A failure determines where it comes from. The context of a reporter's failure
determines the name and the argument, whatever they are. And the lines of two
failed reports by the default reporters are the same exactly when the same part
failed in both, of the same kind and about the same argument, and the sinks said
the same. The part that failed is the first that could not be written when the
parts of the report are written in turn. -/
theorem line_identifies_failure :
    (∀ {name otherName argument otherArgument : String}
      {cause otherCause : ReporterError},
      Failure.context (.reporter name argument cause) =
        Failure.context (.reporter otherName otherArgument otherCause) ->
      name = otherName ∧ argument = otherArgument) ∧
    ∀ (index otherIndex : Nat) (arguments otherArguments : List String)
      (sink otherSink : Sink) (failure otherFailure : Failure),
      let run := blocks index arguments sink Reporter.defaults
      let other := blocks otherIndex otherArguments otherSink Reporter.defaults
      run.result = .error failure ->
      other.result = .error otherFailure ->
        ∃ part cause otherPart otherCause,
          failure.IsOf arguments part cause sink run.sink ∧
          otherFailure.IsOf otherArguments otherPart otherCause otherSink
            other.sink ∧
          (failure.diagnostic.line = otherFailure.diagnostic.line ↔
            part = otherPart ∧ cause.message = otherCause.message) := by
  refine ⟨Failure.context_reporter_inj, ?_⟩
  intro index otherIndex arguments otherArguments sink otherSink failure
    otherFailure run other failed otherFailed
  obtain ⟨part, cause, isOf⟩ := exists_isOf_of_blocks_defaults failed
  obtain ⟨otherPart, otherCause, otherIsOf⟩ :=
    exists_isOf_of_blocks_defaults otherFailed
  refine ⟨part, cause, otherPart, otherCause, isOf, otherIsOf, ?_⟩
  rw [Failure.line_eq_iff, isOf.told, otherIsOf.told]
  exact Part.told_failure_eq_iff

/-- One argument and what the sink said about it look like the other argument and
what was said about that. -/
theorem line_identifies_failure_of_lookalikes :
    let sink (text : String) : Sink :=
      { faults := [{ place := 89, effect := .refuse (.custom text) }] }
    let run := blocks 0 ["a"] (sink "b\": ham write: c") Reporter.defaults
    let other := blocks 0 ["a\": ham write: b"] (sink "c") Reporter.defaults
    ∃ failure otherFailure,
      run.result = .error failure ∧ other.result = .error otherFailure ∧
        failure.diagnostic.line =
          "error: ham failed on \"a\": ham write: b\": ham write: c" ∧
        failure.diagnostic.line ≠ otherFailure.diagnostic.line := by
  intro sink run other
  have failed : run.result = .error (.reporter "ham" "a"
      (.line .echo (.refused (.custom "b\": ham write: c")))) := by
    decide +kernel
  have otherFailed : other.result = .error (.reporter "ham"
      "a\": ham write: b" (.line .echo (.refused (.custom "c")))) := by
    decide +kernel
  refine ⟨_, _, failed, otherFailed, by decide +kernel, ?_⟩
  obtain ⟨part, cause, otherPart, otherCause, isOf, otherIsOf, same⟩ :=
    line_identifies_failure.2 0 0 ["a"] ["a\": ham write: b"] _ _ _ _ failed
      otherFailed
  intro equal
  obtain ⟨rfl, _⟩ := same.1 equal
  have first := isOf.told
  have second := otherIsOf.told
  cases part with
  | notice => cases first
  | border => cases first
  | line builtin argument =>
      simp only [Part.failure, Failure.reporter.injEq] at first second
      rw [← first.2.1] at second
      exact absurd second.2.1 (by decide)

/-- An argument is quoted in a context so that it can be read back, on one line.
What stands between the two quotes can be shown as it is, has no quote but behind
the backslash that goes with it, is read as the argument, and is put together
from what stands for its parts. So whatever the arguments of a failed report by
the default reporters are, its line is one line if the sink said no more than
one. -/
theorem context_quotes_argument (argument : String) :
    (∀ name cause,
      Failure.context (.reporter name argument cause) =
        name ++ " failed on " ++ Quoted.quote argument) ∧
    let inside := Quoted.interior argument.toList
    (Quoted.quote argument).toList = '\"' :: (inside ++ ['\"']) ∧
    (∀ symbol ∈ inside, symbol ≠ '\t' ∧ symbol ≠ '\n' ∧ symbol ≠ '\r' ∧
      symbol ≠ '\x00' ∧ ¬IsUnprintable symbol) ∧
    (∀ before after, inside = before ++ '\"' :: after ->
      ∃ first last, argument.toList = first ++ '\"' :: last ∧
        before = Quoted.interior first ++ ['\\'] ∧
        after = Quoted.interior last) ∧
    Quoted.read? inside = some argument.toList ∧
    (∀ other : String, Quoted.interior (argument ++ other).toList =
      inside ++ Quoted.interior other.toList) ∧
    ∀ (index : Nat) (arguments : List String) (sink : Sink)
      (failure : Failure),
      let run := blocks index arguments sink Reporter.defaults
      run.result = .error failure ->
        ∃ part cause, failure.IsOf arguments part cause sink run.sink ∧
          ('\n' ∉ cause.message.toList ->
            '\n' ∉ failure.diagnostic.line.toList) := by
  refine ⟨fun name cause => rfl, ?_⟩
  intro inside
  refine ⟨Quoted.toList_quote argument, ?_, ?_,
    Quoted.read?_interior argument.toList, ?_, ?_⟩
  · intro symbol member
    obtain ⟨notNul, notTab, notNewline, notReturn, listed⟩ :=
      Quoted.standsRaw_of_mem_interior member
    exact ⟨notTab, notNewline, notReturn, notNul, listed⟩
  · intro before after split
    exact Quoted.interior_eq_append_quote split
  · intro other
    rw [String.toList_append, Quoted.interior_append]
  · intro index arguments sink failure run failed
    obtain ⟨part, cause, isOf⟩ := exists_isOf_of_blocks_defaults failed
    refine ⟨part, cause, isOf, fun oneLine => ?_⟩
    rw [Failure.toList_line, List.mem_append, not_or, isOf.told]
    exact ⟨by decide, part.newline_not_mem_told oneLine⟩

/-- A NUL before a digit, what looks like a number between braces, a combining
mark, a quote and a line break. -/
theorem context_quotes_argument_of_escapes :
    let argument := "\x007\\u\x7b31\x7d\u0301\"\n"
    let sink : Sink :=
      { faults := [{ place := 89, effect := .refuse (.custom "full") }] }
    let run := blocks 0 [argument] sink Reporter.defaults
    let inside := Quoted.interior argument.toList
    inside = "\\07\\\\u\x7b31\x7d\\u\x7b301\x7d\\\"\\n".toList ∧
      Quoted.read? inside = some argument.toList ∧
      '\"' ∈ inside ∧ (∃ first last, argument.toList = first ++ '\"' :: last) ∧
      ∃ failure, run.result = .error failure ∧
        '\n' ∉ failure.diagnostic.line.toList := by
  intro argument sink run inside
  have written :
      inside = "\\07\\\\u\x7b31\x7d\\u\x7b301\x7d\\\"\\n".toList := by
    decide +kernel
  have quoted : '\"' ∈ inside := by
    rw [written]
    decide
  obtain ⟨before, after, split⟩ := List.append_of_mem quoted
  obtain ⟨_, _, _, quotes, read, _, tells⟩ := context_quotes_argument argument
  obtain ⟨first, last, own, _⟩ := quotes before after split
  have failed : run.result = .error (.reporter "ham" argument
      (.line .echo (.refused (.custom "full")))) := by
    decide +kernel
  obtain ⟨part, cause, isOf, oneLine⟩ := tells 0 [argument] sink _ failed
  have full : cause = .refused (.custom "full") := by
    have same := isOf.told
    cases part with
    | notice => cases same
    | border => cases same
    | line builtin other =>
        simp only [Part.failure, Failure.reporter.injEq,
          ReporterError.line.injEq] at same
        exact same.2.2.2.symm
  refine ⟨written, read, quoted, ⟨first, last, own⟩, _, failed, oneLine ?_⟩
  rw [full]
  decide

end Report
end ArgReport
