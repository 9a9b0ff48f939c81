import ArgReport.Proofs.Plan.Report

/-!
# How a text is cut

A line and a border reach the sink in fragments, some of which may be empty. The
relation `WritesInTurn` says what it is to write fragments: one after another,
each to its end, up to the first that fails. The sink cannot tell the fragments
from the text that they make. It stops at the same byte for the same reason, and
it spends the same faults.

So nothing about a line depends on how the one who writes it has cut it.
-/

namespace ArgReport
namespace Sink

/-- What becomes of fragments that are written one after another. -/
inductive WritesInTurn :
    List (List UInt8) -> Sink -> EStateM.Result SinkError Sink Unit -> Prop
  /-- No fragment is left. -/
  | done
      {sink : Sink} :
      WritesInTurn [] sink (.ok () sink)
  /-- The first fragment is taken, and the others follow. -/
  | taken
      {fragment : List UInt8}
      {rest : List (List UInt8)}
      {sink next : Sink}
      {result : EStateM.Result SinkError Sink Unit} :
      writeAll fragment sink = .ok () next ->
      WritesInTurn rest next result ->
      WritesInTurn (fragment :: rest) sink result
  /-- The first fragment fails, and the others are not tried. -/
  | stopped
      {fragment : List UInt8}
      {rest : List (List UInt8)}
      {sink next : Sink}
      {cause : SinkError} :
      writeAll fragment sink = .error cause next ->
      WritesInTurn (fragment :: rest) sink (.error cause next)

theorem writeAll_append_of_ok
    {first : List UInt8}
    {sink next : Sink}
    (wrote : writeAll first sink = .ok () next)
    (second : List UInt8) :
    writeAll (first ++ second) sink = writeAll second next := by
  rw [writeAll_append]
  simp only [bind, EStateM.bind, wrote]

theorem writeAll_append_of_error
    {first : List UInt8}
    {sink next : Sink}
    {cause : SinkError}
    (wrote : writeAll first sink = .error cause next)
    (second : List UInt8) :
    writeAll (first ++ second) sink = .error cause next := by
  rw [writeAll_append]
  simp only [bind, EStateM.bind, wrote]

/-- Writing fragments in turn is writing the text that they make. -/
theorem writesInTurn_iff
    {fragments : List (List UInt8)}
    {sink : Sink}
    {result : EStateM.Result SinkError Sink Unit} :
    WritesInTurn fragments sink result ↔
      writeAll fragments.flatten sink = result := by
  constructor
  · intro writes
    induction writes with
    | done => exact writeAll_nil _
    | taken wrote _ inductionHypothesis =>
        rw [List.flatten_cons, writeAll_append_of_ok wrote]
        exact inductionHypothesis
    | stopped wrote =>
        rw [List.flatten_cons]
        exact writeAll_append_of_error wrote _
  · rintro rfl
    induction fragments generalizing sink with
    | nil =>
        rw [List.flatten_nil, writeAll_nil]
        exact .done
    | cons fragment rest inductionHypothesis =>
        rw [List.flatten_cons]
        cases wrote : writeAll fragment sink with
        | ok _ next =>
            rw [writeAll_append_of_ok wrote]
            exact .taken wrote inductionHypothesis
        | error cause next =>
            rw [writeAll_append_of_error wrote]
            exact .stopped wrote

end Sink

/-- The line of a reporter about an argument, spelled out. -/
def Builtin.spelledLine : Builtin -> String -> String
  | .echo, argument => "ham: " ++ argument ++ "\n"
  | .measure, argument =>
      "spam: " ++ argument ++ " (" ++ toString (utf8 argument).length ++
        " bytes)\n"
  | .encode, argument =>
      "eggs: " ++ String.ofList (Base64.encode (utf8 argument)) ++ "\n"

theorem Builtin.line_eq_spelledLine (builtin : Builtin) (argument : String) :
    builtin.line argument = builtin.spelledLine argument := by
  have lastPiece : " bytes)\n" = " bytes)" ++ "\n" := rfl
  cases builtin with
  | echo => rfl
  | measure =>
      rw [spelledLine, lastPiece, length_utf8]
      simp only [line, finding, label, String.append_assoc]
      rfl
  | encode => rfl

namespace Sink

/-- The sink cannot tell how a text is cut. Fragments that are written in turn
come to the same end as the text that they make: the same error, the same bytes
taken, and the same faults left. That holds for the lines and for the border,
however they are cut. -/
theorem writes_alike_however_cut (sink : Sink) :
    (∀ fragments result,
      WritesInTurn fragments sink result ↔
        writeAll fragments.flatten sink = result) ∧
    (∀ fragments,
      WritesInTurn fragments sink (writeEach fragments sink)) ∧
    (∀ (builtin : Builtin) (argument : String),
      let line := utf8 (builtin.spelledLine argument)
      builtin.write argument sink = writeAll line sink ∧
        ∀ fragments : List (List UInt8), fragments.flatten = line ->
          WritesInTurn fragments sink (builtin.write argument sink)) ∧
    let line := utf8 (String.ofList (List.replicate 60 '*') ++ "\n")
    writeBorder sink = writeAll line sink ∧
      ∀ fragments : List (List UInt8), fragments.flatten = line ->
        WritesInTurn fragments sink (writeBorder sink) := by
  refine ⟨fun _ _ => writesInTurn_iff, ?each, ?line, ?border⟩
  case each =>
    intro fragments
    apply writesInTurn_iff.2
    exact (writeEach_apply fragments sink).symm
  case line =>
    intro builtin argument line
    have whole : builtin.write argument sink = writeAll line sink := by
      rw [builtin.write_apply, builtin.line_eq_spelledLine]
    refine ⟨whole, fun fragments cut => ?_⟩
    apply writesInTurn_iff.2
    rw [cut, whole]
  case border =>
    intro line
    have whole : writeBorder sink = writeAll line sink :=
      writeBorder_apply sink
    refine ⟨whole, fun fragments cut => ?_⟩
    apply writesInTurn_iff.2
    rw [cut, whole]

/-- The line is refused between two of its fragments, after two retries there.
The empty fragment in front of the refused one spends nothing. -/
theorem writes_alike_cut_at_fault :
    let sink : Sink :=
      { accepted := #[97]
        chunk := some 2
        faults :=
          [ { place := 6, effect := .refuse .interrupted, times := 2 },
            { place := 9, effect := .stall },
            { place := 6, effect := .refuse (.system .noSpace), times := 3 } ]
        flushCalls := 4 }
    let left : Sink :=
      { accepted := #[97, 104, 97, 109, 58, 32]
        chunk := some 2
        faults :=
          [ { place := 6, effect := .refuse .interrupted, times := 0 },
            { place := 9, effect := .stall },
            { place := 6, effect := .refuse (.system .noSpace), times := 2 } ]
        flushCalls := 4 }
    let fragments := [[], utf8 "ha", [], utf8 "m: ", [], utf8 "é\n", []]
    fragments.flatten = utf8 (Builtin.echo.spelledLine "é") ∧
      WritesInTurn fragments sink
        (.error (.refused (.system .noSpace)) left) := by
  intro sink left fragments
  have cut : fragments.flatten = utf8 (Builtin.echo.spelledLine "é") := by
    decide +kernel
  have refused : Builtin.echo.write "é" sink =
      .error (.refused (.system .noSpace)) left := by
    cbv
  obtain ⟨_, inTurn⟩ := (writes_alike_however_cut sink).2.2.1 .echo "é"
  refine ⟨cut, ?_⟩
  rw [← refused]
  exact inTurn fragments cut

end Sink
end ArgReport
