import ArgReport.Proofs.Report.Defaults
import ArgReport.Proofs.Text.Base64
import Mathlib.Data.List.Basic
import Mathlib.Data.List.Induction

/-!
# Reading a report back

An argument stands in its block as it is, so from the front a report cannot be
taken apart: an argument may look like the end of its block and the beginning of
others. From the end it can. The line above the last border is in base64, which
has no line break, and so it tells the argument of the last block and with it how
long that block is.

`readReport?` goes through a report in this way. It reads the arguments of every
report by the default reporters, and it reads nothing else.
-/

namespace ArgReport

/-- The text that some bytes encode, if they encode any. -/
def textOf? (bytes : List UInt8) : Option String :=
  String.fromUTF8? bytes.toByteArray

theorem textOf?_eq_some_iff
    {bytes : List UInt8}
    {text : String} :
    textOf? bytes = some text ↔ bytes = utf8 text := by
  rw [← List.toByteArray_inj, toByteArray_utf8, textOf?, String.fromUTF8?]
  constructor
  · intro decoded
    split at decoded
    · injection decoded with same
      rw [← same]
      rfl
    · cases decoded
  · intro same
    rw [same, dif_pos text.isValidUTF8]
    rfl

@[simp] theorem textOf?_utf8 (text : String) :
    textOf? (utf8 text) = some text :=
  textOf?_eq_some_iff.2 rfl

namespace Report

/-! ## The last block -/

/-- The last line above the closing border of a text. -/
def lastFinding (text : List Char) : List Char :=
  ((text.reverse.drop (borderLine.toList.length + 1)).takeWhile
    fun character => character ≠ '\n').reverse

/-- The argument that the last line above the closing border tells. -/
def lastArgument? (text : List Char) : Option String := do
  let symbols := (lastFinding text).drop
    (Builtin.label .encode ++ ": ").toList.length
  let bytes ← Base64.decode? symbols
  textOf? bytes

/-- The last line of a block, without its end. -/
def encodedLine (argument : String) : List Char :=
  (Builtin.label .encode ++ ": ").toList ++ Base64.encode (utf8 argument)

theorem newline_not_mem_encodedLine (argument : String) :
    '\n' ∉ encodedLine argument := by
  rw [encodedLine, List.mem_append, not_or]
  exact ⟨by decide, Base64.newline_not_mem_encode _⟩

/-- A block ends with its last line and the border below it. -/
theorem exists_blockText_eq (argument : String) :
    ∃ before, (blockText Reporter.defaults argument).toList =
      before ++ '\n' :: (encodedLine argument ++ '\n' :: borderLine.toList) := by
  have ends : (Builtin.line .measure argument).toList =
      (Builtin.label .measure ++ ": " ++
        Builtin.finding .measure argument).toList ++ ['\n'] := by
    rw [Builtin.line, String.toList_append]
    rfl
  have last : (Builtin.line .encode argument).toList =
      encodedLine argument ++ ['\n'] := by
    rw [Builtin.line, String.toList_append, String.toList_append]
    simp [encodedLine, Builtin.finding, Builtin.base64]
  refine ⟨(noticeText ++ borderLine ++ Builtin.line .echo argument).toList ++
    (Builtin.label .measure ++ ": " ++
      Builtin.finding .measure argument).toList, ?_⟩
  rw [blockText_defaults]
  simp only [String.toList_append, ends, last, List.append_assoc,
    List.cons_append, List.nil_append]

theorem lastFinding_append (front : List Char) (argument : String) :
    lastFinding (front ++ (blockText Reporter.defaults argument).toList) =
      encodedLine argument := by
  obtain ⟨before, split⟩ := exists_blockText_eq argument
  have reversed :
      (front ++ (blockText Reporter.defaults argument).toList).reverse =
        (borderLine.toList.reverse ++ ['\n']) ++
          ((encodedLine argument).reverse ++
            '\n' :: (front ++ before).reverse) := by
    rw [split]
    simp
  have border : (borderLine.toList.reverse ++ ['\n']).length =
      borderLine.toList.length + 1 := by
    rw [List.length_append, List.length_reverse, List.length_singleton]
  have oneLine : ∀ character ∈ (encodedLine argument).reverse,
      decide (character ≠ '\n') = true := by
    intro character member
    rw [List.mem_reverse] at member
    apply decide_eq_true
    intro same
    rw [same] at member
    exact newline_not_mem_encodedLine argument member
  rw [lastFinding, reversed, List.drop_left' border,
    List.takeWhile_append_of_pos oneLine,
    List.takeWhile_cons_of_neg (by simp), List.append_nil,
    List.reverse_reverse]

/-- Whatever comes before it, the last block tells its argument. -/
theorem lastArgument?_append (front : List Char) (argument : String) :
    lastArgument?
        (front ++ (blockText Reporter.defaults argument).toList) =
      some argument := by
  rw [lastArgument?, lastFinding_append, encodedLine, List.drop_left,
    Base64.decode?_encode]
  exact textOf?_utf8 argument

theorem blockText_toList_ne_nil (argument : String) :
    (blockText Reporter.defaults argument).toList ≠ [] := by
  obtain ⟨before, split⟩ := exists_blockText_eq argument
  rw [split]
  exact List.append_ne_nil_of_right_ne_nil _ (List.cons_ne_nil _ _)

theorem dropSuffix?_block_eq_some_iff
    {text before : List Char}
    {argument : String} :
    text.dropSuffix? (blockText Reporter.defaults argument).toList =
        some before ↔
      text = before ++ (blockText Reporter.defaults argument).toList := by
  rw [List.dropSuffix?_eq_some_iff]
  simp only [beq_iff_eq, exists_eq_right]

/-! ## The whole report -/

/-- Read the arguments of a report from its end. -/
def readBlocks? (text : List Char) : Option (List String) :=
  if text.isEmpty then
    some []
  else
    match lastArgument? text with
    | none => none
    | some argument =>
        match _stripped :
            text.dropSuffix?
              (blockText Reporter.defaults argument).toList with
        | none => none
        | some before => (readBlocks? before).map (· ++ [argument])
termination_by text.length
decreasing_by
  have stripped := dropSuffix?_block_eq_some_iff.1 _stripped
  have nonempty := List.length_pos_iff.2 (blockText_toList_ne_nil argument)
  rw [stripped, List.length_append]
  omega

/-- The arguments that a report is about, if the bytes are a report by the
default reporters. -/
def readReport? (bytes : List UInt8) : Option (List String) := do
  let text ← textOf? bytes
  readBlocks? text.toList

theorem readBlocks?_append_block
    (before : List Char)
    (argument : String) :
    readBlocks? (before ++ (blockText Reporter.defaults argument).toList) =
      (readBlocks? before).map (· ++ [argument]) := by
  have stripped := dropSuffix?_block_eq_some_iff.2
    (rfl : before ++ (blockText Reporter.defaults argument).toList = _)
  have nonempty : ¬(before ++
      (blockText Reporter.defaults argument).toList).isEmpty := by
    rw [List.isEmpty_iff]
    exact List.append_ne_nil_of_right_ne_nil _
      (blockText_toList_ne_nil argument)
  rw [readBlocks?, if_neg nonempty]
  split
  · rename_i unread
    rw [lastArgument?_append] at unread
    cases unread
  · rename_i other read
    rw [lastArgument?_append] at read
    injection read with same
    subst same
    split
    · rename_i unstripped
      rw [stripped] at unstripped
      cases unstripped
    · rename_i rest otherStripped
      rw [stripped] at otherStripped
      injection otherStripped with same
      rw [same]

theorem readBlocks?_reportText (arguments : List String) :
    readBlocks? (reportText Reporter.defaults arguments).toList =
      some arguments := by
  induction arguments using List.reverseRecOn with
  | nil =>
      rw [reportText_nil, readBlocks?]
      rfl
  | append_singleton rest argument inductionHypothesis =>
      rw [reportText_append, reportText_cons, reportText_nil,
        String.append_empty, String.toList_append, readBlocks?_append_block,
        inductionHypothesis]
      rfl

theorem eq_reportText_of_readBlocks?
    {text : List Char}
    {arguments : List String}
    (read : readBlocks? text = some arguments) :
    text = (reportText Reporter.defaults arguments).toList := by
  fun_induction readBlocks? text generalizing arguments with
  | case1 text empty =>
      injection read with same
      rw [← same, List.isEmpty_iff.1 empty]
      rfl
  | case2 => cases read
  | case3 => cases read
  | case4 text nonempty argument told before stripped inductionHypothesis =>
      rw [Option.map_eq_some_iff] at read
      obtain ⟨rest, restRead, rfl⟩ := read
      rw [dropSuffix?_block_eq_some_iff.1 stripped, reportText_append,
        reportText_cons, reportText_nil, String.append_empty,
        String.toList_append, inductionHypothesis restRead]

/-- The reader reads exactly the reports by the default reporters. -/
theorem readReport?_eq_some_iff
    {bytes : List UInt8}
    {arguments : List String} :
    readReport? bytes = some arguments ↔
      bytes = utf8 (reportText Reporter.defaults arguments) := by
  rw [readReport?, Option.bind_eq_bind, Option.bind_eq_some_iff]
  constructor
  · rintro ⟨text, encoded, read⟩
    have same := String.toList_inj.1 (eq_reportText_of_readBlocks? read)
    rw [textOf?_eq_some_iff.1 encoded, same]
  · intro same
    exact ⟨_, textOf?_eq_some_iff.2 same, readBlocks?_reportText arguments⟩

/-- What a report that runs to its end adds is its text. -/
theorem added_blocks_defaults_of_ok
    {index : Nat}
    {arguments : List String}
    {sink : Sink}
    (completed :
      (blocks index arguments sink Reporter.defaults).result = .ok ()) :
    (blocks index arguments sink Reporter.defaults).sink.bytes.drop
        sink.position =
      utf8 (reportText Reporter.defaults arguments) := by
  rw [bytes_blocks_defaults_of_ok completed, ← Sink.length_bytes,
    List.drop_left]

/-- A report by the default reporters that runs to its end determines its
arguments. The reader gets them back from what was added, so a report on other
arguments adds other bytes, to whichever sink the two are written. On a sink that
takes bytes and has no fault left, every report runs to its end. -/
theorem blocks_determine_arguments
    (index : Nat)
    (arguments : List String)
    (sink : Sink) :
    let run := blocks index arguments sink Reporter.defaults
    let added := run.sink.bytes.drop sink.position
    (sink.chunk ≠ some 0 -> sink.IsQuiet -> run.result = .ok ()) ∧
      (run.result = .ok () ->
        run.sink.bytes = sink.bytes ++ added ∧
        readReport? added = some arguments ∧
        ∀ (otherIndex : Nat) (others : List String) (otherSink : Sink),
          let other := blocks otherIndex others otherSink Reporter.defaults
          other.result = .ok () ->
          other.sink.bytes.drop otherSink.position = added ->
            others = arguments) := by
  intro run added
  refine ⟨fun takes quiet => blocks_defaults_of_quiet takes quiet index arguments,
    fun completed => ?_⟩
  have read : readReport? added = some arguments :=
    readReport?_eq_some_iff.2 (added_blocks_defaults_of_ok completed)
  refine ⟨?_, read, ?_⟩
  · simp only [added, run, added_blocks_defaults_of_ok completed]
    exact bytes_blocks_defaults_of_ok completed
  · intro otherIndex others otherSink other otherCompleted same
    have otherRead : readReport? added = some others :=
      readReport?_eq_some_iff.2
        (same.symm.trans (added_blocks_defaults_of_ok otherCompleted))
    rw [read] at otherRead
    exact (Option.some.inj otherRead).symm

/-- An argument that imitates the end of one block and the beginning of the next
is told apart from the two arguments that it imitates. -/
theorem blocks_determine_imitation :
    let sink : Sink :=
      { chunk := some 5
        faults := [{ place := 9, effect := .refuse .interrupted, times := 2 }] }
    let imitation := "a\n" ++ Builtin.line .measure "a" ++
      Builtin.line .encode "a" ++ borderLine ++ noticeText ++ borderLine ++
        "ham: b"
    let run := blocks 0 [imitation] sink Reporter.defaults
    let other := blocks 0 ["a", "b"] sink Reporter.defaults
    sink.chunk ≠ some 0 ∧ sink.IsQuiet ∧
      run.result = .ok () ∧ other.result = .ok () ∧
      readReport? (run.sink.bytes.drop sink.position) = some [imitation] ∧
      other.sink.bytes.drop sink.position ≠
        run.sink.bytes.drop sink.position := by
  intro sink imitation run other
  have takes : sink.chunk ≠ some 0 := by decide
  have quiet : sink.IsQuiet := by
    constructor <;>
    · intro fault member
      cases member
  -- The reports need not be computed: only what was shown of the sink matters.
  clear_value sink imitation
  obtain ⟨completes, determined⟩ :=
    blocks_determine_arguments 0 [imitation] sink
  have completed : run.result = .ok () := completes takes quiet
  have otherCompleted : other.result = .ok () :=
    (blocks_determine_arguments 0 ["a", "b"] sink).1 takes quiet
  obtain ⟨_, read, distinct⟩ := determined completed
  refine ⟨takes, quiet, completed, otherCompleted, read, ?_⟩
  intro same
  have equal := distinct 0 ["a", "b"] sink otherCompleted same
  simp at equal

end Report
end ArgReport
