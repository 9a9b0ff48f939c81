import ArgReport.Proofs.Fragments
import ArgReport.Proofs.Report.Defaults
import ArgReport.Proofs.Text.Base64
import ArgReport.Proofs.Text.Lines
import ArgReport.Proofs.Text.Numeral

/-!
# The lines of a report

An argument without a line break has a block of six lines. Their first bytes tell
them apart, whatever the argument is, so the complete lines of a report by the
default reporters can be counted by what they are, also where the output stops
within a block, within a line or within a character.
-/

namespace ArgReport
namespace Report

/-! ## The lines that are written -/

/-- The lines of the block of an argument, spelled out. -/
def spelledLines (argument : String) : List String :=
  [ "Here is a little message...",
    borderText,
    "ham: " ++ argument,
    "spam: " ++ argument ++ " (" ++ toString (utf8 argument).length ++
      " bytes)",
    "eggs: " ++ String.ofList (Base64.encode (utf8 argument)),
    borderText ]

/-- The lines of the blocks of some arguments, as bytes. -/
def reportLines (arguments : List String) : List (List UInt8) :=
  arguments.flatMap fun argument => (spelledLines argument).map utf8

@[simp] theorem reportLines_nil : reportLines [] = [] := rfl

@[simp] theorem reportLines_cons (argument : String) (rest : List String) :
    reportLines (argument :: rest) =
      (spelledLines argument).map utf8 ++ reportLines rest := by
  rw [reportLines, List.flatMap_cons, reportLines]

theorem length_reportLines (arguments : List String) :
    (reportLines arguments).length = 6 * arguments.length := by
  induction arguments with
  | nil => rfl
  | cons argument rest inductionHypothesis =>
      have six : (spelledLines argument).length = 6 := rfl
      rw [reportLines_cons, List.length_append, inductionHypothesis,
        List.length_map, List.length_cons, six]
      omega

theorem utf8_blockText_defaults (argument : String) :
    utf8 (blockText Reporter.defaults argument) =
      writtenLines ((spelledLines argument).map utf8) := by
  have ended : utf8 "\n" = [newline] := rfl
  have notice : noticeText = "Here is a little message..." ++ "\n" := rfl
  have closing : " bytes)\n" = " bytes)" ++ "\n" := rfl
  rw [blockText_defaults]
  simp only [Builtin.line_eq_spelledLine, Builtin.spelledLine, notice,
    closing, borderLine, utf8_append, ended, spelledLines, List.map_cons,
    List.map_nil, writtenLines_cons, writtenLines_nil, List.append_assoc,
    List.cons_append, List.nil_append]

theorem utf8_reportText_defaults (arguments : List String) :
    utf8 (reportText Reporter.defaults arguments) =
      writtenLines (reportLines arguments) := by
  induction arguments with
  | nil => exact utf8_empty
  | cons argument rest inductionHypothesis =>
      rw [reportText_cons, utf8_append, utf8_blockText_defaults,
        inductionHypothesis, reportLines_cons, writtenLines_append]

/-- Where the argument has no line break, neither has a line of its block. -/
theorem newline_not_mem_spelledLines
    {argument line : String}
    (oneLine : '\n' ∉ argument.toList)
    (member : line ∈ spelledLines argument) :
    '\n' ∉ line.toList := by
  have encoded := Base64.newline_not_mem_encode (utf8 argument)
  have numeral := newline_not_mem_toString (utf8 argument).length
  have border : '\n' ∉ borderText.toList := by decide
  simp only [spelledLines, List.mem_cons, List.not_mem_nil, or_false]
    at member
  rcases member with rfl | rfl | rfl | rfl | rfl | rfl
  · decide
  · exact border
  · simp [oneLine]
  · simp only [String.toList_append, List.mem_append, oneLine, numeral,
      or_false]
    decide
  · simp [encoded]
  · exact border

theorem newline_not_mem_reportLines
    {arguments : List String}
    (oneLine : ∀ argument ∈ arguments, '\n' ∉ argument.toList) :
    ∀ line ∈ reportLines arguments, newline ∉ line := by
  intro line member
  obtain ⟨argument, inArguments, inBlock⟩ := List.mem_flatMap.1 member
  obtain ⟨text, inLines, rfl⟩ := List.mem_map.1 inBlock
  apply newline_not_mem_utf8
  exact newline_not_mem_spelledLines (oneLine argument inArguments) inLines

/-! ## What the lines are -/

/-- What a line of a report is. -/
inductive LineRole
  /-- A notice. -/
  | notice
  /-- A border. -/
  | border
  /-- An argument, repeated. -/
  | echo
  /-- A line about an argument that does not only repeat it. -/
  | other
  deriving DecidableEq, Repr

/-- The line of a notice, without its end. -/
def noticeLine : List UInt8 := utf8 "Here is a little message..."

/-- What stands before an argument in the line that repeats it. -/
def echoLead : List UInt8 := utf8 "ham: "

/-- What a line is, by its own bytes. -/
def lineRole (line : List UInt8) : LineRole :=
  if line = noticeLine then
    .notice
  else if line = utf8 borderText then
    .border
  else if echoLead.isPrefixOf line then
    .echo
  else
    .other

/-- What the lines of a block are, whatever its argument. -/
def blockRoles : List LineRole :=
  [.notice, .border, .echo, .other, .other, .border]

theorem lineRole_eq_notice_iff {line : List UInt8} :
    lineRole line = .notice ↔ line = noticeLine := by
  unfold lineRole
  split_ifs with notice border echo <;> simp [notice]

theorem lineRole_eq_border_iff {line : List UInt8} :
    lineRole line = .border ↔ line = utf8 borderText := by
  have distinct : noticeLine ≠ utf8 borderText := by decide +kernel
  unfold lineRole
  split_ifs with notice border echo
  · simp [notice, distinct]
  · simp [border]
  · simp [border]
  · simp [border]

theorem lineRole_eq_echo_iff {line : List UInt8} :
    lineRole line = .echo ↔ echoLead.isPrefixOf line := by
  have notNotice : ¬echoLead.isPrefixOf noticeLine := by decide +kernel
  have notBorder : ¬echoLead.isPrefixOf (utf8 borderText) := by
    decide +kernel
  unfold lineRole
  split_ifs with notice border echo
  · simp [notice, notNotice]
  · simp [border, notBorder]
  · simp [echo]
  · simp [echo]

/-- The first bytes of a line tell what it is, whatever the argument. -/
theorem map_lineRole_spelledLines (argument : String) :
    ((spelledLines argument).map utf8).map lineRole = blockRoles := by
  have notice : lineRole (utf8 "Here is a little message...") = .notice :=
    lineRole_eq_notice_iff.2 rfl
  have border : lineRole (utf8 borderText) = .border :=
    lineRole_eq_border_iff.2 rfl
  have echo : lineRole (utf8 "ham: " ++ utf8 argument) = .echo :=
    lineRole_eq_echo_iff.2 (by simp [echoLead])
  have measured : ∀ rest, lineRole (utf8 "spam: " ++ rest) = .other := by
    intro rest
    rfl
  have encoded : ∀ rest, lineRole (utf8 "eggs: " ++ rest) = .other := by
    intro rest
    rfl
  simp only [spelledLines, List.map_cons, List.map_nil, String.append_assoc,
    utf8_append "ham: ", utf8_append "spam: ", utf8_append "eggs: ", notice,
    border, echo, measured, encoded, blockRoles]

theorem map_lineRole_reportLines (arguments : List String) :
    (reportLines arguments).map lineRole =
      (List.replicate arguments.length blockRoles).flatten := by
  induction arguments with
  | nil => rfl
  | cons argument rest inductionHypothesis =>
      rw [reportLines_cons, List.map_append, map_lineRole_spelledLines,
        inductionHypothesis, List.length_cons, List.replicate_succ,
        List.flatten_cons]

/-! ## Counting the lines -/

/-- As many lines of each kind as a report has that may be cut: one argument is
repeated in every block, below a notice and between two borders. -/
structure Balanced (roles : List LineRole) : Prop where
  notices : roles.count .echo ≤ roles.count .notice ∧
    roles.count .notice ≤ roles.count .echo + 1
  borders : 2 * roles.count .echo ≤ roles.count .border + 1 ∧
    roles.count .border ≤ 2 * roles.count .echo + 1

/-- A whole block in front keeps the balance. -/
theorem Balanced.block_append
    {roles : List LineRole}
    (balanced : Balanced roles) :
    Balanced (blockRoles ++ roles) := by
  obtain ⟨notices, borders⟩ := balanced
  have echo : blockRoles.count .echo = 1 := rfl
  have notice : blockRoles.count .notice = 1 := rfl
  have border : blockRoles.count .border = 2 := rfl
  constructor <;>
  · simp only [List.count_append, echo, notice, border]
    omega

theorem balanced_take_block (cut : Fin 7) :
    Balanced (blockRoles.take cut) := by
  constructor <;>
  · revert cut
    decide

/-- Wherever blocks are cut, what is left is balanced. -/
theorem balanced_take (blocks count : Nat) :
    Balanced ((List.replicate blocks blockRoles).flatten.take count) := by
  induction blocks generalizing count with
  | zero =>
      rw [List.replicate_zero, List.flatten_nil, List.take_nil]
      constructor <;> decide
  | succ blocks inductionHypothesis =>
      rw [List.replicate_succ, List.flatten_cons, List.take_append]
      by_cases within : count ≤ blockRoles.length
      · rw [Nat.sub_eq_zero_of_le within, List.take_zero, List.append_nil]
        exact balanced_take_block ⟨count, Nat.lt_succ_of_le within⟩
      · rw [List.take_of_length_le (by omega)]
        exact (inductionHypothesis _).block_append

/-- The lines of a report are balanced, however few of them there are. -/
theorem balanced_take_reportLines (arguments : List String) (count : Nat) :
    Balanced (((reportLines arguments).take count).map lineRole) := by
  rw [List.map_take, map_lineRole_reportLines]
  exact balanced_take arguments.length count

theorem count_lineRole_reportLines
    (arguments : List String)
    (role : LineRole) :
    ((reportLines arguments).map lineRole).count role =
      arguments.length * blockRoles.count role := by
  rw [map_lineRole_reportLines, List.count_flatten, List.map_replicate,
    List.sum_replicate_nat]

theorem countP_eq_count_lineRole
    {role : LineRole}
    {isRole : List UInt8 -> Bool}
    (same : ∀ line, isRole line = true ↔ lineRole line = role)
    (lines : List (List UInt8)) :
    lines.countP isRole = (lines.map lineRole).count role := by
  rw [List.count, List.countP_map]
  apply List.countP_congr
  intro line _
  rw [same, Function.comp_apply, beq_iff_eq]

theorem count_noticeLine (lines : List (List UInt8)) :
    lines.count noticeLine = (lines.map lineRole).count .notice := by
  apply countP_eq_count_lineRole
  intro line
  rw [beq_iff_eq, lineRole_eq_notice_iff]

theorem count_borderText (lines : List (List UInt8)) :
    lines.count (utf8 borderText) = (lines.map lineRole).count .border := by
  apply countP_eq_count_lineRole
  intro line
  rw [beq_iff_eq, lineRole_eq_border_iff]

theorem countP_echoLead (lines : List (List UInt8)) :
    lines.countP echoLead.isPrefixOf = (lines.map lineRole).count .echo := by
  apply countP_eq_count_lineRole
  intro line
  rw [lineRole_eq_echo_iff]

/-! ## Reading the arguments -/

/-- The argument that a line repeats, if it repeats one. -/
def echoed? (line : List UInt8) : Option (List UInt8) :=
  line.dropPrefix? echoLead

theorem filterMap_echoed?_spelledLines (argument : String) :
    ((spelledLines argument).map utf8).filterMap echoed? =
      [utf8 argument] := by
  have notice : echoed? (utf8 "Here is a little message...") = none := rfl
  have border : echoed? (utf8 borderText) = none := rfl
  have echo : echoed? (utf8 "ham: " ++ utf8 argument) =
      some (utf8 argument) :=
    List.dropPrefix?_append_of_beq _ (beq_self_eq_true _)
  have measured : ∀ rest, echoed? (utf8 "spam: " ++ rest) = none := by
    intro rest
    rfl
  have encoded : ∀ rest, echoed? (utf8 "eggs: " ++ rest) = none := by
    intro rest
    rfl
  simp only [spelledLines, List.map_cons, List.map_nil, String.append_assoc,
    utf8_append "ham: ", utf8_append "spam: ", utf8_append "eggs: ",
    List.filterMap_cons, List.filterMap_nil, notice, border, echo, measured,
    encoded]

theorem filterMap_echoed?_reportLines (arguments : List String) :
    (reportLines arguments).filterMap echoed? = arguments.map utf8 := by
  induction arguments with
  | nil => rfl
  | cons argument rest inductionHypothesis =>
      rw [reportLines_cons, List.filterMap_append,
        filterMap_echoed?_spelledLines, inductionHypothesis, List.map_cons,
        List.singleton_append]

/-- The first lines of a report repeat the first of its arguments. -/
theorem filterMap_echoed?_take_isPrefix
    (arguments : List String)
    (count : Nat) :
    ((reportLines arguments).take count).filterMap echoed? <+:
      arguments.map utf8 := by
  rw [← filterMap_echoed?_reportLines]
  exact (List.take_prefix count _).filterMap echoed?

/-! ## The whole report -/

/-- The complete lines of a report are the first lines of its blocks, and all of
them exactly when the report succeeds. -/
theorem completeLines_blocks_defaults
    {arguments : List String}
    (oneLine : ∀ argument ∈ arguments, '\n' ∉ argument.toList)
    (index : Nat)
    (sink : Sink) :
    let run := blocks index arguments sink Reporter.defaults
    ∃ added, run.sink.bytes = sink.bytes ++ added ∧
      ∃ count ≤ 6 * arguments.length,
        completeLines added = (reportLines arguments).take count ∧
          (count = 6 * arguments.length ↔ run.result = .ok ()) := by
  intro run
  obtain ⟨added, bytes, begun, succeeded⟩ :=
    blocks_defaults_taken index arguments sink
  rw [utf8_reportText_defaults] at begun succeeded
  obtain ⟨count, bound, complete, whole⟩ :=
    completeLines_of_prefix (newline_not_mem_reportLines oneLine) begun
  rw [length_reportLines] at bound whole
  exact ⟨added, bytes, count, bound, complete, whole.trans succeeded.symm⟩

/-- What the complete lines of a report by the default reporters are, where it
succeeds and where it is cut short, when no argument has a line break. They are
the first lines of its blocks. Those that repeat an argument repeat the first of
the arguments in order, and wherever the report stops, the notices and borders
written so far keep pace with them. -/
theorem blocks_write_lines
    {arguments : List String}
    (oneLine : ∀ argument ∈ arguments, '\n' ∉ argument.toList)
    (index : Nat)
    (sink : Sink) :
    let run := blocks index arguments sink Reporter.defaults
    let added := run.sink.bytes.drop sink.position
    let lines := completeLines added
    let told := lines.filterMap fun line => line.dropPrefix? (utf8 "ham: ")
    let notices := lines.count (utf8 "Here is a little message...")
    let echoes := lines.countP (utf8 "ham: ").isPrefixOf
    let borders := lines.count (utf8 (String.ofList (List.replicate 60 '*')))
    run.sink.bytes = sink.bytes ++ added ∧
      (∃ count ≤ 6 * arguments.length,
        lines = (reportLines arguments).take count ∧
          (count = 6 * arguments.length ↔ run.result = .ok ())) ∧
      told <+: arguments.map utf8 ∧
      (echoes ≤ notices ∧ notices ≤ echoes + 1) ∧
      (2 * echoes ≤ borders + 1 ∧ borders ≤ 2 * echoes + 1) ∧
      (run.result = .ok () ->
        told = arguments.map utf8 ∧ notices = arguments.length ∧
          echoes = arguments.length ∧ borders = 2 * arguments.length) := by
  intro run added lines told notices echoes borders
  obtain ⟨written, bytes, count, bound, complete, succeeded⟩ :=
    completeLines_blocks_defaults oneLine index sink
  have addedWritten : added = written := by
    simp only [added, run, bytes, ← Sink.length_bytes, List.drop_left]
  have linesTaken : lines = (reportLines arguments).take count := by
    simp only [lines, addedWritten, complete]
  have noticesCounted : notices = (lines.map lineRole).count .notice :=
    count_noticeLine lines
  have echoesCounted : echoes = (lines.map lineRole).count .echo :=
    countP_echoLead lines
  have bordersCounted : borders = (lines.map lineRole).count .border :=
    count_borderText lines
  have balanced : Balanced (lines.map lineRole) := by
    rw [linesTaken]
    exact balanced_take_reportLines arguments count
  refine ⟨?bytes, ⟨count, bound, linesTaken, succeeded⟩, ?told, ?notices,
    ?borders, ?completed⟩
  case bytes =>
    rw [addedWritten]
    exact bytes
  case told =>
    simp only [told, linesTaken]
    exact filterMap_echoed?_take_isPrefix arguments count
  case notices =>
    rw [noticesCounted, echoesCounted]
    exact balanced.notices
  case borders =>
    rw [bordersCounted, echoesCounted]
    exact balanced.borders
  case completed =>
    intro completed
    have all : lines = reportLines arguments := by
      rw [linesTaken, succeeded.2 completed, ← length_reportLines,
        List.take_length]
    rw [noticesCounted, echoesCounted, bordersCounted]
    simp only [told, all, count_lineRole_reportLines]
    exact ⟨filterMap_echoed?_reportLines arguments, Nat.mul_one _,
      Nat.mul_one _, Nat.mul_comm _ 2⟩

/-- An argument that is a line about an argument and one that is a border, and a
sink that fails within the line that measures the first of them. -/
theorem blocks_write_lines_of_imitations :
    let arguments := ["ham: x", borderText]
    let sink : Sink :=
      { faults := [{ place := 105, effect := .refuse (.custom "gone") }] }
    let run := blocks 0 arguments sink Reporter.defaults
    let lines := completeLines (run.sink.bytes.drop sink.position)
    let told := lines.filterMap fun line => line.dropPrefix? (utf8 "ham: ")
    (∀ argument ∈ arguments, '\n' ∉ argument.toList) ∧
      run.result = .error (.reporter "spam" "ham: x"
        (.line .measure (.refused (.custom "gone")))) ∧
      (∃ count < 12, lines = (reportLines arguments).take count) ∧
      told <+: arguments.map utf8 ∧
      lines.count (utf8 borderText) ≤
        2 * lines.countP (utf8 "ham: ").isPrefixOf + 1 := by
  intro arguments sink run lines told
  have oneLine : ∀ argument ∈ arguments, '\n' ∉ argument.toList := by
    decide
  have stopped : run.result = .error (.reporter "spam" "ham: x"
      (.line .measure (.refused (.custom "gone")))) := by
    decide +kernel
  obtain ⟨_, ⟨count, bound, complete, succeeded⟩, begun, _, borders, _⟩ :=
    blocks_write_lines oneLine 0 sink
  have short : count ≠ 12 := by
    intro whole
    have completed := succeeded.1 whole
    cases stopped.symm.trans completed
  have less : count < 12 := Nat.lt_of_le_of_ne bound short
  exact ⟨oneLine, stopped, ⟨count, less, complete⟩, begun, borders.2⟩

end Report
end ArgReport
