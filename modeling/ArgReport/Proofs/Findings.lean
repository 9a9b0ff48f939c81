import ArgReport.Proofs.Fragments
import ArgReport.Proofs.Plan.Budget
import ArgReport.Proofs.Text.Base64Digits
import ArgReport.Proofs.Text.Numeral

/-!
# What the default reporters find

The three default reporters tell one thing in three ways: the bytes of the
argument as they are, how many they are, and the bytes in base64. Each of the
three can be read back from its line, and what is read agrees.

On a sink that takes bytes and has no fault left, the lines are added as they
are spelled.
-/

namespace ArgReport

/-- Asked about an argument, the reporter adds these bytes to the sink, whether
it is asked on its own or as a reporter of a list. -/
def Builtin.Adds
    (builtin : Builtin)
    (argument : String)
    (sink : Sink)
    (bytes : List UInt8) : Prop :=
  ∃ next, builtin.write argument sink = .ok () next ∧
    (Reporter.standard builtin).report argument sink = .ok () next ∧
    next.bytes = sink.bytes ++ bytes

theorem Builtin.adds_spelledLine
    {sink : Sink}
    (takes : sink.chunk ≠ some 0)
    (quiet : sink.IsQuiet)
    (builtin : Builtin)
    (argument : String) :
    builtin.Adds argument sink (utf8 (builtin.spelledLine argument)) := by
  have wrote : builtin.write argument sink =
      .ok () (sink.carry (utf8 (builtin.spelledLine argument))) := by
    rw [builtin.write_apply, builtin.line_eq_spelledLine]
    exact Sink.writeAll_of_clear takes (quiet.clearFor _)
  refine ⟨_, wrote, ?_, sink.bytes_carry _⟩
  rw [Reporter.report]
  simp only [EStateM.adaptExcept, wrote]

/-- On a sink that takes bytes and has no fault left, the default reporters agree
on every argument. The base64 in the line of `encode` is the written form of the
bytes that the line of `echo` repeats, and the numeral in the line of `measure`
counts them. The strict decoder reads a text as the bytes of a string exactly
when the text is what `encode` tells of that string, and of no other. Bytes in
front that fill whole groups are told on their own. -/
theorem findings_agree
    {sink : Sink}
    (takes : sink.chunk ≠ some 0)
    (quiet : sink.IsQuiet)
    (argument : String) :
    let bytes := utf8 argument
    let form := Base64.encode bytes
    let numeral := toString bytes.length
    Builtin.encode.Adds argument sink
        (utf8 ("eggs: " ++ String.ofList form ++ "\n")) ∧
      Builtin.echo.Adds argument sink
        (utf8 "ham: " ++ bytes ++ utf8 "\n") ∧
      Builtin.measure.Adds argument sink
        (utf8 "spam: " ++ bytes ++ utf8 (" (" ++ numeral ++ " bytes)\n")) ∧
      Base64.Spells form bytes ∧
      Base64.decode? form = some bytes ∧
      IsNumeral numeral bytes.length ∧
      (∀ (text : List Char) (other : String),
        Base64.decode? text = some (utf8 other) ->
          text = Base64.encode (utf8 other) ∧
            ∀ another, text = Base64.encode (utf8 another) ->
              another = other) ∧
      ∀ other : String, 3 ∣ bytes.length ->
        Base64.encode (utf8 (argument ++ other)) =
          form ++ Base64.encode (utf8 other) := by
  intro bytes form numeral
  have adds : ∀ builtin : Builtin, builtin.Adds argument sink
      (utf8 (builtin.spelledLine argument)) :=
    fun builtin => builtin.adds_spelledLine takes quiet argument
  refine ⟨adds .encode, ?echo, ?measure, Base64.spells_encode bytes,
    Base64.decode?_encode bytes, isNumeral_toString bytes.length, ?decoder,
    ?parts⟩
  case echo =>
    have line := adds .echo
    rw [Builtin.spelledLine, utf8_append, utf8_append] at line
    exact line
  case measure =>
    have line := adds .measure
    simp only [Builtin.spelledLine, String.append_assoc, utf8_append] at line
    simp only [utf8_append, List.append_assoc]
    exact line
  case decoder =>
    intro text other read
    have written := Base64.decode?_eq_some_iff.1 read
    refine ⟨written, fun another same => ?_⟩
    apply utf8_injective
    apply Base64.encode_injective
    rw [← same, written]
  case parts =>
    intro other whole
    rw [utf8_append]
    exact Base64.encode_append_of_dvd whole (utf8 other)

/-- Two characters in three bytes, on a sink with a fault behind it and an
interruption ahead. -/
theorem findings_agree_on_two_characters :
    let sink : Sink :=
      { accepted := #[97, 98]
        chunk := some 2
        faults :=
          [ { place := 1, effect := .stall, times := 2 },
            { place := 4, effect := .refuse .interrupted } ] }
    let symbols := ['w', '6', 'k', 'h']
    sink.chunk ≠ some 0 ∧ sink.IsQuiet ∧
      Builtin.encode.Adds "é!" sink (utf8 "eggs: w6kh\n") ∧
      Builtin.measure.Adds "é!" sink (utf8 "spam: é! (3 bytes)\n") ∧
      Base64.decode? symbols = some (utf8 "é!") ∧
      (∀ another, symbols = Base64.encode (utf8 another) ->
        another = "é!") ∧
      3 ∣ (utf8 "é!").length ∧
      Base64.encode (utf8 ("é!" ++ "?")) = symbols ++ ['P', 'w', '=', '='] := by
  intro sink symbols
  have takes : sink.chunk ≠ some 0 := by decide
  have quiet : sink.IsQuiet := by
    constructor
    · decide
    · intro fault member
      cases member
  have whole : 3 ∣ (utf8 "é!").length := by decide
  have form : Base64.encode (utf8 "é!") = symbols := by decide +kernel
  have further : Base64.encode (utf8 "?") = ['P', 'w', '=', '='] := by
    decide +kernel
  have line : utf8 "spam: " ++ utf8 "é!" ++
      utf8 (" (" ++ toString (utf8 "é!").length ++ " bytes)\n") =
        utf8 "spam: é! (3 bytes)\n" := by
    decide +kernel
  obtain ⟨encoded, _, measured, _, read, _, decoder, parts⟩ :=
    findings_agree takes quiet "é!"
  rw [form] at encoded read
  rw [line] at measured
  refine ⟨takes, quiet, encoded, measured, read, (decoder symbols _ read).2,
    whole, ?_⟩
  rw [parts "?" whole, form, further]

end ArgReport
