import ArgReport.Sink.Basic
import ArgReport.Text.Base64
import ArgReport.Text.Utf8

/-!
# The built-in reporters

A built-in reporter writes one line about an argument: the argument itself, the
argument with its length in bytes, or its bytes in base64. Each line begins with
the reporter's label.

The line is stated twice: as the fragments that are handed to the sink one after
another, and as the whole text they make.
-/

namespace ArgReport

/-- The reporters that come with the program. -/
inductive Builtin
  /-- Repeats the argument. -/
  | echo
  /-- Repeats the argument and tells its length. -/
  | measure
  /-- Tells the argument's bytes. -/
  | encode
  deriving DecidableEq, Repr

namespace Builtin

/-- Every built-in reporter, in the order in which a report asks them. -/
def all : List Builtin := [.echo, .measure, .encode]

/-- The name that stands before the reporter's lines and in its errors. -/
def label : Builtin -> String
  | .echo => "ham"
  | .measure => "spam"
  | .encode => "eggs"

/-- The argument's UTF-8 bytes in base64. -/
def base64 (argument : String) : String :=
  String.ofList (Base64.encode (utf8 argument))

/-- What the reporter writes about an argument, in the pieces it writes. -/
def fragments : Builtin -> String -> List String
  | .echo, argument => [label .echo ++ ": ", argument, "\n"]
  | .measure, argument =>
      [ label .measure ++ ": ", argument, " (",
        toString argument.utf8ByteSize, " bytes)\n" ]
  | .encode, argument => [label .encode ++ ": ", base64 argument, "\n"]

/-- What the reporter has found out about an argument. -/
def finding : Builtin -> String -> String
  | .echo, argument => argument
  | .measure, argument =>
      argument ++ " (" ++ toString argument.utf8ByteSize ++ " bytes)"
  | .encode, argument => base64 argument

/-- The reporter's whole line about an argument. -/
def line (builtin : Builtin) (argument : String) : String :=
  builtin.label ++ ": " ++ builtin.finding argument ++ "\n"

/-- The fragments make up the line. -/
theorem flatten_fragments (builtin : Builtin) (argument : String) :
    ((builtin.fragments argument).map utf8).flatten =
      utf8 (builtin.line argument) := by
  have lastFragment : utf8 " bytes)\n" = utf8 " bytes)" ++ utf8 "\n" := by
    rw [← utf8_append]
    rfl
  cases builtin <;> simp [fragments, line, finding, lastFragment]

/-- Write the reporter's line about an argument, piece by piece. -/
def write (builtin : Builtin) (argument : String) :
    EStateM SinkError Sink Unit :=
  Sink.writeEach ((builtin.fragments argument).map utf8)

end Builtin
end ArgReport
