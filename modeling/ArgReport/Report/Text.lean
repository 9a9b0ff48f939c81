import ArgReport.Report.Basic

/-!
# The text of a report

What a report writes when nothing stops it, stated as a text: the blocks of the
arguments, each framed by two borders below its notice.
-/

namespace ArgReport

/-- The border with the end of its line. -/
def borderLine : String := borderText ++ "\n"

/-- The whole text that some reporters write about an argument. -/
def findingsText (reporters : List Reporter) (argument : String) : String :=
  String.join (reporters.map fun reporter => reporter.text argument)

/-- The whole block of an argument. -/
def blockText (reporters : List Reporter) (argument : String) : String :=
  noticeText ++ borderLine ++ findingsText reporters argument ++ borderLine

/-- The whole report on some arguments. -/
def reportText (reporters : List Reporter) (arguments : List String) : String :=
  String.join (arguments.map (blockText reporters))

end ArgReport
