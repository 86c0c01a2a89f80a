/-!
# Path segments

## Main definitions

* `Text.lastSegment` — what follows the last slash of a path
-/

namespace ConversionDesk.Text

/-- The characters after the last slash, or all of them if there is none. -/
def lastSegment (path : String) : String :=
  String.ofList (path.toList.reverse.takeWhile (· != '/')).reverse

example : lastSegment "/download/report.txt" = "report.txt" := by decide
example : lastSegment "/download/" = "" := by decide
example : lastSegment "report.txt" = "report.txt" := by decide

end ConversionDesk.Text
