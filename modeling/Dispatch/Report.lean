namespace Dispatch

/-- An error in its own words, with the words of its causes. -/
structure Report where
  message : String
  causes : List String
deriving DecidableEq, Inhabited

namespace Report

/-- An error with nothing behind it. -/
def plain (message : String) : Report := ⟨message, []⟩

/-- The heading under which the frames of a call stack follow. No frames are recorded. -/
def framesHeading : String := "\n\nBacktrace:\n"

/-- The error and its causes line by line, and the heading of the frames. -/
def traceback (report : Report) : String :=
  "Error: " ++ report.message ++ String.join (report.causes.map fun cause => "\nCaused by: " ++ cause)
    ++ framesHeading

end Report

end Dispatch
