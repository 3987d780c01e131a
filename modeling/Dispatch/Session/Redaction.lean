import Dispatch.Json.Basic
import Dispatch.Middleware.Basic
import Dispatch.Report
import Dispatch.Timestamp

namespace Dispatch.Session

/-- The fields of records that change from run to run. -/
def maskField : String × Json → String × Json
  | ("elapsed", _) => ("elapsed", .string "<elapsed>")
  | ("subscription", _) => ("subscription", .string "<id>")
  | field => field

/-- A text that is a time, or that has a call stack at its end. -/
def maskText (text : String) : String :=
  match text.splitOn Report.framesHeading with
  | head :: _ :: _ => head ++ Report.framesHeading ++ "<backtrace>"
  | _ => if Timestamp.isText text then "<time>" else text

/-- The time that an action took. -/
def maskTime (name : String) (value otherwise : Json) : Json :=
  match value with
  | .double _ => if name = Middleware.timeKey then .string "<seconds>" else otherwise
  | _ => otherwise

mutual

/-- An answer without what changes from run to run. -/
def mask : Json → Json
  | .string text => .string (maskText text)
  | .array items => .array (maskItems items)
  | .object entries => .object (maskEntries entries)
  | value => value

/-- Each item without what changes. -/
def maskItems : List Json → List Json
  | [] => []
  | item :: rest => mask item :: maskItems rest

/-- Each entry without what changes. -/
def maskEntries : List (String × Json) → List (String × Json)
  | [] => []
  | (name, value) :: rest => (name, maskTime name value (mask value)) :: maskEntries rest

end

end Dispatch.Session
