import Dispatch.Json.Printer

namespace Dispatch

/-- A fault of one field, a fault of all parameters, or several of them together. -/
inductive Violation where
  | notAnObject (found : String)
  | missing (field : String)
  | mismatch (field expected found : String)
  | notAllowed (field allowed found : String)
  | custom (text : String)
  | several (violations : List Violation)

namespace Violation

instance : Inhabited Violation := ⟨.custom ""⟩

mutual

/-- Several violations are joined by semicolons. -/
def message : Violation → String
  | .notAnObject found => "parameters must be a JSON object, got " ++ found
  | .missing field => "missing required field '" ++ field ++ "'"
  | .mismatch field expected found => "field '" ++ field ++ "' expected " ++ expected ++ ", got " ++ found
  | .notAllowed field allowed found =>
    "field '" ++ field ++ "' must be one of " ++ allowed ++ ", got " ++ found
  | .custom text => text
  | .several violations => "; ".intercalate (messages violations)

/-- The words of each violation. -/
def messages : List Violation → List String
  | [] => []
  | violation :: rest => violation.message :: messages rest

end

/-- The code that callers branch on. -/
def code : Violation → String
  | .notAnObject _ => "NOT_AN_OBJECT"
  | .missing _ => "MISSING_FIELD"
  | .mismatch .. => "TYPE_MISMATCH"
  | .notAllowed .. => "NOT_ALLOWED"
  | .custom _ => "VALIDATION_FAILED"
  | .several _ => "MULTIPLE_VALIDATION_ERRORS"

/-- No violations are none, one stays as it is. -/
def ofList : List Violation → Option Violation
  | [] => none
  | [violation] => some violation
  | violations => some (.several violations)

end Violation

end Dispatch
