import Dispatch.Action.Failure
import Dispatch.Outcome

namespace Dispatch

/-- Data says only what was done; an outcome of its own also says how it went. -/
inductive Output where
  | data (values : Attributes) (prompt : Option String)
  | complete (outcome : Outcome)

namespace Output

/-- Data without a prompt. -/
def ofValues (values : Attributes) : Output := .data values none

/-- Only an object can be data. -/
def ofValue (value : Json) : Except Failure Output :=
  match value.asObject? with
  | some values => .ok (ofValues values)
  | none => .error (.failed ("action output must be a JSON object, got " ++ value.typeName))

/-- The text of a value that can stand for a name. -/
def nameText? : Json → Option String
  | .string text => some text
  | .int n => some (Json.int n).text
  | .bool value => some (Json.bool value).text
  | _ => none

/-- Entries are data if every key can be a name. -/
def ofEntries (entries : List (Json × Json)) : Except Failure Output :=
  match entries.mapM fun entry => (nameText? entry.1).map fun name => (name, entry.2) with
  | some entries => .ok (ofValues (.ofList entries))
  | none => .error (.failed "key must be a string")

/-- A complete outcome keeps its own prompt. -/
def withPrompt (output : Output) (prompt : String) : Output :=
  match output with
  | .data values _ => .data values (some prompt)
  | .complete outcome => .complete outcome

end Output

end Dispatch
