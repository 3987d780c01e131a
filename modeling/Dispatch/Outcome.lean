import Dispatch.Json.Shape
import Dispatch.Report
import Dispatch.Text.Blank

namespace Dispatch

/-- What callers are told. -/
structure Outcome where
  success : Bool
  message : String
  error : Option String
  prompt : Option String
  context : Attributes

namespace Outcome

instance : Inhabited Outcome := ⟨⟨true, "", none, none, ∅⟩⟩

/-- The name under which a failure's traceback is kept in its context. -/
def tracebackKey : String := "traceback"

/-- The error of a failure: the detail given, or else the message, or else a text for want of both. -/
def detail (error message : String) : String :=
  if !Text.isAllBlank error then error
  else if !Text.isAllBlank message then message
  else "Unknown error"

/-- A success without a prompt or a context. -/
def succeeded (message : String) : Outcome := ⟨true, message, none, none, ∅⟩

/-- A failure always carries an error that says something. -/
def failed (message error : String) : Outcome := ⟨false, message, some (detail error message), none, ∅⟩

/-- Another prompt, or a first one. -/
def withPrompt (outcome : Outcome) (prompt : String) : Outcome := { outcome with prompt := some prompt }

/-- Another context. -/
def withContext (outcome : Outcome) (context : Attributes) : Outcome := { outcome with context }

/-- A value takes the place of an older one of its name. -/
def withValue (outcome : Outcome) (name : String) (value : Json) : Outcome :=
  { outcome with context := outcome.context.insert name value }

/-- A failure that keeps the traceback of its error. -/
def ofReport (message : String) (report : Report) : Outcome :=
  (failed message report.message).withValue tracebackKey (.string report.traceback)

/-- Message, prompt and context stay. -/
def markFailed (outcome : Outcome) (error : String) : Outcome :=
  { outcome with success := false, error := some (detail error outcome.message) }

/-- A success carries no error. -/
def markSucceeded (outcome : Outcome) : Outcome := { outcome with success := true, error := none }

/-- An empty message is filled in; any other one stays. -/
def fillMessage (outcome : Outcome) (message : String) : Outcome :=
  if outcome.message.isEmpty then { outcome with message } else outcome

/-- The object in which an outcome travels. -/
def toWire (outcome : Outcome) : Json :=
  .obj
    [("success", .bool outcome.success),
     ("message", .string outcome.message),
     ("error", .ofString? outcome.error),
     ("prompt", .ofString? outcome.prompt),
     ("context", .ofTable outcome.context)]

/-- The text in which an outcome travels; its names stand in the order of the fields. -/
def toText (outcome : Outcome) : String :=
  (Json.object
    [("success", .bool outcome.success),
     ("message", .string outcome.message),
     ("error", .ofString? outcome.error),
     ("prompt", .ofString? outcome.prompt),
     ("context", .ofTable outcome.context)]).text

/-- What a reader of logs sees. -/
def inspect (outcome : Outcome) : String :=
  "ActionResult(success=" ++ Text.flag outcome.success ++ ", message="
    ++ Text.quoted outcome.message
    ++ (outcome.error.elim "" fun error => ", error=" ++ Text.quoted error) ++ ")"

/-- Equality of outcomes, doubles by value. -/
def same (a b : Outcome) : Bool :=
  a.success = b.success && a.message = b.message && a.error = b.error && a.prompt = b.prompt
    && (Json.ofTable a.context).same (.ofTable b.context)

open Json (Shape Members)

/-- The parts of an outcome that travels. -/
@[reducible] def members : Members :=
  .member "success" .optional .bool <|
  .member "message" .required .string <|
  .member "error" .optional (.orNull .string) <|
  .member "prompt" .optional (.orNull .string) <|
  .member "context" .optional (.orNull .attributes) .none

/-- What a reader accepts as an outcome, before its parts are put together. -/
@[reducible] def shape : Shape := .record "WireResult" members

/-- Why the parts of an outcome do not go together. -/
inductive Clash where
  | missingError
  | unexpectedError
deriving DecidableEq

/-- The clash in words. -/
def Clash.message : Clash → String
  | .missingError => "failed result must carry an error"
  | .unexpectedError => "successful result must not carry an error"

/-- The parts of an outcome that has travelled; success is taken for granted if nothing is said. -/
def assemble : members.Carrier → Except Clash Outcome
  | (success, message, error, prompt, context, ()) =>
    let outcome : Outcome :=
      { success := success.getD true
        message
        error := error.join
        prompt := prompt.join
        context := context.join.getD ∅ }
    match outcome.success, outcome.error with
    | false, none => .error .missingError
    | false, some error => if Text.isAllBlank error then .error .missingError else .ok outcome
    | true, some _ => .error .unexpectedError
    | true, none => .ok outcome

/-- Reads an outcome that travelled as a value. -/
def ofWire (value : Json) : Except String Outcome := do
  let parts ← shape.ofJson value
  match assemble parts with
  | .ok outcome => .ok outcome
  | .error clash => .error clash.message

/-- Reads an outcome that travelled as text; its parts are put together before the text has to end. -/
def ofText (text : String) : Except TextError Outcome :=
  Json.finish text.toList do
    let (parts, rest) ← shape.read Json.maxDepth text.toList
    match assemble parts with
    | .ok outcome => return (outcome, rest)
    | .error clash => Json.dataBefore clash.message rest

end Outcome

end Dispatch
