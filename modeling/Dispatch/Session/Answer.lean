import Dispatch.Loading.Basic
import Dispatch.Manager.Settings

namespace Dispatch.Session

/-- What a request or a step comes to. -/
inductive Answer where
  | ok (value : Json)
  | fault (code message : String)
  /-- The request cannot be used. -/
  | unusable

namespace Answer

/-- A request that cannot be used is answered without words. -/
def toJson : Answer → Json
  | .ok value => .obj [("ok", value)]
  | .fault code message => .obj [("error", .string code), ("message", .string message)]
  | .unusable => .obj [("error", .string "bad_request")]

/-- A panic is answered in the words of the failure that it is. -/
def ofPanic (panic : Panic) : Answer := .fault "panic" (Failure.ofPanic panic).message

/-- A violation by its code and its words. -/
def ofViolation (violation : Violation) : Answer := .fault violation.code violation.message

/-- A failure by its code and its words. -/
def ofFailure (failure : Failure) : Answer := .fault failure.code failure.message

/-- A rejection by its code and its words. -/
def ofRejection (rejection : Rejection) : Answer := .fault rejection.code rejection.message

/-- A module that cannot be had, by code and words. -/
def ofLoadFault (fault : LoadFault) : Answer := .fault fault.code fault.summary

/-- A candidate that is no good, by code and words. -/
def ofDiscoveryFault (fault : DiscoveryFault) : Answer := .fault fault.code fault.summary

/-- Settings that are no good, by code and words. -/
def ofConfigFault : ConfigFault → Answer
  | .panicked panic => ofPanic panic
  | other => .fault other.code other.message

/-- A text that cannot be read, by code and kind; the place is not told. -/
def ofTextFault (fault : TextFault) : Answer := .fault fault.code fault.summary

/-- Data that does not fit. -/
def ofData (message : String) : Answer := ofTextFault (.data message)

/-- An identifier, or what is wrong with it. -/
def ofIdentifier : Except Identifier.Fault String → Answer
  | .ok text => .ok (.string text)
  | .error found => .fault found.code found.message

/-- What was read, or the answer to a reading that failed. -/
def ofReading {α : Type} (result : Except Answer α) (encode : α → Json) : Answer :=
  match result with
  | .ok value => .ok (encode value)
  | .error refusal => refusal

end Answer

end Dispatch.Session
