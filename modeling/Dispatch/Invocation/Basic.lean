import Dispatch.Action.Basic
import Dispatch.Action.Context

namespace Dispatch

/-- How far an invocation has come. -/
inductive Phase where
  | created
  | validated
  | executed
  | failed
deriving DecidableEq, Inhabited

namespace Phase

/-- The phase as callers see it. -/
def name : Phase → String
  | .created => "Created"
  | .validated => "InputValidated"
  | .executed => "Executed"
  | .failed => "Failed"

/-- Whether the invocation has been processed. -/
def isFinal : Phase → Bool
  | .executed | .failed => true
  | _ => false

end Phase

/-- An action in use, with the hook that was created for it. -/
structure Invocation (κ : Type) where
  action : Action κ
  hook : κ
  context : Context
  input : Option Attributes
  output : Option Attributes
  phase : Phase
  /-- Whether the hook has been prepared. -/
  prepared : Bool
deriving Inhabited

namespace Invocation
variable {κ : Type}

/-- An invocation starts without input, and unprepared. -/
def start (action : Action κ) (hook : κ) (context : Context) : Invocation κ :=
  ⟨action, hook, context, none, none, .created, false⟩

/-- An invocation goes by the name of its action. -/
def name (invocation : Invocation κ) : String := invocation.action.name

/-- The input of an invocation that is ready, or why it is not. -/
def readyInput (invocation : Invocation κ) : Except Failure Attributes :=
  match invocation.phase with
  | .validated =>
    match invocation.input with
    | some input => .ok input
    | none => .error .notReady
  | .created => .error .notReady
  | .executed | .failed => .error (.alreadyProcessed invocation.name)

/-- What a reader of logs sees. -/
def inspect (invocation : Invocation κ) : String :=
  let shown := invocation.input.map fun input =>
    Text.labelled "ActionInput" [("values", Json.inspectTable input)]
  Text.labelled "ActionInstance"
    [("name", Text.quoted invocation.name),
     ("state", invocation.phase.name),
     ("input", Text.optional shown)]

end Invocation

end Dispatch
