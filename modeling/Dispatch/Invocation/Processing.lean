import Dispatch.Schema.Validator
import Dispatch.World

namespace Dispatch

variable {κ μ : Type}

/-- An invocation of an action, with a hook of its own. -/
def Action.instantiate (host : Host κ μ) (action : Action κ) (context : Context) :
    Act κ μ (Except Rejection (Invocation κ)) := do
  match action.hook with
  | none => return .error (.missingHook action.name)
  | some code =>
    Run.note (.created action context)
    let hook ← Run.foreign (host.create code)
    return .ok (.start action hook context)

namespace Invocation

/-- Parameters as the action's validator accepts them; the schema is enforced if there is no other. -/
def validate (host : Host κ μ) (invocation : Invocation κ) (params : Attributes) :
    Act κ μ (Except Violation Attributes) := do
  Run.note (.validated params)
  match invocation.action.validator with
  | none => return invocation.action.schema.validate params
  | some code => Run.foreign (host.validate code invocation.action.schema params)

/-- The invocation that a run is about. -/
def invocation : InvocationAct κ μ (Invocation κ) := do return (← Run.state).2

/-- Edits the invocation that a run is about. -/
def update (f : Invocation κ → Invocation κ) : InvocationAct κ μ Unit :=
  Run.update fun state => (state.1, f state.2)

/-- The hook looks at the context; a hook that panics may have edited it. -/
def prepareHook (host : Host κ μ) : InvocationAct κ μ Unit := fun (world, invocation) =>
  let ran := host.prepare (world, invocation.hook, invocation.context)
  let (world, hook, context) := ran.state
  ⟨ran.result, (world, { invocation with hook, context }), [.prepared]⟩

/-- The hook is prepared the first time only. -/
def prepareOnce (host : Host κ μ) : InvocationAct κ μ Unit := do
  if !(← invocation).prepared then
    prepareHook host
    update fun invocation => { invocation with prepared := true }

/-- What the validator accepts becomes the input, and what it refuses changes nothing. -/
def accept (host : Host κ μ) (params : Json) : InvocationAct κ μ (Except Violation Unit) := do
  match Schema.parameters params with
  | .error violation => return .error violation
  | .ok params =>
    match ← Run.onFirst ((← invocation).validate host params) with
    | .error violation => return .error violation
    | .ok input =>
      update fun invocation => { invocation with input := some input, phase := .validated }
      return .ok ()

/-- An invocation that has been processed is not set up again. -/
def setUp (host : Host κ μ) (params : Json) : InvocationAct κ μ (Except Violation Unit) := do
  let current ← invocation
  if current.phase.isFinal then
    return .error (.custom ("action '" ++ current.name ++ "' has already been processed"))
  else
    prepareOnce host
    accept host params

/-- The hook executes the action; a panic is a failure. -/
def runHook (host : Host κ μ) (channel : Channel) (input : Attributes) :
    InvocationAct κ μ (Except Failure Output) := fun (world, invocation) =>
  let ran := host.execute channel input invocation.context (world, invocation.hook)
  let (world, hook) := ran.state
  let output :=
    match ran.result with
    | .ok output => output
    | .error panic => .error (.ofPanic panic)
  ⟨.ok output, (world, { invocation with hook }), [.executed channel input]⟩

/-- The message of an outcome whose action failed. -/
def failureMessage (name : String) (failure : Failure) : String :=
  "Failed to execute " ++ name ++ ": " ++ failure.message

/-- An invocation that is not ready stays as it is. -/
def refuse (invocation : Invocation κ) (failure : Failure) : Act κ μ Outcome := do
  Act.record .debug "Action not runnable"
    [("action", .string invocation.name),
     ("state", .string invocation.phase.name),
     ("error", .string failure.message)]
  return .ofReport (failureMessage invocation.name failure) failure.report

/-- Phase, output and outcome that follow from what the hook handed back. -/
def settle (name : String) : Except Failure Output → Phase × Option Attributes × Outcome
  | .ok (.data values prompt) =>
    (.executed, some values,
      { (Outcome.succeeded ("Successfully executed " ++ name)).withContext values with prompt })
  | .ok (.complete outcome) =>
    let outcome := outcome.fillMessage ("Action " ++ name ++ " executed successfully")
    (if outcome.success then .executed else .failed, none, outcome)
  | .error failure => (.failed, none, .ofReport (failureMessage name failure) failure.report)

/-- Moves the invocation to its final phase and yields the outcome. -/
def finish (returned : Except Failure Output) : InvocationAct κ μ Outcome := do
  let current ← invocation
  let (phase, output, outcome) := settle current.name returned
  update fun invocation => { invocation with phase, output := output.or invocation.output }
  if let .error failure := returned then
    Run.onFirst <| Act.record .warn "Action execution failed"
      [("action", .string current.name),
       ("error", .string failure.message),
       ("code", .string failure.code)]
  return outcome

/-- Processes an invocation that is ready. -/
def process (host : Host κ μ) (channel : Channel) : InvocationAct κ μ Outcome := do
  let current ← invocation
  match current.readyInput with
  | .error failure => Run.onFirst (current.refuse failure)
  | .ok input => finish (← runHook host channel input)

end Invocation

end Dispatch
