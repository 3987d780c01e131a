import Dispatch.Middleware.Pipeline
import Dispatch.Session.Naming
import Dispatch.Session.View

namespace Dispatch.Session

/-- Keeps an invocation under an id. -/
def storeInvocation (id : String) (invocation : Invocation Script) : SessionM Unit :=
  remember fun memory => { memory with invocations := memory.invocations.insert id invocation }

/-- A run on a stored invocation, which is out of reach meanwhile. -/
def usingInvocation {α : Type} (step : Json) (encode : α → Answer) (run : OnInvocation α) : StepM Json := do
  let id ← request (textOf step "instance")
  let invocation ← remembered fun memory => memory.invocations.get? id
  remember fun memory => { memory with invocations := memory.invocations.erase id }
  let (returned, invocation) ← Run.withLocal invocation run
  storeInvocation id invocation
  let answer : Answer :=
    match returned with
    | .ok value => encode value
    | .error panic => .ofPanic panic
  return withEntry answer "instance" (invocationView invocation)

/-- An outcome as it travels. -/
def wireAnswer (outcome : Outcome) : Answer := .ok outcome.toWire

/-- Parameters as they were accepted, or what is wrong with them. -/
def validatedAnswer : Except Violation Attributes → Answer
  | .ok values => .ok (.ofTable values)
  | .error violation =>
    .ok (.obj [("codes", codesJson violation), ("message", .string violation.message)])

/-- Makes an invocation of an action. -/
def instantiateStep (host : SessionHost) (step : Json) : StepM Json := do
  let id ← idOf step
  let action ← named step "type" Memory.actions
  let dependencies ← request (dependenciesOf step "dependencies")
  let invocation ← settled .ofRejection (← action.instantiate host ⟨tableOf step "context", dependencies⟩)
  storeInvocation id invocation
  return .obj
    [("name", .string invocation.name),
     ("type", .string invocation.action.name),
     ("instance", invocationView invocation)]

/-- Sets an invocation up with parameters. -/
def setupStep (host : SessionHost) (step : Json) : StepM Json := do
  usingInvocation step setUpAnswer (Invocation.setUp host (valueOf step "params"))

/-- Validates parameters without setting anything up. -/
def validateInputStep (host : SessionHost) (step : Json) : StepM Json := do
  let params ← request (needed ((step.get? "params").bind Json.asObject?))
  usingInvocation step validatedAnswer do
    firstHalf ((← Invocation.invocation).validate host params)

/-- Processes an invocation. -/
def processStep (host : SessionHost) (step : Json) : StepM Json := do
  usingInvocation step wireAnswer (Invocation.process host (channelOf step))

/-- Processes an invocation through a pipeline. -/
def pipelineStep (host : SessionHost) (step : Json) : StepM Json := do
  let pipeline ← named step "pipeline" Memory.pipelines
  usingInvocation step wireAnswer (Pipeline.process host pipeline (channelOf step))

/-- Changes a value of an invocation's context. -/
def setInstanceContextStep (step : Json) : StepM Json := do
  let key ← request (textOf step "key")
  usingInvocation step Answer.ok do
    let current ← Invocation.invocation
    Invocation.update fun invocation =>
      { invocation with context := invocation.context.setValue key (valueOf step "value") }
    return (current.context.get? key).getD .null

/-- An invocation as readers of logs see it. -/
def instanceDebugStep (step : Json) : StepM Json := do
  usingInvocation step Answer.ok do return .string (← Invocation.invocation).inspect

/-- Steps on invocations, by name. -/
def invocationSteps (host : SessionHost) : Steps :=
  [("instantiate", instantiateStep host),
   ("setup", setupStep host),
   ("validate_input", validateInputStep host),
   ("process", processStep host),
   ("pipeline", pipelineStep host),
   ("set_instance_context", setInstanceContextStep),
   ("instance_debug", instanceDebugStep)]

end Dispatch.Session
