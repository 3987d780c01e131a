import Dispatch.Manager.Refresh

namespace Dispatch

variable {κ μ : Type}

namespace Manager

/-- Callers whose input was no good are told to try again. -/
def retryPrompt : String := "Please check the input parameters and try again"

/-- Callers of an unknown action are told what to check. -/
def notFoundPrompt : String := "Please check the action name or register the action first"

/-- The outcome of a call whose action could not be executed. -/
def executionFailure (name : String) (report : Report) : Outcome :=
  (Outcome.ofReport ("Action " ++ name ++ " execution failed: " ++ report.message) report).withPrompt
    retryPrompt

/-- The outcome of a call whose parameters were refused. -/
def preparationFailure (name : String) (violation : Violation) : Outcome :=
  (Outcome.ofReport ("Error preparing action " ++ name ++ ": " ++ violation.message)
    violation.report).withPrompt retryPrompt

/-- The outcome of a call whose action is unknown. -/
def notFound (name : String) : Outcome :=
  (Outcome.failed ("Action " ++ name ++ " not found")
    ("Action " ++ name ++ " not found in registry")).withPrompt notFoundPrompt

/-- The action of a name for the manager's target system, or for any if the manager falls back. -/
def resolve (manager : Manager) (name : String) : Act κ μ (Option (Action κ)) := do
  let registry ← manager.registry.read
  match registry.get? name (some manager.target) with
  | some action => return some action
  | none =>
    if !manager.scopeFallback then return none
    match registry.get? name none with
    | none => return none
    | some action =>
      Act.record .debug "Resolved action through unscoped lookup"
        [("action", .string name),
         ("target_system", .string manager.target),
         ("resolved_target", .string (action.target.getD "-"))]
      return some action

/-- What the invocations of a call see: the manager's context under the call's own. -/
def contextOver (manager : Manager) (own : Option Attributes) (state : ManagerState κ) : Context :=
  ⟨own.elim state.context state.context.overlay, manager.dependencies⟩

/-- Subscribers hear of the input that an action is executed with. -/
def beforeEvent (manager : Manager) (name : String) (input : Option Attributes) : Event :=
  ⟨Event.beforeExecute name, (manager.callFacts name).insert "params" (input.elim Json.null .ofTable)⟩

/-- Subscribers hear of the outcome that an action was executed with. -/
def afterEvent (manager : Manager) (name : String) (outcome : Outcome) : Event :=
  ⟨Event.afterExecute name, (manager.callFacts name).insert "result" outcome.toWire⟩

/-- Subscribers hear of the error in an outcome, and of its traceback. -/
def errorEvent (manager : Manager) (name : String) (outcome : Outcome) : Event :=
  let traceback := (outcome.context.get? Outcome.tracebackKey).getD .null
  ⟨Event.callError name,
    ((manager.callFacts name).insert "error" (.ofString? outcome.error)).insert "traceback" traceback⟩

/-- The way of a call that ends with an error. -/
def failCall (host : Host κ μ) (manager : Manager) (channel : Channel) (name : String) (outcome : Outcome) :
    Act κ μ Outcome := do
  Act.record .error "Error calling action"
    [("manager", .string manager.name),
     ("action", .string name),
     ("error", .string (outcome.error.getD ""))]
  manager.publish host channel (manager.errorEvent name outcome)
  return outcome

/-- The way of a call whose links have returned, or panicked. -/
def conclude (host : Host κ μ) (manager : Manager) (channel : Channel) (name : String) :
    Except Panic Outcome → Act κ μ Outcome
  | .error panic => manager.failCall host channel name (executionFailure name (Failure.ofPanic panic).report)
  | .ok outcome => do
    manager.publish host channel (manager.afterEvent name outcome)
    return outcome.fillMessage ("Action " ++ name ++ " executed successfully")

/-- Processes an invocation that is set up, between an event before and an event after. -/
def carryOut (host : Host κ μ) (manager : Manager) (channel : Channel) (name : String)
    (invocation : Invocation κ) : Act κ μ Outcome := do
  manager.publish host channel (manager.beforeEvent name invocation.input)
  let links := (← manager.read).pipeline.getD []
  Run.note (.routed links)
  let (returned, _) ← Run.withLocal invocation (Pipeline.process host links channel)
  manager.conclude host channel name returned

/-- Sets an invocation up with the parameters, and carries the call out. -/
def callInvocation (host : Host κ μ) (manager : Manager) (channel : Channel) (name : String)
    (invocation : Invocation κ) (params : Json) : Act κ μ Outcome := do
  let (settled, invocation) ← Run.withLocal invocation (Invocation.setUp host params)
  match settled with
  | .error panic => Run.panic panic
  | .ok (.error violation) =>
    Act.record .warn "Invalid action input"
      [("action", .string name),
       ("error", .string violation.message),
       ("code", .string violation.code)]
    manager.failCall host channel name (preparationFailure name violation)
  | .ok (.ok ()) => manager.carryOut host channel name invocation

/-- A manager that is due is refreshed before a call. -/
def refreshIfDue (host : Host κ μ) (manager : Manager) (channel : Channel) : Act κ μ Unit := do
  if ← manager.isDue then
    let _ ← manager.refresh host channel false []

/-- Calls an action that was found. -/
def callAction (host : Host κ μ) (manager : Manager) (channel : Channel) (name : String)
    (own : Option Attributes) (params : Json) (action : Action κ) : Act κ μ Outcome := do
  match ← action.instantiate host (manager.contextOver own (← manager.read)) with
  | .error rejection => manager.failCall host channel name (executionFailure name rejection.report)
  | .ok invocation => manager.callInvocation host channel name invocation params

/-- Callers of an unknown action are told so. -/
def answerUnknown (manager : Manager) (name : String) : Act κ μ Outcome := do
  Act.record .warn "Action not found in registry"
    [("manager", .string manager.name),
     ("target_system", .string manager.target),
     ("action", .string name)]
  return notFound name

/-- Calls an action by its name. -/
def call (host : Host κ μ) (manager : Manager) (channel : Channel) (name : String)
    (own : Option Attributes) (params : Json) : Act κ μ Outcome := do
  manager.refreshIfDue host channel
  match ← manager.resolve name with
  | none => manager.answerUnknown name
  | some action => manager.callAction host channel name own params action

end Manager

/-- Calls an adapter's action, with no values of the call's own in the context. -/
def Adapter.call (host : Host κ μ) (adapter : Adapter) (channel : Channel) (params : Json) : Act κ μ Outcome :=
  adapter.manager.call host channel adapter.action none params

end Dispatch
