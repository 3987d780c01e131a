import Dispatch.Manager.Call
import Dispatch.Manager.Sharing
import Dispatch.Session.Steps.Chains
import Dispatch.Session.View

namespace Dispatch.Session

/-- The first id under which the same manager is known. -/
def sameManager (manager : Manager) : SessionM Json := do
  return .ofString? (((← memory).managers.entries.find? fun entry => entry.2.id = manager.id).map (·.1))

/-- A manager that a step obtained, stored under its id. -/
def storeManager (id : String) (manager : Manager) (more : List (String × Json)) : SessionM Json := do
  let same ← sameManager manager
  remember fun memory => { memory with managers := memory.managers.insert id manager }
  return .obj ((← managerEntries manager) ++ ("same_as", same) :: more)

/-- Calls an action through a manager. -/
def callStep (host : SessionHost) (step : Json) : StepM Json := do
  let manager ← managerOf step
  let action ← request (textOf step "action")
  let own := (step.get? "context").bind Json.asObject?
  return (← lift (manager.call host (channelOf step) action own (valueOf step "params"))).toWire

/-- The adapter that a step calls: a stored one, or the manager's own for an action. -/
def adapterOf (step : Json) : StepM Adapter := do
  if (text? step "adapter").isSome then named step "adapter" Memory.adapters
  else
    let manager ← managerOf step
    let action ← request (textOf step "action")
    match (← lift manager.adapters).get? action with
    | some adapter => return adapter
    | none => throw .unusable

/-- Makes a manager. -/
def managerStep (step : Json) : StepM Json := do
  let id ← idOf step
  let target ← request (textOf step "target_system")
  let name ← request (textOf step "name")
  let settings ← settingsOf step
  let created ← lift (Manager.create target name settings)
  storeManager id (← settled .ofConfigFault created) []

/-- Makes a manager that shares nothing. -/
def isolatedManagerStep (step : Json) : StepM Json := do
  let id ← idOf step
  let target ← request (textOf step "target_system")
  storeManager id (← lift (Fixture.isolatedManager target)) []

/-- Asks for a shared manager, or for one of its own. -/
def cachedManagerStep (step : Json) : StepM Json := do
  let id ← idOf step
  let target ← request (textOf step "target_system")
  let name ← request (textOf step "name")
  let settings ← settingsOf step
  let obtained ← lift (Manager.obtain target name settings (flagOf step "force_new"))
  let manager ← settled .ofConfigFault obtained
  storeManager id manager [("cached", .strings (← lift Manager.sharedKeys))]

/-- Tells under which keys managers are shared. -/
def cachedManagersStep (_ : Json) : StepM Json := do
  return .strings (← lift Manager.sharedKeys)

/-- Gives all shared managers up. -/
def clearManagersStep (_ : Json) : StepM Json := do
  return .ofNat (← lift Manager.clearShared)

/-- Ties an action's name to a manager. -/
def adapterStep (step : Json) : StepM Json := do
  let id ← idOf step
  let manager ← managerOf step
  let action ← request (textOf step "action")
  remember fun memory => { memory with adapters := memory.adapters.insert id ⟨manager, action⟩ }
  return .null

/-- Tells which actions a manager has adapters for. -/
def adaptersStep (step : Json) : StepM Json := do
  return .strings (← lift (← managerOf step).adapters).keys

/-- Calls an action by way of an adapter. -/
def adapterCallStep (host : SessionHost) (step : Json) : StepM Json := do
  let adapter ← adapterOf step
  let outcome ← lift (adapter.call host (channelOf step) (valueOf step "params"))
  return .obj [("name", .string adapter.action), ("result", outcome.toWire)]

/-- Changes a value of a manager's context. -/
def updateContextStep (step : Json) : StepM Json := do
  let manager ← managerOf step
  lift (manager.setContext (← request (textOf step "key")) (valueOf step "value"))
  return .ofTable (← lift manager.read).context

/-- Shows a manager. -/
def managerStateStep (step : Json) : StepM Json := do
  managerView (← managerOf step)

/-- A manager as readers of logs see it. -/
def managerDebugStep (step : Json) : StepM Json := do
  let manager ← managerOf step
  return .string (manager.inspect (← lift manager.read))

/-- Tells which actions a manager offers. -/
def availableStep (step : Json) : StepM Json := do
  return .strings (← lift (← managerOf step).available)

/-- Tells all that a manager knows of its actions. -/
def actionsInfoStep (step : Json) : StepM Json := do
  return (← lift (← managerOf step).describe).toWire

/-- Refreshes a manager. -/
def refreshStep (host : SessionHost) (step : Json) : StepM Json := do
  let manager ← managerOf step
  let ran ← lift <|
    manager.refresh host (channelOf step) (flagOf step "force") (textsOf step "extra")
  return .obj
    [("ran", .bool ran),
     ("actions", .strings (← lift manager.available)),
     ("context", .ofTable (← lift manager.read).context)]

/-- Discovers a source through a manager. -/
def managerDiscoverStep (host : SessionHost) (step : Json) : StepM Json := do
  let manager ← managerOf step
  let found ← lift (manager.discover host (← sourceOf step))
  return .obj [("found", discoveredView found), ("actions", .strings (← lift manager.available))]

/-- Adds a factory to a manager; a factory that panics is part of the answer. -/
def addMiddlewareStep (host : SessionHost) (step : Json) : StepM Json := do
  let manager ← managerOf step
  let factory ← factoryOf (valueOf step "middleware")
  let answer : Answer :=
    match ← lift (Run.caught (manager.addMiddleware host factory)) with
    | .ok () => .ok .null
    | .error panic => .ofPanic panic
  return .obj [("added", answer.toJson), ("len", .ofNat (← lift manager.read).factories.length)]

/-- Steps on managers, by name. -/
def managerSteps (host : SessionHost) : Steps :=
  [("manager", managerStep),
   ("isolated_manager", isolatedManagerStep),
   ("cached_manager", cachedManagerStep),
   ("cached_managers", cachedManagersStep),
   ("clear_managers", clearManagersStep),
   ("call", callStep host),
   ("adapter", adapterStep),
   ("adapters", adaptersStep),
   ("adapter_call", adapterCallStep host),
   ("update_context", updateContextStep),
   ("manager_state", managerStateStep),
   ("manager_debug", managerDebugStep),
   ("available", availableStep),
   ("actions_info", actionsInfoStep),
   ("refresh", refreshStep host),
   ("manager_discover", managerDiscoverStep host),
   ("add_middleware", addMiddlewareStep host)]

end Dispatch.Session
