import Dispatch.Manager.State
import Dispatch.Session.Memory

namespace Dispatch.Session

/-- A phase by its name. -/
def phaseJson (phase : Phase) : Json := .string phase.name

/-- Setting up yields nothing, or a violation. -/
def setUpAnswer : Except Violation Unit → Answer
  | .ok () => .ok .null
  | .error violation => .ofViolation violation

/-- A listing that also says whether the action can be registered. -/
def actionView (action : Action Script) : Json :=
  .obj (action.listing.entries ++
    [("is_abstract", .bool action.isAbstract), ("has_execute_hook", .bool action.hasHook)])

/-- The names over all, and under each target system. -/
def registryView (registry : Registry Script) : Json :=
  .obj
    [("names", .strings (registry.names none)),
     ("targets", .obj (registry.targets.map fun target => (target, .strings (registry.names (some target)))))]

/-- What can be seen of an invocation. -/
def invocationView (invocation : Invocation Script) : Json :=
  .obj
    [("state", phaseJson invocation.phase),
     ("terminal", .bool invocation.phase.isFinal),
     ("input", .ofOption .ofTable invocation.input),
     ("output", .ofOption .ofTable invocation.output),
     ("context", .ofTable invocation.context.values)]

/-- What can be seen of a manager. -/
def managerEntries (manager : Manager) : SessionM (List (String × Json)) := do
  let state ← manager.read
  return [
     ("name", .string manager.name),
     ("target_system", .string manager.target),
     ("search_paths", .strings manager.searchPaths),
     ("dependencies", .strings manager.dependencies.keys),
     ("context", .ofTable state.context),
     ("middleware", .ofNat state.factories.length),
     ("refreshed", .bool state.lastRefresh.isSome)]

/-- A manager as it is now. -/
def managerView (manager : Manager) : SessionM Json := do return .obj (← managerEntries manager)

/-- The qualified names of actions, with their sources. -/
def discoveredView (actions : List (Action Script)) : Json :=
  .array (actions.map fun action =>
    .array [.string action.descriptor.qualifiedName, .ofString? action.descriptor.source])

/-- An answer with one more entry. -/
def withEntry (answer : Answer) (name : String) (value : Json) : Json :=
  .ofTable ((answer.toJson.asObject?.getD ∅).insert name value)

end Dispatch.Session
