import Dispatch.Session.Naming
import Dispatch.Session.View

namespace Dispatch.Session

/-- A registry as it is now. -/
def stateView (registry : RegistryId) : SessionM Json := do return registryView (← registry.read)

/-- The first id of the same action. -/
def sameAction (action : Action Script) : SessionM (Option String) := do
  return ((← memory).actions.entries.find? fun entry => entry.2.isSame action).map (·.1)

/-- Discovers a source; a package goes by way of its hook unless the module itself is asked for. -/
def discoverStep (host : SessionHost) (step : Json) : StepM Json := do
  let registry ← registryOf step
  let source ← sourceOf step
  let dependencies ← request (dependenciesOf step "dependencies")
  let found ←
    match source, flagOf step "raw" with
    | .package name, false => lift (registry.discoverPackage host name (scopeOf step) dependencies)
    | _, _ => lift (registry.discover host source (scopeOf step) dependencies)
  return .obj [("found", discoveredView found), ("state", ← stateView registry)]

/-- Makes a registry, with a catalog of its own unless it names a loader. -/
def registryStep (step : Json) : StepM Json := do
  let id ← idOf step
  let registry ←
    if (text? step "loader").isSome then do
      let loader ← loaderOf step
      lift (RegistryId.createWith loader)
    else lift RegistryId.create
  remember fun memory => { memory with registries := memory.registries.insert id registry }
  stateView registry

/-- Registers an action. -/
def registerStep (step : Json) : StepM Json := do
  let registry ← registryOf step
  let action ← named step "type" Memory.actions
  let answer : Answer :=
    match ← lift (registry.register action) with
    | .ok registered => .ok (.bool registered)
    | .error rejection => .ofRejection rejection
  return .obj [("registered", answer.toJson), ("state", ← stateView registry)]

/-- Removes an action. -/
def unregisterStep (step : Json) : StepM Json := do
  let registry ← registryOf step
  let removed ← lift (registry.unregister (← request (textOf step "name")) (scopeOf step))
  return .obj [("removed", .bool removed), ("state", ← stateView registry)]

/-- Looks an action up. -/
def getStep (step : Json) : StepM Json := do
  let registry ← registryOf step
  match (← lift registry.read).get? (← request (textOf step "name")) (scopeOf step) with
  | none => return .obj [("found", .null), ("same_as", .null)]
  | some action =>
    return .obj [("found", actionView action), ("same_as", .ofString? (← sameAction action))]

/-- Lists the actions of a scope. -/
def listStep (step : Json) : StepM Json := do
  let listings := (← lift (← registryOf step).read).listings (scopeOf step) (text? step "tag")
  return .array (listings.map Listing.toJson)

/-- Lists the names of a scope. -/
def listNamesStep (step : Json) : StepM Json := do
  return .strings ((← lift (← registryOf step).read).names (scopeOf step))

/-- Lists the actions of a target system by their qualified names. -/
def typesForStep (step : Json) : StepM Json := do
  let registry ← registryOf step
  let target ← request (textOf step "target_system")
  return .ofTable (((← lift registry.read).under target).map fun action =>
    .string action.descriptor.qualifiedName)

/-- Shows a registry. -/
def registryStateStep (step : Json) : StepM Json := do
  let registry ← lift (← registryOf step).read
  return .obj
    [("state", registryView registry),
     ("len", .ofNat registry.size),
     ("empty", .bool registry.isEmpty),
     ("debug", .string registry.inspect)]

/-- Empties a registry. -/
def resetStep (step : Json) : StepM Json := do
  let registry ← registryOf step
  lift registry.reset
  stateView registry

/-- Empties the process-wide registry, and tells whether it is still the same one. -/
def resetGlobalStep (step : Json) : StepM Json := do
  let old ← lift RegistryId.global
  lift (RegistryId.resetGlobal (flagOf step "full"))
  let kept ← lift RegistryId.global
  return .obj [("kept", .bool (kept = old)), ("old", ← stateView old)]

/-- Gives a registry another loader. -/
def setLoaderStep (step : Json) : StepM Json := do
  let registry ← registryOf step
  lift (registry.setLoader (← loaderOf step))
  return .null

/-- Gives a package its hook. -/
def hookStep (step : Json) : StepM Json := do
  let registry ← registryOf step
  lift (registry.addHook (← request (textOf step "package")) (.discovery step))
  return .null

/-- Takes all hooks away. -/
def clearHooksStep (step : Json) : StepM Json := do
  lift (← registryOf step).clearHooks
  return .null

/-- Whether a package has a hook. -/
def hasHookStep (step : Json) : StepM Json := do
  let registry ← lift (← registryOf step).read
  return .bool (registry.hooks.contains (← request (textOf step "package")))

/-- Steps on registries, by name. -/
def registrySteps (host : SessionHost) : Steps :=
  [("registry", registryStep),
   ("register", registerStep),
   ("unregister", unregisterStep),
   ("get", getStep),
   ("list", listStep),
   ("list_names", listNamesStep),
   ("types_for", typesForStep),
   ("registry_state", registryStateStep),
   ("reset", resetStep),
   ("reset_global", resetGlobalStep),
   ("set_loader", setLoaderStep),
   ("hook", hookStep),
   ("clear_hooks", clearHooksStep),
   ("has_hook", hasHookStep),
   ("discover", discoverStep host)]

end Dispatch.Session
