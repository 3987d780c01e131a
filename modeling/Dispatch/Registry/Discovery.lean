import Dispatch.Loading.Catalog

namespace Dispatch

variable {κ μ : Type}

namespace RegistryId

/-- The registry as it is now. -/
def read (registry : RegistryId) : Act κ μ (Registry κ) := do return (← Run.state).registry registry

/-- Edits the registry. -/
def modify (registry : RegistryId) (f : Registry κ → Registry κ) : Act κ μ Unit :=
  Run.update fun world => world.setRegistry registry (f (world.registry registry))

/-- A registry that loads modules by this loader. -/
def createWith (loader : Loader κ) : Act κ μ RegistryId := do
  let registry : RegistryId := ⟨← Act.freshIndex⟩
  registry.modify fun _ => .empty loader
  return registry

/-- A registry with an empty catalog of its own. -/
def create : Act κ μ RegistryId := do createWith (.catalog (← CatalogId.create))

/-- The process-wide registry, which comes into being when it is first asked for. -/
def global : Act κ μ RegistryId := do
  match (← Run.state).globalRegistry with
  | some registry => return registry
  | none =>
    Act.record .debug "Created process-wide action registry" []
    let registry ← create
    Run.update fun world => { world with globalRegistry := some registry }
    return registry

/-- Empties both indices. -/
def reset (registry : RegistryId) : Act κ μ Unit := do
  registry.modify Registry.reset
  Act.record .debug "Cleared action registry" []

/-- The process-wide registry is emptied, and on a full reset also given up. -/
def resetGlobal (full : Bool) : Act κ μ Unit := do
  if let some registry := (← Run.state).globalRegistry then
    registry.reset
  if full then
    Run.update fun world => { world with globalRegistry := none }
    Act.record .debug "Released process-wide action registry" []

/-- What became of an action goes into the log. -/
def recordAdmission (action : Action κ) : Admission → Act κ μ Unit
  | .abstract => Act.record .debug "Skipping abstract action type" [("action", .string action.name)]
  | .hookless =>
    Act.record .debug "Skipping action type without an execution hook" [("action", .string action.name)]
  | .registered =>
    Act.record .debug "Registered action"
      [("action", .string action.name), ("target_system", .string (action.target.getD "-"))]

/-- Whether the action was put into the registry. -/
def register (registry : RegistryId) (action : Action κ) : Act κ μ (Except Rejection Bool) := do
  match (← registry.read).register action with
  | .error rejection => return .error rejection
  | .ok (admission, after) =>
    registry.modify fun _ => after
    recordAdmission action admission
    return .ok (admission == .registered)

/-- Whether an action was removed. -/
def unregister (registry : RegistryId) (name : String) (scope : Scope) : Act κ μ Bool := do
  let (found, after) := (← registry.read).unregister name scope
  registry.modify fun _ => after
  return found

/-- From now on modules are taken from this loader. -/
def setLoader (registry : RegistryId) (loader : Loader κ) : Act κ μ Unit :=
  registry.modify fun registry => { registry with loader }

/-- A later hook of a package takes the place of the earlier one. -/
def addHook (registry : RegistryId) (package : String) (code : κ) : Act κ μ Unit := do
  Act.record .debug "Registered discovery hook" [("package", .string package)]
  registry.modify fun registry => { registry with hooks := registry.hooks.insert package code }

/-- No package has a hook any longer. -/
def clearHooks (registry : RegistryId) : Act κ μ Unit := do
  registry.modify fun registry => { registry with hooks := ∅ }
  Act.record .debug "Cleared discovery hooks" []

/-- A candidate that declares no target system takes the requested one. -/
def targeted (scope : Scope) (action : Action κ) : Act κ μ (Action κ) :=
  match scope, action.target with
  | some target, none => Act.derive action fun descriptor => { descriptor with target := some target }
  | _, _ => return action

/-- A candidate with an origin remembers it. -/
def originated (origin : Option String) (action : Action κ) : Act κ μ (Action κ) :=
  match origin with
  | some origin => Act.derive action fun descriptor => { descriptor with source := some origin }
  | none => return action

/-- The action as it was registered, if it was. -/
def registerCandidate (registry : RegistryId) (scope : Scope) (origin : Option String) :
    Except DiscoveryFault (Action κ) → Act κ μ (Option (Action κ))
  | .error fault => do
    Act.record .warn "Skipping action candidate"
      [("error", .string fault.message), ("code", .string fault.code)]
    return none
  | .ok action => do
    let action ← originated origin (← targeted scope action)
    match ← registry.register action with
    | .ok true => return some action
    | .ok false => return none
    | .error rejection =>
      let fault : DiscoveryFault := .rejected rejection
      Act.record .warn "Skipping non-conforming action candidate"
        [("action", .string action.name),
         ("error", .string fault.message),
         ("code", .string fault.code)]
      return none

/-- Registers candidates in order and keeps those that were registered. -/
def registerAll (registry : RegistryId) (source : String) (scope : Scope) (origin : Option String)
    (candidates : List (Except DiscoveryFault (Action κ))) : Act κ μ (List (Action κ)) := do
  let registered ← Run.forEach (registry.registerCandidate scope origin) candidates
  let found := registered.reduceOption
  Act.record .info "Discovered actions" [("source", .string source), ("count", .ofNat found.length)]
  return found

/-- Registers what a loaded module holds. A module that cannot be loaded holds nothing. -/
def registerLoaded (registry : RegistryId) (source : Source) (scope : Scope) :
    Except LoadFault (Module κ) → Act κ μ (List (Action κ))
  | .error fault => do
    Act.record .warn "Failed to load action module"
      [("source", .string source.text), ("error", .string fault.message)]
    return []
  | .ok loaded => do
    Act.record .debug "Loaded action module"
      [("source", .string source.text), ("module", .string loaded.name)]
    registry.registerAll source.text scope source.origin? loaded.candidates

/-- Loads a module and registers what it holds. -/
def discover (host : Host κ μ) (registry : RegistryId) (source : Source) (scope : Scope)
    (dependencies : Dependencies) : Act κ μ (List (Action κ)) := do
  let loader := (← registry.read).loader
  registry.registerLoaded source scope (← loader.load host source dependencies scope)

/-- A discovery hook stands in for the module of its package. -/
def discoverPackage (host : Host κ μ) (registry : RegistryId) (package : String) (scope : Scope)
    (dependencies : Dependencies) : Act κ μ (List (Action κ)) := do
  match (← registry.read).hooks.get? package with
  | none => registry.discover host (.package package) scope dependencies
  | some code =>
    Act.record .debug "Using discovery hook" [("package", .string package)]
    let offered ← Run.foreign (host.offer code registry scope)
    registry.registerAll package scope none (offered.map .ok)

end RegistryId

end Dispatch
