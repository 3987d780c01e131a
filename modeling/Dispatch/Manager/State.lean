import Dispatch.Middleware.Pipeline
import Dispatch.Registry.Discovery

namespace Dispatch

variable {κ μ : Type}

namespace Manager

/-- What has changed about the manager so far. -/
def read (manager : Manager) : Act κ μ (ManagerState κ) := do return (← Run.state).manager manager.id

/-- Edits what may change about the manager. -/
def modify (manager : Manager) (f : ManagerState κ → ManagerState κ) : Act κ μ Unit :=
  Run.update fun world => world.setManager manager.id (f (world.manager manager.id))

/-- A time as contexts show it. -/
def timeText (time : Nat) : String := (Timestamp.mk time).text

/-- The given registry, or the process-wide one. -/
def registryFor : Option RegistryId → Act κ μ RegistryId
  | some registry => return registry
  | none => RegistryId.global

/-- A manager with these identifiers. -/
def make (target name : String) (settings : Settings) : Act κ μ Manager := do
  let registry ← registryFor settings.registry
  let bus := settings.bus.getD World.globalBus
  let dependencies :=
    (settings.dependencies.insert busDependency (.eventBus bus)).insert registryDependency (.registry registry)
  let context := (standardContext target name (timeText (← Act.now))).overlay settings.context
  Act.record .info "Created action manager"
    [("manager", .string name),
     ("target_system", .string target),
     ("search_paths", .ofNat settings.searchPaths.length)]
  let manager : Manager :=
    { id := ⟨← Act.freshIndex⟩
      name
      target
      registry
      bus
      dependencies
      searchPaths := settings.searchPaths
      autoRefresh := settings.autoRefresh
      refreshInterval := settings.refreshInterval
      scopeFallback := settings.scopeFallback }
  manager.modify fun _ => ⟨context, [], none, none⟩
  return manager

/-- A manager, if its target system and its name are identifiers. -/
def create (target name : String) (settings : Settings) : Act κ μ (Except ConfigFault Manager) := do
  match identifiers target name with
  | .error fault => return .error fault
  | .ok (target, name) => return .ok (← make target name settings)

/-- A value takes the place of an older one of its name. -/
def setContext (manager : Manager) (name : String) (value : Json) : Act κ μ Unit :=
  manager.modify fun state => { state with context := state.context.insert name value }

/-- Adds a factory, and builds the pipeline anew from all factories. -/
def addMiddleware (host : Host κ μ) (manager : Manager) (factory : κ) : Act κ μ Unit := do
  manager.modify fun state => { state with factories := state.factories ++ [factory] }
  let pipeline ← Pipeline.build host (← manager.read).factories
  manager.modify fun state => { state with pipeline }
  Act.record .debug "Rebuilt middleware pipeline"
    [("manager", .string manager.name),
     ("middleware", .string (Pipeline.inspect host (pipeline.getD [])))]

/-- The names of the target system's actions. -/
def available (manager : Manager) : Act κ μ (List String) := do
  return (← manager.registry.read).names (some manager.target)

/-- An adapter for each of the target system's actions. -/
def adapters (manager : Manager) : Act κ μ (Table Adapter) := do
  return .ofList ((← manager.available).map fun name => (name, ⟨manager, name⟩))

/-- A listing that also says whether the action declares any input. -/
def listingEntry (listing : Listing) : Json :=
  let declares := ((listing.inputSchema.get? "properties").bind Json.asObject?).any fun table => !table.isEmpty
  .obj (listing.entries ++ [("has_input_schema", .bool declares)])

/-- All that callers may want to know of the target system's actions. -/
def describe (manager : Manager) : Act κ μ Outcome := do
  let listings := (← manager.registry.read).listings (some manager.target) none
  let actions : Attributes := .ofList (listings.map fun listing => (listing.name, listingEntry listing))
  let message := "Found " ++ toString actions.size ++ " actions for " ++ manager.target
  return (Outcome.succeeded message
    |>.withPrompt "You can call any of these actions using the call_action method"
    |>.withValue "target_system" (.string manager.target)
    |>.withValue "actions" (.ofTable actions)
    |>.withValue "count" (.ofNat actions.size))

end Manager

end Dispatch
