import Dispatch.Manager.Settings
import Dispatch.Middleware.Basic
import Dispatch.Json.Printer

namespace Dispatch

/-- Managers are told apart by this number. -/
structure ManagerId where
  index : Nat
deriving DecidableEq, Inhabited

/-- All that stays as it was when the manager was made. -/
structure Manager where
  id : ManagerId
  name : String
  target : String
  registry : RegistryId
  bus : BusId
  dependencies : Dependencies
  searchPaths : List String
  autoRefresh : Bool
  refreshInterval : Duration
  scopeFallback : Bool
deriving Inhabited

/-- A manager's way to call an action by its name. -/
structure Adapter where
  manager : Manager
  action : String
deriving Inhabited

/-- A manager's context, its middleware as factories and as built, and the time of its last refresh. -/
structure ManagerState (κ : Type) where
  context : Attributes
  factories : List κ
  pipeline : Option (Pipeline κ)
  lastRefresh : Option Nat

instance {κ : Type} : Inhabited (ManagerState κ) := ⟨⟨∅, [], none, none⟩⟩

namespace Manager

/-- Under these names a manager's own bus and registry are injected. -/
def busDependency : String := "event_bus"

/-- The registry is injected under this name. -/
def registryDependency : String := "registry"

/-- What every manager's context says of the running system. -/
def standardContext (target name time : String) : Attributes :=
  .ofList
    [("target_system", .string target),
     ("manager_name", .string name),
     ("platform", .string "linux"),
     ("os_family", .string "unix"),
     ("runtime_version", .string "0.1.0"),
     ("timestamp", .string time)]

/-- An identifier of a manager, or what is wrong with it. -/
def identifier (field : String) (rules : Identifier.Rules) (value : String) : Except ConfigFault String :=
  match rules.normalize value with
  | .ok normal => .ok normal
  | .error fault => .error (.invalidIdentifier field value fault)

/-- Target system and name of a manager; the target system is looked at first. -/
def identifiers (target name : String) : Except ConfigFault (String × String) := do
  let target ← identifier "target_system" .targetSystem target
  let name ← identifier "manager_name" .manager name
  return (target, name)

/-- Under this key a manager is shared. Texts that are no identifiers stand for themselves. -/
def cacheKey (target name : String) : String :=
  let normal := fun (rules : Identifier.Rules) (value : String) =>
    match rules.normalize value with
    | .ok normal => normal
    | .error _ => value
  normal .targetSystem target ++ ":" ++ normal .manager name

/-- What the events of a manager say of it. -/
def facts (manager : Manager) : Attributes :=
  .ofList [("manager", .string manager.name), ("target_system", .string manager.target)]

/-- What the events of a call say. -/
def callFacts (manager : Manager) (action : String) : Attributes :=
  manager.facts.insert "action" (.string action)

/-- What a reader of logs sees. -/
def inspect {κ : Type} (manager : Manager) (state : ManagerState κ) : String :=
  Text.labelled "ActionManager"
    [("name", Text.quoted manager.name),
     ("target_system", Text.quoted manager.target),
     ("middleware", toString state.factories.length),
     ("search_paths", Text.bracketed (manager.searchPaths.map Text.quoted)),
     ("auto_refresh", Text.flag manager.autoRefresh),
     ("refresh_interval", manager.refreshInterval.brief),
     ("scope_fallback", Text.flag manager.scopeFallback)]

end Manager

end Dispatch
