import Dispatch.Fixture
import Dispatch.Session.Description
import Dispatch.Session.Memory

namespace Dispatch.Session

/-- A registry by its id, the process-wide one, or the one of a manager. -/
def registryNamed (name : String) : StepM RegistryId := do
  if name = "global" then lift RegistryId.global
  else if name.startsWith "of:" then
    let id := String.ofList (name.toList.drop 3)
    return (← remembered fun memory => memory.managers.get? id).registry
  else remembered fun memory => memory.registries.get? name

/-- The registry that a step is about. -/
def registryOf (step : Json) : StepM RegistryId := do registryNamed (← request (textOf step "registry"))

/-- A bus by its id, the process-wide one, or the one of a manager. -/
def busNamed (name : String) : StepM BusId := do
  if name = "global" then return World.globalBus
  else if name.startsWith "of:" then
    let id := String.ofList (name.toList.drop 3)
    return (← remembered fun memory => memory.managers.get? id).bus
  else remembered fun memory => memory.buses.get? name

/-- The bus that a step is about. -/
def busOf (step : Json) : StepM BusId := do busNamed (← request (textOf step "bus"))

/-- The id that a step gives to its object. -/
def idOf (step : Json) : StepM String := request (textOf step "id")

/-- The object that a field of a step names. -/
def named {α : Type} (step : Json) (field : String) (table : Memory → Table α) : StepM α := do
  let id ← request (textOf step field)
  remembered fun memory => (table memory).get? id

/-- The manager that a step is about. -/
def managerOf (step : Json) : StepM Manager := named step "manager" Memory.managers

/-- The loader that a step is about. -/
def loaderOf (step : Json) : StepM (Loader Script) := named step "loader" Memory.loaders

/-- The catalog that a step is about. -/
def catalogOf (step : Json) : StepM CatalogId := do
  match ← loaderOf step with
  | .catalog id => return id
  | .custom _ => throw .unusable

/-- The memory loader that a step is about. -/
def memoryLoaderOf (step : Json) : StepM Nat := do
  match ← loaderOf step with
  | .custom (.memoryLoader index) => return index
  | _ => throw .unusable

/-- The target system that a step asks for. -/
def scopeOf (step : Json) : Scope := text? step "target_system"

/-- The source that a step asks for; a path comes before a package. -/
def sourceOf (step : Json) : StepM Source := do
  match text? step "path", text? step "package" with
  | some path, _ => return .path path
  | none, some name => return .package name
  | none, none => throw .unusable

/-- The settings that a step describes. -/
def settingsOf (step : Json) : StepM Settings := do
  match step.get? "config" with
  | none => return .standard
  | some config =>
    let start ← if flagOf config "isolated" then lift Fixture.isolatedSettings else pure .standard
    let mut settings := settingsWith start config
    if let some name := text? config "registry" then
      settings := { settings with registry := some (← registryNamed name) }
    if let some name := text? config "bus" then
      settings := { settings with bus := some (← busNamed name) }
    return settings

end Dispatch.Session
