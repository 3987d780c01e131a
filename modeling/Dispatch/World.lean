import Dispatch.Action.Output
import Dispatch.Bus
import Dispatch.Files
import Dispatch.Invocation.Basic
import Dispatch.Loading.Basic
import Dispatch.Log
import Dispatch.Manager.Basic
import Dispatch.Registry.Basic
import Dispatch.Run
import Dispatch.Timestamp

namespace Dispatch

/-- Packages that are known beforehand by their entry points, and handlers that manifests may name. -/
structure Catalog (κ : Type) where
  packages : Table κ
  handlers : Table (Action κ)

namespace Catalog
variable {κ : Type}

/-- A catalog that knows nothing. -/
def empty : Catalog κ := ⟨∅, ∅⟩

instance : Inhabited (Catalog κ) := ⟨empty⟩

/-- What a reader of logs sees. -/
def inspect (catalog : Catalog κ) : String :=
  Text.labelled "CatalogLoader" [("packages", Text.bracketed (catalog.packages.keys.map Text.quoted))]

end Catalog

/-- The world that calls are made in, with user code named by values of `κ` and what it remembers in `μ`. -/
structure World (κ μ : Type) where
  memory : μ
  /-- The next identity; all smaller ones are taken. -/
  fresh : Nat
  /-- Every reading of the clock in nanoseconds, and how many have been taken. -/
  clock : Nat → Nat
  readings : Nat
  log : List LogRecord
  files : Files
  registry : RegistryId → Registry κ
  bus : BusId → Bus κ
  catalog : CatalogId → Catalog κ
  manager : ManagerId → ManagerState κ
  /-- The process-wide registry, once it has been asked for. -/
  globalRegistry : Option RegistryId
  /-- Managers that are shared by target system and name. -/
  shared : Table Manager

namespace World
variable {κ μ : Type}

/-- The process-wide bus. -/
def globalBus : BusId := ⟨0⟩

/-- A world in which nothing has been made, with a memory and a clock. -/
def start (memory : μ) (clock : Nat → Nat) : World κ μ :=
  { memory
    fresh := 1
    clock
    readings := 0
    log := []
    files := .empty
    registry := fun _ => default
    bus := fun _ => default
    catalog := fun _ => default
    manager := fun _ => default
    globalRegistry := none
    shared := ∅ }

instance [Inhabited μ] : Inhabited (World κ μ) := ⟨start default fun _ => 0⟩

/-- Puts a registry under an identity. -/
def setRegistry (world : World κ μ) (id : RegistryId) (registry : Registry κ) : World κ μ :=
  { world with registry := fun other => if other = id then registry else world.registry other }

/-- Puts a bus under an identity. -/
def setBus (world : World κ μ) (id : BusId) (bus : Bus κ) : World κ μ :=
  { world with bus := fun other => if other = id then bus else world.bus other }

/-- Puts a catalog under an identity. -/
def setCatalog (world : World κ μ) (id : CatalogId) (catalog : Catalog κ) : World κ μ :=
  { world with catalog := fun other => if other = id then catalog else world.catalog other }

/-- Puts a manager's state under an identity. -/
def setManager (world : World κ μ) (id : ManagerId) (state : ManagerState κ) : World κ μ :=
  { world with manager := fun other => if other = id then state else world.manager other }

end World

/-- A step of a call, a refresh or a discovery. -/
inductive Step (κ : Type) where
  /-- A module was asked for. -/
  | loading (source : Source)
  /-- An action was given a hook and a context. -/
  | created (action : Action κ) (context : Context)
  | prepared
  /-- Parameters were given to the validator. -/
  | validated (params : Attributes)
  | published (bus : BusId) (channel : Channel) (event : Event)
  | notified (channel : Channel) (subscription : Subscription κ) (event : Event)
  /-- A call takes this way through the middleware. -/
  | routed (links : Pipeline κ)
  | entered (link : Middleware κ)
  | before (code : κ)
  | after (code : κ)
  | executed (channel : Channel) (input : Attributes)

/-- Runs of the library in a world. -/
abbrev Act (κ μ : Type) : Type → Type := Run (Step κ) (World κ μ)

/-- Runs on an invocation. -/
abbrev InvocationAct (κ μ : Type) : Type → Type := Run (Step κ) (World κ μ × Invocation κ)

/-- How user code runs. -/
structure Host (κ μ : Type) where
  /-- A fresh hook for an invocation. -/
  create : κ → Act κ μ κ
  /-- A hook looks at its context before the first validation, and may edit it. -/
  prepare : Run (Step κ) (World κ μ × κ × Context) Unit
  /-- A hook executes an action. -/
  execute : Channel → Attributes → Context → Run (Step κ) (World κ μ × κ) (Except Failure Output)
  validate : κ → Schema → Attributes → Act κ μ (Except Violation Attributes)
  /-- A factory builds its link. -/
  build : κ → Act κ μ (Middleware κ)
  linkName : κ → String
  before : κ → InvocationAct κ μ Unit
  /-- What follows the rest of the pipeline may edit the outcome. -/
  after : κ → Invocation κ → Run (Step κ) (World κ μ × Outcome) Unit
  /-- A link may take the rest of the pipeline into its own hands; it is told how many links follow. -/
  around? : κ → Channel →
    Option (Nat → (Channel → InvocationAct κ μ Outcome) → InvocationAct κ μ Outcome)
  /-- A subscriber may fail, in words. -/
  notify : κ → Channel → Event → Act κ μ (Except String Unit)
  /-- The entry point of a package yields its actions. -/
  enter : κ → Dependencies → Scope → Act κ μ (List (Action κ))
  /-- A discovery hook yields actions for a registry. -/
  offer : κ → RegistryId → Scope → Act κ μ (List (Action κ))
  load : κ → Source → Dependencies → Scope → Act κ μ (Except LoadFault (Module κ))

namespace Act
variable {κ μ α : Type}

/-- Adds a record to the log. -/
def record (severity : Severity) (message : String) (fields : List (String × Json)) : Act κ μ Unit :=
  Run.update fun world => { world with log := world.log ++ [⟨severity, message, fields⟩] }

/-- An identity that was not taken yet. -/
def freshIndex : Act κ μ Nat := fun world =>
  ⟨.ok world.fresh, { world with fresh := world.fresh + 1 }, []⟩

/-- The time in nanoseconds. -/
def now : Act κ μ Nat := fun world =>
  ⟨.ok (world.clock world.readings), { world with readings := world.readings + 1 }, []⟩

/-- The time since an earlier reading, and nothing if the clock went back. -/
def elapsedSince (start : Nat) : Act κ μ Duration := do return ⟨(← now) - start⟩

/-- Derives an action under a new identity. -/
def derive (action : Action κ) (edit : Descriptor → Descriptor) : Act κ μ (Action κ) := do
  return action.derive ⟨← freshIndex⟩ edit

end Act

end Dispatch
