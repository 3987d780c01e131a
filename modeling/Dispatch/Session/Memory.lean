import Dispatch.Session.Reading
import Dispatch.StandIn
import Dispatch.World

namespace Dispatch.Session

/-- User code as it is described. -/
inductive Script where
  /-- The hook of an action, and how often it has been executed. -/
  | hook (spec : Json) (runs : Nat)
  | sphere
  | mock (index : Nat)
  | validator (spec : Json)
  | subscriber (spec : Json)
  | recorder (index : Nat)
  /-- A factory of middleware, and the number under which its builds are counted. -/
  | factory (spec : Json) (index : Nat)
  | link (spec : Json)
  | recording (label : String)
  | discovery (spec : Json)
  | entryPoint (spec : Json)
  | memoryLoader (index : Nat)
deriving Inhabited

/-- A subscription as it was made. -/
structure Subscribed where
  event : String
  id : SubscriptionId
deriving Inhabited

/-- The objects of a session, and what user code wrote during the step. -/
structure Memory where
  registries : Table RegistryId
  buses : Table BusId
  actions : Table (Action Script)
  invocations : Table (Invocation Script)
  managers : Table Manager
  adapters : Table Adapter
  loaders : Table (Loader Script)
  subscriptions : Table Subscribed
  chains : Table (List Script)
  pipelines : Table (Pipeline Script)
  mocks : Table Nat
  recorders : Table Nat
  mockAt : Nat → StandIn.Mock
  recorderAt : Nat → StandIn.Recorder
  memoryLoaderAt : Nat → StandIn.MemoryLoader Script
  /-- How often each factory has built a link. -/
  buildsAt : Nat → Nat
  /-- What user code wrote during the step, and what recording links wrote. -/
  trace : List Json
  recorded : List String

instance : Inhabited Memory :=
  ⟨⟨∅, ∅, ∅, ∅, ∅, ∅, ∅, ∅, ∅, ∅, ∅, ∅, default, default, default, default, [], []⟩⟩

/-- One place of a store is written anew. -/
def setAt {α : Type} (index : Nat) (value : α) (store : Nat → α) : Nat → α :=
  fun other => if other = index then value else store other

/-- Runs in the world of a session. -/
abbrev SessionM : Type → Type := Act Script Memory

/-- How scripts run as user code. -/
abbrev SessionHost := Host Script Memory

/-- Steps of a session, which may come to an early answer. -/
abbrev StepM : Type → Type := ExceptT Answer SessionM

/-- Runs on an invocation beside the world of a session. -/
abbrev OnInvocation : Type → Type := InvocationAct Script Memory

/-- Steps by their names. -/
abbrev Steps := List (String × (Json → StepM Json))

/-- The memory as it is now. -/
def memory : SessionM Memory := do return (← Run.state).memory

/-- Edits the memory. -/
def remember (f : Memory → Memory) : SessionM Unit :=
  Run.update fun world => { world with memory := f world.memory }

/-- Adds a line to the trace of the step. -/
def push (entry : Json) : SessionM Unit :=
  remember fun memory => { memory with trace := memory.trace ++ [entry] }

/-- What the memory holds, or an unusable request. -/
def remembered {α : Type} (f : Memory → Option α) : StepM α := do
  match f (← memory) with
  | some found => return found
  | none => throw .unusable

/-- A run of the library as part of a step. -/
def lift {α : Type} (run : SessionM α) : StepM α := ExceptT.lift run

/-- A reading as part of a step. -/
def request {α : Type} (reading : Request α) : StepM α := ExceptT.mk (pure reading)

/-- Either the value or the answer that the fault stands for. -/
def settled {ε α : Type} (answer : ε → Answer) : Except ε α → StepM α
  | .ok value => return value
  | .error fault => throw (answer fault)

/-- A run in the first half of a state. -/
def firstHalf {τ α : Type} (run : SessionM α) : Run (Step Script) (World Script Memory × τ) α := Run.onFirst run

end Dispatch.Session
