import Dispatch.Middleware.Pipeline
import Dispatch.Session.Naming

namespace Dispatch.Session

/-- The factory that a description stands for. -/
def factoryOf (json : Json) : StepM Script := do
  match ← request (textOf json "kind") with
  | "recording" => return .recording (← request (textOf json "label"))
  | "hooks" | "plain" | "logging" | "performance" => pure ()
  | "blocking_only" => let _ ← request (outcomeOf (valueOf json "result"))
  | "full" =>
    if (json.get? "result").isSome then let _ ← request (outcomeOf (valueOf json "result"))
  | _ => throw .unusable
  return .factory json (← lift Act.freshIndex)

/-- How many there are, and how readers of logs see them. -/
def sizeEntries (size : Nat) (inspected : String) : List (String × Json) :=
  [("len", .ofNat size), ("empty", .bool (size = 0)), ("debug", .string inspected)]

/-- A chain as readers of logs see it. -/
def chainText (factories : List Script) : String :=
  Text.labelled "MiddlewareChain" [("len", toString factories.length)]

/-- Makes a chain without factories. -/
def chainStep (step : Json) : StepM Json := do
  let id ← idOf step
  remember fun memory => { memory with chains := memory.chains.insert id [] }
  return .null

/-- Adds a factory to a chain. -/
def chainAddStep (step : Json) : StepM Json := do
  let id ← request (textOf step "chain")
  let factories ← remembered fun memory => memory.chains.get? id
  let factories := factories ++ [← factoryOf (valueOf step "middleware")]
  remember fun memory => { memory with chains := memory.chains.insert id factories }
  return .obj (sizeEntries factories.length (chainText factories))

/-- Builds the pipeline of a chain. -/
def chainBuildStep (host : SessionHost) (step : Json) : StepM Json := do
  let factories ← named step "chain" Memory.chains
  let id ← idOf step
  match ← lift (Pipeline.build host factories) with
  | none => return .null
  | some pipeline =>
    remember fun memory => { memory with pipelines := memory.pipelines.insert id pipeline }
    let names : Json := .strings (Pipeline.names host pipeline)
    return .obj (("names", names) :: sizeEntries pipeline.length (Pipeline.inspect host pipeline))

/-- A threshold and the one taken by default, in milliseconds. -/
def thresholdStep (step : Json) : StepM Json := do
  let threshold := Duration.ofMillis (← request (natOf step "ms"))
  let millis := fun (duration : Duration) => Json.ofNat (duration.nanos / 1000000)
  return .array [millis threshold, millis Middleware.defaultThreshold]

/-- Steps on chains, by name. -/
def chainSteps (host : SessionHost) : Steps :=
  [("chain", chainStep),
   ("chain_add", chainAddStep),
   ("chain_build", chainBuildStep host),
   ("threshold", thresholdStep)]

end Dispatch.Session
