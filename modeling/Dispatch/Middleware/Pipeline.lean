import Dispatch.Invocation.Processing

namespace Dispatch

variable {κ μ : Type}

namespace Middleware

/-- The name that a link goes by. -/
def name (host : Host κ μ) : Middleware κ → String
  | .logging => "logging"
  | .performance _ => "performance"
  | .custom code => host.linkName code

/-- What user code makes of an outcome. -/
def edited (host : Host κ μ) (code : κ) (outcome : Outcome) : InvocationAct κ μ Outcome :=
  fun (world, invocation) =>
    let ran := host.after code invocation (world, outcome)
    let (world, outcome) := ran.state
    ⟨ran.result.map fun _ => outcome, (world, invocation), [.after code]⟩

/-- User code before and after the rest. -/
def around (host : Host κ μ) (code : κ) (rest : InvocationAct κ μ Outcome) : InvocationAct κ μ Outcome := do
  Run.note (.before code)
  Run.foreign (host.before code)
  edited host code (← rest)

/-- The message with which a logged call starts. -/
def startMessage : Channel → String
  | .blocking => "Executing action"
  | .cooperative => "Executing action asynchronously"

/-- Logs how the rest went. -/
def logged (channel : Channel) (rest : InvocationAct κ μ Outcome) : InvocationAct κ μ Outcome := do
  let called ← Invocation.invocation
  Run.onFirst (Act.record .info (startMessage channel) [("action", .string called.name)])
  let start ← Run.onFirst Act.now
  let outcome ← rest
  let elapsed ← Run.onFirst (Act.elapsedSince start)
  let left ← Invocation.invocation
  let fields := [("action", .string left.name), ("elapsed", .string elapsed.spelled)]
  Run.onFirst <|
    if outcome.success then Act.record .info "Action completed" fields
    else Act.record .warn "Action failed" (fields ++ [("error", .string (outcome.error.getD ""))])
  return outcome

/-- A span in seconds, as the nearest double. -/
def secondsJson (elapsed : Duration) : Json :=
  Json.ofOption .double (Double.ofRatio? false elapsed.nanos Duration.second)

/-- An object keeps its other members. -/
def withTime (found : Option Json) (time : Json) : Json :=
  .ofTable (((found.bind Json.asObject?).getD ∅).insert timeKey time)

/-- Notes in the outcome how long the rest took, and warns of what took longer than the threshold. -/
def timed (threshold : Duration) (rest : InvocationAct κ μ Outcome) : InvocationAct κ μ Outcome := do
  let start ← Run.onFirst Act.now
  let outcome ← rest
  let elapsed ← Run.onFirst (Act.elapsedSince start)
  let time := withTime (outcome.context.get? performanceKey) (secondsJson elapsed)
  if threshold.nanos < elapsed.nanos then
    Run.onFirst <| Act.record .warn "Slow action execution"
      [("action", .string (← Invocation.invocation).name),
       ("elapsed", .string elapsed.spelled),
       ("threshold", .string threshold.spelled)]
  return outcome.withValue performanceKey time

end Middleware

namespace Pipeline

/-- One link around the rest of the pipeline. -/
def link (host : Host κ μ) (channel : Channel) (following : Nat)
    (rest : Channel → InvocationAct κ μ Outcome) : Middleware κ → InvocationAct κ μ Outcome
  | .logging => Middleware.logged channel (rest channel)
  | .performance threshold => Middleware.timed threshold (rest channel)
  | .custom code =>
    match host.around? code channel with
    | some around => Run.foreign (around following rest)
    | none => Middleware.around host code (rest channel)

/-- Processes an invocation inside the links, the first link outermost. -/
def process (host : Host κ μ) : Pipeline κ → Channel → InvocationAct κ μ Outcome
  | [], channel => Invocation.process host channel
  | first :: rest, channel => do
    Run.note (.entered first)
    link host channel rest.length (process host rest) first

/-- The names of the links, the outermost first. -/
def names (host : Host κ μ) (pipeline : Pipeline κ) : List String := pipeline.map (Middleware.name host)

/-- What a reader of logs sees. -/
def inspect (host : Host κ μ) (pipeline : Pipeline κ) : String :=
  Text.bracketed ((names host pipeline).map Text.quoted)

/-- Every factory builds its link, in order. No factories make no pipeline. -/
def build (host : Host κ μ) (factories : List κ) : Act κ μ (Option (Pipeline κ)) := do
  if factories.isEmpty then return none
  return some (← Run.forEach (fun code => Run.foreign (host.build code)) factories)

end Pipeline

end Dispatch
