import Dispatch.Session.Redaction
import Dispatch.Session.Steps.Actions
import Dispatch.Session.Steps.Events
import Dispatch.Session.Steps.Invocations
import Dispatch.Session.Steps.Loaders
import Dispatch.Session.Steps.Managers
import Dispatch.Session.Steps.Registries
import Dispatch.Session.UserCode

namespace Dispatch.Session

/-- The records since the last look at them that are severe enough. -/
def logsStep (step : Json) : StepM Json := do
  let severity ← request (needed (Severity.ofName? ((text? step "level").getD "DEBUG")))
  let records := (← lift Run.state).log.filter fun record => record.isAtLeast severity
  lift (Run.update fun world => { world with log := [] })
  return .array (records.map fun record =>
    { record with fields := record.fields.map maskField }.toJson)

/-- All steps that a session can take. -/
def allSteps (host : SessionHost) : Steps :=
  actionSteps ++ invocationSteps host ++ registrySteps host ++ loaderSteps host ++ eventSteps host
    ++ chainSteps host ++ managerSteps host ++ [("logs", logsStep)]

/-- The answer to one step; a panic is an answer, too. -/
def perform (host : SessionHost) (step : Json) : SessionM Answer := do
  match (text? step "do").bind fun name => lookup? name (allSteps host) with
  | none => return .unusable
  | some run =>
    match ← Run.caught (run step).run with
    | .ok (.ok value) => return .ok value
    | .ok (.error answer) => return answer
    | .error panic => return .ofPanic panic

/-- Effects leave their answers in the trace; two of them are not steps. -/
def runEffect (host : SessionHost) (effect : Json) : SessionM Unit := do
  match text? effect "do" with
  | some "log" => push (valueOf effect "value")
  | some "throw" => Run.panic (panicOf effect)
  | name =>
    let answer ← perform host effect
    push (.obj [(name.getD "", answer.toJson)])

/-- The effects of a description, one after the other. -/
def runEffects (host : SessionHost) (spec : Json) : SessionM Unit := do
  let _ ← Run.forEach (runEffect host) (listOf spec "effects")

/-- User code that does as little as it can. -/
def idleHost : SessionHost :=
  { create := fun code => return code
    prepare := return ()
    execute := fun _ input _ => return .ok (.ofValues input)
    validate := fun _ _ params => return .ok params
    build := buildScript
    linkName
    before := fun _ => return ()
    after := fun _ _ => return ()
    around? := fun _ _ => none
    notify := fun _ _ _ => return .ok ()
    enter := fun _ _ _ => return []
    offer := fun _ _ _ => return []
    load := loadScript }

/-- User code as its scripts describe it. Its effects may run user code, and so on down to this depth. -/
def sessionHost : Nat → SessionHost
  | 0 => idleHost
  | depth + 1 =>
    let effects : Effects := fun spec world => runEffects (sessionHost depth) spec world
    { create := fun code => return code
      prepare := prepareScript effects
      execute := executeScript effects
      validate := validateScript effects
      build := buildScript
      linkName
      before := fun code state => beforeScript (sessionHost depth) effects code state
      after := afterScript effects
      around? := aroundScript
      notify := notifyScript effects
      enter := enterScript effects
      offer := offerScript effects
      load := loadScript }

/-- How deep user code may run user code. -/
def sessionDepth : Nat := 1000

/-- One step and what was written during it. -/
def stepAnswer (step : Json) : SessionM Json := do
  remember fun memory => { memory with trace := [], recorded := [] }
  let answer ← perform (sessionHost sessionDepth) step
  let memory ← memory
  let table := answer.toJson.asObject?.getD ∅
  let table := if memory.trace.isEmpty then table else table.insert "trace" (.array memory.trace)
  let table :=
    if memory.recorded.isEmpty then table else table.insert "recorded" (.strings memory.recorded)
  return .ofTable table

/-- Each reading of the clock is a little later than the one before. -/
def clock (reading : Nat) : Nat := 1700000000000000000 + 1000 * reading

/-- The answers to all steps, in order. -/
def sessionAnswer (request : Json) : Json :=
  match (request.get? "steps").bind Json.asArray? with
  | none => Answer.unusable.toJson
  | some steps =>
    match (Run.forEach stepAnswer steps (World.start default clock)).result with
    | .ok answers => .obj [("steps", .array answers)]
    | .error panic => (Answer.ofPanic panic).toJson

end Dispatch.Session
