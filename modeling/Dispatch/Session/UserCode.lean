import Dispatch.Fixture
import Dispatch.Middleware.Pipeline
import Dispatch.Session.Description
import Dispatch.Session.Memory
import Dispatch.Session.View

namespace Dispatch.Session

/-- A panic with the words of a description, or without any. -/
def panicOf (json : Json) : Panic :=
  match text? json "payload" with
  | some "static" => .text "static payload"
  | some "number" => .unnamed
  | _ => .text ((text? json "message").getD "")

/-- Effects run one after the other. -/
abbrev Effects := Json → SessionM Unit

/-- What a typed dependency of an action's context holds. -/
def dependencyFound (type : String) : Dependency → SessionM (Option Json)
  | .eventBus _ => return if type = "event_bus" then some (.string "bus") else none
  | .registry id => do
    if type = "registry" then return some (.strings ((← id.read).names none)) else return none
  | dependency => return typedValue? type dependency

/-- What a hook hands back, by the kind of its description. -/
def handlerOutput (spec : Json) (runs : Nat) (input : Attributes) (context : Context) :
    SessionM (Except Failure Output) := do
  let prompted := fun (output : Output) =>
    (text? spec "prompt").elim output output.withPrompt
  match (text? spec "kind").getD "echo" with
  | "echo" => return .ok (prompted (.ofValues input))
  | "empty" => return .ok (prompted (.ofValues ∅))
  | "value" | "serialize" => return (Output.ofValue (valueOf spec "value")).map prompted
  | "complete" =>
    match outcomeOf (valueOf spec "result") with
    | .ok outcome => return .ok (prompted (.complete outcome))
    | .error _ => return .error (.failed "")
  | "fail" =>
    match failureOf (valueOf spec "error") with
    | .ok failure => return .error failure
    | .error _ => return .error (.failed "")
  | "panic" => Run.panic (panicOf spec)
  | "input" => return .ok (.ofValues (gotten input (listOf spec "get")))
  | "runs" => return .ok (.ofValues (.ofList [("runs", .ofNat runs)]))
  | "context" =>
    match (spec.get? "keys").bind Json.asArray? with
    | some keys =>
      return .ok (.ofValues (((lookUps context.values (keys.filterMap Json.asString?)).asObject?).getD ∅))
    | none => return .ok (.ofValues context.values)
  | "need" =>
    let name := (text? spec "name").getD ""
    let found ← ((context.dependencies.get? name).elim (pure none)
      (dependencyFound ((text? spec "type").getD "")))
    match found with
    | some found =>
      return .ok (.ofValues (.ofList [("found", found), ("names", .strings context.dependencies.keys)]))
    | none => return .error (.missingDependency name)
  | _ => return .ok (.ofValues input)

/-- The description that a hook follows on a channel. -/
def handlerOn (spec : Json) (channel : Channel) : Json :=
  match channel, spec.get? "async_handler" with
  | .cooperative, some handler => handler
  | _, _ => valueOf spec "handler"

/-- Only the hook of an action, a sphere and a mock can be executed. -/
def executeScript (effects : Effects) (channel : Channel) (input : Attributes) (context : Context) :
    Run (Step Script) (World Script Memory × Script) (Except Failure Output) := do
  match (← Run.state).2 with
  | .hook spec runs =>
    Run.update fun state => (state.1, .hook spec (runs + 1))
    let handler := handlerOn spec channel
    firstHalf do
      effects handler
      handlerOutput handler (runs + 1) input context
  | .sphere => return Fixture.makeSphere input
  | .mock index =>
    firstHalf do
      let (reply, mock) := ((← memory).mockAt index).answer input
      remember fun memory => { memory with mockAt := setAt index mock memory.mockAt }
      match reply with
      | .ok output => return output
      | .error panic => Run.panic panic
  | _ => return .error .notReady

/-- A hook may count how often it was prepared, and set values. -/
def prepareScript (effects : Effects) : Run (Step Script) (World Script Memory × Script × Context) Unit := do
  match (← Run.state).2.1 with
  | .hook spec _ =>
    match spec.get? "prepare" with
    | none => return ()
    | some prepare =>
      firstHalf (effects prepare)
      let edit := fun (f : Context → Context) =>
        Run.update fun (world, script, context) => (world, script, f context)
      match text? prepare "count" with
      | none => pure ()
      | some key =>
        edit fun context =>
          let count := ((context.get? key).bind Json.asNat?).getD 0
          context.setValue key (.ofNat (count + 1))
      edit fun context =>
        (tableOf prepare "set").entries.foldl (fun context entry => context.setValue entry.1 entry.2) context
  | _ => return ()

/-- A validator may reject, replace, ask the schema, or accept whatever comes. -/
def validateScript (effects : Effects) (code : Script) (schema : Schema) (params : Attributes) :
    SessionM (Except Violation Attributes) := do
  match code with
  | .validator spec =>
    effects spec
    match spec.get? "reject", spec.get? "replace" with
    | some reject, _ =>
      match violationOf reject with
      | .ok violation => return .error violation
      | .error _ => return .error (.custom "")
    | none, some replace => return .ok (replace.asObject?.getD ∅)
    | none, none => if flagOf spec "chain" then return schema.validate params else return .ok params
  | _ => return .ok params

/-- The label of a description. -/
def labelJson (spec : Json) : Json := .ofString? (text? spec "label")

/-- A factory counts its builds, and may panic on some of them. -/
def buildScript : Script → SessionM (Middleware Script)
  | .recording label => return .custom (.recording label)
  | .factory spec index => do
    let count := (← memory).buildsAt index + 1
    remember fun memory => { memory with buildsAt := setAt index count memory.buildsAt }
    if flagOf spec "trace_builds" then
      push (.array [labelJson spec, .string "built", .ofNat count])
    if (listOf spec "panic_on_build").any fun n => n.asNat? = some count then
      Run.panic (.text ("factory " ++ toString count))
    match (text? spec "kind").getD "" with
    | "logging" => return .logging
    | "performance" =>
      let threshold := ((spec.get? "threshold_ms").bind Json.asNat?).elim Middleware.defaultThreshold .ofMillis
      return .performance threshold
    | _ => return .custom (.link spec)
  | other => return .custom other

/-- The label that a link writes into the trace. -/
def linkLabel (spec : Json) : String := (text? spec "label").getD "script"

/-- Whether a link does something before and after the rest. -/
def hasHooks (spec : Json) : Bool := text? spec "kind" = some "hooks"

/-- Links of other kinds bear no name of their own. -/
def isLabelled (spec : Json) : Bool := hasHooks spec || text? spec "kind" = some "full"

/-- The name that a link bears. -/
def linkName : Script → String
  | .recording label => label
  | .link spec => if isLabelled spec then linkLabel spec else Middleware.anonymous
  | _ => Middleware.anonymous

/-- Adds a line to what recording links wrote. -/
def writeLine (line : String) : SessionM Unit :=
  remember fun memory => { memory with recorded := memory.recorded ++ [line] }

/-- What a link does before the rest: it may edit the context, and use the invocation itself. -/
def beforeScript (host : SessionHost) (effects : Effects) (code : Script) : OnInvocation Unit := do
  match code with
  | .recording label => firstHalf (writeLine (StandIn.beforeLine label))
  | .link spec =>
    if hasHooks spec then
      let before := valueOf spec "before"
      let label := linkLabel spec
      let current ← Invocation.invocation
      firstHalf do
        push (.array [.string label, .string "before", phaseJson current.phase])
        effects before
      Invocation.update fun invocation =>
        { invocation with
          context := (tableOf before "set_context").entries.foldl
            (fun context entry => context.setValue entry.1 entry.2) invocation.context }
      match before.get? "setup" with
      | none => pure ()
      | some params =>
        let settled ← Invocation.setUp host params
        firstHalf (push (.array [.string label, .string "setup", (setUpAnswer settled).toJson]))
      if flagOf before "process" then
        let outcome ← Invocation.process host .blocking
        firstHalf (push (.array [.string label, .string "process", outcome.toWire]))
  | _ => return ()

/-- What a link does after the rest: it may edit the outcome. -/
def afterScript (effects : Effects) (code : Script) (invocation : Invocation Script) :
    Run (Step Script) (World Script Memory × Outcome) Unit := do
  match code with
  | .recording label => firstHalf (writeLine (StandIn.afterLine label))
  | .link spec =>
    if hasHooks spec then
      let after := valueOf spec "after"
      let outcome := (← Run.state).2
      let seen : List Json := [phaseJson invocation.phase, .bool outcome.success, .string outcome.message]
      firstHalf do
        push (.array [.string (linkLabel spec), .string "after", .array seen])
        effects after
      let edit := fun (f : Outcome → Outcome) => Run.update fun (world, outcome) => (world, f outcome)
      edit fun outcome =>
        (tableOf after "set").entries.foldl (fun outcome entry => outcome.withValue entry.1 entry.2) outcome
      (text? after "message").elim (pure ()) fun message => edit fun outcome => { outcome with message }
      if (after.get? "prompt").isSome then
        edit fun outcome => { outcome with prompt := text? after "prompt" }
      (text? after "fail").elim (pure ()) fun error => edit (·.markFailed error)
      if flagOf after "succeed" then edit Outcome.markSucceeded
  | _ => return ()

/-- The rest of a pipeline, run again and again. -/
def repeatRest (rest : OnInvocation Outcome) : Nat → Outcome → OnInvocation Outcome
  | 0, outcome => return outcome
  | n + 1, _ => do repeatRest rest n (← rest)

/-- The outcome that a link answers with in place of the rest. -/
def fixedOutcome (spec : Json) : Outcome :=
  match outcomeOf (valueOf spec "result") with
  | .ok outcome => outcome
  | .error _ => .succeeded ""

/-- Links that take the rest of the pipeline into their own hands. -/
def aroundScript (code : Script) (channel : Channel) :
    Option (Nat → (Channel → OnInvocation Outcome) → OnInvocation Outcome) :=
  match code with
  | .link spec =>
    match text? spec "kind", channel with
    | some "blocking_only", .blocking => some fun remaining _ => do
      firstHalf (push (.array [.string (linkLabel spec), .string "short", .ofNat remaining]))
      return fixedOutcome spec
    | some "full", _ => some fun remaining rest => do
      let word := if channel = .blocking then "full" else "full async"
      firstHalf (push (.array [.string (linkLabel spec), .string word, .ofNat remaining]))
      let times := ((spec.get? "times").bind Json.asNat?).getD 0
      repeatRest (rest channel) times (fixedOutcome spec)
    | _, _ => none
  | _ => none

/-- A recorder remembers the event; any other subscriber writes it into the trace. -/
def notifyScript (effects : Effects) (code : Script) (channel : Channel) (event : Event) :
    SessionM (Except String Unit) := do
  match code with
  | .recorder index =>
    remember fun memory =>
      { memory with recorderAt := setAt index ((memory.recorderAt index).add event) memory.recorderAt }
    return .ok ()
  | .subscriber spec =>
    if channel = .cooperative ∧ flagOf spec "panic_early" then Run.panic (.text "early")
    if !flagOf spec "silent" then
      push (.array [.string ((text? spec "label").getD "sub"), .string event.name, .ofTable event.data])
    effects spec
    return (text? spec "error").elim (.ok ()) .error
  | _ => return .ok ()

/-- The actions of the ids that a description lists; unknown ids are passed over. -/
def listedActions (spec : Json) : SessionM (List (Action Script)) := do
  let actions := (← memory).actions
  return (textsOf spec "types").filterMap actions.get?

/-- A discovery hook writes down whom it was called for. -/
def offerScript (effects : Effects) (code : Script) (registry : RegistryId) (scope : Scope) :
    SessionM (List (Action Script)) := do
  match code with
  | .discovery spec =>
    push (.array [.string "hook", .ofString? scope, .ofNat (← registry.read).size])
    effects spec
    listedActions spec
  | _ => return []

/-- An entry point writes down what it was called with. -/
def enterScript (effects : Effects) (code : Script) (dependencies : Dependencies) (scope : Scope) :
    SessionM (List (Action Script)) := do
  match code with
  | .entryPoint spec =>
    push (.array [.string "entry", .strings dependencies.keys, .ofString? scope])
    effects spec
    listedActions spec
  | _ => return []

/-- A memory loader remembers that it was asked. -/
def loadScript (code : Script) (source : Source) (dependencies : Dependencies) (scope : Scope) :
    SessionM (Except LoadFault (Module Script)) := do
  match code with
  | .memoryLoader index =>
    let (found, loader) := ((← memory).memoryLoaderAt index).load source dependencies scope
    remember fun memory => { memory with memoryLoaderAt := setAt index loader memory.memoryLoaderAt }
    return found
  | _ => return .error (StandIn.MemoryLoader.notFound source)

end Dispatch.Session
