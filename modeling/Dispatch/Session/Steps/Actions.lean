import Dispatch.Session.Naming
import Dispatch.Session.View

namespace Dispatch.Session

/-- Descriptions that a hook would fail to read are refused beforehand. -/
def checkHandler (handler : Json) : Request Unit := do
  match text? handler "kind" with
  | some "complete" => let _ ← outcomeOf (valueOf handler "result")
  | some "fail" => let _ ← failureOf (valueOf handler "error")
  | _ => return ()

/-- The descriptor that a description of an action declares. -/
def specDescriptor (spec : Json) : Request Descriptor := do
  let start := Descriptor.named (← textOf spec "name")
  let descriptor := { start with
    target := text? spec "target_system"
    description := (text? spec "description").getD start.description
    category := (text? spec "category").getD start.category
    version := (text? spec "version").getD start.version
    author := text? spec "author"
    dependencies := textsOf spec "dependencies"
    isAbstract := flagOf spec "abstract" }
  return descriptor.addTags (textsOf spec "tags")

/-- The action of a description. Its hook is the description itself. -/
def describedAction (spec : Json) : StepM (Action Script) := do
  let descriptor ← request (specDescriptor spec)
  let schema ← request (schemaOf spec)
  request ((spec.get? "handler").elim (.ok ()) checkHandler)
  request ((spec.get? "async_handler").elim (.ok ()) checkHandler)
  return {
    id := ⟨← lift Act.freshIndex⟩
    descriptor
    schema
    validator := (spec.get? "validator").map .validator
    hook := (spec.get? "handler").map fun _ => .hook spec 0 }

/-- Keeps an action under an id. -/
def storeAction (id : String) (action : Action Script) : SessionM Unit :=
  remember fun memory => { memory with actions := memory.actions.insert id action }

/-- Null clears what may be missing; nothing leaves it as it is. -/
def editOptional (edit : Json) (name : String) (current : Option String) : Option String :=
  if (edit.get? name).isSome then text? edit name else current

/-- What an edit names is replaced; tags are added. -/
def editDescriptor (edit : Json) (descriptor : Descriptor) : Descriptor :=
  { descriptor.addTags (textsOf edit "tags") with
    name := (text? edit "name").getD descriptor.name
    target := editOptional edit "target_system" descriptor.target
    source := editOptional edit "source" descriptor.source
    version := (text? edit "version").getD descriptor.version
    isAbstract := ((edit.get? "abstract").bind Json.asBool?).getD descriptor.isAbstract }

/-- How a step derives an action from another one. -/
def derivation (step : Json) (descriptor : Descriptor) : Descriptor :=
  match text? step "target_system", text? step "source" with
  | some target, _ => { descriptor with target := some target }
  | none, some source => { descriptor with source := some source }
  | none, none => editDescriptor (valueOf step "edit") descriptor

/-- How a mock is told to answer; the last word counts. -/
def mockBehavior (step : Json) : Request StandIn.MockBehavior := do
  let mut behavior := StandIn.MockBehavior.echo
  if let some values := (step.get? "respond").bind Json.asObject? then behavior := .respond values
  if let some error := text? step "fail" then behavior := .fail error
  if let some words := text? step "panic" then behavior := .panic words
  if let some result := step.get? "result" then behavior := .complete (← outcomeOf result)
  return behavior

/-- A mock as it is described. -/
def mockOf (step : Json) : Request StandIn.Mock := do
  let name ← textOf step "name"
  let schema ← (listOf step "fields").foldlM (fun schema field => do
    return schema.declare (← fieldOf field)) Schema.empty
  return { StandIn.Mock.echoing name with
    target := text? step "target_system", schema, behavior := ← mockBehavior step }

/-- Makes a mock and its action. -/
def mockStep (step : Json) : StepM Json := do
  let id ← idOf step
  let mock ← request (mockOf step)
  let index ← lift Act.freshIndex
  let action : Action Script :=
    { id := ⟨← lift Act.freshIndex⟩
      descriptor := { Descriptor.named mock.name with target := mock.target }
      schema := mock.schema
      validator := none
      hook := some (.mock index) }
  remember fun memory =>
    { memory with mocks := memory.mocks.insert id index, mockAt := setAt index mock memory.mockAt }
  storeAction id action
  return .string mock.name

/-- Tells what a mock was called with, and may make it forget. -/
def mockCallsStep (step : Json) : StepM Json := do
  let index ← named step "id" Memory.mocks
  let mock := (← memory).mockAt index
  let calledWith : Json :=
    (text? step "key").elim .null fun key => .bool (mock.wasCalledWith key (valueOf step "value"))
  if flagOf step "reset" then
    remember fun memory => { memory with mockAt := setAt index mock.reset memory.mockAt }
  return .obj
    [("count", .ofNat mock.calls.length),
     ("calls", .array (mock.calls.map .ofTable)),
     ("called_with", calledWith)]

/-- Makes an action. -/
def typeStep (step : Json) : StepM Json := do
  let id ← idOf step
  let action ← describedAction (valueOf step "spec")
  storeAction id action
  return actionView action

/-- Makes the ready-made action. -/
def sphereStep (step : Json) : StepM Json := do
  let id ← idOf step
  let action : Action Script :=
    { id := ⟨← lift Act.freshIndex⟩
      descriptor := Fixture.sphereDescriptor ((scopeOf step).getD "maya")
      schema := Fixture.sphereSchema
      validator := none
      hook := some .sphere }
  storeAction id action
  return actionView action

/-- Derives an action from another one. -/
def deriveStep (step : Json) : StepM Json := do
  let id ← idOf step
  let action ← named step "from" Memory.actions
  let derived ← lift <| Act.derive action (derivation step)
  storeAction id derived
  return actionView derived

/-- Whether two ids stand for one and the same action. -/
def sameTypeStep (step : Json) : StepM Json := do
  let first ← named step "a" Memory.actions
  return .bool (first.isSame (← named step "b" Memory.actions))

/-- Whether an action may be registered under its name. -/
def conformanceStep (step : Json) : StepM Json := do
  settled .ofRejection (← named step "id" Memory.actions).conformance
  return .null

/-- An action as readers of logs see it. -/
def typeDebugStep (step : Json) : StepM Json := do
  return .string (← named step "id" Memory.actions).inspect

/-- Steps on actions, by name. -/
def actionSteps : Steps :=
  [("type", typeStep),
   ("sphere", sphereStep),
   ("derive", deriveStep),
   ("same_type", sameTypeStep),
   ("conformance", conformanceStep),
   ("type_debug", typeDebugStep),
   ("mock", mockStep),
   ("mock_calls", mockCallsStep)]

end Dispatch.Session
