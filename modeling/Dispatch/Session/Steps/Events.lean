import Dispatch.Publishing
import Dispatch.Session.Naming

namespace Dispatch.Session

/-- How many subscriptions an event has on each channel. -/
def countsOf (bus : Bus Script) (event : String) : Json :=
  .array [.ofNat (bus.count .blocking event), .ofNat (bus.count .cooperative event)]

/-- The recorder of an id, made when it is first used. -/
def recorderIndex (id : String) : SessionM Nat := do
  match (← memory).recorders.get? id with
  | some index => return index
  | none =>
    let index ← Act.freshIndex
    remember fun memory => { memory with recorders := memory.recorders.insert id index }
    return index

/-- The user code that a step subscribes. -/
def subscriberOf (step : Json) : SessionM Script := do
  match text? step "recorder" with
  | some id => return .recorder (← recorderIndex id)
  | none => return .subscriber (valueOf step "sub")

/-- Tells what a recorder remembers, and may make it forget. -/
def recorderStep (step : Json) : StepM Json := do
  let index ← named step "id" Memory.recorders
  let recorder := (← memory).recorderAt index
  if flagOf step "clear" then
    remember fun memory => { memory with recorderAt := setAt index .empty memory.recorderAt }
  return .obj
    [("names", .strings recorder.names),
     ("events", .array (recorder.events.map fun event => .array [.string event.name, .ofTable event.data])),
     ("count", .ofOption (fun event => .ofNat (recorder.count event)) (text? step "event"))]

/-- Makes a bus. -/
def busStep (step : Json) : StepM Json := do
  let id ← idOf step
  let bus ← lift BusId.create
  remember fun memory => { memory with buses := memory.buses.insert id bus }
  return .null

/-- Subscribes user code to an event. -/
def subscribeStep (step : Json) : StepM Json := do
  let id ← idOf step
  let bus ← busOf step
  let event ← request (textOf step "event")
  let subscription ← lift (bus.subscribe (channelOf step) event (← subscriberOf step))
  remember fun memory =>
    { memory with subscriptions := memory.subscriptions.insert id ⟨event, subscription⟩ }
  return countsOf (← lift bus.read) event

/-- Ends a subscription, by default the one that was made. -/
def unsubscribeStep (step : Json) : StepM Json := do
  let bus ← busOf step
  let subscribed ← named step "id" Memory.subscriptions
  let event := (text? step "event").getD subscribed.event
  let removed ← lift (bus.unsubscribe (channelOf step) event subscribed.id)
  return .array [.bool removed, countsOf (← lift bus.read) event]

/-- Publishes an event. -/
def publishStep (host : SessionHost) (step : Json) : StepM Json := do
  let bus ← busOf step
  let event ← request (textOf step "event")
  return .ofNat (← lift (bus.publish host (channelOf step) event (tableOf step "data")))

/-- Counts the subscriptions of events. -/
def countsStep (step : Json) : StepM Json := do
  let bus : Bus Script ← lift (← busOf step).read
  return .obj
    [("counts", .array ((textsOf step "events").map (countsOf bus))), ("debug", .string bus.inspect)]

/-- Ends all subscriptions of a bus. -/
def clearBusStep (step : Json) : StepM Json := do
  lift ((← busOf step).modify Bus.clear)
  return .null

/-- Steps on buses, by name. -/
def eventSteps (host : SessionHost) : Steps :=
  [("bus", busStep),
   ("subscribe", subscribeStep),
   ("unsubscribe", unsubscribeStep),
   ("publish", publishStep host),
   ("counts", countsStep),
   ("clear_bus", clearBusStep),
   ("recorder", recorderStep)]

end Dispatch.Session
