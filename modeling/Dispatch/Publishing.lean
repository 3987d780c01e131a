import Dispatch.World

namespace Dispatch

variable {κ μ : Type}

namespace BusId

/-- The bus as it is now. -/
def read (bus : BusId) : Act κ μ (Bus κ) := do return (← Run.state).bus bus

/-- Edits the bus. -/
def modify (bus : BusId) (f : Bus κ → Bus κ) : Act κ μ Unit :=
  Run.update fun world => world.setBus bus (f (world.bus bus))

/-- A new bus, without subscriptions. -/
def create : Act κ μ BusId := do return ⟨← Act.freshIndex⟩

/-- The message of a record that somebody subscribed. -/
def subscribeMessage : Channel → String
  | .blocking => "Subscribed"
  | .cooperative => "Subscribed async"

/-- Subscribes user code to an event. -/
def subscribe (bus : BusId) (channel : Channel) (event : String) (code : κ) : Act κ μ SubscriptionId := do
  let index ← Act.freshIndex
  bus.modify (·.subscribe channel event ⟨⟨index⟩, code⟩)
  Act.record .debug (subscribeMessage channel)
    [("event", .string event), ("subscription", .string (toString index))]
  return ⟨index⟩

/-- Whether the subscription was there. -/
def unsubscribe (bus : BusId) (channel : Channel) (event : String) (id : SubscriptionId) : Act κ μ Bool := do
  let (found, left) := (← bus.read).unsubscribe channel event id
  bus.modify fun _ => left
  return found

/-- The message of a record that a subscriber failed. -/
def failureMessage : Channel → String
  | .blocking => "Event subscriber failed"
  | .cooperative => "Async event subscriber failed"

/-- Whether a subscriber took the event. -/
def deliver (host : Host κ μ) (channel : Channel) (event : Event) (subscription : Subscription κ) :
    Act κ μ Bool := do
  Run.note (.notified channel subscription event)
  let failed := fun (error : String) => do
    Act.record .warn (failureMessage channel) [("event", .string event.name), ("error", .string error)]
    return false
  match ← Run.caught (Run.foreign (host.notify subscription.code channel event)) with
  | .ok (.ok ()) => return true
  | .ok (.error error) => failed error
  | .error panic => failed (Failure.ofPanic panic).message

/-- How many subscribers took the event. -/
def publish (host : Host κ μ) (bus : BusId) (channel : Channel) (name : String) (data : Attributes) :
    Act κ μ Nat := do
  let event : Event := ⟨name, data⟩
  Run.note (.published bus channel event)
  let subscriptions := (← bus.read).subscriptions channel name
  let taken ← Run.forEach (deliver host channel event) subscriptions
  return (taken.filter id).length

end BusId

end Dispatch
