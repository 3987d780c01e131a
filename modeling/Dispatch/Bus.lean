import Dispatch.Event
import Dispatch.Table
import Dispatch.Text.Quoted

namespace Dispatch

/-- Subscriptions are told apart by this number. -/
structure SubscriptionId where
  index : Nat
deriving DecidableEq, Inhabited

/-- User code that is notified of an event. -/
structure Subscription (κ : Type) where
  id : SubscriptionId
  code : κ

/-- Subscriptions by event, one table for each channel. -/
structure Bus (κ : Type) where
  blocking : Table (List (Subscription κ))
  cooperative : Table (List (Subscription κ))

namespace Bus
variable {κ : Type}

/-- Nobody is subscribed. -/
def empty : Bus κ := ⟨∅, ∅⟩

instance : Inhabited (Bus κ) := ⟨empty⟩

/-- The subscriptions of a channel. -/
def on (bus : Bus κ) : Channel → Table (List (Subscription κ))
  | .blocking => bus.blocking
  | .cooperative => bus.cooperative

/-- The subscriptions of a channel are replaced. -/
def setOn (bus : Bus κ) (channel : Channel) (table : Table (List (Subscription κ))) : Bus κ :=
  match channel with
  | .blocking => { bus with blocking := table }
  | .cooperative => { bus with cooperative := table }

/-- The subscriptions to an event, in the order in which they were made. -/
def subscriptions (bus : Bus κ) (channel : Channel) (event : String) : List (Subscription κ) :=
  ((bus.on channel).get? event).getD []

/-- How many subscriptions an event has on a channel. -/
def count (bus : Bus κ) (channel : Channel) (event : String) : Nat :=
  (bus.subscriptions channel event).length

/-- The subscriptions to an event are replaced. -/
def setSubscriptions (bus : Bus κ) (channel : Channel) (event : String)
    (subscriptions : List (Subscription κ)) : Bus κ :=
  bus.setOn channel
    (if subscriptions.isEmpty then (bus.on channel).erase event
     else (bus.on channel).insert event subscriptions)

/-- A new subscription stands behind the ones that are there. -/
def subscribe (bus : Bus κ) (channel : Channel) (event : String) (subscription : Subscription κ) : Bus κ :=
  bus.setSubscriptions channel event (bus.subscriptions channel event ++ [subscription])

/-- Whether the subscription was there, and the bus without it. -/
def unsubscribe (bus : Bus κ) (channel : Channel) (event : String) (id : SubscriptionId) : Bool × Bus κ :=
  let before := bus.subscriptions channel event
  (before.any fun subscription => subscription.id = id,
   bus.setSubscriptions channel event (before.filter fun subscription => subscription.id ≠ id))

/-- Nobody is subscribed any longer, on either channel. -/
def clear (_ : Bus κ) : Bus κ := empty

/-- What a reader of logs sees. -/
def inspect (bus : Bus κ) : String :=
  Text.labelled "EventBus"
    [("sync_events", toString bus.blocking.size), ("async_events", toString bus.cooperative.size)]

end Bus

end Dispatch
