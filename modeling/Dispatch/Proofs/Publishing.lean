import Dispatch.Proofs.World
import Dispatch.Publishing

namespace Dispatch.BusId

variable {κ μ : Type} (host : Host κ μ) (bus : BusId) (channel : Channel)

theorem read_silent : Run.Silent (bus.read : Act κ μ (Bus κ)) :=
  Run.silent_state.bind fun _ => Run.silent_pure _

/-- Whether a subscriber took the event, by what became of it. -/
def took : Except Panic (Except String Unit) → Bool
  | .ok (.ok ()) => true
  | _ => false

/-- Whatever becomes of a subscriber, its delivery is one notice and ends with whether it took the event. -/
theorem deliver_ends (event : Event) (subscription : Subscription κ) (world : World κ μ) :
    let ran := deliver host channel event subscription world
    ran.result = .ok (took (host.notify subscription.code channel event world).result) ∧
      ran.journal = [.notified channel subscription event] := by
  unfold deliver
  rw [Run.note_bind, Run.bind_of_ok rfl]
  simp only [Run.caught_apply, Run.foreign_apply]
  rcases (host.notify subscription.code channel event world).result with panic | error | taken
  · exact ⟨rfl, rfl⟩
  · exact ⟨rfl, rfl⟩
  · exact ⟨rfl, rfl⟩

/-- What becomes of subscribers, each one notified in the world that the one before has left. -/
def answers (event : Event) : List (Subscription κ) → World κ μ → List (Except Panic (Except String Unit))
  | [], _ => []
  | first :: rest, world =>
    (host.notify first.code channel event world).result ::
      answers event rest (deliver host channel event first world).state

/-- Deliveries in a row reach every subscriber, whatever the ones before do. -/
theorem forEach_deliver_ends (event : Event) (subscriptions : List (Subscription κ)) (world : World κ μ) :
    let ran := Run.forEach (deliver host channel event) subscriptions world
    ran.result = .ok ((answers host channel event subscriptions world).map took) ∧
      ran.journal = subscriptions.map fun subscription => .notified channel subscription event := by
  induction subscriptions generalizing world with
  | nil => exact ⟨rfl, rfl⟩
  | cons first rest ih =>
    obtain ⟨returned, journal⟩ := deliver_ends host channel event first world
    obtain ⟨returnedRest, journalRest⟩ := ih (deliver host channel event first world).state
    dsimp only
    rw [Run.forEach_cons, Run.bind_of_ok returned, Run.bind_of_ok returnedRest, journal, journalRest]
    exact ⟨rfl, by simp⟩

/-- Publishing notifies those who are subscribed when it begins, and counts those who take the event. -/
theorem publish_ends (name : String) (data : Attributes) (world : World κ μ) :
    let event : Event := ⟨name, data⟩
    let subscriptions := (world.bus bus).subscriptions channel name
    let ran := bus.publish host channel name data world
    ran.result = .ok ((answers host channel event subscriptions world).countP took) ∧
      ran.journal =
        .published bus channel event :: subscriptions.map fun subscription => .notified channel subscription event := by
  intro event subscriptions ran
  obtain ⟨returned, journal⟩ := forEach_deliver_ends host channel event subscriptions world
  have begun : ((bus.read : Act κ μ (Bus κ)) world).result = .ok (world.bus bus) := rfl
  have silent : ((bus.read : Act κ μ (Bus κ)) world).journal = [] := rfl
  have same : ((bus.read : Act κ μ (Bus κ)) world).state = world := rfl
  have ended : ran = (Run.note (.published bus channel event) >>= fun _ =>
      (bus.read : Act κ μ (Bus κ)) >>= fun found =>
        Run.forEach (deliver host channel event) (found.subscriptions channel name) >>= fun taken =>
          pure (taken.filter id).length) world := rfl
  rw [ended, Run.note_bind, Run.bind_of_ok begun, silent, same, Run.bind_of_ok returned, journal]
  refine ⟨?_, by simp⟩
  have counted : ∀ found : List (Except Panic (Except String Unit)),
      ((found.map took).filter id).length = found.countP took := fun found => by
    rw [← List.countP_eq_length_filter, List.countP_map]
    rfl
  exact congrArg Except.ok (counted _)

theorem publish_returns (name : String) (data : Attributes) :
    Run.Returns (publish host bus channel name data) := fun world =>
  ⟨_, (bus.publish_ends host channel name data world).1⟩

/-- The event comes first in the journal, and only notices of it follow. -/
theorem publish_journal (name : String) (data : Attributes) (world : World κ μ) :
    ∃ notices : List (Step κ),
      (publish host bus channel name data world).journal = .published bus channel ⟨name, data⟩ :: notices ∧
        ∀ step ∈ notices, ∃ subscription, step = .notified channel subscription ⟨name, data⟩ := by
  refine ⟨_, (bus.publish_ends host channel name data world).2, fun step member => ?_⟩
  obtain ⟨subscription, _, rfl⟩ := List.mem_map.mp member
  exact ⟨subscription, rfl⟩

section moves
variable {relation : World κ μ → World κ μ → Prop} [Run.Lasting relation] {host}

/-- Besides what the subscriber does a delivery leaves a record of its failure at most. -/
theorem deliver_moves (fails : ∀ fields, Run.Moves relation (Act.record .warn (failureMessage channel) fields))
    {event : Event} (notifies : ∀ code, Run.Moves relation (host.notify code channel event))
    (subscription : Subscription κ) : Run.Moves relation (deliver host channel event subscription) := by
  refine (Run.moves_note _).bind fun _ => (notifies _).foreign.caught.bind fun answer => ?_
  rcases answer with panic | error | taken
  · exact (fails _).bind fun _ => Run.moves_pure _
  · exact (fails _).bind fun _ => Run.moves_pure _
  · exact Run.moves_pure _

/-- Besides what subscribers do when they hear of the event, publishing leaves records of their failures at most. -/
theorem publish_moves_of_fails
    (fails : ∀ fields, Run.Moves relation (Act.record .warn (failureMessage channel) fields))
    {name : String} {data : Attributes}
    (notifies : ∀ code, Run.Moves relation (host.notify code channel ⟨name, data⟩)) :
    Run.Moves relation (bus.publish host channel name data) := by
  refine (Run.moves_note _).bind fun _ => Run.Moves.bind (fun _ => Run.Lasting.stays _) fun found => ?_
  exact (Run.Moves.forEach (deliver_moves channel fails notifies) _).bind fun _ => Run.moves_pure _

theorem publish_moves
    (records : ∀ severity message fields, Run.Moves relation (Act.record severity message fields : Act κ μ Unit))
    (notifies : ∀ code channel event, Run.Moves relation (host.notify code channel event)) (name : String)
    (data : Attributes) : Run.Moves relation (bus.publish host channel name data) :=
  bus.publish_moves_of_fails channel (records _ _) fun code => notifies code channel _

end moves

end Dispatch.BusId
