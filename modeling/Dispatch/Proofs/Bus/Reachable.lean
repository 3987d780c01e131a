import Dispatch.Proofs.Bus.Edits
import Dispatch.Proofs.Host
import Dispatch.Proofs.Publishing

namespace Dispatch

variable {κ μ : Type}

namespace BusId

/-- From the one world to the other a bus is only edited, and new subscriptions have new numbers. -/
def Develops (bus : BusId) (before after : World κ μ) : Prop :=
  ∃ list, after.bus bus = (before.bus bus).edits list ∧ Bus.Numbered after.fresh before.fresh list

variable (bus : BusId)

theorem develops_of_same {before after : World κ μ} (same : after.bus bus = before.bus bus)
    (le : before.fresh ≤ after.fresh) : bus.Develops before after := ⟨[], same, le⟩

/-- Edits that follow each other are edits. -/
instance : Run.Lasting (bus.Develops : World κ μ → World κ μ → Prop) where
  stays _ := bus.develops_of_same rfl (Nat.le_refl _)
  goesOn := by
    rintro first second third ⟨begun, middle, numbered⟩ ⟨ended, last, numberedAfter⟩
    refine ⟨begun ++ ended, ?_, numbered.append numberedAfter⟩
    rw [last, middle]
    exact List.foldl_append.symm

/-- An edit of one bus develops all. -/
theorem develops_of_edit (other : BusId) (edit : Bus.Edit κ) {before after : World κ μ}
    (edited : after.bus = (before.setBus other ((before.bus other).edit edit)).bus)
    (numbered : Bus.Numbered after.fresh before.fresh [edit]) : bus.Develops before after := by
  have known : after.bus bus = if bus = other then (before.bus other).edit edit else before.bus bus :=
    congrFun edited bus
  by_cases same : bus = other
  · subst same
    rw [if_pos rfl] at known
    exact ⟨[edit], known, numbered⟩
  · rw [if_neg same] at known
    exact bus.develops_of_same known numbered.le

theorem record_moves (severity : Severity) (message : String) (fields : List (String × Json)) :
    Run.Moves bus.Develops (Act.record severity message fields : Act κ μ Unit) := fun _ =>
  bus.develops_of_same rfl (Nat.le_refl _)

/-- A subscription takes the next number. -/
theorem subscribe_moves (other : BusId) (channel : Channel) (event : String) (code : κ) :
    Run.Moves bus.Develops (other.subscribe channel event code : Act κ μ SubscriptionId) := by
  intro world
  refine bus.develops_of_edit other (.subscribe channel event ⟨⟨world.fresh⟩, code⟩) rfl ?_
  exact ⟨Nat.le_refl _, Nat.le_refl _⟩

theorem unsubscribe_moves (other : BusId) (channel : Channel) (event : String) (id : SubscriptionId) :
    Run.Moves bus.Develops (other.unsubscribe channel event id : Act κ μ Bool) := fun world =>
  bus.develops_of_edit other (.unsubscribe channel event id) rfl (Nat.le_refl world.fresh)

theorem clear_moves (other : BusId) : Run.Moves bus.Develops (other.modify Bus.clear : Act κ μ Unit) := fun world =>
  bus.develops_of_edit other .clear rfl (Nat.le_refl world.fresh)

end BusId

/-- Subscribers do nothing to a bus but edit it, as often as they like and by whatever ways. -/
def Host.EditsOnly (host : Host κ μ) (bus : BusId) : Prop :=
  ∀ code channel event, Run.Moves bus.Develops (host.notify code channel event)

namespace BusId

variable {host : Host κ μ} {bus : BusId}

/-- The operations of a bus. -/
inductive Operation (κ : Type) where
  | subscribe (channel : Channel) (event : String) (code : κ)
  | unsubscribe (channel : Channel) (event : String) (id : SubscriptionId)
  | clear
  | publish (channel : Channel) (name : String) (data : Attributes)

/-- An operation is run for what it does to the world. -/
def Operation.run (host : Host κ μ) (bus : BusId) : Operation κ → Act κ μ Unit
  | .subscribe channel event code => do let _ ← bus.subscribe channel event code
  | .unsubscribe channel event id => do let _ ← bus.unsubscribe channel event id
  | .clear => bus.modify Bus.clear
  | .publish channel name data => do let _ ← bus.publish host channel name data

/-- Every operation, on whatever bus, does nothing to a bus but edit it. So subscribers may perform any of them. -/
theorem operation_moves (edits : host.EditsOnly bus) (other : BusId) (operation : Operation κ) :
    Run.Moves bus.Develops (operation.run host other) := by
  cases operation with
  | subscribe channel event code =>
    exact (bus.subscribe_moves other channel event code).bind fun _ => Run.moves_pure _
  | unsubscribe channel event id =>
    exact (bus.unsubscribe_moves other channel event id).bind fun _ => Run.moves_pure _
  | clear => exact bus.clear_moves other
  | publish channel name data =>
    exact (other.publish_moves channel bus.record_moves edits name data).bind fun _ => Run.moves_pure _

/-- The worlds that a bus can be in, by operations in a row, between and within which others may edit it. -/
inductive Reached (host : Host κ μ) (bus : BusId) : World κ μ → Prop
  | made {world : World κ μ} (bare : world.bus bus = Bus.empty) : Reached host bus world
  | stepped {world : World κ μ} (reached : Reached host bus world) (operation : Operation κ) :
      Reached host bus (operation.run host bus world).state
  | meanwhile {world other : World κ μ} (reached : Reached host bus world) (develops : bus.Develops world other) :
      Reached host bus other

/-- Every bus there can be is what edits made of an empty one, with ascending numbers for subscriptions. -/
theorem Reached.edited (edits : host.EditsOnly bus) {world : World κ μ} (reached : bus.Reached host world) :
    ∃ history, world.bus bus = Bus.empty.edits history ∧ Bus.Numbered world.fresh 0 history := by
  have goesOn {first second : World κ μ} (develops : bus.Develops first second)
      (begun : ∃ history, first.bus bus = Bus.empty.edits history ∧ Bus.Numbered first.fresh 0 history) :
      ∃ history, second.bus bus = Bus.empty.edits history ∧ Bus.Numbered second.fresh 0 history := by
    obtain ⟨history, made, numbered⟩ := begun
    obtain ⟨list, after, numberedAfter⟩ := develops
    refine ⟨history ++ list, ?_, numbered.append numberedAfter⟩
    rw [after, made]
    exact List.foldl_append.symm
  induction reached with
  | made bare => exact ⟨[], bare, Nat.zero_le _⟩
  | stepped _ operation ih => exact goesOn (operation_moves edits bus operation _) ih
  | meanwhile _ develops ih => exact goesOn develops ih

/-- Subscribing hands back the next number, and leaves the bus with a subscription of this number. -/
theorem subscribe_ends (channel : Channel) (event : String) (code : κ) (world : World κ μ) :
    let ran := (bus.subscribe channel event code : Act κ μ SubscriptionId) world
    ran.result = .ok ⟨world.fresh⟩ ∧
      ran.state.bus bus = (world.bus bus).subscribe channel event ⟨⟨world.fresh⟩, code⟩ :=
  ⟨rfl, if_pos rfl⟩

/-- Unsubscribing hands back whether the subscription was there, and leaves the bus without it. -/
theorem unsubscribe_ends (channel : Channel) (event : String) (id : SubscriptionId) (world : World κ μ) :
    let ran := (bus.unsubscribe channel event id : Act κ μ Bool) world
    ran.result = .ok ((world.bus bus).unsubscribe channel event id).1 ∧
      ran.state.bus bus = ((world.bus bus).unsubscribe channel event id).2 :=
  ⟨rfl, if_pos rfl⟩

section conduct
variable {world : World κ μ}

/-- Subscribing puts a subscription with a number of its own behind those to the same event. -/
theorem subscribe_conduct (fits : (world.bus bus).Fits world.fresh) (channel : Channel) (event : String) (code : κ) :
    let now := world.bus bus
    let ran := (bus.subscribe channel event code : Act κ μ SubscriptionId) world
    let after := ran.state.bus bus
    ran.result = .ok ⟨world.fresh⟩ ∧
      (∀ other place, ∀ subscription ∈ now.subscriptions other place, subscription.id ≠ ⟨world.fresh⟩) ∧
      after.subscriptions channel event = now.subscriptions channel event ++ [⟨⟨world.fresh⟩, code⟩] ∧
      ∀ other place, ¬(other = channel ∧ place = event) →
        (after.on other).get? place = (now.on other).get? place := by
  intro now ran after
  obtain ⟨returned, left⟩ := bus.subscribe_ends channel event code world
  have left : after = now.subscribe channel event ⟨⟨world.fresh⟩, code⟩ := left
  refine ⟨returned, fun other place subscription member same => ?_, ?_, fun other place elsewhere => ?_⟩
  · have below := fits.below other place subscription member
    rw [same] at below
    exact Nat.lt_irrefl _ below
  · rw [left, Bus.subscriptions_subscribe]
  · rw [left, now.get?_subscribe_of_ne _ elsewhere]

/-- Unsubscribing takes off the one subscription it names, and tells whether it was there. -/
theorem unsubscribe_conduct (fits : (world.bus bus).Fits world.fresh) (channel : Channel) (event : String)
    (id : SubscriptionId) :
    let now := world.bus bus
    let subscriptions := now.subscriptions channel event
    let ran := (bus.unsubscribe channel event id : Act κ μ Bool) world
    let after := ran.state.bus bus
    ran.result = .ok (decide (∃ subscription ∈ subscriptions, subscription.id = id)) ∧
      ((∀ subscription ∈ subscriptions, subscription.id ≠ id) → after = now) ∧
      (∀ front subscription back, subscriptions = front ++ subscription :: back → subscription.id = id →
        after.subscriptions channel event = front ++ back ∧
          (front ++ back = [] → (after.on channel).get? event = none)) ∧
      ∀ other place, ¬(other = channel ∧ place = event) →
        (after.on other).get? place = (now.on other).get? place := by
  intro now subscriptions ran after
  obtain ⟨returned, left⟩ := bus.unsubscribe_ends channel event id world
  have left : after = (now.unsubscribe channel event id).2 := left
  refine ⟨?_, fun absent => ?_, ?_, fun other place elsewhere => ?_⟩
  · rw [returned]
    exact congrArg Except.ok (now.unsubscribe_fst channel event id)
  · rw [left, fits.unsubscribe_of_absent absent]
  · rintro front subscription back present rfl
    have kept : after.subscriptions channel event = front ++ back := by
      rw [left]
      exact fits.unsubscribe_of_present present
    refine ⟨kept, fun none => ?_⟩
    rw [none] at kept
    rw [left] at kept ⊢
    rw [(fits.unsubscribe channel event _).get?_eq, kept]
    rfl
  · rw [left]
    exact now.get?_unsubscribe_of_ne id elsewhere

end conduct

/-- Publishing notifies, in order, just those who subscribed to the event and were not taken off later. -/
theorem subscribers_of_reached (edits : host.EditsOnly bus) {world : World κ μ} (reached : bus.Reached host world) :
    let now := world.bus bus
    (∃ history, now = Bus.empty.edits history ∧
      ∀ channel event, now.subscriptions channel event = Bus.standing channel event history) ∧
    (∀ channel event code,
      let ran := (bus.subscribe channel event code : Act κ μ SubscriptionId) world
      let after := ran.state.bus bus
      ran.result = .ok ⟨world.fresh⟩ ∧
        (∀ other place, ∀ subscription ∈ now.subscriptions other place, subscription.id ≠ ⟨world.fresh⟩) ∧
        after.subscriptions channel event = now.subscriptions channel event ++ [⟨⟨world.fresh⟩, code⟩] ∧
        ∀ other place, ¬(other = channel ∧ place = event) →
          (after.on other).get? place = (now.on other).get? place) ∧
    (∀ channel name data,
      let event : Event := ⟨name, data⟩
      let subscriptions := now.subscriptions channel name
      let ran := bus.publish host channel name data world
      ran.result = .ok ((answers host channel event subscriptions world).countP took) ∧
        ran.journal = .published bus channel event ::
          (subscriptions.map fun subscription => .notified channel subscription event) ∧
        (subscriptions.Pairwise fun first second => first.id ≠ second.id) ∧
        bus.Develops world ran.state) ∧
    (∀ channel event id,
      let subscriptions := now.subscriptions channel event
      let ran := (bus.unsubscribe channel event id : Act κ μ Bool) world
      let after := ran.state.bus bus
      ran.result = .ok (decide (∃ subscription ∈ subscriptions, subscription.id = id)) ∧
        ((∀ subscription ∈ subscriptions, subscription.id ≠ id) → after = now) ∧
        (∀ front subscription back, subscriptions = front ++ subscription :: back → subscription.id = id →
          after.subscriptions channel event = front ++ back ∧
            (front ++ back = [] → (after.on channel).get? event = none)) ∧
        ∀ other place, ¬(other = channel ∧ place = event) →
          (after.on other).get? place = (now.on other).get? place) ∧
    ∀ channel event, (now.on channel).get? event ≠ some [] := by
  intro now
  obtain ⟨history, made, numbered⟩ := reached.edited edits
  have fits : (world.bus bus).Fits world.fresh := by
    rw [made]
    exact (Bus.fits_empty 0).edits numbered
  refine ⟨⟨history, made, fun channel event => ?_⟩, subscribe_conduct fits, fun channel name data => ?_,
    unsubscribe_conduct fits, fits.tidy⟩
  · change (world.bus bus).subscriptions channel event = _
    rw [made, Bus.subscriptions_edits_empty]
  · obtain ⟨returned, journal⟩ := bus.publish_ends host channel name data world
    exact ⟨returned, journal, fits.distinct channel name,
      bus.publish_moves channel bus.record_moves edits name data world⟩

/-- Plain subscribers do nothing at all. -/
theorem plain_editsOnly (bus : BusId) : Host.plain.EditsOnly bus := fun _ _ _ => Run.moves_pure _

/-- Subscribers that take the second subscription off, subscribe anew, publish another event and then panic. -/
def meddling : Host Unit Unit :=
  { Host.plain with
    notify := fun _ _ _ => do
      let operations : List (Operation Unit) :=
        [.unsubscribe .blocking "saved" ⟨2⟩, .subscribe .blocking "saved" (), .publish .blocking "closed" ∅]
      let _ ← Run.forEach (Operation.run Host.plain World.globalBus) operations
      Run.panic .unnamed }

/-- Whatever they do, they do it by operations of a bus. -/
theorem meddling_editsOnly (bus : BusId) : meddling.EditsOnly bus := fun _ _ _ =>
  (Run.Moves.forEach (operation_moves (plain_editsOnly bus) World.globalBus) _).bind fun _ => Run.moves_panic _

/-- The process-wide bus with two such subscribers. -/
def meddled : World Unit Unit :=
  let subscribe : Act Unit Unit Unit := Operation.run meddling World.globalBus (.subscribe .blocking "saved" ())
  (subscribe (subscribe (World.start () fun _ => 0)).state).state

/-- Both of them are notified, though the first one takes the second one off, and nobody who subscribes meanwhile. -/
theorem subscribers_of_reached_meddling :
    let bus := World.globalBus
    let subscriptions := (meddled.bus bus).subscriptions .blocking "saved"
    let ran := bus.publish meddling .blocking "saved" ∅ meddled
    subscriptions.map (·.id.index) = [1, 2] ∧ ran.result = .ok 0 ∧
      ran.journal = .published bus .blocking ⟨"saved", ∅⟩ ::
        (subscriptions.map fun subscription => .notified .blocking subscription ⟨"saved", ∅⟩) ∧
      ((ran.state.bus bus).subscriptions .blocking "saved").map (·.id.index) = [1, 3, 4] := by
  intro bus subscriptions ran
  have reached : bus.Reached meddling meddled := .stepped (.stepped (.made rfl) _) _
  obtain ⟨_, _, publishes, _⟩ := subscribers_of_reached (meddling_editsOnly bus) reached
  obtain ⟨returned, journal, _⟩ := publishes .blocking "saved" ∅
  have nobody : (answers meddling .blocking ⟨"saved", ∅⟩ subscriptions meddled).countP took = 0 := by decide +kernel
  refine ⟨by decide +kernel, ?_, journal, by decide +kernel⟩
  rw [← nobody]
  exact returned

end BusId

end Dispatch
