import Dispatch.Proofs.Publishing

namespace Dispatch

variable {κ μ : Type}

/-- What a step is for. -/
inductive Stage where
  | loading
  | preparing
  | telling
  | processing
deriving DecidableEq

/-- A hook is made, prepared and given its input before anything is processed. -/
def Step.stage : Step κ → Stage
  | .loading _ => .loading
  | .created .. | .prepared | .validated _ => .preparing
  | .published .. | .notified .. => .telling
  | .routed _ | .entered _ | .before _ | .after _ | .executed .. => .processing

/-- The names of the events that calls publish start alike; those of refreshes start otherwise. -/
def Event.isOfCall (event : Event) : Bool := "action.".toList.isPrefixOf event.name.toList

/-- The event of a call that a step publishes, with the bus and the channel. -/
def Step.callEvent? : Step κ → Option (BusId × Channel × Event)
  | .published bus channel event => if event.isOfCall then some (bus, channel, event) else none
  | _ => none

/-- The events of calls in a journal. -/
def callEvents (journal : List (Step κ)) : List (BusId × Channel × Event) := journal.filterMap Step.callEvent?

/-- Whether a step tells somebody of an event of a call. -/
def Step.tells : Step κ → Bool
  | .published _ _ event | .notified _ _ event => event.isOfCall
  | _ => false

/-- The steps of a journal that tell of events of calls. -/
def tellings (journal : List (Step κ)) : List (Step κ) := journal.filter Step.tells

/-- The action that a step makes a hook for. -/
def Step.creation? : Step κ → Option (Action κ)
  | .created action _ => some action
  | _ => none

/-- The actions that hooks are made for in a journal, in order. -/
def creations (journal : List (Step κ)) : List (Action κ) := journal.filterMap Step.creation?

/-- A step that gets a hook ready that is there already. -/
def Step.IsOfSetUp (step : Step κ) : Prop := step.stage = .preparing ∧ step.creation? = none

/-- A refresh loads modules, and tells of events that are not those of calls. -/
def Step.IsOfRefresh (step : Step κ) : Prop :=
  (step.stage = .loading ∨ step.stage = .telling) ∧ step.tells = false

/-- A step before anything is processed, which tells of no event of a call. -/
def Step.IsEarly (step : Step κ) : Prop := step.stage ≠ .processing ∧ step.tells = false

theorem tellings_append (first second : List (Step κ)) :
    tellings (first ++ second) = tellings first ++ tellings second :=
  List.filter_append first second

/-- Steps that tell of no event of a call leave none in the journal. -/
theorem tellings_eq_nil {journal : List (Step κ)} (quiet : ∀ step ∈ journal, step.tells = false) :
    tellings journal = [] :=
  List.filter_eq_nil_iff.mpr fun step member => by simp [quiet step member]

theorem callEvents_append (first second : List (Step κ)) :
    callEvents (first ++ second) = callEvents first ++ callEvents second :=
  List.filterMap_append

/-- The events of calls are those that somebody is told of. -/
theorem callEvents_tellings (journal : List (Step κ)) : callEvents (tellings journal) = callEvents journal := by
  unfold callEvents tellings
  rw [List.filterMap_filter]
  refine congrArg (List.filterMap · journal) (funext fun step => ?_)
  cases step with
  | published bus channel event => cases ofCall : event.isOfCall <;> simp [Step.tells, Step.callEvent?, ofCall]
  | notified channel subscription event => simp [Step.callEvent?]
  | _ => rfl

theorem creations_append (first second : List (Step κ)) :
    creations (first ++ second) = creations first ++ creations second :=
  List.filterMap_append

/-- Steps that make no hook leave none in the journal. -/
theorem creations_eq_nil {journal : List (Step κ)} (none : ∀ step ∈ journal, step.creation? = none) :
    creations journal = [] :=
  List.filterMap_eq_nil_iff.mpr none

/-- The hooks that are made in a journal are those that it says are created. -/
theorem mem_creations_iff {journal : List (Step κ)} {action : Action κ} :
    action ∈ creations journal ↔ ∃ context, .created action context ∈ journal := by
  constructor
  · intro member
    obtain ⟨step, among, made⟩ := List.mem_filterMap.mp member
    cases step with
    | created other context =>
      cases made
      exact ⟨context, among⟩
    | _ => cases made
  · rintro ⟨context, among⟩
    exact List.mem_filterMap.mpr ⟨_, among, rfl⟩

/-- Hooks are made in preparation only. -/
theorem Step.creation?_of_stage {step : Step κ} (other : step.stage ≠ .preparing) : step.creation? = none := by
  cases step with
  | created action context => exact absurd rfl other
  | _ => rfl

/-- Publishing and notifying are the only steps that tell of something. -/
theorem Step.tells_of_stage {step : Step κ} (silent : step.stage ≠ .telling) : step.tells = false := by
  cases step with
  | published bus channel event => exact absurd rfl silent
  | notified channel subscription event => exact absurd rfl silent
  | _ => rfl

theorem Step.IsOfRefresh.isEarly {step : Step κ} (ofRefresh : step.IsOfRefresh) : step.IsEarly := by
  obtain ⟨stage, quiet⟩ := ofRefresh
  refine ⟨?_, quiet⟩
  rcases stage with stage | stage <;> rw [stage] <;> decide

theorem Step.isEarly_of_preparing {step : Step κ} (stage : step.stage = .preparing) : step.IsEarly :=
  ⟨by rw [stage]; decide, tells_of_stage (by rw [stage]; decide)⟩

theorem tellings_early {journal : List (Step κ)} (early : ∀ step ∈ journal, step.IsEarly) :
    tellings journal = [] :=
  tellings_eq_nil fun step member => (early step member).2

/-- Whatever follows the start of its name, the event is one of a call. -/
theorem Event.isOfCall_of_start {start : String} (starts : "action.".toList <+: start.toList) (rest : String)
    (data : Attributes) : Event.isOfCall ⟨start ++ rest, data⟩ = true := by
  unfold isOfCall
  rw [List.isPrefixOf_iff_prefix, String.toList_append]
  exact starts.trans (List.prefix_append _ _)

theorem Event.isOfCall_beforeExecute (action : String) (data : Attributes) :
    Event.isOfCall ⟨beforeExecute action, data⟩ = true :=
  isOfCall_of_start (by decide) action data

theorem Event.isOfCall_afterExecute (action : String) (data : Attributes) :
    Event.isOfCall ⟨afterExecute action, data⟩ = true :=
  isOfCall_of_start (by decide) action data

theorem Event.isOfCall_callError (action : String) (data : Attributes) :
    Event.isOfCall ⟨callError action, data⟩ = true :=
  isOfCall_of_start (by decide) action data

theorem Event.isOfCall_beforeRefresh (data : Attributes) : Event.isOfCall ⟨beforeRefresh, data⟩ = false :=
  show "action.".toList.isPrefixOf beforeRefresh.toList = false by decide

theorem Event.isOfCall_afterRefresh (data : Attributes) : Event.isOfCall ⟨afterRefresh, data⟩ = false :=
  show "action.".toList.isPrefixOf afterRefresh.toList = false by decide

/-- Publishing an event that is not one of a call tells of it and does nothing else. -/
theorem BusId.publish_notes (host : Host κ μ) (bus : BusId) (channel : Channel) {name : String} {data : Attributes}
    (other : Event.isOfCall ⟨name, data⟩ = false) :
    Run.Notes Step.IsOfRefresh (bus.publish host channel name data) := by
  intro world step member
  obtain ⟨notices, journal, told⟩ := bus.publish_journal host channel name data world
  rw [journal] at member
  rcases List.mem_cons.mp member with rfl | notice
  · exact ⟨.inr rfl, other⟩
  · obtain ⟨subscription, rfl⟩ := told step notice
    exact ⟨.inr rfl, other⟩

end Dispatch
