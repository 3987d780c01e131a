import Dispatch.Invocation.Processing
import Dispatch.Proofs.Steps

namespace Dispatch

variable {κ μ : Type} (host : Host κ μ)

/-- Instantiating an action panics just when the factory of its hook does. -/
theorem Action.instantiate_panics_iff (action : Action κ) (context : Context) (world : World κ μ)
    (panic : Panic) :
    (action.instantiate host context world).result = .error panic ↔
      ∃ code, action.hook = some code ∧ (host.create code world).result = .error panic := by
  unfold Action.instantiate
  cases hook : action.hook with
  | none => simp
  | some code =>
    dsimp only
    rw [Run.bind_of_ok rfl, Run.bind_panics_iff_of_returns fun hook => Run.returns_pure _]
    simp

/-- What is instantiated starts afresh. -/
theorem Action.instantiate_ok {action : Action κ} {context : Context} {world : World κ μ}
    {invocation : Invocation κ}
    (instantiated : (action.instantiate host context world).result = .ok (.ok invocation)) :
    ∃ hook, invocation = .start action hook context := by
  unfold Action.instantiate at instantiated
  cases hook : action.hook with
  | none => simp [hook] at instantiated
  | some code =>
    simp only [hook, Run.note_bind] at instantiated
    obtain ⟨hook, _, returned⟩ := Run.bind_returns_iff.mp instantiated
    cases returned
    exact ⟨hook, rfl⟩

/-- An action with a hook is never refused an invocation. -/
theorem Action.instantiate_of_hook {action : Action κ} (executable : action.hasHook = true) (context : Context)
    (world : World κ μ) (rejection : Rejection) :
    (action.instantiate host context world).result ≠ .ok (.error rejection) := by
  obtain ⟨code, hook⟩ := Option.isSome_iff_exists.mp executable
  unfold Action.instantiate
  rw [hook]
  intro rejected
  obtain ⟨_, _, made⟩ := Run.bind_returns_iff.mp rejected
  obtain ⟨_, _, made⟩ := Run.bind_returns_iff.mp made
  cases made

/-- Instantiating an action makes a hook for it and does nothing else. -/
theorem Action.instantiate_notes (action : Action κ) (context : Context) :
    Run.Notes (fun step => step.stage = .preparing) (action.instantiate host context) := by
  unfold Action.instantiate
  split
  · exact Run.notes_pure _
  · exact (Run.notes_note (by rfl)).bind fun _ => (Run.notes_foreign _).bind fun _ => Run.notes_pure _

namespace Invocation

/-- Looking at the invocation leaves everything to what follows. -/
@[simp] theorem invocation_bind {α : Type} (next : Invocation κ → InvocationAct κ μ α) (world : World κ μ)
    (current : Invocation κ) : (invocation >>= next) (world, current) = next current (world, current) := rfl

/-- Only a validator of the action's own can panic. -/
theorem validate_panics_iff (invocation : Invocation κ) (params : Attributes) (world : World κ μ)
    (panic : Panic) :
    (invocation.validate host params world).result = .error panic ↔
      ∃ code, invocation.action.validator = some code ∧
        (host.validate code invocation.action.schema params world).result = .error panic := by
  unfold validate
  rw [Run.bind_of_ok rfl]
  cases validator : invocation.action.validator with
  | none => simp
  | some code => simp

/-- Preparing an unprepared invocation panics just when its hook does. -/
theorem prepareOnce_panics_iff {invocation : Invocation κ} (unprepared : invocation.prepared = false)
    (world : World κ μ) (panic : Panic) :
    (prepareOnce host (world, invocation)).result = .error panic ↔
      (host.prepare (world, invocation.hook, invocation.context)).result = .error panic := by
  unfold prepareOnce
  rw [invocation_bind]
  simp only [unprepared, Bool.not_false, if_true]
  exact Run.bind_panics_iff_of_returns fun _ => (Run.silent_update _).returns

/-- Input is refused without a panic, and looked at by the validator only if it is an object. -/
theorem accept_panics_iff (params : Json) (world : World κ μ) (invocation : Invocation κ) (panic : Panic) :
    (accept host params (world, invocation)).result = .error panic ↔
      ∃ table, Schema.parameters params = .ok table ∧
        (invocation.validate host table world).result = .error panic := by
  unfold accept
  cases given : Schema.parameters params with
  | error violation => simp
  | ok table =>
    dsimp only
    rw [invocation_bind, Run.bind_panics_iff_of_returns]
    · simp
    · intro validated
      cases validated with
      | error violation => exact Run.returns_pure _
      | ok input => exact ((Run.silent_update _).returns).bind fun _ => Run.returns_pure _

/-- Input that is accepted is what the validator made of the parameters. -/
theorem accept_accepted {params : Json} {world : World κ μ} {invocation : Invocation κ}
    (accepted : (accept host params (world, invocation)).result = .ok (.ok ())) :
    ∃ table input, Schema.parameters params = .ok table ∧
      (invocation.validate host table world).result = .ok (.ok input) ∧
        (accept host params (world, invocation)).state =
          ((invocation.validate host table world).state,
            { invocation with input := some input, phase := .validated }) := by
  unfold accept at accepted ⊢
  cases given : Schema.parameters params with
  | error violation => simp [given] at accepted
  | ok table =>
    simp only [given] at accepted ⊢
    rw [invocation_bind] at accepted ⊢
    obtain ⟨validated, returned, accepted⟩ := Run.bind_returns_iff.mp accepted
    rw [Run.bind_of_ok returned]
    cases validated with
    | error violation => cases accepted
    | ok input => exact ⟨table, input, rfl, returned, rfl⟩

/-- An invocation that has not been processed is prepared, and then the parameters are looked at. -/
theorem setUp_of_open {invocation : Invocation κ} (unprocessed : invocation.phase.isFinal = false)
    (params : Json) (world : World κ μ) :
    setUp host params (world, invocation) =
      (prepareOnce host >>= fun _ => accept host params) (world, invocation) := by
  unfold setUp
  rw [invocation_bind]
  simp [unprocessed]

/-- The first set-up panics just when the preparation of the hook or a validator of the action's own does. -/
theorem setUp_panics_iff {invocation : Invocation κ} (unprocessed : invocation.phase.isFinal = false)
    (unprepared : invocation.prepared = false) (params : Json) (world : World κ μ) (panic : Panic) :
    (setUp host params (world, invocation)).result = .error panic ↔
      (host.prepare (world, invocation.hook, invocation.context)).result = .error panic ∨
        ∃ middle prepared table code,
          Run.Reaches (prepareOnce host) (world, invocation) () (middle, prepared) ∧
          Schema.parameters params = .ok table ∧ prepared.action.validator = some code ∧
          (host.validate code prepared.action.schema table middle).result = .error panic := by
  rw [setUp_of_open host unprocessed, Run.bind_panics_iff, prepareOnce_panics_iff host unprepared]
  refine or_congr Iff.rfl ?_
  constructor
  · rintro ⟨_, returned, panicked⟩
    obtain ⟨table, given, panicked⟩ := (accept_panics_iff host params _ _ panic).mp panicked
    obtain ⟨code, validator, panicked⟩ := (validate_panics_iff host _ table _ panic).mp panicked
    exact ⟨_, _, table, code, Run.reaches_of_ok returned, given, validator, panicked⟩
  · rintro ⟨middle, prepared, table, code, ⟨returned, ended⟩, given, validator, panicked⟩
    refine ⟨(), returned, ?_⟩
    rw [ended]
    exact (accept_panics_iff host params middle prepared panic).mpr
      ⟨table, given, (validate_panics_iff host prepared table middle panic).mpr ⟨code, validator, panicked⟩⟩

theorem invocation_silent : Run.Silent (invocation : InvocationAct κ μ (Invocation κ)) :=
  Run.silent_state.bind fun _ => Run.silent_pure _

theorem validate_notes (invocation : Invocation κ) (params : Attributes) :
    Run.Notes Step.IsOfSetUp (invocation.validate host params) := by
  refine (Run.notes_note ⟨rfl, rfl⟩).bind fun _ => ?_
  split
  · exact Run.notes_pure _
  · exact Run.notes_foreign _

theorem prepareHook_notes : Run.Notes Step.IsOfSetUp (prepareHook host) := by
  intro state step member
  rw [List.mem_singleton.mp member]
  exact ⟨rfl, rfl⟩

theorem prepareOnce_notes : Run.Notes Step.IsOfSetUp (prepareOnce host) := by
  refine invocation_silent.notes.bind fun current => ?_
  split
  · exact (prepareHook_notes host).bind fun _ => (Run.silent_update _).notes
  · exact Run.notes_pure _

theorem accept_notes (params : Json) : Run.Notes Step.IsOfSetUp (accept host params) := by
  unfold accept
  split
  · exact Run.notes_pure _
  · refine invocation_silent.notes.bind fun current => (Run.Notes.onFirst (current.validate_notes host _)).bind ?_
    rintro (violation | input)
    · exact Run.notes_pure _
    · exact ((Run.silent_update _).bind fun _ => Run.silent_pure _).notes

/-- Setting an invocation up prepares its hook and has its parameters looked at, but makes no hook. -/
theorem setUp_notes (params : Json) : Run.Notes Step.IsOfSetUp (setUp host params) := by
  refine invocation_silent.notes.bind fun current => ?_
  split
  · exact Run.notes_pure _
  · exact (prepareOnce_notes host).bind fun _ => accept_notes host params

end Invocation

end Dispatch
