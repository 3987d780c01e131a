import Dispatch.Proofs.Pipeline

namespace Dispatch

variable {κ μ : Type} (host : Host κ μ)

/-- Phases are passed in one direction. -/
inductive Phase.Advances : Phase → Phase → Prop
  | stays (phase : Phase) : Advances phase phase
  | validated : Advances .created .validated
  | executed : Advances .validated .executed
  | failed : Advances .validated .failed

/-- Whether a step executes the hook. -/
def Step.isExecution : Step κ → Bool
  | .executed .. => true
  | _ => false

/-- Whether a step prepares the hook. -/
def Step.isPreparation : Step κ → Bool
  | .prepared => true
  | _ => false

namespace Invocation

/-- What may be done with an invocation; the world around it may change in the meantime. -/
inductive Use (κ μ : Type) where
  | setUp (params : Json)
  | process (channel : Channel)
  | validate (params : Attributes)
  | editContext (f : Context → Context)
  | elsewhere (change : World κ μ → World κ μ)

/-- What a use hands back. -/
inductive Answer where
  | setUp (accepted : Except Violation Unit)
  | processed (outcome : Outcome)
  | validated (input : Except Violation Attributes)
  | done

namespace Use

/-- A use as a run. -/
def run : Use κ μ → InvocationAct κ μ Answer
  | .setUp params => do return .setUp (← Invocation.setUp host params)
  | .process channel => do return .processed (← Invocation.process host channel)
  | .validate params => do return .validated (← Run.onFirst ((← invocation).validate host params))
  | .editContext f => do
    update fun invocation => { invocation with context := f invocation.context }
    return .done
  | .elsewhere change => do
    Run.update fun state => (change state.1, state.2)
    return .done

/-- What a set-up validates: what the hook's preparation leaves of the world and of an invocation that lacks it. -/
def readied (state : World κ μ × Invocation κ) : World κ μ × Invocation κ :=
  if state.2.prepared then state
  else
    let asked := host.prepare (state.1, state.2.hook, state.2.context)
    (asked.state.1, { state.2 with hook := asked.state.2.1, context := asked.state.2.2, prepared := true })

/-- Whether a use attempts a set-up. -/
def setsUp : Use κ μ → Bool
  | .setUp _ => true
  | _ => false

/-- What the validator makes of the parameters of a set-up that succeeds. -/
def accepts (use : Use κ μ) (state : World κ μ × Invocation κ) : Option Attributes :=
  match use, (use.run host state).result with
  | .setUp params, .ok (.setUp (.ok ())) =>
    let (world, ready) := readied host state
    match Schema.parameters params with
    | .error _ => none
    | .ok table =>
      match (ready.validate host table world).result with
      | .ok (.ok input) => some input
      | _ => none
  | _, _ => none

/-- The values that the hook hands back as data, if a use executes it. -/
def hands (use : Use κ μ) (state : World κ μ × Invocation κ) : Option Attributes :=
  match use, state.2.readyInput with
  | .process channel, .ok input =>
    match (host.execute channel input state.2.context (state.1, state.2.hook)).result with
    | .ok (.ok (.data values _)) => some values
    | _ => none
  | _, _ => none

end Use

/-- Accepted input takes the place of an earlier one. -/
def taking (invocation : Invocation κ) : Option Attributes → Invocation κ
  | some input => { invocation with input := some input, phase := .validated }
  | none => invocation

section taking
variable (invocation : Invocation κ) (accepted : Option Attributes)

@[simp] theorem taking_prepared : (invocation.taking accepted).prepared = invocation.prepared := by
  cases accepted <;> rfl

@[simp] theorem taking_output : (invocation.taking accepted).output = invocation.output := by
  cases accepted <;> rfl

@[simp] theorem taking_input : (invocation.taking accepted).input = accepted.or invocation.input := by
  cases accepted <;> rfl

/-- An open invocation that takes input stays open. -/
theorem taking_open (unprocessed : invocation.phase.isFinal = false) :
    (invocation.taking accepted).phase.isFinal = false := by
  cases accepted with
  | none => exact unprocessed
  | some input => rfl

end taking

section setUp

/-- Whatever the validator does, it does not touch the invocation, and validating is one step. -/
theorem validate_journal (invocation : Invocation κ) (params : Attributes) (world : World κ μ) :
    (invocation.validate host params world).journal = [.validated params] := by
  unfold validate
  rw [Run.note_bind]
  cases invocation.action.validator <;> rfl

/-- An invocation is prepared by its hook the first time, and is left alone later. -/
theorem prepareOnce_apply {state : World κ μ × Invocation κ}
    (prepares : state.2.prepared = false →
      (host.prepare (state.1, state.2.hook, state.2.context)).result = .ok ()) :
    prepareOnce host state =
      ⟨.ok (), Use.readied host state, if state.2.prepared then [] else [.prepared]⟩ := by
  obtain ⟨world, action, hook, context, input, output, phase, prepared⟩ := state
  unfold prepareOnce
  rw [invocation_bind]
  cases prepared with
  | true => rfl
  | false =>
    have returned : (prepareHook host (world, ⟨action, hook, context, input, output, phase, false⟩)).result = .ok () :=
      prepares rfl
    simp only [Bool.not_false, if_true]
    rw [Run.bind_of_ok returned]
    rfl

/-- Preparing an invocation changes its hook and its context, and no more than that. -/
theorem readied_eq (world : World κ μ) (invocation : Invocation κ) : ∃ after hook context,
    Use.readied host (world, invocation) = (after, { invocation with hook, context, prepared := true }) := by
  obtain ⟨action, hook, context, input, output, phase, prepared⟩ := invocation
  cases prepared <;> exact ⟨_, _, _, rfl⟩

/-- Input that is accepted takes the place of an earlier one, and parameters that are refused change nothing. -/
theorem accept_ends (params : Json) (world : World κ μ) (invocation : Invocation κ) :
    let ran := accept host params (world, invocation)
    (∀ step ∈ ran.journal, ∃ table, step = .validated table) ∧
      ((∃ table input, Schema.parameters params = .ok table ∧
          (invocation.validate host table world).result = .ok (.ok input) ∧ ran.result = .ok (.ok ()) ∧
            ran.state.2 = { invocation with input := some input, phase := .validated }) ∨
        ran.result ≠ .ok (.ok ()) ∧ ran.state.2 = invocation) := by
  unfold accept
  cases given : Schema.parameters params with
  | error violation => exact ⟨List.forall_mem_nil _, .inr ⟨by simp, rfl⟩⟩
  | ok table =>
    dsimp only
    rw [invocation_bind]
    have journal : (Run.onFirst (invocation.validate host table) (world, invocation)).journal = [.validated table] :=
      validate_journal host invocation table world
    cases validated : (invocation.validate host table world).result with
    | error panic =>
      have panicked : (Run.onFirst (invocation.validate host table) (world, invocation)).result = .error panic :=
        validated
      rw [Run.bind_of_error panicked, journal]
      exact ⟨by simp, .inr ⟨by simp, rfl⟩⟩
    | ok answer =>
      have returned : (Run.onFirst (invocation.validate host table) (world, invocation)).result = .ok answer :=
        validated
      rw [Run.bind_of_ok returned, journal]
      cases answer with
      | error violation => exact ⟨by simp, .inr ⟨by simp, rfl⟩⟩
      | ok input => exact ⟨by simp [Run.bind_apply, update], .inl ⟨table, input, rfl, validated, rfl, rfl⟩⟩

/-- A set-up after processing is refused and does nothing. -/
theorem setUp_of_final {invocation : Invocation κ} (processed : invocation.phase.isFinal = true) (params : Json)
    (world : World κ μ) :
    setUp host params (world, invocation) =
      ⟨.ok (.error (.custom ("action '" ++ invocation.name ++ "' has already been processed"))),
        (world, invocation), []⟩ := by
  unfold setUp
  rw [invocation_bind]
  simp [processed]

end setUp

section process

/-- An invocation that is not ready is left alone, and whoever processes it is told so. -/
theorem process_of_unready {invocation : Invocation κ} {failure : Failure}
    (unready : invocation.readyInput = .error failure) (channel : Channel) (world : World κ μ) :
    let ran := process host channel (world, invocation)
    (∃ outcome, ran.result = .ok outcome ∧ outcome.success = false) ∧
      (∃ log, ran.state = ({ world with log }, invocation)) ∧ ran.journal = [] := by
  unfold process
  rw [invocation_bind, unready]
  exact ⟨⟨_, rfl, rfl⟩, ⟨_, rfl⟩, rfl⟩

/-- The final phase of an invocation tells whether its outcome is a success. -/
theorem settle_phase (name : String) (returned : Except Failure Output) :
    (settle name returned).1 = if (settle name returned).2.2.success then .executed else .failed := by
  rcases returned with failure | ⟨values, prompt⟩ | outcome <;> rfl

/-- What a hook hands back, where a panic is a failure. -/
def returned : Except Panic (Except Failure Output) → Except Failure Output
  | .ok output => output
  | .error panic => .error (.ofPanic panic)

theorem runHook_apply (channel : Channel) (input : Attributes) (world : World κ μ) (invocation : Invocation κ) :
    let executed := host.execute channel input invocation.context (world, invocation.hook)
    runHook host channel input (world, invocation) =
      ⟨.ok (returned executed.result), (executed.state.1, { invocation with hook := executed.state.2 }),
        [.executed channel input]⟩ := by
  unfold runHook
  dsimp only
  cases (host.execute channel input invocation.context (world, invocation.hook)).result <;> rfl

/-- Only data is kept as output. -/
theorem settle_returned (name : String) (result : Except Panic (Except Failure Output)) :
    (settle name (returned result)).2.1 =
      match result with
      | .ok (.ok (.data values _)) => some values
      | _ => none := by
  rcases result with panic | failure | ⟨values, prompt⟩ | outcome <;> rfl

/-- Phase, output and outcome follow from what the hook handed back. -/
theorem finish_ends (returned : Except Failure Output) (world : World κ μ) (invocation : Invocation κ) :
    ∃ after, finish returned (world, invocation) =
      ⟨.ok (settle invocation.name returned).2.2,
        (after,
          { invocation with
            phase := (settle invocation.name returned).1
            output := (settle invocation.name returned).2.1.or invocation.output }), []⟩ := by
  cases returned with
  | error failure => exact ⟨_, rfl⟩
  | ok output => exact ⟨_, rfl⟩

/-- An invocation that is ready is executed once, and its new phase tells how that went. -/
theorem process_of_ready {invocation : Invocation κ} {input : Attributes}
    (ready : invocation.readyInput = .ok input) (channel : Channel) (world : World κ μ) :
    let ran := process host channel (world, invocation)
    ran.journal = [.executed channel input] ∧
      ∃ outcome hook, ran.result = .ok outcome ∧
        ran.state.2 =
          { invocation with
            hook
            phase := if outcome.success then .executed else .failed
            output := ((Use.process channel).hands host (world, invocation)).or invocation.output } := by
  let executed := host.execute channel input invocation.context (world, invocation.hook)
  obtain ⟨after, finished⟩ :=
    finish_ends (returned executed.result) executed.state.1 { invocation with hook := executed.state.2 }
  have ran : process host channel (world, invocation) =
      (runHook host channel input >>= fun handed => finish handed) (world, invocation) := by
    unfold process
    rw [invocation_bind, ready]
  have handed : (settle invocation.name (returned executed.result)).2.1 =
      (Use.process channel).hands host (world, invocation) := by
    rw [settle_returned]
    unfold Use.hands
    simp only [ready]
    rfl
  dsimp only
  rw [ran, Run.bind_apply_ok (runHook_apply host channel input world invocation), finished]
  refine ⟨by simp, _, executed.state.2, rfl, ?_⟩
  rw [← handed, ← settle_phase]
  rfl

end process

namespace Use

/-- Turning the value of a run into an answer changes nothing else. -/
theorem run_setUp (params : Json) (state : World κ μ × Invocation κ) :
    (Use.setUp params).run host state =
      ⟨(Invocation.setUp host params state).result.map .setUp, (Invocation.setUp host params state).state,
        (Invocation.setUp host params state).journal⟩ :=
  Run.map_apply Answer.setUp (Invocation.setUp host params) state

/-- A set-up answers that it succeeded just if it did. -/
theorem map_setUp_eq_ok_iff {result : Except Panic (Except Violation Unit)} :
    result.map Answer.setUp = .ok (.setUp (.ok ())) ↔ result = .ok (.ok ()) := by
  rcases result with panic | violation | ⟨⟩ <;> simp [Except.map]

theorem run_process (channel : Channel) (state : World κ μ × Invocation κ) :
    (Use.process channel).run host state =
      ⟨(Invocation.process host channel state).result.map .processed, (Invocation.process host channel state).state,
        (Invocation.process host channel state).journal⟩ :=
  Run.map_apply Answer.processed (Invocation.process host channel) state

theorem run_validate (params : Attributes) (world : World κ μ) (invocation : Invocation κ) :
    (Use.validate params).run host (world, invocation) =
      ⟨(invocation.validate host params world).result.map .validated,
        ((invocation.validate host params world).state, invocation), [.validated params]⟩ := by
  rw [← validate_journal host invocation params world]
  exact Run.map_apply Answer.validated (Run.onFirst (invocation.validate host params)) (world, invocation)

/-- An open invocation that is set up is prepared once, and takes the input that is accepted, if any is. -/
structure SetsUp (params : Json) (world : World κ μ) (invocation : Invocation κ) : Prop where
  ready : ((Use.setUp params).run host (world, invocation)).state.2 =
    (readied host (world, invocation)).2.taking ((Use.setUp params).accepts host (world, invocation))
  answer : ((Use.setUp params).run host (world, invocation)).result = .ok (.setUp (.ok ())) ↔
    ((Use.setUp params).accepts host (world, invocation)).isSome = true
  journal : ∃ checks, (∀ step ∈ checks, ∃ table, step = .validated table) ∧
    ((Use.setUp params).run host (world, invocation)).journal =
      (if invocation.prepared then [] else [.prepared]) ++ checks

/-- Input is accepted just by a set-up that succeeds. -/
theorem accepts_of_refused (params : Json) {state : World κ μ × Invocation κ}
    (refused : (Invocation.setUp host params state).result ≠ .ok (.ok ())) :
    (Use.setUp params).accepts host state = none := by
  unfold accepts
  rw [run_setUp]
  rcases ran : (Invocation.setUp host params state).result with panic | violation | ⟨⟩
  · rfl
  · rfl
  · exact absurd ran refused

theorem accepts_of_accepted {params : Json} {state : World κ μ × Invocation κ} {after : World κ μ}
    {ready : Invocation κ} {table input : Attributes}
    (accepted : (Invocation.setUp host params state).result = .ok (.ok ()))
    (prepared : readied host state = (after, ready)) (given : Schema.parameters params = .ok table)
    (validated : (ready.validate host table after).result = .ok (.ok input)) :
    (Use.setUp params).accepts host state = some input := by
  unfold accepts
  simp only [run_setUp, accepted, prepared, given, validated, Except.map]

theorem setsUp_of_open {invocation : Invocation κ} {world : World κ μ}
    (unprocessed : invocation.phase.isFinal = false)
    (prepares : invocation.prepared = false →
      (host.prepare (world, invocation.hook, invocation.context)).result = .ok ())
    (params : Json) : SetsUp host params world invocation := by
  obtain ⟨after, hook, context, prepared⟩ := readied_eq host world invocation
  have ran : Invocation.setUp host params (world, invocation) =
      ⟨(accept host params (readied host (world, invocation))).result,
        (accept host params (readied host (world, invocation))).state,
        (if invocation.prepared then [] else [.prepared]) ++
          (accept host params (readied host (world, invocation))).journal⟩ := by
    rw [setUp_of_open host unprocessed, Run.bind_apply_ok (prepareOnce_apply host prepares)]
  rw [prepared] at ran
  obtain ⟨checks, ⟨table, input, given, validated, accepted, ready⟩ | ⟨refused, ready⟩⟩ :=
    accept_ends host params after { invocation with hook, context, prepared := true }
  · have accepted : (Invocation.setUp host params (world, invocation)).result = .ok (.ok ()) := by
      rw [ran]
      exact accepted
    have takes := accepts_of_accepted host accepted prepared given validated
    refine ⟨?_, ?_, ⟨_, checks, ?_⟩⟩
    · rw [takes, run_setUp, ran, prepared]
      exact ready
    · rw [takes, run_setUp, map_setUp_eq_ok_iff]
      exact iff_of_true accepted rfl
    · rw [run_setUp, ran]
  · have refused : (Invocation.setUp host params (world, invocation)).result ≠ .ok (.ok ()) := by
      rw [ran]
      exact refused
    have takes := accepts_of_refused host params refused
    refine ⟨?_, ?_, ⟨_, checks, ?_⟩⟩
    · rw [takes, run_setUp, ran, prepared]
      exact ready
    · rw [takes, run_setUp, map_setUp_eq_ok_iff]
      exact iff_of_false refused (by simp)
    · rw [run_setUp, ran]

/-- A use that leaves an invocation as it is, but for its context. -/
structure Passes (use : Use κ μ) (world : World κ μ) (invocation : Invocation κ) : Prop where
  same : ∃ context, (use.run host (world, invocation)).state.2 = { invocation with context }
  checks : ∀ step ∈ (use.run host (world, invocation)).journal, ∃ table, step = .validated table
  accepts : use.accepts host (world, invocation) = none
  hands : use.hands host (world, invocation) = none
  late : use.setsUp = true → invocation.phase.isFinal = true

/-- An invocation is ready once input has been accepted, until it is processed. -/
theorem readyInput_ok_iff {invocation : Invocation κ} {input : Attributes} :
    invocation.readyInput = .ok input ↔ invocation.phase = .validated ∧ invocation.input = some input := by
  unfold readyInput
  cases invocation.phase <;> cases invocation.input <;> simp

/-- Whoever uses an invocation sets it up while it is open, or processes it when it is ready, or leaves it as it is. -/
theorem kinds (use : Use κ μ) (world : World κ μ) (invocation : Invocation κ) :
    (∃ params, use = .setUp params ∧ invocation.phase.isFinal = false) ∨
      (∃ channel input, use = .process channel ∧ invocation.readyInput = .ok input) ∨
        use.Passes host world invocation := by
  cases use with
  | setUp params =>
    cases processed : invocation.phase.isFinal with
    | false => exact .inl ⟨params, rfl, rfl⟩
    | true =>
      have ran := setUp_of_final host processed params world
      refine .inr (.inr ⟨⟨invocation.context, ?_⟩, ?_, ?_, rfl, fun _ => processed⟩)
      · rw [run_setUp, ran]
      · rw [run_setUp, ran]
        exact List.forall_mem_nil _
      · exact accepts_of_refused host params (by simp [ran])
  | process channel =>
    cases ready : invocation.readyInput with
    | ok input => exact .inr (.inl ⟨channel, input, rfl, rfl⟩)
    | error failure =>
      obtain ⟨_, ⟨log, same⟩, journal⟩ := process_of_unready host ready channel world
      refine .inr (.inr ⟨⟨invocation.context, ?_⟩, ?_, rfl, ?_, Bool.noConfusion⟩)
      · rw [run_process, same]
      · rw [run_process, journal]
        exact List.forall_mem_nil _
      · simp only [hands, ready]
  | validate params =>
    refine .inr (.inr ⟨⟨invocation.context, ?_⟩, ?_, ?_, rfl, Bool.noConfusion⟩)
    · rw [run_validate]
    · rw [run_validate]
      exact List.forall_mem_singleton.mpr ⟨params, rfl⟩
    · rfl
  | editContext f => exact .inr (.inr ⟨⟨f invocation.context, rfl⟩, List.forall_mem_nil _, rfl, rfl, Bool.noConfusion⟩)
  | elsewhere change =>
    exact .inr (.inr ⟨⟨invocation.context, rfl⟩, List.forall_mem_nil _, rfl, rfl, Bool.noConfusion⟩)

end Use

end Invocation

end Dispatch
