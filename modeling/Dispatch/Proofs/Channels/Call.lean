import Dispatch.Manager.Call
import Dispatch.Proofs.Channels.Processing
import Dispatch.Proofs.Host

namespace Dispatch

variable {κ μ ρ α : Type}

namespace Manager
variable (manager : Manager) (name : String)

/-- A call's own values stand above those of the manager, whenever that was refreshed. -/
theorem alike_contextOver (own : Option Attributes) {first second : ManagerState κ} (alike : Alike first second) :
    Alike (manager.contextOver own first) (manager.contextOver own second) := by
  obtain ⟨context, _⟩ := alike_managerState_iff.mp alike
  refine alike_context_iff.mpr ⟨?_, rfl⟩
  cases own with
  | none => exact context
  | some own => exact context.overlay own

theorem alike_afterEvent {outcome other : Outcome} (alike : Alike outcome other) :
    Alike (manager.afterEvent name outcome) (manager.afterEvent name other) := by
  refine alike_event_iff.mpr ⟨rfl, (alike_refl _).insert "result" ?_⟩
  rw [Json.under_of_ne (by decide), Json.under_of_ne (by decide)]
  exact Outcome.alike_toWire alike

theorem alike_errorEvent {outcome other : Outcome} (alike : Alike outcome other) :
    Alike (manager.errorEvent name outcome) (manager.errorEvent name other) := by
  obtain ⟨_, _, error, _, context⟩ := alike_outcome_iff.mp alike
  have traces : (outcome.context.get? Outcome.tracebackKey).map timeless =
      (other.context.get? Outcome.tracebackKey).map timeless := context.get? (by decide)
  refine alike_event_iff.mpr ⟨rfl, ?_⟩
  unfold errorEvent
  rw [error]
  refine (alike_refl _).insert "traceback" ?_
  rw [Json.under_of_ne (by decide), Json.under_of_ne (by decide)]
  have orNull (value : Option Json) : timeless (value.getD .null) = (value.map timeless).getD .null := by
    cases value <;> rfl
  rw [orNull, orNull, traces]

end Manager

namespace Manager.InStep

variable {host : Host κ μ} {manager : Manager} {view : μ → ρ} {name : String}

/-- An action is found on both channels or on neither. -/
theorem resolve : manager.InStep host view Eq (manager.resolve name) (manager.resolve name) := by
  refine (readRegistry manager.registry).bind_same fun registry => ?_
  cases registry.get? name (some manager.target) with
  | some action => exact Run.together_pure rfl
  | none =>
    cases manager.scopeFallback with
    | false => exact Run.together_pure rfl
    | true =>
      cases registry.get? name none with
      | none => exact Run.together_pure rfl
      | some action => exact (record _ _ _ _ _).bind_same fun _ => Run.together_pure rfl

theorem answerUnknown :
    manager.InStep host view Alike (manager.answerUnknown name) (manager.answerUnknown name) :=
  (record _ _ _ _ _).bind_same fun _ => Run.together_pure (alike_refl _)

variable (impartial : host.Impartial view (manager.Matched host view))
include impartial

theorem failCall {outcome other : Outcome} (alike : Alike outcome other) :
    manager.InStep host view Alike (manager.failCall host .blocking name outcome)
      (manager.failCall host .cooperative name other) := by
  refine (record _ _ _ _ _).bind_same fun _ => ?_
  exact (publish impartial (manager.alike_errorEvent name alike)).bind_same fun _ => Run.together_pure alike

theorem conclude {result other : Except Panic Outcome} (same : SameResult Alike result other) :
    manager.InStep host view Alike (manager.conclude host .blocking name result)
      (manager.conclude host .cooperative name other) := by
  cases same with
  | panic panic => exact failCall impartial (alike_refl _)
  | value alike =>
    refine (publish impartial (manager.alike_afterEvent name alike)).bind_same fun _ => ?_
    exact Run.together_pure (Outcome.alike_fillMessage alike _)

theorem carryOut {invocation other : Invocation κ} (alike : Alike invocation other) :
    manager.InStep host view Alike (manager.carryOut host .blocking name invocation)
      (manager.carryOut host .cooperative name other) := by
  obtain ⟨_, _, _, input, _⟩ := alike_invocation_iff.mp alike
  unfold Manager.carryOut
  rw [input]
  refine (publish impartial (alike_refl _)).bind_same fun _ => read.bind fun state another ⟨same, around⟩ => ?_
  obtain ⟨_, _, pipeline, _⟩ := alike_managerState_iff.mp same
  rw [← pipeline]
  refine (note (.routed _)).bind_same fun _ => ?_
  refine (Run.Together.withLocal alike (Pipeline.process_inStep impartial _ around)).bind ?_
  rintro ⟨result, _⟩ ⟨returned, _⟩ ⟨ended, _⟩
  exact conclude impartial ended

theorem callInvocation {invocation other : Invocation κ} (alike : Alike invocation other) (params : Json) :
    manager.InStep host view Alike (manager.callInvocation host .blocking name invocation params)
      (manager.callInvocation host .cooperative name other params) := by
  refine (Run.Together.withLocal alike (Invocation.InStep.setUp impartial params)).bind ?_
  rintro ⟨settled, ready⟩ ⟨answered, another⟩ ⟨same, readied⟩
  cases same with
  | panic panic => exact Run.together_panic panic
  | @value answer _ same =>
    subst same
    cases answer with
    | error violation => exact (record _ _ _ _ _).bind_same fun _ => failCall impartial (alike_refl _)
    | ok _ => exact carryOut impartial readied

theorem instantiate (action : Action κ) {context other : Context} (alike : Alike context other) :
    manager.InStep host view Alike (action.instantiate host context) (action.instantiate host other) := by
  unfold Action.instantiate
  split
  · exact Run.together_pure (alike_refl _)
  · refine (note (.created action alike)).bind_same fun _ => (impartial.create _).foreign.bind_same fun hook => ?_
    refine Run.together_pure (congrArg Except.ok ?_)
    exact alike_invocation_iff.mpr ⟨rfl, rfl, alike, rfl, rfl, rfl, rfl⟩

theorem callAction (own : Option Attributes) (params : Json) (action : Action κ) :
    manager.InStep host view Alike (manager.callAction host .blocking name own params action)
      (manager.callAction host .cooperative name own params action) := by
  refine read.bind fun state another ⟨same, _⟩ => ?_
  refine (instantiate impartial action (manager.alike_contextOver own same)).bind fun made other alike => ?_
  rcases alike.of_except with ⟨rejection, rfl, rfl⟩ | ⟨invocation, another, rfl, rfl, started⟩
  · exact failCall impartial (alike_refl _)
  · exact callInvocation impartial started params

end Manager.InStep

namespace Manager

section together
variable {host : Host κ μ} {manager : Manager} {view : μ → ρ} {first second : World κ μ}
  (matched : manager.Matched host view first second)
  (impartial : host.Impartial view (manager.Matched host view)) (due : manager.DueAlike first second)
include matched impartial due

/-- A refresh before a call is made on both channels or on neither. -/
theorem refreshIfDue_together :
    (manager.refreshIfDue host .blocking first).Together Step.acrossChannels (manager.Matched host view) Eq
      (manager.refreshIfDue host .cooperative second) := by
  cases auto : manager.autoRefresh with
  | false =>
    have skipped (channel : Channel) : (manager.refreshIfDue host channel : Act κ μ Unit) = pure () := by
      unfold refreshIfDue isDue
      rw [auto]
      rfl
    rw [skipped, skipped]
    exact Run.together_pure rfl _ _ matched
  | true =>
    obtain ⟨readings, asked, later⟩ := manager.isDue_ends auto first
    obtain ⟨more, again, afterwards⟩ := manager.isDue_ends auto second
    have waited : manager.Matched host view { first with readings } { second with readings := more } :=
      ⟨matched.alike.clocked _ _ _ _, matched.around⟩
    have overdue : manager.isOverdue (manager.age 0 { first with readings }) =
        manager.isOverdue (manager.age 0 { second with readings := more }) := by
      rw [later, afterwards]
      exact due 1 (Nat.le_refl 1)
    unfold refreshIfDue
    rw [Run.bind_apply_ok asked, Run.bind_apply_ok again, due 0 (Nat.zero_le 1)]
    cases manager.isOverdue (manager.age 0 second) with
    | false => exact ⟨.value rfl, waited, .nil⟩
    | true =>
      have refreshed : ((do let _ ← manager.refresh host .blocking false [] : Act κ μ Unit)
          { first with readings }).Together Step.acrossChannels (manager.Matched host view) Eq
            ((do let _ ← manager.refresh host .cooperative false [] : Act κ μ Unit)
              { second with readings := more }) :=
        (refresh_together waited impartial false [] overdue).bind fun _ _ _ => Run.together_pure rfl
      exact ⟨refreshed.result, refreshed.state, refreshed.journal⟩

/-- Calls on the two channels end alike and take the same steps in the same order. -/
theorem call_together (own : Option Attributes) (params : Json) (name : String) :
    (manager.call host .blocking name own params first).Together Step.acrossChannels (manager.Matched host view) Alike
      (manager.call host .cooperative name own params second) := by
  refine (refreshIfDue_together matched impartial due).bind fun _ _ _ => ?_
  refine InStep.resolve.bind_same fun found => ?_
  cases found with
  | none => exact InStep.answerUnknown
  | some action => exact InStep.callAction impartial own params action

end together

/-- Plain user code makes no difference between the channels, to whoever sees whatever of its memory. -/
theorem plain_impartial (view : Unit → ρ) (worlds : World Unit Unit → World Unit Unit → Prop) :
    Host.plain.Impartial view worlds where
  create _ _ _ states := ⟨.value rfl, states⟩
  prepare _ _ states := ⟨.value rfl, states⟩
  execute _ _ _ _ _ _ states := ⟨.value (alike_refl _), states⟩
  validate _ _ _ _ _ states := ⟨.value rfl, states⟩
  before _ _ _ states := ⟨.value rfl, states⟩
  after _ _ _ _ _ _ states := ⟨.value rfl, states⟩
  load _ _ _ _ _ _ states := ⟨.value rfl, states⟩
  notify _ _ _ := Run.moves_pure _

/-- A manager that is refreshed before its first call. -/
def watchful : Manager := { modest with autoRefresh := true }

/-- A world with an action and some middleware, and with a subscriber on the blocking channel alone. -/
def watched (clock : Nat → Nat) : World Unit Unit :=
  let told := ((World.globalBus.subscribe .blocking (Event.beforeExecute "echo") ()) (World.echoing "maya")).state
  { told.setManager watchful.id ⟨∅, [], some [.performance ⟨3⟩, .logging, .custom ()], none⟩ with clock }

/-- Calls at different times, in one of which a refresh takes place at the time 0 and in the other one at 7. -/
theorem call_together_watched :
    let blocking := watchful.call Host.plain .blocking "echo" none (.obj [("x", .null)]) (watched fun _ => 0)
    let cooperative :=
      watchful.call Host.plain .cooperative "echo" none (.obj [("x", .null)]) (watched fun reading => 5 * reading + 7)
    blocking.Together Step.acrossChannels (watchful.Matched Host.plain fun memory => memory) Alike cooperative ∧
      (blocking.state.manager watchful.id).lastRefresh = some 0 ∧
      (cooperative.state.manager watchful.id).lastRefresh = some 7 := by
  have acts : ∀ link ∈ [.performance ⟨3⟩, .logging, .custom ()], Middleware.ActsAround Host.plain link :=
    fun _ _ _ _ _ => rfl
  have matched : watchful.Matched Host.plain (fun memory => memory) (watched fun _ => 0)
      (watched fun reading => 5 * reading + 7) := by
    have same : World.Alike (fun memory : Unit => memory) (watched fun _ => 0) (watched fun _ => 0) :=
      World.alike_refl _
    exact ⟨{ same with }, acts⟩
  refine ⟨call_together matched (plain_impartial _ _) (fun _ _ => rfl) none _ "echo", ?_, ?_⟩
  · decide +kernel
  · decide +kernel

end Manager

end Dispatch
