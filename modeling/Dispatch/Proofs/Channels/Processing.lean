import Dispatch.Proofs.Channels.Refresh
import Dispatch.Proofs.Invocation.Uses

namespace Dispatch

variable {κ μ ρ α : Type} (host : Host κ μ) (manager : Manager) (view : μ → ρ)

/-- Runs on invocations that are alike, on the one channel and on the other. -/
def Invocation.InStep (values : α → α → Prop) (blocking cooperative : InvocationAct κ μ α) : Prop :=
  Run.Together Step.acrossChannels (Both (manager.Matched host view) Alike) values blocking cooperative

namespace Invocation.InStep

variable {host manager view}

/-- What is run in the world alone leaves the invocation as it is. -/
theorem onFirst {values : α → α → Prop} {blocking cooperative : Act κ μ α}
    (inStep : manager.InStep host view values blocking cooperative) :
    Invocation.InStep host manager view values (Run.onFirst blocking) (Run.onFirst cooperative) :=
  Run.Together.onFirst inStep

theorem note {blocking cooperative : Step κ} (same : blocking.Corresponds cooperative) :
    Invocation.InStep host manager view Eq (Run.note blocking) (Run.note cooperative) :=
  Run.together_note same

theorem read : Invocation.InStep host manager view Alike invocation invocation := fun _ _ states =>
  ⟨.value states.2, states, .nil⟩

theorem update {f g : Invocation κ → Invocation κ}
    (same : ∀ first second, Alike first second → Alike (f first) (g second)) :
    Invocation.InStep host manager view Eq (Invocation.update f) (Invocation.update g) :=
  Run.together_update fun _ _ states => ⟨states.1, same _ _ states.2⟩

/-- Invocations that are alike are of the same action. -/
theorem name_eq {first second : Invocation κ} (alike : Alike first second) : first.name = second.name :=
  congrArg Action.name (alike_invocation_iff.mp alike).1

section setUp
variable (impartial : host.Impartial view (manager.Matched host view))
include impartial

theorem validate {first second : Invocation κ} (alike : Alike first second) (params : Attributes) :
    manager.InStep host view Eq (first.validate host params) (second.validate host params) := by
  obtain ⟨action, _⟩ := alike_invocation_iff.mp alike
  refine (Manager.InStep.note (.validated params)).bind_same fun _ => ?_
  rw [action]
  split
  · exact Run.together_pure rfl
  · exact (impartial.validate _ _ params).foreign

/-- The hook is prepared with contexts that are alike, and leaves contexts that are alike. -/
theorem prepareHook :
    Invocation.InStep host manager view Eq (Invocation.prepareHook host) (Invocation.prepareHook host) := by
  rintro ⟨first, invocation⟩ ⟨second, other⟩ ⟨matched, alike⟩
  obtain ⟨action, hook, context, rest⟩ := alike_invocation_iff.mp alike
  obtain ⟨result, worlds, hooks, contexts⟩ :=
    impartial.prepare (first, invocation.hook, invocation.context) (second, other.hook, other.context)
      ⟨matched, hook, context⟩
  exact ⟨result, ⟨worlds, alike_invocation_iff.mpr ⟨action, hooks, contexts, rest⟩⟩, .both .prepared .nil⟩

theorem prepareOnce :
    Invocation.InStep host manager view Eq (Invocation.prepareOnce host) (Invocation.prepareOnce host) := by
  refine read.bind fun first second alike => ?_
  obtain ⟨_, _, _, _, _, _, prepared⟩ := alike_invocation_iff.mp alike
  rw [prepared]
  split
  · refine (prepareHook impartial).bind_same fun _ => update fun _ _ alike => ?_
    obtain ⟨action, hook, context, input, output, phase, _⟩ := alike_invocation_iff.mp alike
    exact alike_invocation_iff.mpr ⟨action, hook, context, input, output, phase, rfl⟩
  · exact Run.together_pure rfl

theorem accept (params : Json) :
    Invocation.InStep host manager view Eq (Invocation.accept host params) (Invocation.accept host params) := by
  unfold Invocation.accept
  split
  · exact Run.together_pure rfl
  · refine read.bind fun first second alike => (onFirst (validate impartial alike _)).bind_same fun validated => ?_
    cases validated with
    | error violation => exact Run.together_pure rfl
    | ok input =>
      refine Run.Together.bind_same (update fun _ _ alike => ?_) fun _ => Run.together_pure rfl
      obtain ⟨action, hook, context, _, output, _, prepared⟩ := alike_invocation_iff.mp alike
      exact alike_invocation_iff.mpr ⟨action, hook, context, rfl, output, rfl, prepared⟩

theorem setUp (params : Json) :
    Invocation.InStep host manager view Eq (Invocation.setUp host params) (Invocation.setUp host params) := by
  refine read.bind fun first second alike => ?_
  obtain ⟨_, _, _, _, _, phase, _⟩ := alike_invocation_iff.mp alike
  rw [phase, name_eq alike]
  split
  · exact Run.together_pure rfl
  · exact (prepareOnce impartial).bind_same fun _ => accept impartial params

end setUp

section process

/-- Invocations that are alike are ready with the same input, or not ready for the same reason. -/
theorem readyInput_eq {first second : Invocation κ} (alike : Alike first second) :
    first.readyInput = second.readyInput := by
  obtain ⟨_, _, _, input, _, phase, _⟩ := alike_invocation_iff.mp alike
  unfold readyInput
  rw [phase, input, name_eq alike]

theorem refuse {first second : Invocation κ} (alike : Alike first second) (failure : Failure) :
    manager.InStep host view Alike (first.refuse failure) (second.refuse failure) := by
  refine (Manager.InStep.record _ _ _ _ _).bind_same fun _ => Run.together_pure ?_
  rw [name_eq alike]
  exact alike_refl _

/-- What the hook hands back decides on phase, output and outcome, on either channel. -/
theorem finish {returned other : Except Failure Output} (alike : Alike returned other) :
    Invocation.InStep host manager view Alike (Invocation.finish returned) (Invocation.finish other) := by
  refine read.bind fun first second same => ?_
  obtain ⟨phase, output, outcome⟩ := alike_settle second.name alike
  rw [name_eq same]
  refine Run.Together.bind_same (update fun _ _ same => ?_) fun _ => ?_
  · obtain ⟨action, hook, context, input, before, _, prepared⟩ := alike_invocation_iff.mp same
    exact alike_invocation_iff.mpr ⟨action, hook, context, input, output.orElse before, phase, prepared⟩
  · rcases alike_returned alike with
      ⟨failure, rfl, rfl⟩ | ⟨values, others, prompt, rfl, rfl, _⟩ | ⟨made, another, rfl, rfl, _⟩
    · exact (onFirst (Manager.InStep.record _ _ _ _ _)).bind_same fun _ => Run.together_pure outcome
    · exact Run.together_pure outcome
    · exact Run.together_pure outcome

/-- The same panic is the same failure. -/
theorem alike_of_sameResult {result other : Except Panic (Except Failure Output)}
    (same : SameResult Alike result other) : Alike (returned result) (returned other) := by
  cases same with
  | value alike => exact alike
  | panic panic => exact alike_refl _

variable (impartial : host.Impartial view (manager.Matched host view))
include impartial

theorem runHook (input : Attributes) :
    Invocation.InStep host manager view Alike (Invocation.runHook host .blocking input)
      (Invocation.runHook host .cooperative input) := by
  rintro ⟨first, invocation⟩ ⟨second, other⟩ ⟨matched, alike⟩
  obtain ⟨action, hook, context, rest⟩ := alike_invocation_iff.mp alike
  obtain ⟨result, worlds, hooks⟩ :=
    impartial.execute input context (first, invocation.hook) (second, other.hook) ⟨matched, hook⟩
  rw [runHook_apply, runHook_apply]
  refine ⟨.value (alike_of_sameResult result), ⟨worlds, ?_⟩, .both (.executed input) .nil⟩
  exact alike_invocation_iff.mpr ⟨action, hooks, context, rest⟩

theorem process :
    Invocation.InStep host manager view Alike (Invocation.process host .blocking)
      (Invocation.process host .cooperative) := by
  refine read.bind fun first second alike => ?_
  rw [readyInput_eq alike]
  split
  · exact onFirst (refuse alike _)
  · exact (runHook impartial _).bind fun returned other same => finish same

end process

end Invocation.InStep

namespace Middleware

variable {host manager view} {rest other : InvocationAct κ μ Outcome}
  (inside : Invocation.InStep host manager view Alike rest other)

section builtIn
include inside

/-- Logging calls of either channel leaves different records, and the same outcome. -/
theorem logged_inStep :
    Invocation.InStep host manager view Alike (logged .blocking rest) (logged .cooperative other) := by
  refine Invocation.InStep.read.bind fun _ _ _ => ?_
  refine (Invocation.InStep.onFirst (Manager.InStep.record _ _ _ _ _)).bind_same fun _ => ?_
  refine (Invocation.InStep.onFirst Manager.InStep.now).bind fun start begin _ => ?_
  refine inside.bind fun outcome result alike => ?_
  refine (Invocation.InStep.onFirst (Manager.InStep.elapsedSince start begin)).bind fun elapsed longer _ => ?_
  refine Invocation.InStep.read.bind fun _ _ _ => ?_
  rw [(alike_outcome_iff.mp alike).1]
  refine (Invocation.InStep.onFirst ?_).bind_same fun _ => Run.together_pure alike
  split
  · exact Manager.InStep.record _ _ _ _ _
  · exact Manager.InStep.record _ _ _ _ _

/-- The time that something took is not compared. -/
theorem timed_inStep (threshold : Duration) :
    Invocation.InStep host manager view Alike (timed threshold rest) (timed threshold other) := by
  refine (Invocation.InStep.onFirst Manager.InStep.now).bind fun start begin _ => ?_
  refine inside.bind fun outcome result alike => ?_
  refine (Invocation.InStep.onFirst (Manager.InStep.elapsedSince start begin)).bind fun elapsed longer _ => ?_
  obtain ⟨_, _, _, _, context⟩ := alike_outcome_iff.mp alike
  have noted : Alike
      (outcome.withValue performanceKey (withTime (outcome.context.get? performanceKey) (secondsJson elapsed)))
      (result.withValue performanceKey (withTime (result.context.get? performanceKey) (secondsJson longer))) := by
    refine Outcome.alike_withValue alike performanceKey ?_
    rw [Json.under_of_ne (by decide), Json.under_of_ne (by decide)]
    exact alike_withTime (context.get? (by decide)) elapsed longer
  -- Only the records tell whether the time was too long.
  split <;> split <;>
    exact fun _ _ states =>
      ⟨.value noted, ⟨⟨states.1.alike.clocked _ _ _ _, states.1.around⟩, states.2⟩, .nil⟩

end builtIn

variable (impartial : host.Impartial view (manager.Matched host view))
include impartial

/-- User code that edits outcomes that are alike leaves outcomes that are alike. -/
theorem edited_inStep (code : κ) {outcome result : Outcome} (alike : Alike outcome result) :
    Invocation.InStep host manager view Alike (edited host code outcome) (edited host code result) := by
  rintro ⟨first, invocation⟩ ⟨second, another⟩ ⟨matched, same⟩
  obtain ⟨ended, worlds, outcomes⟩ := impartial.after code same (first, outcome) (second, result) ⟨matched, alike⟩
  exact ⟨ended.map fun _ _ _ => outcomes, ⟨worlds, same⟩, .both (.after code) .nil⟩

include inside

theorem around_inStep (code : κ) :
    Invocation.InStep host manager view Alike (around host code rest) (around host code other) := by
  refine (Invocation.InStep.note (.before code)).bind_same fun _ => ?_
  refine (impartial.before code).foreign.bind_same fun _ => inside.bind fun outcome result alike => ?_
  exact edited_inStep impartial code alike

end Middleware

namespace Pipeline

variable {host manager view} (impartial : host.Impartial view (manager.Matched host view))
include impartial

/-- Links that act only before and after the rest keep what goes on inside them in step. -/
theorem process_inStep (links : Pipeline κ) (around : ∀ link ∈ links, link.ActsAround host) :
    Invocation.InStep host manager view Alike (process host links .blocking) (process host links .cooperative) := by
  induction links with
  | nil => exact Invocation.InStep.process impartial
  | cons first rest ih =>
    obtain ⟨acts, others⟩ := List.forall_mem_cons.mp around
    have inside := ih others
    refine (Invocation.InStep.note (.entered first)).bind_same fun _ => ?_
    cases first with
    | logging => exact Middleware.logged_inStep inside
    | performance threshold => exact Middleware.timed_inStep inside threshold
    | custom code =>
      unfold link
      simp only [acts code rfl]
      exact Middleware.around_inStep inside impartial code

end Pipeline

end Dispatch
