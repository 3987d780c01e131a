import Dispatch.Proofs.Host
import Dispatch.Proofs.Invocation.SetUp
import Dispatch.Proofs.Refresh

namespace Dispatch.Manager

variable {κ μ : Type} (host : Host κ μ) (manager : Manager) (channel : Channel) (name : String)

/-- A call finds its action, and goes on from this world. -/
def Finds (world : World κ μ) (action : Action κ) (found : World κ μ) : Prop :=
  ∃ refreshed, Run.Reaches (manager.refreshIfDue host channel) world () refreshed ∧
    Run.Reaches (manager.resolve name) refreshed (some action) found

/-- A call makes its invocation, and goes on from this world. -/
def Makes (own : Option Attributes) (world : World κ μ) (invocation : Invocation κ) (ready : World κ μ) : Prop :=
  ∃ action found, manager.Finds host channel name world action found ∧
    Run.Reaches (action.instantiate host (manager.contextOver own (found.manager manager.id))) found
      (.ok invocation) ready

variable {host manager channel name} in
/-- The invocation of a call starts afresh. -/
theorem Makes.starts {own : Option Attributes} {world ready : World κ μ} {invocation : Invocation κ}
    (makes : manager.Makes host channel name own world invocation ready) :
    ∃ action hook context, invocation = .start action hook context := by
  obtain ⟨action, _, _, instantiated⟩ := makes
  obtain ⟨hook, started⟩ := Action.instantiate_ok host instantiated.returned
  exact ⟨action, hook, _, started⟩

/-- The ways of a panic out of a call: in a loader, in the factory of a hook, in its preparation, or in a validator. -/
inductive Escapes (own : Option Attributes) (params : Json) (world : World κ μ) (panic : Panic) : Prop
  | loading {begun : World κ μ} {elapsed : Option Duration}
      (due : Run.Reaches manager.isDue world true begun)
      (read : (manager.sinceRefresh begun).result = .ok elapsed)
      (needed : manager.needsRefresh false [] elapsed = true)
      (panics : manager.LoadingPanics host panic (manager.searchPaths ++ [])
        (manager.approachModules host channel false begun).state)
  | creating {action : Action κ} {found : World κ μ} {code : κ}
      (finds : manager.Finds host channel name world action found)
      (hook : action.hook = some code)
      (panics : (host.create code found).result = .error panic)
  | preparing {invocation : Invocation κ} {ready : World κ μ}
      (makes : manager.Makes host channel name own world invocation ready)
      (panics : (host.prepare (ready, invocation.hook, invocation.context)).result = .error panic)
  | validating {invocation prepared : Invocation κ} {ready middle : World κ μ} {table : Attributes} {code : κ}
      (makes : manager.Makes host channel name own world invocation ready)
      (prepares : Run.Reaches (Invocation.prepareOnce host) (ready, invocation) () (middle, prepared))
      (given : Schema.parameters params = .ok table)
      (validator : prepared.action.validator = some code)
      (panics : (host.validate code prepared.action.schema table middle).result = .error panic)

section guarded

theorem failCall_returns (outcome : Outcome) : Run.Returns (manager.failCall host channel name outcome) :=
  (Act.record_silent _ _ _).returns.bind fun _ => (manager.publish_returns host channel _).bind fun _ =>
    Run.returns_pure _

theorem conclude_returns (processed : Except Panic Outcome) :
    Run.Returns (manager.conclude host channel name processed) := by
  cases processed with
  | error panic => exact manager.failCall_returns host channel name _
  | ok outcome => exact (manager.publish_returns host channel _).bind fun _ => Run.returns_pure _

/-- Whatever the links and the hook do, a call that is set up returns. -/
theorem carryOut_returns (invocation : Invocation κ) :
    Run.Returns (manager.carryOut host channel name invocation) :=
  (manager.publish_returns host channel _).bind fun _ => manager.read_silent.returns.bind fun _ =>
    (Run.returns_note _).bind fun _ => (Run.returns_withLocal _ _).bind fun settled =>
      manager.conclude_returns host channel name settled.1

theorem resolve_silent : Run.Silent (manager.resolve name : Act κ μ (Option (Action κ))) := by
  refine manager.registry.read_silent.bind fun registry => ?_
  split
  · exact Run.silent_pure _
  · split
    · exact Run.silent_pure _
    · split
      · exact Run.silent_pure _
      · exact (Act.record_silent _ _ _).bind fun _ => Run.silent_pure _

theorem answerUnknown_silent : Run.Silent (manager.answerUnknown name : Act κ μ Outcome) :=
  (Act.record_silent _ _ _).bind fun _ => Run.silent_pure _

end guarded

/-- Before a call looks for its action only the refresh can panic. -/
theorem refreshIfDue_panics_iff (world : World κ μ) (panic : Panic) :
    (manager.refreshIfDue host channel world).result = .error panic ↔
      ∃ begun elapsed, Run.Reaches manager.isDue world true begun ∧
        (manager.sinceRefresh begun).result = .ok elapsed ∧ manager.needsRefresh false [] elapsed = true ∧
        manager.LoadingPanics host panic (manager.searchPaths ++ [])
          (manager.approachModules host channel false begun).state := by
  unfold refreshIfDue
  rw [manager.isDue_silent.returns.bind_panics_iff]
  constructor
  · rintro ⟨due, returned, panicked⟩
    cases due with
    | false => cases panicked
    | true =>
      simp only [if_true] at panicked
      rw [Run.bind_panics_iff_of_returns fun _ => Run.returns_pure _] at panicked
      obtain ⟨elapsed, read, needed, panics⟩ := (manager.refresh_panics_iff host channel _ _ _ _).mp panicked
      exact ⟨_, elapsed, Run.reaches_of_ok returned, read, needed, panics⟩
  · rintro ⟨begun, elapsed, ⟨returned, rfl⟩, read, needed, panics⟩
    refine ⟨true, returned, ?_⟩
    simp only [if_true]
    rw [Run.bind_panics_iff_of_returns fun _ => Run.returns_pure _]
    exact (manager.refresh_panics_iff host channel _ _ _ _).mpr ⟨elapsed, read, needed, panics⟩

/-- A call with an invocation panics just when the invocation's set-up does. -/
theorem callInvocation_panics_iff (invocation : Invocation κ) (params : Json) (world : World κ μ)
    (panic : Panic) :
    (manager.callInvocation host channel name invocation params world).result = .error panic ↔
      (Invocation.setUp host params (world, invocation)).result = .error panic := by
  unfold callInvocation
  rw [Run.bind_of_ok rfl]
  cases settled : (Invocation.setUp host params (world, invocation)).result with
  | error other => simp [settled]
  | ok accepted =>
    cases accepted with
    | error violation => simp [settled, (manager.failCall_returns host channel name _).not_panic]
    | ok accepted => simp [settled, (manager.carryOut_returns host channel name _).not_panic]

/-- The call of an action panics in the factory of its hook or over setting its invocation up. -/
theorem callAction_panics_iff (own : Option Attributes) (params : Json) (action : Action κ)
    (world : World κ μ) (panic : Panic) :
    (manager.callAction host channel name own params action world).result = .error panic ↔
      (∃ code, action.hook = some code ∧ (host.create code world).result = .error panic) ∨
        ∃ invocation ready,
          Run.Reaches (action.instantiate host (manager.contextOver own (world.manager manager.id))) world
            (.ok invocation) ready ∧
          (Invocation.setUp host params (ready, invocation)).result = .error panic := by
  unfold callAction
  rw [read_bind, Run.bind_panics_iff, Action.instantiate_panics_iff]
  refine or_congr Iff.rfl ?_
  constructor
  · rintro ⟨made, returned, panicked⟩
    cases made with
    | error rejection => exact absurd panicked (manager.failCall_returns host channel name _).not_panic
    | ok invocation =>
      exact ⟨invocation, _, Run.reaches_of_ok returned,
        (manager.callInvocation_panics_iff host channel name _ _ _ _).mp panicked⟩
  · rintro ⟨invocation, ready, ⟨returned, rfl⟩, panicked⟩
    exact ⟨.ok invocation, returned, (manager.callInvocation_panics_iff host channel name _ _ _ _).mpr panicked⟩

/-- A panic over the call of the action that was found gets out. -/
theorem call_panics_of_found {own : Option Attributes} {params : Json} {world found : World κ μ}
    {action : Action κ} {panic : Panic} (finds : manager.Finds host channel name world action found)
    (panics : (manager.callAction host channel name own params action found).result = .error panic) :
    (manager.call host channel name own params world).result = .error panic := by
  obtain ⟨_, ⟨refreshed, rfl⟩, ⟨resolved, rfl⟩⟩ := finds
  unfold call
  rw [Run.bind_of_ok refreshed, Run.bind_of_ok resolved]
  exact panics

/-- A panic over setting the invocation up gets out. -/
theorem call_panics_of_made {own : Option Attributes} {params : Json} {world ready : World κ μ}
    {invocation : Invocation κ} {panic : Panic} (makes : manager.Makes host channel name own world invocation ready)
    (panics : (Invocation.setUp host params (ready, invocation)).result = .error panic) :
    (manager.call host channel name own params world).result = .error panic := by
  obtain ⟨action, found, finds, instantiated⟩ := makes
  exact manager.call_panics_of_found host channel name finds
    ((manager.callAction_panics_iff host channel name own params action found panic).mpr
      (.inr ⟨invocation, ready, instantiated, panics⟩))

/-- A panic of user code that escapes a call is one of four. -/
theorem escapes_of_call_panics {own : Option Attributes} {params : Json} {world : World κ μ} {panic : Panic}
    (panicked : (manager.call host channel name own params world).result = .error panic) :
    manager.Escapes host channel name own params world panic := by
  unfold call at panicked
  rw [Run.bind_panics_iff, refreshIfDue_panics_iff] at panicked
  rcases panicked with ⟨begun, elapsed, due, read, needed, panics⟩ | ⟨_, refreshed, panicked⟩
  · exact .loading due read needed panics
  · rw [(manager.resolve_silent name).returns.bind_panics_iff] at panicked
    obtain ⟨action?, resolved, panicked⟩ := panicked
    cases action? with
    | none => exact absurd panicked (manager.answerUnknown_silent name).returns.not_panic
    | some action =>
      have finds : manager.Finds host channel name world action _ :=
        ⟨_, Run.reaches_of_ok refreshed, Run.reaches_of_ok resolved⟩
      rcases (manager.callAction_panics_iff host channel name own params action _ panic).mp panicked with
        ⟨code, hook, panicked⟩ | ⟨invocation, ready, instantiated, panicked⟩
      · exact .creating finds hook panicked
      · obtain ⟨hook, rfl⟩ := Action.instantiate_ok host instantiated.returned
        have makes : manager.Makes host channel name own world _ ready := ⟨action, _, finds, instantiated⟩
        rcases (Invocation.setUp_panics_iff host rfl rfl params ready panic).mp panicked with
          panicked | ⟨middle, prepared, table, code, prepares, given, validator, panicked⟩
        · exact .preparing makes panicked
        · exact .validating makes prepares given validator panicked

/-- A call panics just when a panic of user code escapes it. -/
theorem call_panics_iff (own : Option Attributes) (params : Json) (world : World κ μ) (panic : Panic) :
    (manager.call host channel name own params world).result = .error panic ↔
      manager.Escapes host channel name own params world panic := by
  refine ⟨manager.escapes_of_call_panics host channel name, fun escapes => ?_⟩
  cases escapes with
  | loading due read needed panics =>
    have panicked := (manager.refreshIfDue_panics_iff host channel world panic).mpr
      ⟨_, _, due, read, needed, panics⟩
    unfold call
    rw [Run.bind_of_error panicked]
  | creating finds hook panics =>
    exact manager.call_panics_of_found host channel name finds
      ((manager.callAction_panics_iff host channel name own params _ _ panic).mpr (.inl ⟨_, hook, panics⟩))
  | @preparing invocation ready makes panics =>
    obtain ⟨action, hook, context, rfl⟩ := makes.starts
    exact manager.call_panics_of_made host channel name makes
      ((Invocation.setUp_panics_iff host rfl rfl params ready panic).mpr (.inl panics))
  | @validating invocation prepared ready middle table code makes prepares given validator panics =>
    obtain ⟨action, hook, context, rfl⟩ := makes.starts
    exact manager.call_panics_of_made host channel name makes
      ((Invocation.setUp_panics_iff host rfl rfl params ready panic).mpr
        (.inr ⟨middle, prepared, table, code, prepares, given, validator, panics⟩))

variable {host manager channel name} in
/-- Subscribers, middleware and hooks that fail or panic keep no call from its outcome. -/
theorem call_returns_of_calm (calm : host.Calm) (own : Option Attributes) (params : Json) :
    Run.Returns (manager.call host channel name own params) := by
  intro world
  cases ran : (manager.call host channel name own params world).result with
  | ok outcome => exact ⟨outcome, rfl⟩
  | error panic =>
    exfalso
    cases manager.escapes_of_call_panics host channel name ran with
    | loading _ _ _ panics => exact panics.not_of_calm calm
    | creating _ _ panics => exact (calm.create _).not_panic panics
    | preparing _ panics => exact calm.prepare.not_panic panics
    | validating _ _ _ _ panics => exact (calm.validate _ _ _).not_panic panics

/-- A call returns an outcome, or it ends with the panic of user code that escapes it. -/
theorem call_ends (own : Option Attributes) (params : Json) (world : World κ μ) :
    ((∃ outcome, (manager.call host channel name own params world).result = .ok outcome) ↔
        ¬∃ panic, manager.Escapes host channel name own params world panic) ∧
      ∀ panic, (manager.call host channel name own params world).result = .error panic ↔
        manager.Escapes host channel name own params world panic := by
  refine ⟨?_, manager.call_panics_iff host channel name own params world⟩
  simp only [← call_panics_iff]
  cases (manager.call host channel name own params world).result with
  | error panic => simp
  | ok outcome => simp

/-- It is not true that every call returns: a hook that panics over its preparation is enough. -/
theorem call_not_total : ¬∀ (κ μ : Type) (host : Host κ μ) (manager : Manager) (channel : Channel) (name : String)
    (own : Option Attributes) (params : Json) (world : World κ μ),
    ∃ outcome, (manager.call host channel name own params world).result = .ok outcome := by
  intro returns
  obtain ⟨outcome, returned⟩ := returns Unit Unit { Host.plain with prepare := Run.panic (.text "boom") }
    .modest .blocking "echo" none (.obj []) (.echoing "maya")
  have panicked : (Manager.modest.call { Host.plain with prepare := Run.panic (.text "boom") } .blocking "echo"
      none (.obj []) (World.echoing "maya")).result = .error (.text "boom") := rfl
  rw [panicked] at returned
  cases returned

end Dispatch.Manager
