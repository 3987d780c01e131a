import Dispatch.Proofs.Call.Course
import Dispatch.Proofs.Call.Frame

namespace Dispatch

variable {κ μ : Type} {host : Host κ μ}

/-- An action that has a hook is given one, and no other action is. -/
theorem Action.creations_instantiate (action : Action κ) (context : Context) (world : World κ μ) :
    creations (action.instantiate host context world).journal = if action.hasHook then [action] else [] := by
  unfold Action.instantiate Action.hasHook
  cases action.hook with
  | none => rfl
  | some code =>
    dsimp only
    rw [Run.note_bind]
    dsimp only
    rw [Run.journal_bind_pure]
    rfl

namespace Invocation

/-- What becomes of an invocation, it stays one of the same action. -/
def Keeps (before after : World κ μ × Invocation κ) : Prop := after.2.action = before.2.action

instance : Run.Lasting (Keeps : World κ μ × Invocation κ → World κ μ × Invocation κ → Prop) where
  stays _ := rfl
  goesOn begun ended := Eq.trans ended begun

/-- Setting an invocation up does not change whose it is. -/
theorem setUp_keeps (params : Json) : Run.Moves Keeps (setUp host params : InvocationAct κ μ _) := by
  have prepares : Run.Moves Keeps (prepareOnce host : InvocationAct κ μ Unit) := by
    refine (Run.moves_state.bind fun _ => Run.moves_pure _).bind fun current => ?_
    split
    · exact Run.Moves.bind (fun _ => rfl) fun _ _ => rfl
    · exact Run.moves_pure _
  have accepts : Run.Moves Keeps (accept host params : InvocationAct κ μ _) := by
    unfold accept
    split
    · exact Run.moves_pure _
    · refine (Run.moves_state.bind fun _ => Run.moves_pure _).bind fun current => ?_
      refine Run.Moves.bind (fun _ => rfl) ?_
      rintro (violation | input)
      · exact Run.moves_pure _
      · exact Run.Moves.bind (fun _ => rfl) fun _ => Run.moves_pure _
  refine (Run.moves_state.bind fun _ => Run.moves_pure _).bind fun current => ?_
  split
  · exact Run.moves_pure _
  · exact prepares.bind fun _ => accepts

end Invocation

namespace Manager

variable {manager : Manager} {channel : Channel} {name : String}

/-- The action of its target system that a manager takes a name to stand for, or else, if it falls back, of any. -/
def choice (manager : Manager) (known : Registry κ) (name : String) : Option (Action κ) :=
  (known.get? name (some manager.target)).or (if manager.scopeFallback then known.get? name none else none)

/-- Looking a name up hands back what it stands for, and leaves the registries alone. -/
theorem resolve_ends (manager : Manager) (name : String) (world : World κ μ) :
    ∃ after, manager.resolve name world = ⟨.ok (manager.choice (world.registry manager.registry) name), after, []⟩ ∧
      after.registry = world.registry := by
  unfold resolve choice
  rw [RegistryId.read_bind]
  cases (world.registry manager.registry).get? name (some manager.target) with
  | some action => exact ⟨world, rfl, rfl⟩
  | none =>
    cases manager.scopeFallback with
    | false => exact ⟨world, rfl, rfl⟩
    | true =>
      cases (world.registry manager.registry).get? name none with
      | none => exact ⟨world, rfl, rfl⟩
      | some action => exact ⟨_, rfl, rfl⟩

/-- A call panics in its refresh, or its name stands for nothing, or the action that it stands for is called. -/
theorem call_cases (manager : Manager) (channel : Channel) (name : String) (own : Option Attributes) (params : Json)
    (world : World κ μ) :
    let before := manager.refreshIfDue host channel world
    let chosen := manager.choice (before.state.registry manager.registry) name
    let ran := manager.call host channel name own params world
    (∃ panic, before.result = .error panic ∧ ran.journal = before.journal) ∨
      (before.result = .ok () ∧ chosen = none ∧ ran.result = .ok (notFound name) ∧ ran.journal = before.journal) ∨
      ∃ action found, before.result = .ok () ∧ chosen = some action ∧
        manager.Finds host channel name world action found ∧
        ran.journal = before.journal ++ (manager.callAction host channel name own params action found).journal := by
  intro before chosen ran
  have split : ran = (manager.refreshIfDue host channel >>= fun _ =>
      manager.answer host channel name own params) world := rfl
  cases refreshed : before.result with
  | error panic =>
    rw [Run.bind_of_error refreshed] at split
    exact .inl ⟨panic, rfl, by rw [split]⟩
  | ok value =>
    obtain ⟨found, resolved, _⟩ := manager.resolve_ends name before.state
    rw [Run.bind_of_ok refreshed] at split
    unfold answer at split
    rw [Run.bind_apply_ok resolved] at split
    refine .inr ?_
    cases stands : manager.choice (before.state.registry manager.registry) name with
    | none =>
      rw [stands] at split
      refine .inl ⟨rfl, stands, by rw [split]; rfl, ?_⟩
      rw [split]
      exact List.append_nil _
    | some action =>
      rw [stands] at split resolved
      have finds : manager.Finds host channel name world action found :=
        ⟨before.state, Run.reaches_of_ok refreshed, ⟨by rw [resolved], by rw [resolved]⟩⟩
      exact .inr ⟨action, found, rfl, stands, finds, by rw [split]; rfl⟩

section creations

theorem failCall_makes_none (outcome : Outcome) :
    Run.Notes (fun step => step.creation? = none) (manager.failCall host channel name outcome) :=
  (manager.failCall_notes host channel name outcome).mono fun _ stage =>
    Step.creation?_of_stage (by rw [stage]; decide)

theorem carryOut_makes_none (invocation : Invocation κ) :
    Run.Notes (fun step => step.creation? = none) (manager.carryOut host channel name invocation) := by
  have publishes (event : Event) :
      Run.Notes (fun step => step.creation? = none) (manager.publish host channel event) :=
    (manager.publish_notes_telling host channel event).mono fun _ stage =>
      Step.creation?_of_stage (by rw [stage]; decide)
  have processes (links : Pipeline κ) : Run.Notes (fun step => step.creation? = none)
      (Run.withLocal invocation (Pipeline.process host links channel)) := by
    intro world step member
    have stage := Pipeline.process_notes host links channel (world, invocation) step member
    exact Step.creation?_of_stage (by rw [stage]; decide)
  refine (publishes _).bind fun _ => manager.read_silent.notes.bind fun state => ?_
  refine (Run.notes_note (by rfl)).bind fun _ => (processes _).bind fun processed => ?_
  obtain ⟨returned, _⟩ := processed
  cases returned with
  | error panic => exact failCall_makes_none _
  | ok outcome => exact (publishes _).bind fun _ => Run.notes_pure _

/-- Once its invocation is there, a call makes no other hook. -/
theorem callInvocation_makes_none (invocation : Invocation κ) (params : Json) :
    Run.Notes (fun step => step.creation? = none) (manager.callInvocation host channel name invocation params) := by
  have settles : Run.Notes (fun step => step.creation? = none)
      (Run.withLocal invocation (Invocation.setUp host params)) := fun world step member =>
    (Invocation.setUp_notes host params (world, invocation) step member).2
  refine settles.bind fun settled => ?_
  obtain ⟨returned, ready⟩ := settled
  rcases returned with panic | violation | accepted
  · exact fun _ _ member => nomatch member
  · exact (Act.record_silent _ _ _).notes.bind fun _ => failCall_makes_none _
  · exact carryOut_makes_none ready

/-- The call of an action that was found makes a hook for it, and no other. -/
theorem creations_callAction (own : Option Attributes) (params : Json) (action : Action κ) (world : World κ μ) :
    creations (manager.callAction host channel name own params action world).journal =
      if action.hasHook then [action] else [] := by
  unfold callAction
  rw [read_bind]
  cases instantiated :
      (action.instantiate host (manager.contextOver own (world.manager manager.id)) world).result with
  | error panic =>
    rw [Run.bind_of_error instantiated]
    exact action.creations_instantiate _ world
  | ok made =>
    rw [Run.bind_of_ok instantiated]
    dsimp only
    rw [creations_append, action.creations_instantiate]
    cases made with
    | error rejection =>
      dsimp only
      rw [creations_eq_nil (failCall_makes_none _ _), List.append_nil]
    | ok invocation =>
      dsimp only
      rw [creations_eq_nil (callInvocation_makes_none invocation params _), List.append_nil]

/-- A call makes a hook for what its name stands for once the manager has been refreshed, if this can be executed. -/
theorem creations_call {own : Option Attributes} {params : Json} {world : World κ μ}
    (executable : ∀ action : Action κ, manager.choice
      ((manager.refreshIfDue host channel world).state.registry manager.registry) name = some action →
        action.hasHook = true) :
    creations (manager.call host channel name own params world).journal =
      match (manager.refreshIfDue host channel world).result with
      | .ok () =>
        (manager.choice ((manager.refreshIfDue host channel world).state.registry manager.registry) name).toList
      | .error _ => [] := by
  have before : creations (manager.refreshIfDue host channel world).journal = [] := by
    refine creations_eq_nil fun step member => Step.creation?_of_stage ?_
    rcases (refreshIfDue_notes world step member).1 with stage | stage <;> rw [stage] <;> decide
  rcases manager.call_cases channel name own params world with
    ⟨panic, panicked, journal⟩ | ⟨refreshed, missing, _, journal⟩ | ⟨action, found, refreshed, chosen, _, journal⟩
  · rw [journal, panicked, before]
  · rw [journal, refreshed, missing, before]
    rfl
  · rw [journal, refreshed, chosen, creations_append, before, creations_callAction, if_pos (executable action chosen)]
    rfl

end creations

section processing
variable {own : Option Attributes} {params : Json} {world : World κ μ} {step : Step κ}

/-- Parameters are accepted only once the manager has been refreshed. -/
theorem Accepts.refreshed {input : Attributes} {invocation : Invocation κ} {accepted : World κ μ}
    (accepts : manager.Accepts host channel name own params world input invocation accepted) :
    (manager.refreshIfDue host channel world).result = .ok () := by
  obtain ⟨makes, _, _, _⟩ := accepts
  obtain ⟨_, _, ⟨_, refreshes, _⟩, _⟩ := makes
  exact refreshes.returned

/-- Something is processed only once an invocation is set up. -/
theorem settled_of_processing {invocation : Invocation κ} {ready : World κ μ}
    (member : step ∈ (manager.callInvocation host channel name invocation params ready).journal)
    (processing : step.stage = .processing) :
    (Invocation.setUp host params (ready, invocation)).result = .ok (.ok ()) := by
  have settling : step ∉ (Invocation.setUp host params (ready, invocation)).journal := by
    intro early
    rw [(Invocation.setUp_notes host params _ step early).1] at processing
    cases processing
  unfold callInvocation at member
  rw [Run.bind_of_ok rfl] at member
  simp only [Run.withLocal_apply] at member
  have late := (List.mem_append.mp member).resolve_left settling
  cases settled : (Invocation.setUp host params (ready, invocation)).result with
  | error panic =>
    rw [settled] at late
    cases late
  | ok accepted =>
    cases accepted with
    | ok value => rfl
    | error violation =>
      simp only [settled, Act.record_bind] at late
      rw [manager.failCall_notes host channel name _ _ step late] at processing
      cases processing

/-- What is processed in a call is an invocation of the action that was found, with its parameters accepted. -/
theorem accepts_of_processing_found {action : Action κ} {found : World κ μ}
    (finds : manager.Finds host channel name world action found)
    (member : step ∈ (manager.callAction host channel name own params action found).journal)
    (processing : step.stage = .processing) :
    ∃ input invocation accepted, manager.Accepts host channel name own params world input invocation accepted ∧
      invocation.action = action := by
  unfold callAction at member
  rw [read_bind] at member
  have making :
      step ∉ (action.instantiate host (manager.contextOver own (found.manager manager.id)) found).journal := by
    intro early
    rw [Action.instantiate_notes host action _ found step early] at processing
    cases processing
  cases instantiated :
      (action.instantiate host (manager.contextOver own (found.manager manager.id)) found).result with
  | error panic =>
    rw [Run.bind_of_error instantiated] at member
    exact absurd member making
  | ok made =>
    rw [Run.bind_of_ok instantiated] at member
    have late := (List.mem_append.mp member).resolve_left making
    cases made with
    | error rejection =>
      rw [manager.failCall_notes host channel name _ _ step late] at processing
      cases processing
    | ok invocation =>
      have makes : manager.Makes host channel name own world invocation _ :=
        ⟨action, found, finds, Run.reaches_of_ok instantiated⟩
      obtain ⟨input, accepts⟩ := accepts_of_setUp makes (settled_of_processing late processing)
      obtain ⟨hook, rfl⟩ := Action.instantiate_ok host instantiated
      exact ⟨input, _, _, accepts, Invocation.setUp_keeps params _⟩

/-- What is processed in a call is an invocation of the action that its name stands for. -/
theorem accepts_of_processing (member : step ∈ (manager.call host channel name own params world).journal)
    (processing : step.stage = .processing) :
    ∃ input invocation accepted, manager.Accepts host channel name own params world input invocation accepted ∧
      manager.choice ((manager.refreshIfDue host channel world).state.registry manager.registry) name =
        some invocation.action := by
  have refreshing : step ∉ (manager.refreshIfDue host channel world).journal := by
    intro early
    rcases (refreshIfDue_notes world step early).1 with stage | stage <;> rw [stage] at processing <;> cases processing
  rcases manager.call_cases channel name own params world with
    ⟨_, _, journal⟩ | ⟨_, _, _, journal⟩ | ⟨action, found, _, chosen, finds, journal⟩
  · rw [journal] at member
    exact absurd member refreshing
  · rw [journal] at member
    exact absurd member refreshing
  · rw [journal] at member
    have late := (List.mem_append.mp member).resolve_left refreshing
    obtain ⟨input, invocation, accepted, accepts, same⟩ := accepts_of_processing_found finds late processing
    exact ⟨input, invocation, accepted, accepts, by rw [same, chosen]⟩

end processing

end Manager

end Dispatch
