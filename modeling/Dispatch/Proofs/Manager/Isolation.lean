import Dispatch.Proofs.Call.Creations
import Dispatch.Proofs.Manager.Availability
import Dispatch.Proofs.Registry.Elsewhere

namespace Dispatch

variable {κ μ : Type}

/-- User code of discoveries, and subscribers, only edit a registry. -/
structure Host.Defers (host : Host κ μ) (registry : RegistryId) : Prop extends host.Respects registry where
  notify (code : κ) (channel : Channel) (event : Event) : Run.Moves registry.Develops (host.notify code channel event)

namespace Manager

variable {host : Host κ μ} {manager : Manager} {channel : Channel}

section refresh

theorem sinceRefresh_registry (manager : Manager) (world : World κ μ) :
    ((manager.sinceRefresh : Act κ μ (Option Duration)) world).state.registry = world.registry := by
  unfold sinceRefresh
  rw [read_bind]
  cases (world.manager manager.id).lastRefresh <;> rfl

/-- Whether a manager is due is a question for its own state and for the clock. -/
theorem isDue_registry (manager : Manager) (world : World κ μ) :
    ((manager.isDue : Act κ μ Bool) world).state.registry = world.registry := by
  unfold isDue
  cases manager.autoRefresh with
  | false => rfl
  | true =>
    rw [if_pos rfl, Run.state_bind_pure]
    exact manager.sinceRefresh_registry world

/-- Looking for modules edits the registry as the discoveries do. -/
theorem rediscover_develops (respects : host.Respects manager.registry) (extraPaths : List String) :
    Run.Moves manager.registry.Develops (manager.rediscover host extraPaths) := by
  have begins : Run.Moves manager.registry.Develops (manager.beginRefresh : Act κ μ Unit) := fun _ =>
    manager.registry.develops_of_same rfl
  have discovers (paths : List String) : Run.Moves manager.registry.Develops (manager.discoverPaths host paths) :=
    (Run.Moves.forEach (fun _ => RegistryId.discover_moves respects _ _ _) paths).bind fun _ => Run.moves_pure _
  have lists : Run.Moves manager.registry.Develops (manager.available : Act κ μ (List String)) :=
    manager.registry.read_moves.bind fun _ => Run.moves_pure _
  exact begins.bind fun _ => (discovers _).bind fun _ => lists.bind fun _ =>
    (manager.registry.record_moves _ _ _).bind fun _ => Run.moves_pure _

/-- Refreshing a manager before a call only edits its registry. -/
theorem refreshIfDue_develops (defers : host.Defers manager.registry) :
    Run.Moves manager.registry.Develops (manager.refreshIfDue host channel) := by
  have publishes (event : Event) : Run.Moves manager.registry.Develops (manager.publish host channel event) :=
    (manager.bus.publish_moves channel manager.registry.record_moves defers.notify _ _).bind fun _ => Run.moves_pure _
  have asks : Run.Moves manager.registry.Develops (manager.isDue : Act κ μ Bool) := fun world =>
    manager.registry.develops_of_same (by rw [isDue_registry])
  have measures : Run.Moves manager.registry.Develops (manager.sinceRefresh : Act κ μ (Option Duration)) := fun world =>
    manager.registry.develops_of_same (by rw [sinceRefresh_registry])
  have skips (elapsed : Option Duration) :
      Run.Moves manager.registry.Develops (manager.recordSkip elapsed : Act κ μ Unit) := by
    cases elapsed with
    | none => exact Run.moves_pure _
    | some elapsed => exact manager.registry.record_moves _ _ _
  refine refreshIfDue_moves_of asks (refresh_moves_of measures (fun event _ => publishes event) ?_ false)
  intro needed elapsed
  cases needed with
  | true => exact rediscover_develops defers.toRespects _
  | false => exact (skips elapsed).bind fun _ => Run.moves_pure _

/-- A manager that is not due is not refreshed. -/
theorem refreshIfDue_of_not_due (host : Host κ μ) (channel : Channel) {world : World κ μ}
    (idle : (manager.isDue world).result = .ok false) :
    (manager.refreshIfDue host channel world).result = .ok () ∧
      (manager.refreshIfDue host channel world).state.registry = world.registry := by
  unfold refreshIfDue
  rw [Run.bind_of_ok idle]
  exact ⟨rfl, manager.isDue_registry world⟩

end refresh

section choice
variable {known : Registry κ} {name : String} {action : Action κ}

theorem choice_of_strict (strict : manager.scopeFallback = false) (known : Registry κ) (name : String) :
    manager.choice known name = known.get? name (some manager.target) := by
  unfold choice
  rw [strict]
  cases known.get? name (some manager.target) <;> rfl

theorem choice_of_fallback (falls : manager.scopeFallback = true) (known : Registry κ) (name : String) :
    manager.choice known name = (known.get? name (some manager.target)).or (known.get? name none) := by
  unfold choice
  rw [falls]
  rfl

/-- In a coherent registry a name stands for an action that goes by it and can be executed. -/
theorem choice_of_coherent (coherent : known.Coherent) (chosen : manager.choice known name = some action) :
    action.name = name ∧ action.IsRegistrable := by
  rcases Option.or_eq_some_iff.mp chosen with found | ⟨_, found⟩
  · exact ⟨coherent.named found, coherent.registrable found⟩
  · split at found
    · exact ⟨coherent.named found, coherent.registrable found⟩
    · cases found

end choice

variable {name : String} {own : Option Attributes} {params : Json} {world : World κ μ}

/-- The call of a name that stands for nothing answers that it is not found. -/
theorem call_of_missing (refreshed : (manager.refreshIfDue host channel world).result = .ok ())
    (missing : manager.choice ((manager.refreshIfDue host channel world).state.registry manager.registry) name = none) :
    (manager.call host channel name own params world).result = .ok (notFound name) := by
  rcases manager.call_cases channel name own params world with
    ⟨panic, panicked, _⟩ | ⟨_, _, answered, _⟩ | ⟨action, _, _, chosen, _⟩
  · cases refreshed.symm.trans panicked
  · exact answered
  · cases missing.symm.trans chosen

/-- A manager that neither falls back nor is due answers that a name is not found just when it does not list it. -/
theorem not_found_iff_not_listed (coherent : (world.registry manager.registry).Coherent)
    (strict : manager.scopeFallback = false) (idle : (manager.isDue world).result = .ok false) :
    ∃ listed, (manager.available world).result = .ok listed ∧
      (((manager.call host channel name own params world).result = .ok (notFound name) ∧
        creations (manager.call host channel name own params world).journal = []) ↔ name ∉ listed) := by
  obtain ⟨refreshed, same⟩ := refreshIfDue_of_not_due host channel idle
  have executable (action : Action κ) (chosen : manager.choice
      ((manager.refreshIfDue host channel world).state.registry manager.registry) name = some action) :
      action.hasHook = true := by
    rw [same] at chosen
    exact (choice_of_coherent coherent chosen).2.executable
  have made : creations (manager.call host channel name own params world).journal =
      ((world.registry manager.registry).get? name (some manager.target)).toList := by
    rw [creations_call executable, refreshed, same, choice_of_strict strict]
  refine ⟨_, rfl, ?_⟩
  rw [coherent.mem_names_iff, made]
  cases found : (world.registry manager.registry).get? name (some manager.target) with
  | some action => simp
  | none =>
    have missing : manager.choice ((manager.refreshIfDue host channel world).state.registry manager.registry) name =
        none := by
      rw [same, choice_of_strict strict, found]
    simp [call_of_missing refreshed missing]

/-- What the call of a registry that histories have led to resolves a name to. -/
theorem resolve_of_woven (strict : manager.scopeFallback = false) {same : Action κ → Action κ → Prop}
    (reflexive : ∀ action, same action action) (contents : Registry.RespectsContent same) {plain woven : World κ μ}
    (histories : RegistryId.Woven host manager.registry manager.target same world plain woven) (name : String) :
    ∃ found other, (manager.resolve name plain).result = .ok found ∧ (manager.resolve name woven).result = .ok other ∧
      Option.Rel same found other := by
  rw [resolve_strict strict, resolve_strict strict]
  exact ⟨_, _, rfl, rfl, histories.agree reflexive contents name⟩

/-- A call makes a hook only for an action of its name, found under the manager's target system or by fallback. -/
theorem calls_of_target (defers : host.Defers manager.registry) (reached : manager.registry.Reached host world) :
    let known := (manager.refreshIfDue host channel world).state.registry manager.registry
    let ran := manager.call host channel name own params world
    (∀ action ∈ creations ran.journal, action.name = name ∧
        (manager.scopeFallback = false →
          known.get? name (some manager.target) = some action ∧ action.target = some manager.target) ∧
        (manager.scopeFallback = true →
          (known.get? name (some manager.target)).or (known.get? name none) = some action)) ∧
      (∀ step ∈ ran.journal, step.stage = .processing → ∃ input invocation accepted,
        manager.Accepts host channel name own params world input invocation accepted ∧
          creations ran.journal = [invocation.action]) ∧
      (manager.scopeFallback = false → (manager.isDue world).result = .ok false →
        ∃ listed, (manager.available world).result = .ok listed ∧
          ((ran.result = .ok (notFound name) ∧ creations ran.journal = []) ↔ name ∉ listed)) ∧
      (manager.scopeFallback = false → ∀ same : Action κ → Action κ → Prop, (∀ action, same action action) →
        Registry.RespectsContent same → ∀ plain woven,
          RegistryId.Woven host manager.registry manager.target same world plain woven →
            ∃ found other, (manager.resolve name plain).result = .ok found ∧
              (manager.resolve name woven).result = .ok other ∧ Option.Rel same found other) := by
  intro known ran
  have coherent : known.Coherent :=
    (reached.meanwhile (refreshIfDue_develops defers world)).coherent defers.toRespects
  have made : creations ran.journal = _ := creations_call fun action chosen =>
    (choice_of_coherent coherent chosen).2.executable
  refine ⟨?_, ?_, fun strict idle => ?_, ?_⟩
  · intro action member
    have chosen : manager.choice known name = some action := by
      rw [made] at member
      split at member
      · exact Option.mem_toList.mp member
      · cases member
    refine ⟨(choice_of_coherent coherent chosen).1, fun strict => ?_, fun falls => ?_⟩
    · rw [choice_of_strict strict] at chosen
      exact ⟨chosen, coherent.placed chosen⟩
    · rw [choice_of_fallback falls] at chosen
      exact chosen
  · intro step member processing
    obtain ⟨input, invocation, accepted, accepts, chosen⟩ := accepts_of_processing member processing
    refine ⟨input, invocation, accepted, accepts, ?_⟩
    rw [made, accepts.refreshed]
    exact congrArg Option.toList chosen
  · exact not_found_iff_not_listed (reached.coherent defers.toRespects) strict idle
  · intro strict same reflexive contents plain woven histories
    exact resolve_of_woven strict reflexive contents histories name

end Manager

/-- User code that only hands over a batch leaves registries alone. -/
theorem Host.loading_defers (batch : Batch Unit) (registry : RegistryId) : (Host.loading batch).Defers registry where
  load _ _ _ _ := Run.moves_pure _
  enter _ _ _ := Run.moves_pure _
  offer _ _ _ := Run.moves_pure _
  notify _ _ _ := Run.moves_pure _

/-- A discovery that is handed a batch registers it and does nothing else. -/
theorem RegistryId.effects_of_loading (batch : Batch Unit) {registry : RegistryId} {world : World Unit Unit}
    (loader : (world.registry registry).loader = .custom ()) (path : String) (scope : Scope) :
    let search : Operation Unit := .discover (.path path) scope ∅
    ∃ found, Effects (.loading batch) registry world search (found.map .register) ∧
      (((search.run (.loading batch) registry world).state.registry registry).loader = .custom ()) ∧
      ∃ before after, Registers scope (some path) batch.candidates before after found := by
  have loads : ((world.registry registry).loader.load (.loading batch) (.path path) ∅ scope world).result =
      .ok (.ok ⟨path, batch.candidates⟩) := by
    rw [loader]
    rfl
  have idle : ((world.registry registry).loader.load (.loading batch) (.path path) ∅ scope world).state.registry
      registry = (world.registry registry).edits [] := by
    rw [loader]
    rfl
  have gathers : (Search.ofSource (.path path)).Gathers (.loading batch) registry scope ∅ world
      (.ok ⟨some path, batch.candidates⟩) _ := .loaded (Run.reaches_of_ok loads)
  obtain ⟨found, returned, registers⟩ := gathers.registers
  have effects : Effects (.loading batch) registry world (.discover (.path path) scope ∅) (found.map .register) :=
    .search gathers idle returned
  refine ⟨found, effects, ?_, _, _, registers⟩
  rw [effects.edits, Registry.loader_registers, loader]

/-- The world after discoveries for target systems, one after the other. -/
def World.searched (places : List String) : World Unit Unit :=
  places.foldl (fun world place =>
    ((RegistryId.Operation.discover (.path "scripts") (some place) ∅).run (.loading .mixed) ⟨3⟩ world).state) .loading

namespace Manager

/-- A discovery for another target system that is woven in takes identities, and yet the manager finds the same. -/
theorem calls_of_target_mixed :
    (∃ found other : Action Unit, (Manager.modest.resolve "echo" (.searched ["maya"])).result = .ok (some found) ∧
        (Manager.modest.resolve "echo" (.searched ["nuke", "maya"])).result = .ok (some other) ∧
        found.content = other.content ∧ found.id ≠ other.id) ∧
      ∃ action, action.target = some "maya" ∧ creations (Manager.modest.call (.loading .mixed) .blocking "echo" none
        (.obj []) (.searched ["maya"])).journal = [action] := by
  have defers := Host.loading_defers .mixed ⟨3⟩
  have made : RegistryId.Reached (.loading .mixed) ⟨3⟩ .loading := .made ⟨rfl, rfl⟩
  have reached : RegistryId.Reached (.loading .mixed) ⟨3⟩ (.searched ["maya"]) := made.stepped _
  constructor
  · have loader : (World.loading.registry ⟨3⟩).loader = .custom () := rfl
    obtain ⟨_, effects, _, _, _, registers⟩ := RegistryId.effects_of_loading .mixed loader "scripts" (some "maya")
    obtain ⟨_, inserted, still, _, _, strange⟩ := RegistryId.effects_of_loading .mixed loader "scripts" (some "nuke")
    obtain ⟨_, too, _, _, _, again⟩ := RegistryId.effects_of_loading .mixed still "scripts" (some "maya")
    have foreign : ∀ action ∈ Registry.acceptable (some "nuke") (some "scripts") Batch.mixed.candidates,
        action.target ≠ some "maya" := by decide
    have histories : RegistryId.Woven (.loading .mixed) ⟨3⟩ "maya" (fun action other => action.content = other.content)
        .loading (.searched ["maya"]) (.searched ["nuke", "maya"]) :=
      .both (.inserted .start inserted (strange.elsewhere foreign)) effects too (registers.like again rfl)
    have apart :=
      @calls_of_target Unit Unit (.loading .mixed) .modest .blocking "echo" none (.obj []) .loading defers made
    obtain ⟨found, other, resolved, resolvedToo, alike⟩ := apart.2.2.2 rfl
      (fun action other => action.content = other.content) (fun _ => rfl) (fun _ _ content => content) _ _ histories
    have first : (Manager.modest.resolve "echo" (.searched ["maya"])).result.toOption.join.map Action.id =
        some ⟨2⟩ := by
      decide +kernel
    have second : (Manager.modest.resolve "echo" (.searched ["nuke", "maya"])).result.toOption.join.map Action.id =
        some ⟨11⟩ := by
      decide +kernel
    rw [resolved] at first
    rw [resolvedToo] at second
    cases alike with
    | none => cases first
    | @some action rival content =>
      refine ⟨action, rival, resolved, resolvedToo, content, fun same => ?_⟩
      exact absurd (first.symm.trans ((congrArg some same).trans second)) (by decide)
  · have once : (creations (Manager.modest.call (.loading .mixed) .blocking "echo" none (.obj [])
        (.searched ["maya"])).journal).length = 1 := by
      decide +kernel
    obtain ⟨action, made⟩ := List.length_eq_one_iff.mp once
    have calls :=
      @calls_of_target Unit Unit (.loading .mixed) .modest .blocking "echo" none (.obj []) _ defers reached
    have member := List.mem_singleton_self action
    rw [← made] at member
    exact ⟨action, ((calls.1 action member).2.1 rfl).2, made⟩

end Manager

end Dispatch
