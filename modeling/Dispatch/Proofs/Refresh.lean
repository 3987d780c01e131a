import Dispatch.Manager.Refresh
import Dispatch.Proofs.Discovery
import Dispatch.Proofs.Host
import Dispatch.Proofs.Steps

namespace Dispatch.Manager

variable {κ μ : Type} (host : Host κ μ) (manager : Manager)

/-- Loading one of these paths panics, after those before it have been discovered. -/
inductive LoadingPanics (panic : Panic) : List String → World κ μ → Prop
  | here {path : String} {rest : List String} {world : World κ μ} {code : κ}
      (loader : (world.registry manager.registry).loader = .custom code)
      (panics : (host.load code (.path path) manager.dependencies (some manager.target) world).result =
        .error panic) :
      LoadingPanics panic (path :: rest) world
  | later {path : String} {rest : List String} {world : World κ μ} {found : List (Action κ)}
      (discovered : (manager.registry.discover host (.path path) (some manager.target) manager.dependencies
        world).result = .ok found)
      (panics : LoadingPanics panic rest (manager.registry.discover host (.path path) (some manager.target)
        manager.dependencies world).state) :
      LoadingPanics panic (path :: rest) world

variable {host manager} in
/-- Loading the modules of a calm host does not panic. -/
theorem LoadingPanics.not_of_calm (calm : host.Calm) {panic : Panic} {paths : List String} {world : World κ μ}
    (panics : manager.LoadingPanics host panic paths world) : False := by
  induction panics with
  | here _ panicked => exact (calm.load _ _ _ _).not_panic panicked
  | later _ _ ih => exact ih

/-- Paths are discovered in order, up to the first panic. -/
theorem discoverPaths_panics_iff (paths : List String) (world : World κ μ) (panic : Panic) :
    (manager.discoverPaths host paths world).result = .error panic ↔
      manager.LoadingPanics host panic paths world := by
  unfold discoverPaths
  rw [Run.bind_panics_iff_of_returns fun found => Run.returns_pure _]
  induction paths generalizing world with
  | nil =>
    constructor
    · intro panicked
      cases panicked
    · intro panics
      cases panics
  | cons path rest ih =>
    rw [Run.forEach_cons, Run.bind_panics_iff, RegistryId.discover_panics_iff, Loader.load_path_panics_iff]
    constructor
    · rintro (⟨code, loader, panicked⟩ | ⟨found, discovered, panicked⟩)
      · exact .here loader panicked
      · rw [Run.bind_panics_iff_of_returns fun values => Run.returns_pure _] at panicked
        exact .later discovered ((ih _).mp panicked)
    · intro panics
      cases panics with
      | here loader panicked => exact .inl ⟨_, loader, panicked⟩
      | later discovered panics =>
        refine .inr ⟨_, discovered, ?_⟩
        rw [Run.bind_panics_iff_of_returns fun values => Run.returns_pure _]
        exact (ih _).mpr panics

theorem publish_returns (channel : Channel) (event : Event) :
    Run.Returns (manager.publish host channel event) :=
  (manager.bus.publish_returns host channel event.name event.data).bind fun _ => Run.returns_pure _

theorem publish_notes (channel : Channel) {event : Event} (other : event.isOfCall = false) :
    Run.Notes Step.IsOfRefresh (manager.publish host channel event) :=
  (manager.bus.publish_notes host channel other).bind fun _ => Run.notes_pure _

/-- Looking at a manager leaves everything to what follows. -/
@[simp] theorem read_bind {α : Type} (next : ManagerState κ → Act κ μ α) (world : World κ μ) :
    (manager.read >>= next) world = next (world.manager manager.id) world := rfl

theorem read_silent : Run.Silent (manager.read : Act κ μ (ManagerState κ)) :=
  Run.silent_state.bind fun _ => Run.silent_pure _

theorem sinceRefresh_silent : Run.Silent (manager.sinceRefresh : Act κ μ (Option Duration)) := by
  refine manager.read_silent.bind fun found => ?_
  split
  · exact Run.silent_pure _
  · exact (Act.elapsedSince_silent _).bind fun _ => Run.silent_pure _

theorem isDue_silent : Run.Silent (manager.isDue : Act κ μ Bool) := by
  unfold isDue
  split
  · exact manager.sinceRefresh_silent.bind fun _ => Run.silent_pure _
  · exact Run.silent_pure _

theorem beginRefresh_silent : Run.Silent (manager.beginRefresh : Act κ μ Unit) :=
  (Act.record_silent _ _ _).bind fun _ => Act.now_silent.bind fun _ => (Run.silent_update _).bind fun _ =>
    (Run.silent_update _).bind fun _ => Run.silent_update _

theorem available_silent : Run.Silent (manager.available : Act κ μ (List String)) :=
  manager.registry.read_silent.bind fun _ => Run.silent_pure _

theorem recordSkip_silent (elapsed : Option Duration) : Run.Silent (manager.recordSkip elapsed : Act κ μ Unit) := by
  cases elapsed with
  | none => exact Run.silent_pure _
  | some elapsed => exact Act.record_silent _ _ _

/-- A refresh up to where it begins to look for modules. -/
def approachModules (channel : Channel) (force : Bool) : Act κ μ Unit := do
  let _ ← manager.sinceRefresh
  manager.announceRefresh host channel force
  manager.beginRefresh

/-- The work of a refresh panics just when loading a path does. -/
theorem rediscover_panics_iff (extraPaths : List String) (world : World κ μ) (panic : Panic) :
    (manager.rediscover host extraPaths world).result = .error panic ↔
      manager.LoadingPanics host panic (manager.searchPaths ++ extraPaths) (manager.beginRefresh world).state := by
  unfold rediscover
  rw [Run.bind_of_ok (manager.beginRefresh_silent.returns.unit world), ← discoverPaths_panics_iff]
  exact Run.bind_panics_iff_of_returns fun discovered => (manager.available_silent.bind fun names =>
    (Act.record_silent _ _ _).bind fun _ => Run.silent_pure _).returns

/-- A refresh panics just when it has to look for modules and loading one of its paths panics. -/
theorem refresh_panics_iff (channel : Channel) (force : Bool) (extraPaths : List String) (world : World κ μ)
    (panic : Panic) :
    (manager.refresh host channel force extraPaths world).result = .error panic ↔
      ∃ elapsed, (manager.sinceRefresh world).result = .ok elapsed ∧
        manager.needsRefresh force extraPaths elapsed = true ∧
        manager.LoadingPanics host panic (manager.searchPaths ++ extraPaths)
          (manager.approachModules host channel force world).state := by
  unfold refresh
  rw [manager.sinceRefresh_silent.returns.bind_panics_iff]
  refine exists_congr fun elapsed => and_congr_right fun read => ?_
  have announced : (manager.announceRefresh host channel force (manager.sinceRefresh world).state).result = .ok () :=
    (manager.publish_returns host channel _).unit _
  have concluded (discovered : List String) : Run.Returns (manager.concludeRefresh host channel
      (manager.needsRefresh force extraPaths elapsed) discovered) := manager.publish_returns host channel _
  have approached : (manager.approachModules host channel force world).state =
      (manager.beginRefresh (manager.announceRefresh host channel force
        (manager.sinceRefresh world).state).state).state := by
    unfold approachModules
    rw [Run.bind_of_ok read, Run.bind_of_ok announced]
  rw [approached, ← rediscover_panics_iff, Run.bind_of_ok announced,
    Run.bind_panics_iff_of_returns fun discovered => (concluded discovered).bind fun _ => Run.returns_pure _]
  unfold rediscoverIf
  split
  · rename_i needed
    simp [needed]
  · rename_i idle
    have skipped : Run.Silent (do manager.recordSkip elapsed; return [] : Act κ μ (List String)) :=
      (manager.recordSkip_silent elapsed).bind fun _ => Run.silent_pure _
    constructor
    · intro panicked
      exact absurd panicked skipped.returns.not_panic
    · rintro ⟨needed, _⟩
      exact absurd needed idle

theorem discoverPaths_notes (paths : List String) :
    Run.Notes Step.IsOfRefresh (manager.discoverPaths host paths) := by
  refine (Run.Notes.forEach (fun path => ?_) paths).bind fun _ => Run.notes_pure _
  refine (manager.registry.discover_notes host (.path path) _ _).mono ?_
  rintro _ ⟨source, rfl⟩
  exact ⟨.inl rfl, rfl⟩

theorem rediscoverIf_notes (needed : Bool) (elapsed : Option Duration) (extraPaths : List String) :
    Run.Notes Step.IsOfRefresh (manager.rediscoverIf host needed elapsed extraPaths) := by
  unfold rediscoverIf
  split
  · refine manager.beginRefresh_silent.notes.bind fun _ => (manager.discoverPaths_notes host _).bind fun found => ?_
    exact (manager.available_silent.bind fun _ => (Act.record_silent _ _ _).bind fun _ => Run.silent_pure _).notes
  · exact ((manager.recordSkip_silent elapsed).bind fun _ => Run.silent_pure _).notes

/-- A refresh publishes no event of a call, and no hook is made for it. -/
theorem refresh_notes (channel : Channel) (force : Bool) (extraPaths : List String) :
    Run.Notes Step.IsOfRefresh (manager.refresh host channel force extraPaths) := by
  refine manager.sinceRefresh_silent.notes.bind fun elapsed => ?_
  refine (manager.publish_notes host channel (Event.isOfCall_beforeRefresh _)).bind fun _ => ?_
  refine (manager.rediscoverIf_notes host _ elapsed extraPaths).bind fun discovered => ?_
  exact (manager.publish_notes host channel (Event.isOfCall_afterRefresh _)).bind fun _ => Run.notes_pure _

section moves
variable {host manager} {relation : World κ μ → World κ μ → Prop} [Run.Lasting relation] {channel : Channel}

/-- A refresh keeps what looking at the time, telling subscribers and looking for modules keep. -/
theorem refresh_moves_of {extraPaths : List String}
    (measures : Run.Moves relation (manager.sinceRefresh : Act κ μ (Option Duration)))
    (tells : ∀ event, event.name ∈ [Event.beforeRefresh, Event.afterRefresh] →
      Run.Moves relation (manager.publish host channel event))
    (finds : ∀ needed elapsed, Run.Moves relation (manager.rediscoverIf host needed elapsed extraPaths)) (force : Bool) :
    Run.Moves relation (manager.refresh host channel force extraPaths) := by
  refine measures.bind fun elapsed => (tells _ (by simp)).bind fun _ => (finds _ elapsed).bind fun discovered => ?_
  exact (tells _ (by simp)).bind fun _ => Run.moves_pure _

/-- Before it looks for its action a call keeps what asking whether the manager is due and refreshing it keep. -/
theorem refreshIfDue_moves_of (asks : Run.Moves relation (manager.isDue : Act κ μ Bool))
    (refreshes : Run.Moves relation (manager.refresh host channel false [])) :
    Run.Moves relation (manager.refreshIfDue host channel) := by
  refine asks.bind fun due => ?_
  split
  · exact refreshes.bind fun _ => Run.moves_pure _
  · exact Run.moves_pure _

end moves

end Dispatch.Manager
