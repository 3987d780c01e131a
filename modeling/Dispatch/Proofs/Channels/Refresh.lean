import Dispatch.Manager.Refresh
import Dispatch.Proofs.Channels.Worlds

namespace Dispatch

variable {κ μ ρ α : Type} (host : Host κ μ) (manager : Manager) (view : μ → ρ)

/-- What is run on the blocking channel and what is run on the cooperative one go together. -/
def Manager.InStep (values : α → α → Prop) (blocking cooperative : Act κ μ α) : Prop :=
  Run.Together Step.acrossChannels (manager.Matched host view) values blocking cooperative

namespace Manager.InStep

variable {host manager view}

theorem note {blocking cooperative : Step κ} (same : blocking.Corresponds cooperative) :
    manager.InStep host view Eq (Run.note blocking) (Run.note cooperative) :=
  Run.together_note same

/-- A record says nothing of the channel that counts. -/
theorem record (severity : Severity) (message other : String) (fields more : List (String × Json)) :
    manager.InStep host view Eq (Act.record severity message fields) (Act.record severity other more) :=
  Run.together_update fun _ _ matched => ⟨matched.alike.clocked _ _ _ _, matched.around⟩

/-- A time is not compared. -/
theorem now : manager.InStep host view (fun _ _ => True) Act.now Act.now := fun _ _ matched =>
  ⟨.value trivial, ⟨matched.alike.clocked _ _ _ _, matched.around⟩, .nil⟩

theorem elapsedSince (start other : Nat) :
    manager.InStep host view (fun _ _ => True) (Act.elapsedSince start) (Act.elapsedSince other) :=
  now.bind fun _ _ _ => Run.together_pure trivial

theorem freshIndex : manager.InStep host view Eq Act.freshIndex Act.freshIndex := fun first second matched => by
  refine ⟨?_, ⟨?_, matched.around⟩, .nil⟩
  · change SameResult Eq (.ok first.fresh) (.ok second.fresh)
    rw [matched.alike.fresh]
    exact .value rfl
  · change World.Alike view { first with fresh := first.fresh + 1 } { second with fresh := second.fresh + 1 }
    rw [matched.alike.fresh]
    exact matched.alike.numbered _

theorem derive (action : Action κ) (edit : Descriptor → Descriptor) :
    manager.InStep host view Eq (Act.derive action edit) (Act.derive action edit) :=
  freshIndex.bind_same fun _ => Run.together_pure rfl

section registries
variable (registry : RegistryId)

theorem readRegistry : manager.InStep host view Eq registry.read registry.read := fun _ _ matched =>
  ⟨.value (congrFun matched.alike.registry registry), matched, .nil⟩

theorem setRegistry (known : Registry κ) :
    manager.InStep host view Eq (registry.modify fun _ => known) (registry.modify fun _ => known) :=
  Run.together_update fun _ _ matched => ⟨matched.alike.setRegistry registry known, matched.around⟩

theorem recordAdmission (action : Action κ) (admission : Admission) :
    manager.InStep host view Eq (RegistryId.recordAdmission action admission)
      (RegistryId.recordAdmission action admission) := by
  cases admission with
  | abstract => exact record _ _ _ _ _
  | hookless => exact record _ _ _ _ _
  | registered => exact record _ _ _ _ _

theorem register (action : Action κ) :
    manager.InStep host view Eq (registry.register action) (registry.register action) := by
  refine (readRegistry registry).bind_same fun known => ?_
  split
  · exact Run.together_pure rfl
  · exact (setRegistry registry _).bind_same fun _ => (recordAdmission action _).bind_same fun _ =>
      Run.together_pure rfl

theorem targeted (scope : Scope) (action : Action κ) :
    manager.InStep host view Eq (RegistryId.targeted scope action) (RegistryId.targeted scope action) := by
  unfold RegistryId.targeted
  split
  · exact derive action _
  · exact Run.together_pure rfl

theorem originated (origin : Option String) (action : Action κ) :
    manager.InStep host view Eq (RegistryId.originated origin action) (RegistryId.originated origin action) := by
  cases origin with
  | none => exact Run.together_pure rfl
  | some origin => exact derive action _

theorem registerCandidate (scope : Scope) (origin : Option String) (candidate : Except DiscoveryFault (Action κ)) :
    manager.InStep host view Eq (registry.registerCandidate scope origin candidate)
      (registry.registerCandidate scope origin candidate) := by
  cases candidate with
  | error fault => exact (record _ _ _ _ _).bind_same fun _ => Run.together_pure rfl
  | ok action =>
    refine (targeted scope action).bind_same fun placed => (originated origin placed).bind_same fun marked => ?_
    refine (register registry marked).bind_same fun answer => ?_
    rcases answer with rejection | ⟨⟨⟩ | ⟨⟩⟩
    · exact (record _ _ _ _ _).bind_same fun _ => Run.together_pure rfl
    · exact Run.together_pure rfl
    · exact Run.together_pure rfl

theorem registerLoaded (source : Source) (scope : Scope) (loaded : Except LoadFault (Module κ)) :
    manager.InStep host view Eq (registry.registerLoaded source scope loaded)
      (registry.registerLoaded source scope loaded) := by
  cases loaded with
  | error fault => exact (record _ _ _ _ _).bind_same fun _ => Run.together_pure rfl
  | ok module =>
    refine (record _ _ _ _ _).bind_same fun _ => ?_
    refine (Run.Together.forEach (registerCandidate registry scope _) _).bind_same fun found => ?_
    exact (record _ _ _ _ _).bind_same fun _ => Run.together_pure rfl

theorem resolveEntry (handlers : Table (Action κ)) (entry : ManifestEntry) :
    manager.InStep host view Eq (Catalog.resolve handlers entry) (Catalog.resolve handlers entry) := by
  unfold Catalog.resolve
  split
  · exact Run.together_pure rfl
  · exact (derive _ _).bind_same fun _ => Run.together_pure rfl

theorem candidates (handlers : Table (Action κ)) (manifest : Except LoadFault Manifest) :
    manager.InStep host view Eq (Catalog.candidates handlers manifest) (Catalog.candidates handlers manifest) := by
  cases manifest with
  | error fault => exact Run.together_pure rfl
  | ok manifest => exact Run.Together.forEach (resolveEntry handlers) manifest.entries

theorem loadPath (catalog : Catalog κ) (path : String) :
    manager.InStep host view Eq (catalog.loadPath path) (catalog.loadPath path) := by
  refine Run.together_state.bind fun first second matched => ?_
  rw [matched.alike.files]
  split
  · exact Run.together_pure rfl
  · exact (Run.Together.forEach (candidates catalog.handlers) _).bind_same fun _ => Run.together_pure rfl

theorem readCatalog (id : CatalogId) : manager.InStep host view Eq id.read id.read := fun _ _ matched =>
  ⟨.value (congrFun matched.alike.catalog id), matched, .nil⟩

variable (impartial : host.Impartial view (manager.Matched host view))
include impartial

/-- Modules at a path are loaded the same, by a catalog or by user code. -/
theorem load (loader : Loader κ) (path : String) (dependencies : Dependencies) (scope : Scope) :
    manager.InStep host view Eq (loader.load host (.path path) dependencies scope)
      (loader.load host (.path path) dependencies scope) := by
  refine (note (.loading _)).bind_same fun _ => ?_
  cases loader with
  | custom code => exact (impartial.load code _ dependencies scope).foreign
  | catalog id => exact (readCatalog id).bind_same fun catalog => loadPath catalog path

theorem discover (path : String) (scope : Scope) (dependencies : Dependencies) :
    manager.InStep host view Eq (registry.discover host (.path path) scope dependencies)
      (registry.discover host (.path path) scope dependencies) := by
  refine (readRegistry registry).bind_same fun known => ?_
  exact (load impartial known.loader path dependencies scope).bind_same fun loaded =>
    registerLoaded registry (.path path) scope loaded

end registries

end Manager.InStep

/-- Whatever subscribers do, a world in which something is published stays as it is. -/
theorem World.alike_publish {host : Host κ μ} {view : μ → ρ}
    (notifies : ∀ code channel event, Run.Moves (World.Alike view) (host.notify code channel event)) (bus : BusId)
    (channel : Channel) (name : String) (data : Attributes) (world : World κ μ) :
    World.Alike view world (bus.publish host channel name data world).state := by
  have records (severity : Severity) (message : String) (fields : List (String × Json)) :
      Run.Moves (World.Alike view) (Act.record severity message fields : Act κ μ Unit) := fun world =>
    (World.alike_refl world).clocked _ _ _ _
  exact bus.publish_moves channel records notifies name data world

namespace Manager.InStep

variable {host manager view}

/-- The manager's state is alike, and its middleware acts only before and after what it is put around. -/
theorem read : manager.InStep host view
    (fun state other => Alike state other ∧ ∀ link ∈ state.pipeline.getD [], link.ActsAround host)
    manager.read manager.read := fun _ _ matched =>
  ⟨.value ⟨matched.alike.manager manager.id, matched.around⟩, matched, .nil⟩

/-- Edits of what is alike, apart from the middleware. -/
theorem modify {f g : ManagerState κ → ManagerState κ}
    (same : ∀ state other, Alike state other → Alike (f state) (g other))
    (keeps : ∀ state, (f state).pipeline = state.pipeline) :
    manager.InStep host view Eq (manager.modify f) (manager.modify g) :=
  Run.together_update fun first second matched => by
    refine ⟨matched.alike.setManager manager.id (same _ _ (matched.alike.manager manager.id)), ?_⟩
    have known : (first.setManager manager.id (f (first.manager manager.id))).manager manager.id =
      f (first.manager manager.id) := if_pos rfl
    rw [known, keeps]
    exact matched.around

theorem setContext (name : String) {value other : Json} (same : Json.under name value = Json.under name other) :
    manager.InStep host view Eq (manager.setContext name value) (manager.setContext name other) :=
  modify (fun _ _ alike => by
    obtain ⟨context, factories, pipeline, refreshed⟩ := alike_managerState_iff.mp alike
    exact alike_managerState_iff.mpr ⟨context.insert name same, factories, pipeline, refreshed⟩) fun _ => rfl

/-- The times that a refresh leaves are not compared. -/
theorem stamp : manager.InStep host view Eq manager.stamp manager.stamp := by
  refine now.bind fun time later _ => ?_
  have refreshed : manager.InStep host view Eq (manager.modify fun state => { state with lastRefresh := some time })
      (manager.modify fun state => { state with lastRefresh := some later }) :=
    modify (fun _ _ alike => by
      obtain ⟨context, factories, pipeline, _⟩ := alike_managerState_iff.mp alike
      exact alike_managerState_iff.mpr ⟨context, factories, pipeline, rfl⟩) fun _ => rfl
  have under {name : String} (named : name = "timestamp" ∨ name = "last_refresh") :
      Json.under name (.string (timeText time)) = Json.under name (.string (timeText later)) :=
    (Json.under_of_text named _).trans (Json.under_of_text named _).symm
  exact refreshed.bind_same fun _ => (setContext "timestamp" (under (.inl rfl))).bind_same fun _ =>
    setContext "last_refresh" (under (.inr rfl))

theorem beginRefresh : manager.InStep host view Eq manager.beginRefresh manager.beginRefresh :=
  (record _ _ _ _ _).bind_same fun _ => stamp

theorem recordSkip (elapsed other : Option Duration) :
    manager.InStep host view Eq (manager.recordSkip elapsed) (manager.recordSkip other) := by
  cases elapsed <;> cases other <;>
    exact fun _ _ matched => ⟨.value rfl, ⟨matched.alike.clocked _ _ _ _, matched.around⟩, .nil⟩

variable (impartial : host.Impartial view (manager.Matched host view))
include impartial

/-- Events that are alike are published on either channel, each to subscribers of its own. -/
theorem publish {event other : Event} (alike : Alike event other) :
    manager.InStep host view Eq (manager.publish host .blocking event) (manager.publish host .cooperative other) := by
  obtain ⟨name, data⟩ := event
  obtain ⟨_, values⟩ := other
  obtain ⟨rfl, _⟩ := alike_event_iff.mp alike
  have notices (channel another : Channel) (told heard : Event) (subscriptions others : List (Subscription κ)) :
      Step.acrossChannels.Journals (subscriptions.map fun subscription => .notified channel subscription told)
        (others.map fun subscription => .notified another subscription heard) := by
    refine .of_hidden ?_ ?_ <;> intro step member <;> obtain ⟨subscription, _, rfl⟩ := List.mem_map.mp member
    · exact ⟨channel, subscription, told, rfl⟩
    · exact ⟨another, subscription, heard, rfl⟩
  have published : manager.InStep host view (fun _ _ => True) (manager.bus.publish host .blocking name data)
      (manager.bus.publish host .cooperative name values) := fun first second matched => by
    obtain ⟨returned, journal⟩ := manager.bus.publish_ends host .blocking name data first
    obtain ⟨answered, steps⟩ := manager.bus.publish_ends host .cooperative name values second
    refine ⟨?_, ?_, ?_⟩
    · rw [returned, answered]
      exact .value trivial
    · have stays (channel : Channel) (told : Attributes) (world : World κ μ) :
          World.Alike view world (manager.bus.publish host channel name told world).state :=
        World.alike_publish impartial.notify manager.bus channel name told world
      exact matched.follow (stays .blocking data first) (stays .cooperative values second)
    · rw [journal, steps]
      exact .both (.published manager.bus alike) (notices _ _ _ _ _ _)
  exact published.bind fun _ _ _ => Run.together_pure rfl

theorem discoverPaths (paths : List String) :
    manager.InStep host view Eq (manager.discoverPaths host paths) (manager.discoverPaths host paths) := by
  refine (Run.Together.forEach (fun path => ?_) paths).bind_same fun _ => Run.together_pure rfl
  exact discover manager.registry impartial path (some manager.target) manager.dependencies

theorem rediscover (extraPaths : List String) :
    manager.InStep host view Eq (manager.rediscover host extraPaths) (manager.rediscover host extraPaths) := by
  refine beginRefresh.bind_same fun _ => (discoverPaths impartial _).bind_same fun discovered => ?_
  refine ((readRegistry manager.registry).bind_same fun _ => Run.together_pure rfl).bind_same fun available => ?_
  exact (record _ _ _ _ _).bind_same fun _ => Run.together_pure rfl

theorem rediscoverIf (needed : Bool) (elapsed other : Option Duration) (extraPaths : List String) :
    manager.InStep host view Eq (manager.rediscoverIf host needed elapsed extraPaths)
      (manager.rediscoverIf host needed other extraPaths) := by
  cases needed with
  | true => exact rediscover impartial extraPaths
  | false => exact (recordSkip elapsed other).bind_same fun _ => Run.together_pure rfl

end Manager.InStep

namespace Manager

/-- How long ago the last refresh will be when the clock is read next but for some readings. -/
def age (manager : Manager) (readings : Nat) (world : World κ μ) : Option Duration :=
  (world.manager manager.id).lastRefresh.map fun time => ⟨world.clock (world.readings + readings) - time⟩

/-- Two worlds agree on whether the manager is overdue, however often they are asked before a refresh is begun. -/
def DueAlike (manager : Manager) (first second : World κ μ) : Prop :=
  ∀ readings ≤ 1, manager.isOverdue (manager.age readings first) = manager.isOverdue (manager.age readings second)

/-- Asking how long ago the last refresh was takes one reading of the clock at most. -/
theorem sinceRefresh_ends (world : World κ μ) :
    ∃ readings, (manager.sinceRefresh : Act κ μ (Option Duration)) world =
        ⟨.ok (manager.age 0 world), { world with readings }, []⟩ ∧
      manager.age 0 { world with readings } = manager.age 1 world := by
  have read : (manager.read : Act κ μ (ManagerState κ)) world = ⟨.ok (world.manager manager.id), world, []⟩ := rfl
  cases known : (world.manager manager.id).lastRefresh with
  | none =>
    refine ⟨world.readings, ?_, ?_⟩
    · rw [sinceRefresh, Run.bind_apply_ok read]
      simp only [known, age]
      rfl
    · simp only [known, age, Option.map_none]
  | some time =>
    refine ⟨world.readings + 1, ?_, ?_⟩
    · rw [sinceRefresh, Run.bind_apply_ok read]
      simp only [known, age]
      rfl
    · simp only [known, age]

/-- So does asking whether a refresh is due. -/
theorem isDue_ends (auto : manager.autoRefresh = true) (world : World κ μ) :
    ∃ readings, (manager.isDue : Act κ μ Bool) world =
        ⟨.ok (manager.isOverdue (manager.age 0 world)), { world with readings }, []⟩ ∧
      manager.age 0 { world with readings } = manager.age 1 world := by
  obtain ⟨readings, asked, later⟩ := manager.sinceRefresh_ends world
  refine ⟨readings, ?_, later⟩
  unfold isDue
  rw [if_pos auto, Run.bind_apply_ok asked]
  rfl

variable {host manager view} {first second : World κ μ} (matched : manager.Matched host view first second)
  (impartial : host.Impartial view (manager.Matched host view))
include matched impartial

/-- A refresh that is needed in both worlds or in neither goes the same way in both. -/
theorem refresh_together (force : Bool) (extraPaths : List String)
    (overdue : manager.isOverdue (manager.age 0 first) = manager.isOverdue (manager.age 0 second)) :
    (manager.refresh host .blocking force extraPaths first).Together Step.acrossChannels
      (manager.Matched host view) Eq (manager.refresh host .cooperative force extraPaths second) := by
  obtain ⟨readings, asked, _⟩ := manager.sinceRefresh_ends first
  obtain ⟨more, again, _⟩ := manager.sinceRefresh_ends second
  have begun : ((manager.sinceRefresh : Act κ μ (Option Duration)) first).Together Step.acrossChannels
      (manager.Matched host view) (fun elapsed other => manager.isOverdue elapsed = manager.isOverdue other)
      ((manager.sinceRefresh : Act κ μ (Option Duration)) second) := by
    rw [asked, again]
    exact ⟨.value overdue, ⟨matched.alike.clocked _ _ _ _, matched.around⟩, .nil⟩
  refine begun.bind fun elapsed other same => ?_
  have needed : manager.needsRefresh force extraPaths elapsed = manager.needsRefresh force extraPaths other := by
    unfold needsRefresh
    rw [same]
  dsimp only
  rw [needed]
  refine (InStep.publish impartial (alike_refl _)).bind_same fun _ => ?_
  refine (InStep.rediscoverIf impartial _ elapsed other extraPaths).bind_same fun discovered => ?_
  exact (InStep.publish impartial (alike_refl _)).bind_same fun _ => Run.together_pure rfl

end Manager

end Dispatch
