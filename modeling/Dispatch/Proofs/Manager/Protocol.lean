import Dispatch.Proofs.Call.Refreshing
import Dispatch.Proofs.Registry.Batch

namespace Dispatch

variable {κ μ : Type}

/-- Subscribers leave alone what is looked at. -/
def Host.Discreet {σ : Type} (host : Host κ μ) (look : World κ μ → σ) : Prop :=
  ∀ code channel event, Run.Moves (Run.Unchanged look) (host.notify code channel event)

/-- Loading modules leaves alone what is looked at. -/
def Host.Reserved {σ : Type} (host : Host κ μ) (look : World κ μ → σ) : Prop :=
  ∀ code source dependencies scope, Run.Moves (Run.Unchanged look) (host.load code source dependencies scope)

namespace Manager

variable {host : Host κ μ} {manager : Manager} {channel : Channel}

/-- The manager was never refreshed, or its interval is over. -/
def Overdue (manager : Manager) (world : World κ μ) : Prop :=
  ∀ time, manager.lastRefresh world = some time → manager.refreshInterval.nanos ≤ world.time - time

theorem isOverdue_age_iff {world : World κ μ} :
    manager.isOverdue (manager.age 0 world) = true ↔ manager.Overdue world := by
  unfold Overdue lastRefresh isOverdue age World.time
  cases (world.manager manager.id).lastRefresh with
  | none => simp
  | some time => simp

/-- A refresh looks for modules on demand, for further paths, or if the manager is overdue. -/
theorem needsRefresh_iff {force : Bool} {extraPaths : List String} {world : World κ μ} :
    manager.needsRefresh force extraPaths (manager.age 0 world) = true ↔
      force = true ∨ extraPaths ≠ [] ∨ manager.Overdue world := by
  rw [← isOverdue_age_iff]
  simp [needsRefresh, or_assoc]

section paths

/-- A path is tried for the manager's target system. -/
def tryPath (host : Host κ μ) (manager : Manager) (path : String) : Act κ μ (List (Action κ)) :=
  manager.registry.discover host (.path path) (some manager.target) manager.dependencies

/-- While a path is tried something is gathered there, or its module cannot be loaded. -/
def Meets (host : Host κ μ) (manager : Manager) (path : String) (world : World κ μ)
    (outcome : Except LoadFault (Batch κ)) (loaded : World κ μ) : Prop :=
  (Search.ofSource (.path path)).Gathers host manager.registry (some manager.target) manager.dependencies world outcome
    loaded

/-- A loader that is user code has been asked for the module of the path, and this follows from its answer. -/
def Asks (host : Host κ μ) (manager : Manager) (path : String) (world : World κ μ)
    (outcome : Except LoadFault (Batch κ)) (loaded : World κ μ) : Prop :=
  ∀ code, (world.registry manager.registry).loader = .custom code → ∃ answer,
    Run.Reaches (host.load code (.path path) manager.dependencies (some manager.target)) world answer loaded ∧
      outcome = answer.map fun module => ⟨some path, module.candidates⟩

/-- What a path meets with is what the loader answers. -/
theorem Meets.asks {path : String} {world loaded : World κ μ} {outcome : Except LoadFault (Batch κ)}
    (meets : manager.Meets host path world outcome loaded) : manager.Asks host path world outcome loaded := by
  intro code custom
  cases meets with
  | loaded reached | failed reached =>
    rw [custom] at reached
    exact ⟨_, ⟨reached.returned, reached.ended⟩, rfl⟩

/-- Paths are tried in order, each in the world that the one before has left; what cannot be loaded yields nothing. -/
inductive Tries (host : Host κ μ) (manager : Manager) :
    List String → World κ μ → List (List (Action κ)) → World κ μ → Prop
  | done (world : World κ μ) : Tries host manager [] world [] world
  | failed {path : String} {rest : List String} {world loaded after : World κ μ} {fault : LoadFault}
      {parts : List (List (Action κ))} (meets : manager.Meets host path world (.error fault) loaded)
      (asks : manager.Asks host path world (.error fault) loaded)
      (still : (manager.tryPath host path world).state.registry = loaded.registry)
      (later : Tries host manager rest (manager.tryPath host path world).state parts after) :
      Tries host manager (path :: rest) world ([] :: parts) after
  | accepted {path : String} {rest : List String} {world loaded after : World κ μ} {batch : Batch κ}
      {found : List (Action κ)} {parts : List (List (Action κ))}
      (meets : manager.Meets host path world (.ok batch) loaded)
      (asks : manager.Asks host path world (.ok batch) loaded)
      (registers : RegistryId.Registers (some manager.target) batch.origin batch.candidates
        (loaded.registry manager.registry) ((manager.tryPath host path world).state.registry manager.registry) found)
      (later : Tries host manager rest (manager.tryPath host path world).state parts after) :
      Tries host manager (path :: rest) world (found :: parts) after

/-- A path that is tried without a panic has met with an outcome. -/
theorem meets_of_returned {path : String} {world : World κ μ} {found : List (Action κ)}
    (returned : (manager.tryPath host path world).result = .ok found) :
    ∃ outcome loaded, manager.Meets host path world outcome loaded := by
  unfold tryPath RegistryId.discover at returned
  rw [RegistryId.read_bind] at returned
  obtain ⟨outcome, loads, _⟩ := Run.bind_returns_iff.mp returned
  cases outcome with
  | error fault => exact ⟨_, _, .failed (Run.reaches_of_ok loads)⟩
  | ok module => exact ⟨_, _, .loaded (Run.reaches_of_ok loads)⟩

/-- The first path is tried, and then the others. -/
theorem Tries.cons {path : String} {rest : List String} {world after : World κ μ} {found : List (Action κ)}
    {parts : List (List (Action κ))} (returned : (manager.tryPath host path world).result = .ok found)
    (later : manager.Tries host rest (manager.tryPath host path world).state parts after) :
    manager.Tries host (path :: rest) world (found :: parts) after := by
  obtain ⟨outcome, loaded, meets⟩ := meets_of_returned returned
  cases outcome with
  | error fault =>
    obtain ⟨nothing, still, _⟩ := Search.Gathers.fails meets
    cases nothing.symm.trans returned
    exact .failed meets (Meets.asks meets) still later
  | ok batch =>
    obtain ⟨others, same, registers⟩ := Search.Gathers.registers meets
    cases same.symm.trans returned
    exact .accepted meets (Meets.asks meets) registers later

/-- Whoever gets through a list of paths has tried all of them, and has asked for each module once. -/
theorem tries_of_returned {paths : List String} {world : World κ μ} {parts : List (List (Action κ))}
    (returned : (Run.forEach (manager.tryPath host) paths world).result = .ok parts) :
    manager.Tries host paths world parts (Run.forEach (manager.tryPath host) paths world).state ∧
      (Run.forEach (manager.tryPath host) paths world).journal = paths.map fun path => .loading (.path path) := by
  induction paths generalizing world parts with
  | nil =>
    cases returned
    exact ⟨.done world, rfl⟩
  | cons path rest ih =>
    rw [Run.forEach_cons] at returned ⊢
    obtain ⟨found, first, returned⟩ := Run.bind_returns_iff.mp returned
    obtain ⟨others, later, same⟩ := Run.bind_returns_iff.mp returned
    cases same
    obtain ⟨tries, asks⟩ := ih later
    rw [Run.bind_of_ok first, Run.bind_of_ok later]
    refine ⟨.cons first tries, ?_⟩
    have asked : (manager.tryPath host path world).journal = [.loading (.path path)] :=
      RegistryId.discover_path_journal host manager.registry path _ _ world
    simp [asked, asks]

/-- The names of what the paths yield are put together in order. -/
theorem discoverPaths_ends {paths : List String} {world : World κ μ} {discovered : List String}
    (returned : (manager.discoverPaths host paths world).result = .ok discovered) :
    (∃ parts, manager.Tries host paths world parts (manager.discoverPaths host paths world).state ∧
      discovered = parts.flatten.map Action.name) ∧
    (manager.discoverPaths host paths world).journal = paths.map fun path => .loading (.path path) := by
  obtain ⟨parts, tried, same⟩ := Run.bind_returns_iff.mp returned
  cases same
  obtain ⟨tries, asks⟩ := tries_of_returned tried
  have ended : manager.discoverPaths host paths world = ⟨_, _, _⟩ := Run.bind_of_ok tried _
  rw [ended]
  exact ⟨⟨parts, tries, rfl⟩, (List.append_nil _).trans asks⟩

end paths

end Manager

/-- What a refresh at a time leaves with a manager. -/
def ManagerState.stamped (state : ManagerState κ) (time : Nat) : ManagerState κ :=
  { state with
    context := (state.context.insert "timestamp" (.string (Manager.timeText time))).insert "last_refresh"
      (.string (Manager.timeText time))
    lastRefresh := some time }

/-- The time of the last refresh is the same in all places. -/
structure ManagerState.Shows (state : ManagerState κ) (time : Nat) : Prop where
  lastRefresh : state.lastRefresh = some time
  timestamp : state.context.get? "timestamp" = some (.string (Manager.timeText time))
  shown : state.context.get? "last_refresh" = some (.string (Manager.timeText time))

theorem ManagerState.stamped_shows (state : ManagerState κ) (time : Nat) : (state.stamped time).Shows time where
  lastRefresh := rfl
  timestamp := by simp [stamped, Table.get?_insert]
  shown := by simp [stamped]

namespace Manager

section state
variable {host : Host κ μ} {manager : Manager} {channel : Channel}

/-- A refresh that looks for modules leaves the time that the clock shows. -/
theorem beginRefresh_manager (manager : Manager) (world : World κ μ) :
    (manager.beginRefresh world).state.manager manager.id = (world.manager manager.id).stamped world.time := by
  let shown : Json := .string (timeText world.time)
  let read : World κ μ := { world with log := (manager.beginRefresh world).state.log, readings := world.readings + 1 }
  let timed := (manager.modify (fun state => { state with lastRefresh := some world.time }) read).state
  have ended : (manager.beginRefresh world).state =
      (manager.setContext "last_refresh" shown (manager.setContext "timestamp" shown timed).state).state := rfl
  rw [ended]
  unfold setContext
  rw [modify_manager, modify_manager, modify_manager]
  rfl

/-- What the library does by the way leaves managers alone. -/
theorem ordinary_unchanged (manager : Manager) :
    Ordinary (Run.Unchanged fun world : World κ μ => world.manager manager.id) where
  record _ _ _ _ _ := rfl
  now _ := rfl
  freshIndex _ := rfl
  registry _ _ _ := rfl

/-- While paths are tried the manager is left alone, unless user code that loads modules does otherwise. -/
theorem discoverPaths_unchanged (reserved : host.Reserved fun world => world.manager manager.id) (paths : List String)
    (world : World κ μ) :
    (manager.discoverPaths host paths world).state.manager manager.id = world.manager manager.id :=
  manager.discoverPaths_moves (ordinary_unchanged manager) reserved paths world

end state

section refresh
variable {host : Host κ μ} {manager : Manager}

/-- The event before a refresh. -/
def beforeRefreshEvent (manager : Manager) (force : Bool) : Event :=
  ⟨Event.beforeRefresh, manager.facts.insert "force" (.bool force)⟩

/-- The event after a refresh. -/
def afterRefreshEvent (manager : Manager) (needed : Bool) (discovered : List String) : Event :=
  ⟨Event.afterRefresh,
    (manager.facts.insert "refreshed" (.bool needed)).insert "discovered" (.strings discovered)⟩

/-- A refresh up to where subscribers have heard that it begins, and how long ago the last one was. -/
def announced (host : Host κ μ) (manager : Manager) (channel : Channel) (force : Bool) :
    Act κ μ (Option Duration) := do
  let elapsed ← manager.sinceRefresh
  manager.announceRefresh host channel force
  return elapsed

theorem announced_ends (host : Host κ μ) (manager : Manager) (channel : Channel) (force : Bool) (world : World κ μ) :
    let ran := manager.announced host channel force world
    let event := manager.beforeRefreshEvent force
    ∃ readings : Nat, ran.result = .ok (manager.age 0 world) ∧
      ran.journal = manager.telling channel event world ∧
      ran.state = (manager.publish host channel event { world with readings }).state := by
  intro ran event
  obtain ⟨readings, asked, _⟩ := manager.sinceRefresh_ends world
  have published : (manager.publish host channel event { world with readings }).result = .ok () :=
    (manager.publish_returns host channel event).unit _
  have announces : manager.announceRefresh host channel force = manager.publish host channel event := rfl
  have ended : ran = ⟨.ok (manager.age 0 world), (manager.publish host channel event { world with readings }).state,
      (manager.publish host channel event { world with readings }).journal⟩ := by
    unfold ran announced
    rw [Run.bind_apply_ok asked, announces, Run.bind_of_ok published]
    simp
  rw [ended, publish_journal]
  exact ⟨readings, rfl, rfl, rfl⟩

theorem approachModules_eq (channel : Channel) (force : Bool) : manager.approachModules host channel force =
    (manager.announced host channel force >>= fun _ => manager.beginRefresh) := by
  simp only [approachModules, announced, bind_assoc, pure_bind]

/-- Once subscribers have heard of it, a refresh looks for modules if this is needed, and says what it found. -/
theorem refresh_eq (channel : Channel) (force : Bool) (extraPaths : List String) :
    manager.refresh host channel force extraPaths = (do
      let elapsed ← manager.announced host channel force
      let discovered ← manager.rediscoverIf host (manager.needsRefresh force extraPaths elapsed) elapsed extraPaths
      manager.concludeRefresh host channel (manager.needsRefresh force extraPaths elapsed) discovered
      return manager.needsRefresh force extraPaths elapsed) := by
  simp only [refresh, announced, bind_assoc, pure_bind]

/-- What a refresh does between its events, once it has returned. -/
theorem rediscover_ends {extraPaths : List String} {world : World κ μ} {discovered : List String}
    (returned : (manager.rediscover host extraPaths world).result = .ok discovered) :
    let ran := manager.rediscover host extraPaths world
    let begun := (manager.beginRefresh world).state
    ran.journal = ((manager.searchPaths ++ extraPaths).map fun path => .loading (.path path)) ∧
      ran.state.manager = (manager.discoverPaths host (manager.searchPaths ++ extraPaths) begun).state.manager ∧
      ∃ parts explored, manager.Tries host (manager.searchPaths ++ extraPaths) begun parts explored ∧
        discovered = parts.flatten.map Action.name ∧ ran.state.bus = explored.bus := by
  intro ran begun
  have begins : manager.beginRefresh world = ⟨.ok (), begun, []⟩ := rfl
  have same : ran = manager.lookForModules host extraPaths begun := Run.bind_apply_ok begins _
  change ran.result = _ at returned
  rw [same] at returned ⊢
  obtain ⟨found, looked, rest⟩ := Run.bind_returns_iff.mp returned
  cases rest
  obtain ⟨⟨parts, tries, named⟩, asks⟩ := discoverPaths_ends looked
  have ended : manager.lookForModules host extraPaths begun = ⟨_, _, _⟩ := Run.bind_of_ok looked _
  rw [ended]
  exact ⟨(List.append_nil _).trans asks, rfl, parts, _, tries, named, rfl⟩

theorem rediscoverIf_true (elapsed : Option Duration) (extraPaths : List String) :
    manager.rediscoverIf host true elapsed extraPaths = manager.rediscover host extraPaths := rfl

/-- Between its events a refresh that is not needed discovers nothing, and takes no step. -/
theorem rediscoverIf_idle (host : Host κ μ) (manager : Manager) (elapsed : Option Duration) (extraPaths : List String)
    (world : World κ μ) :
    let ran := manager.rediscoverIf host false elapsed extraPaths world
    ran.result = .ok [] ∧ ran.journal = [] ∧ ran.state.bus = world.bus := by
  cases elapsed with
  | none => exact ⟨rfl, rfl, rfl⟩
  | some elapsed => exact ⟨rfl, rfl, rfl⟩

/-- A refresh whose paths have been tried ends with what it needed, between two events. -/
theorem refresh_ends {channel : Channel} {force : Bool} {extraPaths : List String} {world : World κ μ} {needed : Bool}
    {discovered : List String} (decided : manager.needsRefresh force extraPaths (manager.age 0 world) = needed)
    (found : (manager.rediscoverIf host needed (manager.age 0 world) extraPaths
      (manager.announced host channel force world).state).result = .ok discovered) :
    let ran := manager.refresh host channel force extraPaths world
    let between := manager.rediscoverIf host needed (manager.age 0 world) extraPaths
      (manager.announced host channel force world).state
    let before := manager.beforeRefreshEvent force
    let after := manager.afterRefreshEvent needed discovered
    ran.result = .ok needed ∧ ran.state = (manager.publish host channel after between.state).state ∧
      ran.journal =
        manager.telling channel before world ++ between.journal ++ manager.telling channel after between.state := by
  intro ran between before after
  obtain ⟨_, told, notices, _⟩ := manager.announced_ends host channel force world
  have published : (manager.publish host channel after between.state).result = .ok () :=
    (manager.publish_returns host channel after).unit _
  have ends : manager.concludeRefresh host channel needed discovered = manager.publish host channel after := rfl
  have ended : ran = ⟨.ok needed, (manager.publish host channel after between.state).state,
      (manager.announced host channel force world).journal ++ (between.journal ++
        ((manager.publish host channel after between.state).journal ++ []))⟩ := by
    unfold ran
    rw [refresh_eq, Run.bind_of_ok told, decided, Run.bind_of_ok found, ends, Run.bind_of_ok published]
    rfl
  rw [ended, notices, publish_journal, List.append_nil]
  exact ⟨rfl, rfl, (List.append_assoc _ _ _).symm⟩

/-- Where a refresh begins to look for modules. -/
theorem approachModules_state (channel : Channel) (force : Bool) (world : World κ μ) :
    (manager.approachModules host channel force world).state =
      (manager.beginRefresh (manager.announced host channel force world).state).state := by
  obtain ⟨_, told, _⟩ := manager.announced_ends host channel force world
  rw [approachModules_eq, Run.bind_of_ok told]

section unchanged
variable {σ : Type} {look : World κ μ → σ} (discreet : host.Discreet look)
  (records : ∀ severity message fields, Run.Moves (Run.Unchanged look) (Act.record severity message fields))
  (timeless : ∀ world readings, look { world with readings } = look world)
include discreet records

/-- Publishing leaves alone what subscribers and records do. -/
theorem publish_unchanged (channel : Channel) (event : Event) (world : World κ μ) :
    look (manager.publish host channel event world).state = look world := by
  have published : Run.Moves (Run.Unchanged look) (manager.publish host channel event) :=
    (manager.bus.publish_moves channel records discreet event.name event.data).bind fun _ => Run.moves_pure _
  exact published world

include timeless

/-- Hearing that a refresh begins discreet subscribers leave alone what does not depend on the clock. -/
theorem announced_unchanged (channel : Channel) (force : Bool) (world : World κ μ) :
    look (manager.announced host channel force world).state = look world := by
  obtain ⟨readings, _, _, ended⟩ := manager.announced_ends host channel force world
  rw [ended, publish_unchanged discreet records, timeless]

/-- A refresh that is not needed leaves alone what its subscribers, records and the clock leave alone. -/
theorem refresh_unchanged (channel : Channel) {force : Bool} {extraPaths : List String} {world : World κ μ}
    (idle : manager.needsRefresh force extraPaths (manager.age 0 world) = false) :
    look (manager.refresh host channel force extraPaths world).state = look world := by
  let told := (manager.announced host channel force world).state
  have announced : look told = look world := announced_unchanged discreet records timeless channel force world
  have skipped : look (manager.rediscoverIf host false (manager.age 0 world) extraPaths told).state = look told :=
    manager.rediscoverIf_idle_moves (records .debug "Skipping refresh") _ _ told
  obtain ⟨found, _⟩ := manager.rediscoverIf_idle host (manager.age 0 world) extraPaths told
  obtain ⟨_, ended, _⟩ := refresh_ends idle found
  rw [ended, publish_unchanged discreet records, skipped, announced]

end unchanged

/-- Where it begins to look for modules a refresh has left one time in all places. -/
theorem approachModules_manager (discreet : host.Discreet fun world => world.manager manager.id) (channel : Channel)
    (force : Bool) (world : World κ μ) :
    (manager.approachModules host channel force world).state.manager manager.id =
      (world.manager manager.id).stamped (manager.announced host channel force world).state.time := by
  have told : (manager.announced host channel force world).state.manager manager.id = world.manager manager.id :=
    announced_unchanged discreet (fun _ _ _ _ => rfl) (fun _ _ => rfl) channel force world
  rw [approachModules_state, beginRefresh_manager, told]

/-- Unless a module panics, a refresh gets through its paths. -/
theorem rediscover_of_calm {channel : Channel} {force : Bool} {extraPaths : List String} {world : World κ μ}
    (calm : ∀ panic, ¬manager.LoadingPanics host panic (manager.searchPaths ++ extraPaths)
      (manager.approachModules host channel force world).state) :
    ∃ discovered, (manager.rediscover host extraPaths (manager.announced host channel force world).state).result =
      .ok discovered := by
  cases searched : (manager.rediscover host extraPaths (manager.announced host channel force world).state).result with
  | ok discovered => exact ⟨discovered, rfl⟩
  | error panic =>
    rw [rediscover_panics_iff, ← approachModules_state] at searched
    exact absurd searched (calm panic)

/-- A call decides whether it refreshes the manager before it does anything else. -/
theorem call_decides (host : Host κ μ) (manager : Manager) (channel : Channel) (world : World κ μ) :
    ∃ (due : Bool) (readings : Nat), (due = true ↔ manager.autoRefresh = true ∧ manager.Overdue world) ∧
      ∀ name own params, manager.call host channel name own params world =
        (if due then
          manager.refresh host channel false [] >>= fun _ => manager.answer host channel name own params
        else manager.answer host channel name own params) { world with readings } := by
  by_cases auto : manager.autoRefresh = true
  · obtain ⟨readings, asked, _⟩ := manager.isDue_ends auto world
    refine ⟨manager.isOverdue (manager.age 0 world), readings, ?_, fun name own params => ?_⟩
    · rw [isOverdue_age_iff, and_iff_right auto]
    · rw [call_eq, refreshIfDue, bind_assoc, Run.bind_apply_ok asked]
      cases manager.isOverdue (manager.age 0 world) with
      | false => rfl
      | true => simp
  · refine ⟨false, world.readings, by simp [auto], fun name own params => ?_⟩
    rw [call_eq, refreshIfDue, isDue, if_neg auto]
    rfl

/-- A refresh decides when it begins, tells so between two events, and tries its paths in order if it has to. -/
theorem refresh_protocol (channel : Channel) (force : Bool) (extraPaths : List String) {world : World κ μ}
    (discreet : host.Discreet fun world => world.manager manager.id)
    (calm : ∀ panic, ¬manager.LoadingPanics host panic (manager.searchPaths ++ extraPaths)
      (manager.approachModules host channel force world).state) :
    let paths := manager.searchPaths ++ extraPaths
    let told := (manager.announced host channel force world).state
    let begun := (manager.approachModules host channel force world).state
    let ran := manager.refresh host channel force extraPaths world
    let heard := (world.bus manager.bus).subscriptions channel Event.beforeRefresh
    (∃ (needed : Bool) (discovered : List String) (later : List (Subscription κ)),
      let before := manager.beforeRefreshEvent force
      let after := manager.afterRefreshEvent needed discovered
      (needed = true ↔ force = true ∨ extraPaths ≠ [] ∨ manager.Overdue world) ∧
      ran.result = .ok needed ∧
      ran.journal =
        (.published manager.bus channel before :: heard.map (.notified channel · before)) ++
        (if needed then paths.map fun path => .loading (.path path) else []) ++
        (.published manager.bus channel after :: later.map (.notified channel · after)) ∧
      (needed = false → discovered = [] ∧ later = (told.bus manager.bus).subscriptions channel Event.afterRefresh ∧
        ran.state.manager manager.id = world.manager manager.id ∧
        ((host.Discreet fun world => world.registry manager.registry) →
          ran.state.registry manager.registry = world.registry manager.registry)) ∧
      (needed = true →
        let left := (world.manager manager.id).stamped told.time
        left.Shows told.time ∧ begun.manager manager.id = left ∧
        ((host.Reserved fun world => world.manager manager.id) → ran.state.manager manager.id = left) ∧
        ∃ parts explored, manager.Tries host paths begun parts explored ∧
          discovered = parts.flatten.map Action.name ∧
          later = (explored.bus manager.bus).subscriptions channel Event.afterRefresh)) ∧
    ∃ (due : Bool) (readings : Nat), (due = true ↔ manager.autoRefresh = true ∧ manager.Overdue world) ∧
      ∀ name own params, manager.call host channel name own params world =
        (if due then
          manager.refresh host channel false [] >>= fun _ => manager.answer host channel name own params
        else manager.answer host channel name own params) { world with readings } := by
  intro paths told begun ran heard
  refine ⟨?_, manager.call_decides host channel world⟩
  cases decided : manager.needsRefresh force extraPaths (manager.age 0 world) with
  | false =>
    obtain ⟨found, quiet, buses⟩ := manager.rediscoverIf_idle host (manager.age 0 world) extraPaths told
    obtain ⟨returned, _, journal⟩ := refresh_ends decided found
    rw [quiet, telling, telling] at journal
    refine ⟨false, [], _, ?_, returned, journal, ?_, fun needed => by cases needed⟩
    · rw [← needsRefresh_iff, decided]
    · intro _
      have manages := refresh_unchanged discreet (fun _ _ _ _ => rfl) (fun _ _ => rfl) channel decided
      exact ⟨rfl, by rw [buses]; rfl, manages, fun spares =>
        refresh_unchanged spares (fun _ _ _ _ => rfl) (fun _ _ => rfl) channel decided⟩
  | true =>
    obtain ⟨discovered, found⟩ := rediscover_of_calm calm
    obtain ⟨asks, managers, parts, explored, tries, named, buses⟩ := rediscover_ends found
    obtain ⟨returned, ended, journal⟩ := refresh_ends decided found
    -- the paths are tried from where the time was left, not from where the refresh was announced
    have begins : (manager.beginRefresh told).state = begun := (approachModules_state channel force world).symm
    have stamped := approachModules_manager discreet channel force world
    rw [rediscoverIf_true] at ended journal
    rw [asks, telling, telling] at journal
    rw [begins] at managers tries
    refine ⟨true, discovered, _, ?_, returned, journal, fun idle => (by cases idle), ?_⟩
    · rw [← needsRefresh_iff, decided]
    · intro _
      refine ⟨ManagerState.stamped_shows _ _, stamped, fun reserved => ?_, parts, explored, tries, named, ?_⟩
      · rw [ended, publish_unchanged discreet fun _ _ _ _ => rfl, managers, discoverPaths_unchanged reserved, stamped]
      · rw [buses]
        rfl

end refresh

end Manager

/-- Plain user code that has no module for one path, and loads the candidates of a batch from all others. -/
def Host.failing (batch : Batch Unit) : Host Unit Unit :=
  { Host.plain with
    load := fun _ source _ _ =>
      return if source.text = "missing" then .error (.pathNotFound "missing") else .ok ⟨source.text, batch.candidates⟩ }

namespace Manager

/-- A manager that was never refreshed looks for modules, and does not stop at the path that has none. -/
theorem refresh_protocol_failing :
    let manager := { restless with searchPaths := ["missing", "scripts"] }
    let ran := manager.refresh (.failing .mixed) .blocking false [] .loading
    ran.result = .ok true ∧ loads ran.journal = [.path "missing", .path "scripts"] ∧
      (ran.state.manager manager.id).Shows 0 := by
  intro manager ran
  have calm : (Host.failing .mixed).Calm :=
    ⟨fun _ => Run.returns_pure _, Run.returns_pure _, fun _ _ _ => Run.returns_pure _,
      fun _ _ _ _ => Run.returns_pure _⟩
  have discreet : (Host.failing .mixed).Discreet fun world => world.manager manager.id := fun _ _ _ => Run.moves_pure _
  have reserved : (Host.failing .mixed).Reserved fun world => world.manager manager.id :=
    fun _ _ _ _ => Run.moves_pure _
  obtain ⟨⟨needed, discovered, later, decided, returned, journal, _, looks⟩, _⟩ :=
    refresh_protocol .blocking false [] discreet fun _ panics => LoadingPanics.not_of_calm calm panics
  have overdue : manager.Overdue World.loading := nofun
  obtain rfl : needed = true := decided.mpr (.inr (.inr overdue))
  obtain ⟨shows, _, kept, _⟩ := looks rfl
  have told (event : Event) (heard : List (Subscription Unit)) :
      loads (.published manager.bus .blocking event :: heard.map (.notified .blocking · event)) = [] :=
    loads_eq_nil (by simp [Step.stage])
  refine ⟨returned, ?_, ?_⟩
  · rw [journal, loads_append, loads_append, told, told]
    rfl
  · rw [kept reserved]
    exact shows

end Manager

end Dispatch
