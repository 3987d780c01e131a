import Dispatch.Proofs.Call.Frame
import Dispatch.Proofs.Channels.Refresh
import Dispatch.Proofs.Refresh

namespace Dispatch

variable {κ μ : Type}

namespace World

/-- What the clock shows when it is read next. -/
def time (world : World κ μ) : Nat := world.clock world.readings

/-- The clock does not go back. -/
def Steady (world : World κ μ) : Prop := ∀ earlier later, earlier ≤ later → world.clock earlier ≤ world.clock later

/-- The clock is the same, and has been read on. -/
structure Ages (before after : World κ μ) : Prop where
  clock : after.clock = before.clock
  later : before.readings ≤ after.readings

variable {before after : World κ μ}

theorem Ages.steady (ages : Ages before after) (steady : before.Steady) : after.Steady := by
  unfold Steady
  rw [ages.clock]
  exact steady

theorem Ages.time_le (ages : Ages before after) (steady : before.Steady) : before.time ≤ after.time := by
  unfold time
  rw [ages.clock]
  exact steady _ _ ages.later

instance : Run.Lasting (Ages : World κ μ → World κ μ → Prop) where
  stays _ := ⟨rfl, Nat.le_refl _⟩
  goesOn begun ended := ⟨ended.clock.trans begun.clock, Nat.le_trans begun.later ended.later⟩

end World

namespace Manager

/-- A record says that a manager of these names begins to look for modules. -/
def begins (manager : Manager) (record : LogRecord) : Bool :=
  record.message = "Refreshing actions" &&
    Json.sameEntries record.fields [("manager", .string manager.name), ("target_system", .string manager.target)]

/-- How often a manager of these names has looked for modules, as the log says. -/
def discoveries (manager : Manager) (world : World κ μ) : Nat := world.log.countP manager.begins

/-- An edit of what a manager keeps is found there. -/
theorem modify_manager (manager : Manager) (f : ManagerState κ → ManagerState κ) (world : World κ μ) :
    ((manager.modify f : Act κ μ Unit) world).state.manager manager.id = f (world.manager manager.id) := if_pos rfl

/-- When the manager was last refreshed. -/
def lastRefresh (manager : Manager) (world : World κ μ) : Option Nat := (world.manager manager.id).lastRefresh

/-- The manager was refreshed at a time or since. -/
def Settled (manager : Manager) (due : Nat) (world : World κ μ) : Prop :=
  ∃ time, manager.lastRefresh world = some time ∧ due ≤ time ∧ time ≤ world.time

/-- Time goes on, and a manager that was refreshed since a time still is. -/
structure Settles (manager : Manager) (due : Nat) (before after : World κ μ) : Prop extends World.Ages before after where
  settled (steady : before.Steady) (already : manager.Settled due before) : manager.Settled due after

/-- Moreover the manager does not look for modules again before its interval is over. -/
structure Rests (manager : Manager) (due : Nat) (before after : World κ μ) : Prop
    extends manager.Settles due before after where
  rests (steady : before.Steady) (already : manager.Settled due before)
    (early : after.time < due + manager.refreshInterval.nanos) : manager.discoveries after = manager.discoveries before

section rests
variable {manager : Manager} {due : Nat} {before after : World κ μ}

instance : Run.Lasting (manager.Settles due : World κ μ → World κ μ → Prop) where
  stays world := ⟨Run.Lasting.stays world, fun _ already => already⟩
  goesOn begun ended :=
    ⟨Run.Lasting.goesOn begun.toAges ended.toAges, fun steady already =>
      ended.settled (begun.toAges.steady steady) (begun.settled steady already)⟩

instance : Run.Lasting (manager.Rests due : World κ μ → World κ μ → Prop) where
  stays world := ⟨Run.Lasting.stays world, fun _ _ _ => rfl⟩
  goesOn {first second third} begun ended := by
    refine ⟨Run.Lasting.goesOn begun.toSettles ended.toSettles, fun steady already early => ?_⟩
    have steadyNext := begun.toAges.steady steady
    have earlier : second.time < due + manager.refreshInterval.nanos :=
      Nat.lt_of_le_of_lt (ended.toAges.time_le steadyNext) early
    have same := ended.rests steadyNext (begun.settled steady already) early
    exact same.trans (begun.rests steady already earlier)

/-- As time goes on a manager that nobody refreshes stays as settled as it was. -/
theorem Settled.ages (settled : manager.Settled due before) (ages : World.Ages before after) (steady : before.Steady)
    (same : manager.lastRefresh after = manager.lastRefresh before) : manager.Settled due after := by
  obtain ⟨time, last, since, past⟩ := settled
  exact ⟨time, same.trans last, since, Nat.le_trans past (ages.time_le steady)⟩

/-- Who leaves the manager alone, and only adds other records to the log, keeps it at rest. -/
theorem rests_of_same (ages : World.Ages before after) (same : manager.lastRefresh after = manager.lastRefresh before)
    (told : manager.discoveries after = manager.discoveries before) : manager.Rests due before after :=
  ⟨⟨ages, fun steady already => already.ages ages steady same⟩, fun _ _ _ => told⟩

theorem ordinary_rests (manager : Manager) (due : Nat) : Ordinary (manager.Rests due : World κ μ → World κ μ → Prop) where
  record severity message fields other := by
    intro world
    refine rests_of_same ⟨rfl, Nat.le_refl _⟩ rfl ?_
    change (world.log ++ [_]).countP manager.begins = world.log.countP manager.begins
    simp [begins, other]
  now := fun world => rests_of_same ⟨rfl, Nat.le_succ _⟩ rfl rfl
  freshIndex := fun world => rests_of_same ⟨rfl, Nat.le_refl _⟩ rfl rfl
  registry id f := fun world => rests_of_same ⟨rfl, Nat.le_refl _⟩ rfl rfl

end rests

section due
variable {manager : Manager} {due : Nat} {world before after : World κ μ}

/-- As time goes on a manager that nobody refreshes stays overdue. -/
theorem overdue_ages (overdue : manager.isOverdue (manager.age 0 before) = true) (ages : World.Ages before after)
    (steady : before.Steady) (same : manager.lastRefresh after = manager.lastRefresh before) :
    manager.isOverdue (manager.age 0 after) = true := by
  have later : before.time ≤ after.time := ages.time_le steady
  unfold lastRefresh at same
  unfold World.time at later
  unfold age isOverdue at overdue ⊢
  rw [same]
  cases last : (before.manager manager.id).lastRefresh with
  | none => rfl
  | some time =>
    simp only [last, Option.map_some, Option.all_some, decide_eq_true_eq, Nat.add_zero] at overdue ⊢
    omega

/-- A manager that was refreshed since a time is not overdue before its interval is over. -/
theorem Settled.not_overdue (settled : manager.Settled due world) (early : world.time < due + manager.refreshInterval.nanos) :
    manager.isOverdue (manager.age 0 world) = false := by
  obtain ⟨time, last, since, past⟩ := settled
  unfold lastRefresh at last
  unfold World.time at early past
  unfold age isOverdue
  simp only [last, Option.map_some, Option.all_some, decide_eq_false_iff_not, Nat.add_zero]
  omega

/-- What is put into the context makes no difference to when the manager was last refreshed. -/
theorem setContext_lastRefresh (manager : Manager) (name : String) (value : Json) (world : World κ μ) :
    manager.lastRefresh (manager.setContext name value world).state = manager.lastRefresh world := by
  unfold lastRefresh setContext
  rw [modify_manager]

/-- A refresh that looks for modules leaves its time and a record of it. -/
theorem beginRefresh_ends (manager : Manager) (world : World κ μ) :
    let after := (manager.beginRefresh world).state
    after.clock = world.clock ∧ after.readings = world.readings + 1 ∧
      manager.lastRefresh after = some world.time ∧ manager.discoveries after = manager.discoveries world + 1 := by
  intro after
  have log : after.log = world.log ++ [⟨.info, "Refreshing actions",
      [("manager", .string manager.name), ("target_system", .string manager.target)]⟩] := rfl
  have last : manager.lastRefresh after = some world.time := by
    let shown : Json := .string (timeText world.time)
    let read : World κ μ := { world with log := after.log, readings := world.readings + 1 }
    let stamped := (manager.modify (fun state => { state with lastRefresh := some world.time }) read).state
    have ended : after =
        (manager.setContext "last_refresh" shown (manager.setContext "timestamp" shown stamped).state).state := rfl
    rw [ended, setContext_lastRefresh, setContext_lastRefresh, lastRefresh, modify_manager]
  have tells : manager.begins ⟨.info, "Refreshing actions",
      [("manager", .string manager.name), ("target_system", .string manager.target)]⟩ = true := by
    simp [begins, Json.sameEntries, Json.same]
  have told : manager.discoveries after = manager.discoveries world + 1 := by
    unfold discoveries
    rw [log, List.countP_append, List.countP_singleton, if_pos tells]
  exact ⟨rfl, rfl, last, told⟩

theorem beginRefresh_ages (manager : Manager) (world : World κ μ) :
    World.Ages world (manager.beginRefresh world).state := by
  obtain ⟨clock, readings, _⟩ := manager.beginRefresh_ends world
  exact ⟨clock, Nat.le_of_lt (readings ▸ Nat.lt_succ_self _)⟩

/-- From the time on that it leaves, a refresh has settled the manager. -/
theorem settled_of_beginRefresh (steady : world.Steady) (since : due ≤ world.time) :
    manager.Settled due (manager.beginRefresh world).state := by
  obtain ⟨_, _, last, _⟩ := manager.beginRefresh_ends world
  exact ⟨world.time, last, since, (manager.beginRefresh_ages world).time_le steady⟩

theorem beginRefresh_settles (manager : Manager) (due : Nat) :
    Run.Moves (manager.Settles due) (manager.beginRefresh : Act κ μ Unit) := by
  intro world
  refine ⟨manager.beginRefresh_ages world, fun steady already => ?_⟩
  obtain ⟨time, _, since, past⟩ := already
  exact settled_of_beginRefresh steady (Nat.le_trans since past)

end due

section refresh
variable {host : Host κ μ} {manager : Manager} {due : Nat}

/-- What a refresh finds once it has left its time. -/
def lookForModules (host : Host κ μ) (manager : Manager) (extraPaths : List String) : Act κ μ (List String) := do
  let discovered ← manager.discoverPaths host (manager.searchPaths ++ extraPaths)
  Act.record .debug "Refreshed actions"
    [("manager", .string manager.name),
     ("discovered", .ofNat discovered.length),
     ("available", .ofNat (← manager.available).length)]
  return discovered

/-- What a refresh does once it has left its time. -/
def finishRefresh (host : Host κ μ) (manager : Manager) (channel : Channel) : Act κ μ Bool := do
  let discovered ← manager.lookForModules host []
  manager.concludeRefresh host channel true discovered
  return true

/-- A refresh of an overdue manager tells of it, leaves its time, and looks for modules. -/
theorem refresh_of_overdue (channel : Channel) {world : World κ μ}
    (overdue : manager.isOverdue (manager.age 0 world) = true) :
    manager.refresh host channel false [] world =
      (manager.approachModules host channel false >>= fun _ => manager.finishRefresh host channel) world := by
  obtain ⟨readings, asked, _⟩ := manager.sinceRefresh_ends world
  have needed : manager.needsRefresh false [] (manager.age 0 world) = true := by simp [needsRefresh, overdue]
  unfold refresh approachModules
  rw [bind_assoc, Run.bind_apply_ok asked, Run.bind_apply_ok asked]
  simp only [needed, rediscoverIf, if_true, rediscover, finishRefresh, lookForModules, bind_assoc]

/-- Looking for modules keeps whatever user code that loads them and the library by the way keep. -/
theorem lookForModules_moves {relation : World κ μ → World κ μ → Prop} [Run.Lasting relation]
    (ordinary : Ordinary relation)
    (loads : ∀ code source dependencies scope, Run.Moves relation (host.load code source dependencies scope))
    (extraPaths : List String) : Run.Moves relation (manager.lookForModules host extraPaths) := by
  refine (manager.discoverPaths_moves ordinary loads _).bind fun discovered => ?_
  have lists : Run.Moves relation (manager.available : Act κ μ (List String)) :=
    manager.registry.read_moves_of.bind fun _ => Run.moves_pure _
  exact lists.bind fun names => (ordinary.record _ _ _ (by decide)).bind fun _ => Run.moves_pure _

/-- A refresh keeps what the library by the way, its stamp, loaders and those who hear of it keep. -/
theorem refresh_moves_of_ordinary {relation : World κ μ → World κ μ → Prop} [Run.Lasting relation] {channel : Channel}
    (ordinary : Ordinary relation)
    (loads : ∀ code source dependencies scope, Run.Moves relation (host.load code source dependencies scope))
    (begins : Run.Moves relation (manager.beginRefresh : Act κ μ Unit))
    (tells : ∀ event, event.name ∈ [Event.beforeRefresh, Event.afterRefresh] →
      Run.Moves relation (manager.publish host channel event)) (force : Bool) (extraPaths : List String) :
    Run.Moves relation (manager.refresh host channel force extraPaths) := by
  refine refresh_moves_of (manager.sinceRefresh_moves ordinary) tells (fun needed elapsed => ?_) force
  cases needed with
  | false => exact manager.rediscoverIf_idle_moves (fun _ => ordinary.record _ _ _ (by decide)) _ _
  | true => exact begins.bind fun _ => lookForModules_moves ordinary loads extraPaths

variable (keeps : host.Keeps (manager.Rests due))
include keeps

theorem announceRefresh_moves (channel : Channel) :
    Run.Moves (manager.Rests due) (manager.announceRefresh host channel false) :=
  manager.publish_moves (manager.ordinary_rests due) keeps channel _

/-- Once it has left its time a refresh keeps the manager at rest. -/
theorem finishRefresh_moves (channel : Channel) :
    Run.Moves (manager.Rests due) (manager.finishRefresh host channel) :=
  (lookForModules_moves (manager.ordinary_rests due) keeps.load []).bind fun _ =>
    (manager.publish_moves (manager.ordinary_rests due) keeps channel _).bind fun _ => Run.moves_pure _

end refresh

section call
variable {host : Host κ μ} {manager : Manager} {due : Nat} {channel : Channel}

/-- Whoever asks whether a refresh is due finds the manager as overdue as it was. -/
theorem isDue_overdue {world : World κ μ} (steady : world.Steady)
    (overdue : manager.isOverdue (manager.age 0 world) = true) :
    manager.isOverdue (manager.age 0 (manager.isDue world).state) = true := by
  have ages := (manager.isDue_moves (manager.ordinary_rests 0) world).toAges
  have same : manager.lastRefresh (manager.isDue world).state = manager.lastRefresh world := by
    by_cases auto : manager.autoRefresh = true
    · obtain ⟨readings, asked, _⟩ := manager.isDue_ends auto world
      rw [asked]
      rfl
    · unfold isDue
      rw [if_neg auto]
      rfl
  exact overdue_ages overdue ages steady same

/-- A manager that is not overdue, or that does not refresh itself, is left alone before a call. -/
theorem refreshIfDue_of_rested {world : World κ μ}
    (rested : manager.autoRefresh = true → manager.isOverdue (manager.age 0 world) = false) :
    manager.refreshIfDue host channel world = ⟨.ok (), (manager.isDue world).state, []⟩ := by
  have asked : ∃ after, (manager.isDue : Act κ μ Bool) world = ⟨.ok false, after, []⟩ := by
    by_cases auto : manager.autoRefresh = true
    · obtain ⟨readings, asked, _⟩ := manager.isDue_ends auto world
      rw [rested auto] at asked
      exact ⟨_, asked⟩
    · unfold isDue
      rw [if_neg auto]
      exact ⟨world, rfl⟩
  obtain ⟨after, asked⟩ := asked
  unfold refreshIfDue
  rw [Run.bind_apply_ok asked, asked]
  rfl

/-- An overdue manager that refreshes itself is refreshed before a call. -/
theorem refreshIfDue_of_overdue {world : World κ μ} (steady : world.Steady) (auto : manager.autoRefresh = true)
    (overdue : manager.isOverdue (manager.age 0 world) = true) :
    manager.refreshIfDue host channel world =
      ((manager.isDue >>= fun _ => manager.approachModules host channel false) >>= fun _ =>
        manager.finishRefresh host channel >>= fun _ => pure ()) world := by
  obtain ⟨readings, asked, _⟩ := manager.isDue_ends auto world
  have still := isDue_overdue steady overdue
  rw [asked] at still
  rw [overdue] at asked
  unfold refreshIfDue
  rw [bind_assoc, Run.bind_apply_ok asked, Run.bind_apply_ok asked]
  simp only [if_true]
  rw [Run.bind_apply, refresh_of_overdue channel still, ← Run.bind_apply, bind_assoc]

section keeps
variable (keeps : host.Keeps (manager.Rests due))
include keeps

/-- Whoever refreshes the manager leaves it settled. -/
theorem refresh_settles : Run.Moves (manager.Settles due) (manager.refresh host channel false []) := by
  have ordinary : Ordinary (manager.Rests due : World κ μ → World κ μ → Prop) := manager.ordinary_rests due
  have publishes (event : Event) : Run.Moves (manager.Settles due) (manager.publish host channel event) :=
    (manager.publish_moves ordinary keeps channel event).mono fun _ _ => Rests.toSettles
  have rediscovers (needed : Bool) (elapsed : Option Duration) :
      Run.Moves (manager.Settles due) (manager.rediscoverIf host needed elapsed []) := by
    cases needed with
    | true =>
      exact (manager.beginRefresh_settles due).bind fun _ =>
        (lookForModules_moves ordinary keeps.load []).mono fun _ _ => Rests.toSettles
    | false =>
      have skips (fields : List (String × Json)) := ordinary.record .debug "Skipping refresh" fields (by decide)
      exact manager.rediscoverIf_idle_moves (fun fields => (skips fields).mono fun _ _ => Rests.toSettles) elapsed []
  exact refresh_moves_of ((manager.sinceRefresh_moves ordinary).mono fun _ _ => Rests.toSettles)
    (fun event _ => publishes event) rediscovers false

/-- When a call looks for its action, its manager is not overdue before its interval is over. -/
theorem refreshIfDue_moves : Run.Moves (manager.Rests due) (manager.refreshIfDue host channel) := by
  have settles : Run.Moves (manager.Settles due) (manager.refreshIfDue host channel) :=
    refreshIfDue_moves_of ((manager.isDue_moves (manager.ordinary_rests due)).mono fun _ _ => Rests.toSettles)
      (refresh_settles keeps)
  intro world
  refine ⟨settles world, fun steady already early => ?_⟩
  have before : world.time < due + manager.refreshInterval.nanos :=
    Nat.lt_of_le_of_lt ((settles world).toAges.time_le steady) early
  have rested := already.not_overdue before
  rw [refreshIfDue_of_rested fun _ => rested] at early ⊢
  exact (manager.isDue_moves (manager.ordinary_rests due) world).rests steady already early

/-- A call keeps the manager at rest if the user code that runs in it does, however deep calls nest. -/
theorem call_moves (name : String) (own : Option Attributes) (params : Json) :
    Run.Moves (manager.Rests due) (manager.call host channel name own params) :=
  (refreshIfDue_moves keeps).bind fun _ => manager.answer_moves (manager.ordinary_rests due) keeps channel name own params

end keeps

end call

end Manager

end Dispatch
