import Dispatch.Proofs.Call.Course
import Dispatch.Proofs.Call.Resting

namespace Dispatch

variable {κ μ : Type}

namespace Manager

section call
variable {host : Host κ μ} {manager : Manager} {due : Nat} {channel : Channel}

theorem isDue_iff {world : World κ μ} : (manager.isDue world).result = .ok true ↔
    manager.autoRefresh = true ∧ manager.isOverdue (manager.age 0 world) = true := by
  by_cases auto : manager.autoRefresh = true
  · obtain ⟨readings, asked, _⟩ := manager.isDue_ends auto world
    simp [asked, auto]
  · unfold isDue
    simp [auto]

/-- A call that finds its manager due, up to where subscribers have heard that a refresh begins. -/
def announcing (host : Host κ μ) (manager : Manager) (channel : Channel) : Act κ μ Unit := do
  let _ ← manager.isDue
  let _ ← manager.sinceRefresh
  manager.announceRefresh host channel false

theorem announcing_returns : Run.Returns (manager.announcing host channel) :=
  manager.isDue_silent.returns.bind fun _ => manager.sinceRefresh_silent.returns.bind fun _ =>
    manager.publish_returns host channel _

/-- A call that finds its manager due tells of it, leaves the time of the refresh, looks for modules, and answers. -/
theorem call_of_overdue {world : World κ μ} (steady : world.Steady) (auto : manager.autoRefresh = true)
    (overdue : manager.isOverdue (manager.age 0 world) = true) (name : String) (own : Option Attributes)
    (params : Json) :
    let told := manager.announcing host channel world
    let stamped := (manager.beginRefresh told.state).state
    let answered := (manager.finishRefresh host channel >>= fun _ =>
      manager.answer host channel name own params) stamped
    manager.call host channel name own params world =
      ⟨answered.result, answered.state, told.journal ++ answered.journal⟩ := by
  intro told stamped answered
  have heard : manager.announcing host channel world = ⟨.ok (), told.state, told.journal⟩ := by
    rw [← announcing_returns.unit world]
  have begun : manager.beginRefresh told.state = ⟨.ok (), stamped, []⟩ := rfl
  have opened : (manager.isDue >>= fun _ => manager.approachModules host channel false) world =
      ⟨.ok (), stamped, told.journal⟩ := by
    have split : (manager.isDue >>= fun _ => manager.approachModules host channel false) =
        (manager.announcing host channel >>= fun _ => manager.beginRefresh) := by
      simp only [approachModules, announcing, bind_assoc]
    rw [split, Run.bind_apply_ok heard, begun, List.append_nil]
  rw [call_eq, Run.bind_apply, refreshIfDue_of_overdue steady auto overdue, ← Run.bind_apply, bind_assoc,
    Run.bind_apply_ok opened]
  simp only [bind_assoc, pure_bind]
  rfl

/-- Once it has left the time of the refresh a call that found its manager due keeps the manager at rest. -/
theorem rests_of_due_call (keeps : host.Keeps (manager.Rests due)) {world : World κ μ} (steady : world.Steady)
    (auto : manager.autoRefresh = true) (overdue : manager.isOverdue (manager.age 0 world) = true) (name : String)
    (own : Option Attributes) (params : Json) :
    manager.Rests due (manager.beginRefresh (manager.announcing host channel world).state).state
      (manager.call host channel name own params world).state := by
  rw [call_of_overdue steady auto overdue]
  have rests : Run.Moves (manager.Rests due) (manager.finishRefresh host channel >>= fun _ =>
      manager.answer host channel name own params) :=
    (finishRefresh_moves keeps channel).bind fun _ =>
      manager.answer_moves (manager.ordinary_rests due) keeps channel name own params
  exact rests _

theorem announcing_moves (keeps : host.Keeps (manager.Rests due)) :
    Run.Moves (manager.Rests due) (manager.announcing host channel) :=
  (manager.isDue_moves (manager.ordinary_rests due)).bind fun _ =>
    (manager.sinceRefresh_moves (manager.ordinary_rests due)).bind fun _ => announceRefresh_moves keeps channel

/-- A call that finds its manager due looks for modules once more often than those who hear of the refresh. -/
theorem discoveries_of_due_call {world : World κ μ} (keeps : host.Keeps (manager.Rests world.time))
    (steady : world.Steady) (auto : manager.autoRefresh = true)
    (overdue : manager.isOverdue (manager.age 0 world) = true) (name : String) (own : Option Attributes)
    (params : Json)
    (early : (manager.call host channel name own params world).state.time <
      world.time + manager.refreshInterval.nanos) :
    manager.discoveries (manager.call host channel name own params world).state =
      manager.discoveries (manager.announcing host channel world).state + 1 := by
  have ages : World.Ages world (manager.announcing host channel world).state := (announcing_moves keeps world).toAges
  have told := ages.steady steady
  have begun := manager.beginRefresh_ages (manager.announcing host channel world).state
  have settled : manager.Settled world.time (manager.beginRefresh (manager.announcing host channel world).state).state :=
    settled_of_beginRefresh told (ages.time_le steady)
  rw [(rests_of_due_call keeps steady auto overdue name own params).rests (begun.steady told) settled early]
  exact (manager.beginRefresh_ends _).2.2.2

end call

end Manager

/-- The module that a step asks for. -/
def Step.loaded? : Step κ → Option Source
  | .loading source => some source
  | _ => none

/-- The modules that a journal asks for, in order. -/
def loads (journal : List (Step κ)) : List Source := journal.filterMap Step.loaded?

theorem loads_append (first second : List (Step κ)) : loads (first ++ second) = loads first ++ loads second :=
  List.filterMap_append

/-- Steps at other stages ask for no modules. -/
theorem loads_eq_nil {journal : List (Step κ)} (elsewhere : ∀ step ∈ journal, step.stage ≠ .loading) :
    loads journal = [] := by
  refine List.filterMap_eq_nil_iff.mpr fun step member => ?_
  cases step with
  | loading source => exact absurd rfl (elsewhere _ member)
  | _ => rfl

theorem journal_of_silent {α : Type} {run : Act κ μ α} (silent : Run.Silent run) (world : World κ μ) :
    (run world).journal = [] := by
  obtain ⟨value, after, ran⟩ := silent world
  rw [ran]

/-- After a run without steps of its own the journal stays as it was. -/
theorem journal_bind_silent {α β : Type} {first : Act κ μ α} {next : α → Act κ μ β}
    (silent : ∀ value, Run.Silent (next value)) (world : World κ μ) :
    ((first >>= next) world).journal = (first world).journal := by
  cases ran : (first world).result with
  | error panic => rw [Run.bind_of_error ran]
  | ok value => rw [Run.bind_of_ok ran, journal_of_silent (silent value), List.append_nil]

/-- Loading the module of a path is one step, whatever user code does for it. -/
theorem Loader.load_path_journal (host : Host κ μ) (loader : Loader κ) (path : String) (dependencies : Dependencies)
    (scope : Scope) (world : World κ μ) :
    (loader.load host (.path path) dependencies scope world).journal = [.loading (.path path)] := by
  cases loader with
  | custom code => rfl
  | catalog id =>
    have rest : Run.Silent (id.read >>= fun catalog => catalog.loadPath path : Act κ μ _) :=
      id.read_silent.bind fun catalog => catalog.loadPath_silent path
    exact congrArg (.loading (.path path) :: ·) (journal_of_silent rest world)

theorem RegistryId.discover_path_journal (host : Host κ μ) (registry : RegistryId) (path : String) (scope : Scope)
    (dependencies : Dependencies) (world : World κ μ) :
    (registry.discover host (.path path) scope dependencies world).journal = [.loading (.path path)] := by
  unfold discover
  rw [read_bind]
  refine (journal_bind_silent (fun loaded => registry.registerLoaded_silent (.path path) scope loaded) _).trans ?_
  exact Loader.load_path_journal host _ path dependencies scope _

/-- A run asks for these modules in order, up to a panic if there is one. -/
def Asks {α : Type} (sources : List Source) (run : Act κ μ α) : Prop := ∀ world,
  loads (run world).journal <+: sources ∧ ∀ value, (run world).result = .ok value → loads (run world).journal = sources

section asks
variable {α β : Type} {sources : List Source}

/-- What follows and asks for no modules makes no difference. -/
theorem Asks.bind {first : Act κ μ α} {next : α → Act κ μ β} (asks : Asks sources first)
    (quiet : ∀ value, Run.Notes (fun step => step.stage ≠ .loading) (next value)) : Asks sources (first >>= next) := by
  intro world
  obtain ⟨upTo, all⟩ := asks world
  cases ran : (first world).result with
  | error panic =>
    rw [Run.bind_of_error ran]
    exact ⟨upTo, fun value returned => nomatch returned⟩
  | ok value =>
    have loaded : loads ((first >>= next) world).journal = sources := by
      rw [Run.bind_of_ok ran, loads_append, all value ran, loads_eq_nil (quiet value _), List.append_nil]
    rw [loaded]
    exact ⟨List.prefix_refl sources, fun _ _ => rfl⟩

/-- Runs in a row that ask for one module each ask for all of them. -/
theorem asks_forEach {run : α → Act κ μ β} {source : α → Source}
    (one : ∀ item world, loads (run item world).journal = [source item]) (items : List α) :
    Asks (items.map source) (Run.forEach run items) := by
  induction items with
  | nil =>
    intro world
    exact ⟨List.prefix_refl [], fun _ _ => rfl⟩
  | cons item rest ih =>
    intro world
    rw [Run.forEach_cons, List.map_cons]
    cases ran : (run item world).result with
    | error panic =>
      rw [Run.bind_of_error ran, one]
      have begun : [source item] <+: source item :: rest.map source := by simp
      exact ⟨begun, fun value returned => nomatch returned⟩
    | ok value =>
      have later : Asks (rest.map source) (Run.forEach run rest >>= fun values => pure (value :: values)) :=
        ih.bind fun values => Run.notes_pure _
      obtain ⟨upTo, all⟩ := later (run item world).state
      rw [Run.bind_of_ok ran, loads_append, one]
      constructor
      · simpa using upTo
      · intro values returned
        rw [all values returned]
        rfl

end asks

namespace Manager

variable (host : Host κ μ) (manager : Manager) (channel : Channel)

theorem discoverPaths_asks (paths : List String) :
    Asks (paths.map Source.path) (manager.discoverPaths host paths) := by
  have one (path : String) (world : World κ μ) : loads (manager.registry.discover host (.path path)
      (some manager.target) manager.dependencies world).journal = [.path path] := by
    rw [RegistryId.discover_path_journal]
    rfl
  exact (asks_forEach one paths).bind fun found => Run.notes_pure _

theorem publish_notes_unloading (event : Event) :
    Run.Notes (fun step => step.stage ≠ .loading) (manager.publish host channel event) := by
  refine (manager.publish_notes_telling host channel event).mono fun step stage => ?_
  rw [stage]
  decide

/-- Once it has left its time a refresh asks for the modules at the search paths. -/
theorem finishRefresh_asks :
    Asks (manager.searchPaths.map Source.path) (manager.finishRefresh host channel) := by
  have found : Asks (manager.searchPaths.map Source.path) (manager.lookForModules host []) := by
    have asks := manager.discoverPaths_asks host (manager.searchPaths ++ [])
    rw [List.append_nil] at asks
    refine Asks.bind (by rw [List.append_nil]; exact asks) fun discovered => Run.Silent.notes ?_
    exact manager.available_silent.bind fun _ => (Act.record_silent _ _ _).bind fun _ => Run.silent_pure _
  exact found.bind fun discovered => (manager.publish_notes_unloading host channel _).bind fun _ => Run.notes_pure _

theorem announcing_notes : Run.Notes (fun step => step.stage ≠ .loading) (manager.announcing host channel) :=
  manager.isDue_silent.notes.bind fun _ => manager.sinceRefresh_silent.notes.bind fun _ =>
    manager.publish_notes_unloading host channel _

theorem failCall_notes_unloading (name : String) (outcome : Outcome) :
    Run.Notes (fun step => step.stage ≠ .loading) (manager.failCall host channel name outcome) :=
  (Act.record_silent _ _ _).notes.bind fun _ => (manager.publish_notes_unloading host channel _).bind fun _ =>
    Run.notes_pure _

/-- To process an invocation no modules are asked for. -/
theorem carryOut_notes_unloading (name : String) (invocation : Invocation κ) :
    Run.Notes (fun step => step.stage ≠ .loading) (manager.carryOut host channel name invocation) := by
  have routes (links : Pipeline κ) : Run.Notes (fun step => step.stage ≠ .loading)
      (Run.note (.routed links) : Act κ μ Unit) := Run.notes_note (by simp [Step.stage])
  have processes (links : Pipeline κ) : Run.Notes (fun step => step.stage ≠ .loading)
      (Run.withLocal invocation (Pipeline.process host links channel)) := by
    intro world step member
    rw [Pipeline.process_notes host links channel (world, invocation) step member]
    decide
  refine (manager.publish_notes_unloading host channel _).bind fun _ => manager.read_silent.notes.bind fun state => ?_
  refine (routes _).bind fun _ => (processes _).bind fun processed => ?_
  obtain ⟨returned, _⟩ := processed
  cases returned with
  | error panic => exact manager.failCall_notes_unloading host channel name _
  | ok outcome => exact (manager.publish_notes_unloading host channel _).bind fun _ => Run.notes_pure _

/-- To answer a call no modules are asked for. -/
theorem answer_notes (name : String) (own : Option Attributes) (params : Json) :
    Run.Notes (fun step => step.stage ≠ .loading) (manager.answer host channel name own params) := by
  have makes (action : Action κ) (context : Context) :
      Run.Notes (fun step => step.stage ≠ .loading) (action.instantiate host context) := by
    refine (action.instantiate_notes host context).mono fun step stage => ?_
    rw [stage]
    decide
  have settles (invocation : Invocation κ) : Run.Notes (fun step => step.stage ≠ .loading)
      (Run.withLocal invocation (Invocation.setUp host params)) := by
    intro world step member
    rw [(Invocation.setUp_notes host params (world, invocation) step member).1]
    decide
  refine (manager.resolve_silent name).notes.bind fun found => ?_
  cases found with
  | none => exact (manager.answerUnknown_silent name).notes
  | some action =>
    refine manager.read_silent.notes.bind fun state => (makes action _).bind fun made => ?_
    cases made with
    | error rejection => exact manager.failCall_notes_unloading host channel name _
    | ok invocation =>
      refine (settles invocation).bind fun settled => ?_
      obtain ⟨returned, ready⟩ := settled
      rcases returned with panic | violation | accepted
      · exact fun _ _ member => nomatch member
      · exact (Act.record_silent _ _ _).notes.bind fun _ => manager.failCall_notes_unloading host channel name _
      · exact manager.carryOut_notes_unloading host channel name ready

/-- A call that finds its manager due asks for the modules at the search paths, each of them once. -/
theorem loads_of_due_call {world : World κ μ} (steady : world.Steady) (auto : manager.autoRefresh = true)
    (overdue : manager.isOverdue (manager.age 0 world) = true) (name : String) (own : Option Attributes)
    (params : Json) :
    let ran := manager.call host channel name own params world
    loads ran.journal <+: manager.searchPaths.map Source.path ∧
      ∀ outcome, ran.result = .ok outcome → loads ran.journal = manager.searchPaths.map Source.path := by
  intro ran
  have asks : Asks (manager.searchPaths.map Source.path) (manager.finishRefresh host channel >>= fun _ =>
      manager.answer host channel name own params) :=
    (manager.finishRefresh_asks host channel).bind fun _ => manager.answer_notes host channel name own params
  have quiet : loads (manager.announcing host channel world).journal = [] :=
    loads_eq_nil (manager.announcing_notes host channel world)
  have split : ran = ⟨_, _, _⟩ := call_of_overdue steady auto overdue name own params
  rw [split]
  dsimp only
  rw [loads_append, quiet, List.nil_append]
  exact asks _

variable {host manager channel} in
/-- A call that finds its manager due looks for modules once, besides what subscribers do who hear of it. -/
theorem refreshes_of_due_call {world : World κ μ} (steady : world.Steady)
    (due : (manager.isDue world).result = .ok true) (keeps : host.Keeps (manager.Rests world.time)) (name : String)
    (own : Option Attributes) (params : Json) :
    let deadline := world.time + manager.refreshInterval.nanos
    let told := (manager.announcing host channel world).state
    let ran := manager.call host channel name own params world
    (loads ran.journal <+: manager.searchPaths.map Source.path ∧
      ∀ outcome, ran.result = .ok outcome → loads ran.journal = manager.searchPaths.map Source.path) ∧
    (ran.state.time < deadline →
      manager.discoveries ran.state = manager.discoveries told + 1 ∧
        (manager.discoveries ran.state = manager.discoveries world + 1 ↔
          manager.discoveries told = manager.discoveries world)) ∧
    (∀ nested, World.Ages world nested → manager.lastRefresh nested = manager.lastRefresh world →
      (manager.isDue nested).result = .ok true) ∧
    manager.Rests world.time (manager.beginRefresh told).state ran.state ∧
    ∀ nested, manager.Rests world.time (manager.beginRefresh told).state nested → nested.time < deadline →
      ∀ channel name own params,
        manager.refreshIfDue host channel nested = ⟨.ok (), (manager.isDue nested).state, []⟩ ∧
          manager.Rests world.time nested (manager.call host channel name own params nested).state := by
  intro deadline told ran
  obtain ⟨auto, overdue⟩ := isDue_iff.mp due
  refine ⟨manager.loads_of_due_call host channel steady auto overdue name own params, ?_, ?_, ?_, ?_⟩
  · intro early
    have once := discoveries_of_due_call keeps steady auto overdue name own params early
    have once : manager.discoveries ran.state = manager.discoveries told + 1 := once
    constructor
    · exact once
    · rw [once]
      omega
  · intro nested ages same
    exact isDue_iff.mpr ⟨auto, overdue_ages overdue ages steady same⟩
  · exact rests_of_due_call keeps steady auto overdue name own params
  · intro nested rests early channel name own params
    have ages : World.Ages world told := (announcing_moves keeps world).toAges
    have begun : World.Ages told (manager.beginRefresh told).state := manager.beginRefresh_ages told
    have stamped : manager.Settled world.time (manager.beginRefresh told).state :=
      settled_of_beginRefresh (ages.steady steady) (ages.time_le steady)
    have settled : manager.Settled world.time nested := rests.settled (begun.steady (ages.steady steady)) stamped
    exact ⟨refreshIfDue_of_rested fun _ => settled.not_overdue early, call_moves keeps name own params nested⟩

end Manager

/-- Plain user code does nothing to a world. -/
theorem Host.plain_keeps (relation : World Unit Unit → World Unit Unit → Prop) [Run.Lasting relation] :
    Host.plain.Keeps relation where
  create _ := Run.moves_pure _
  prepare := Run.moves_pure _
  execute _ _ _ := Run.moves_pure _
  validate _ _ _ := Run.moves_pure _
  before _ := Run.moves_pure _
  after _ _ := Run.moves_pure _
  around _ _ _ takes := nomatch takes
  notify _ _ _ := Run.moves_pure _
  enter _ _ _ := Run.moves_pure _
  load _ _ _ _ := Run.moves_pure _

/-- Subscribers that call a manager when they hear of an event, down to some depth. -/
def Host.recalling (manager : Manager) (event : String) : Nat → Host Unit Unit
  | 0 => .plain
  | depth + 1 =>
    { Host.plain with
      notify := fun _ channel heard =>
        if heard.name = event then do
          let _ ← manager.call (recalling manager event depth) channel "echo" none .null
          return .ok ()
        else return .ok () }

/-- Subscribers that do nothing else but call the manager keep it at rest. -/
theorem Host.recalling_keeps (manager : Manager) (event : String) (depth due : Nat) :
    (recalling manager event depth).Keeps (manager.Rests due) := by
  induction depth with
  | zero => exact plain_keeps _
  | succ depth ih =>
    have plain := plain_keeps (manager.Rests due)
    refine { plain with around := fun _ _ _ takes => (nomatch takes), notify := fun _ channel heard => ?_ }
    unfold recalling
    dsimp only
    split
    · exact (Manager.call_moves ih "echo" none .null).bind fun _ => Run.moves_pure _
    · exact Run.moves_pure _

theorem Host.recalling_calm (manager : Manager) (event : String) (depth : Nat) :
    (recalling manager event depth).Calm := by
  cases depth <;> exact ⟨fun _ => Run.returns_pure _, Run.returns_pure _, fun _ _ _ => Run.returns_pure _,
    fun _ _ _ _ => Run.returns_pure _⟩

/-- A manager that refreshes itself before calls, once in a nanosecond. -/
def Manager.restless : Manager := { Manager.modest with autoRefresh := true, refreshInterval := ⟨1⟩ }

/-- A world whose clock stands still, with a subscriber to an event. -/
def World.listening (event : String) : World Unit Unit :=
  (World.start () fun _ => 0).setBus globalBus (Bus.empty.subscribe .blocking event ⟨⟨1⟩, ()⟩)

namespace Manager

theorem listening_steady (event : String) : (World.listening event).Steady := fun _ _ _ => Nat.le_refl 0

/-- A world whose clock stands still is always early. -/
theorem early_of_listening {event : String} {after : World Unit Unit} (ages : World.Ages (World.listening event) after) :
    after.time < (World.listening event).time + restless.refreshInterval.nanos := by
  have still : after.time = 0 := by
    unfold World.time
    rw [ages.clock]
    rfl
  rw [still]
  exact Nat.succ_pos _

/-- A manager that has search paths, and a subscriber that calls it when it hears that it was refreshed. -/
theorem refreshes_of_due_call_restless :
    let manager := { restless with searchPaths := ["tools"] }
    let host := Host.recalling manager Event.afterRefresh 1
    let ran := manager.call host .blocking "echo" none .null (World.listening Event.afterRefresh)
    manager.discoveries ran.state = 1 ∧ loads ran.journal = [.path "tools"] := by
  intro manager host ran
  have keeps : host.Keeps (manager.Rests (World.listening Event.afterRefresh).time) :=
    Host.recalling_keeps manager Event.afterRefresh 1 _
  obtain ⟨⟨_, loaded⟩, once, _⟩ := @refreshes_of_due_call Unit Unit host manager .blocking _
    (listening_steady Event.afterRefresh) rfl keeps "echo" none .null
  have ages : World.Ages (World.listening Event.afterRefresh) ran.state := (call_moves keeps "echo" none .null _).toAges
  have told : manager.discoveries (manager.announcing host .blocking (World.listening Event.afterRefresh)).state = 0 := rfl
  obtain ⟨outcome, returned⟩ : ∃ outcome, ran.result = .ok outcome :=
    call_returns_of_calm (Host.recalling_calm manager Event.afterRefresh 1) none .null _
  have counted : manager.discoveries ran.state = 0 + 1 := told ▸ (once (early_of_listening ages)).1
  exact ⟨counted, loaded outcome returned⟩

/-- Who publishes to a single subscriber that takes the event does what the subscriber does. -/
theorem publish_of_single {host : Host κ μ} {manager : Manager} {channel : Channel} {event : Event}
    {subscription : Subscription κ} {world : World κ μ}
    (only : (world.bus manager.bus).subscriptions channel event.name = [subscription])
    (taken : (host.notify subscription.code channel event world).result = .ok (.ok ())) :
    (manager.publish host channel event world).state = (host.notify subscription.code channel event world).state := by
  have delivered : (BusId.deliver host channel event subscription world).state =
      (host.notify subscription.code channel event world).state := by
    unfold BusId.deliver
    rw [Run.note_bind, Run.bind_of_ok rfl]
    simp only [Run.caught_apply, Run.foreign_apply, taken]
    rfl
  have taking := (BusId.deliver_ends host channel event subscription world).1
  obtain ⟨_, published⟩ := manager.bus.publish_returns host channel event.name event.data world
  unfold publish
  rw [Run.bind_of_ok published]
  change (((manager.bus.read : Act κ μ (Bus κ)) >>= fun found =>
    Run.forEach (BusId.deliver host channel event) (found.subscriptions channel event.name) >>= fun answers =>
      pure (answers.filter fun took => took).length) world).state = _
  rw [Run.bind_of_ok (show ((manager.bus.read : Act κ μ (Bus κ)) world).result = .ok (world.bus manager.bus) from rfl)]
  change ((Run.forEach (BusId.deliver host channel event) ((world.bus manager.bus).subscriptions channel event.name) >>=
    fun answers => pure (answers.filter fun took => took).length) world).state = _
  rw [only, Run.forEach_cons, bind_assoc, Run.bind_of_ok taking]
  exact delivered

/-- A call with subscribers that call again when they hear that a refresh begins, down to some depth. -/
def recalled (depth : Nat) : Ran (Step Unit) (World Unit Unit) Outcome :=
  restless.call (Host.recalling restless Event.beforeRefresh depth) .blocking "echo" none .null
    (World.listening Event.beforeRefresh)

theorem recalled_ages (depth : Nat) : World.Ages (World.listening Event.beforeRefresh) (recalled depth).state :=
  (call_moves (Host.recalling_keeps restless Event.beforeRefresh depth 0) "echo" none .null _).toAges

theorem recalled_returns (depth : Nat) : ∃ outcome, (recalled depth).result = .ok outcome :=
  call_returns_of_calm (Host.recalling_calm restless Event.beforeRefresh depth) none .null _

/-- When subscribers have heard that the refresh begins, the one of them has made a call of its own. -/
theorem announcing_recalling (depth : Nat) :
    (restless.announcing (Host.recalling restless Event.beforeRefresh (depth + 1)) .blocking
      (World.listening Event.beforeRefresh)).state = (recalled depth).state := by
  let host := Host.recalling restless Event.beforeRefresh (depth + 1)
  let heard : Event := ⟨Event.beforeRefresh, restless.facts.insert "force" (.bool false)⟩
  let world := World.listening Event.beforeRefresh
  obtain ⟨outcome, returned⟩ := recalled_returns depth
  have notified : host.notify () .blocking heard world =
      ⟨.ok (.ok ()), (recalled depth).state, (recalled depth).journal ++ []⟩ :=
    Run.bind_of_ok returned _
  have single : (world.bus restless.bus).subscriptions .blocking heard.name = [⟨⟨1⟩, ()⟩] := rfl
  have asked : restless.isDue world = ⟨.ok true, world, []⟩ := rfl
  have since : restless.sinceRefresh world = ⟨.ok none, world, []⟩ := rfl
  have announced : (restless.announcing host .blocking world).state =
      (restless.publish host .blocking heard world).state := by
    unfold announcing
    rw [Run.bind_apply_ok asked, Run.bind_apply_ok since]
    rfl
  rw [announced, publish_of_single single (congrArg Ran.result notified), notified]

/-- Each call that a subscriber makes when it hears that a refresh begins looks for modules as well. -/
theorem discoveries_of_recalled (depth : Nat) : restless.discoveries (recalled depth).state = depth + 1 := by
  have once (depth : Nat) : restless.discoveries (recalled depth).state =
      restless.discoveries (restless.announcing (Host.recalling restless Event.beforeRefresh depth) .blocking
        (World.listening Event.beforeRefresh)).state + 1 :=
    discoveries_of_due_call (Host.recalling_keeps _ _ _ _) (listening_steady _) rfl rfl "echo" none .null
      (early_of_listening (recalled_ages depth))
  induction depth with
  | zero => exact once 0
  | succ depth ih => rw [once, announcing_recalling, ih]

/-- There is no bound to how often a call looks for modules whose subscribers call the manager in turn. -/
theorem discoveries_not_bounded : ¬∃ bound, ∀ (host : Host Unit Unit) (manager : Manager) (channel : Channel)
    (name : String) (own : Option Attributes) (params : Json) (world : World Unit Unit),
    world.Steady → 0 < manager.refreshInterval.nanos → (manager.isDue world).result = .ok true →
      host.Keeps (manager.Rests world.time) →
      let ran := manager.call host channel name own params world
      ran.state.time < world.time + manager.refreshInterval.nanos →
        manager.discoveries ran.state ≤ manager.discoveries world + bound := by
  rintro ⟨bound, bounded⟩
  have few : restless.discoveries (recalled bound).state ≤
      restless.discoveries (World.listening Event.beforeRefresh) + bound :=
    bounded (Host.recalling restless Event.beforeRefresh bound) restless .blocking "echo" none .null _
      (listening_steady Event.beforeRefresh) Nat.one_pos rfl (Host.recalling_keeps _ _ _ _)
      (early_of_listening (recalled_ages bound))
  rw [discoveries_of_recalled] at few
  have none : restless.discoveries (World.listening Event.beforeRefresh) = 0 := rfl
  omega

end Manager

end Dispatch
