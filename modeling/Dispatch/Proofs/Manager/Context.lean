import Dispatch.Proofs.Call.Creations
import Dispatch.Proofs.Manager.Availability
import Dispatch.Proofs.Manager.Protocol

namespace Dispatch

variable {κ μ : Type}

/-- What is written into a manager's context: a value under a name, or the time of a refresh. -/
inductive Write where
  | update (name : String) (value : Json)
  | stamp (time : Nat)

namespace Write

/-- A context after a write. -/
def perform (context : Attributes) : Write → Attributes
  | .update name value => context.insert name value
  | .stamp time =>
    (context.insert "timestamp" (.string (Manager.timeText time))).insert "last_refresh"
      (.string (Manager.timeText time))

/-- What a write says of a name. -/
def value? (name : String) : Write → Option Json
  | .update other value => if name = other then some value else none
  | .stamp time =>
    if name = "timestamp" ∨ name = "last_refresh" then some (.string (Manager.timeText time)) else none

/-- What the latest write says that says anything of a name. -/
def latest (writes : List Write) (name : String) : Option Json := (writes.filterMap (value? name)).getLast?

theorem latest_append (first second : List Write) (name : String) :
    latest (first ++ second) name = (latest second name).or (latest first name) := by
  unfold latest
  rw [List.filterMap_append, List.getLast?_append]

theorem latest_cons (write : Write) (rest : List Write) (name : String) :
    latest (write :: rest) name = (latest rest name).or (write.value? name) := by
  rw [← List.singleton_append, latest_append]
  congr 1
  cases said : write.value? name <;> simp [latest, said]

theorem get?_perform (context : Attributes) (write : Write) (name : String) :
    (perform context write).get? name = (write.value? name).or (context.get? name) := by
  cases write with
  | update other value =>
    rw [perform, value?, Table.get?_insert]
    split <;> rfl
  | stamp time =>
    rw [perform, value?, Table.get?_insert, Table.get?_insert]
    by_cases last : name = "last_refresh"
    · simp [last]
    · by_cases first : name = "timestamp" <;> simp [first, last]

/-- After any number of writes a look-up finds the latest value, or what was there before. -/
theorem get?_performed (writes : List Write) (context : Attributes) (name : String) :
    (writes.foldl perform context).get? name = (latest writes name).or (context.get? name) := by
  induction writes generalizing context with
  | nil => rfl
  | cons write rest ih => rw [List.foldl_cons, ih, get?_perform, latest_cons, Option.or_assoc]

end Write

namespace Manager

/-- What the manager's context says. -/
def context (manager : Manager) (world : World κ μ) : Attributes := (world.manager manager.id).context

/-- From one world to another these writes were done in the manager's context. -/
def Performs (manager : Manager) (writes : List Write) (before after : World κ μ) : Prop :=
  manager.context after = writes.foldl Write.perform (manager.context before)

/-- From one world to another only such writes were done in the manager's context. -/
def Written (manager : Manager) (allowed : Write → Prop) (before after : World κ μ) : Prop :=
  ∃ writes, (∀ write ∈ writes, allowed write) ∧ manager.Performs writes before after

section written
variable {manager : Manager} {allowed : Write → Prop} {first second third : World κ μ}

theorem Performs.append {writes more : List Write} (begun : manager.Performs writes first second)
    (ended : manager.Performs more second third) : manager.Performs (writes ++ more) first third := by
  unfold Performs at begun ended ⊢
  rw [ended, begun, List.foldl_append]

/-- Who leaves the manager alone writes nothing. -/
theorem written_of_same (same : manager.context second = manager.context first) :
    manager.Written allowed first second := ⟨[], nofun, same⟩

instance : Run.Lasting (manager.Written allowed : World κ μ → World κ μ → Prop) where
  stays _ := written_of_same rfl
  goesOn := by
    rintro first second third ⟨writes, allows, begun⟩ ⟨more, allowsToo, ended⟩
    exact ⟨writes ++ more, List.forall_mem_append.mpr ⟨allows, allowsToo⟩, begun.append ended⟩

theorem ordinary_written : Ordinary (manager.Written allowed : World κ μ → World κ μ → Prop) where
  record _ _ _ _ _ := written_of_same rfl
  now _ := written_of_same rfl
  freshIndex _ := written_of_same rfl
  registry _ _ _ := written_of_same rfl

end written

section writes
variable (host : Host κ μ) (manager : Manager) (allowed : Write → Prop)

/-- What a refresh writes besides what user code does: if it looks for modules, the time of that. -/
inductive Refreshes (channel : Channel) (force : Bool) (extraPaths : List String) (world : World κ μ) :
    List Write → Prop
  | looks {told found : List Write} (needed : force = true ∨ extraPaths ≠ [] ∨ manager.Overdue world)
      (tells : ∀ write ∈ told, allowed write) (finds : ∀ write ∈ found, allowed write) :
      Refreshes channel force extraPaths world
        (told ++ .stamp (manager.announced host channel force world).state.time :: found)
  | idles {told : List Write} (idle : ¬(force = true ∨ extraPaths ≠ [] ∨ manager.Overdue world))
      (tells : ∀ write ∈ told, allowed write) : Refreshes channel force extraPaths world told

/-- What a call writes before it looks for its action. -/
inductive Prepares (channel : Channel) (world : World κ μ) : List Write → Prop
  | due {writes : List Write} (auto : manager.autoRefresh = true) (overdue : manager.Overdue world)
      (refreshes : Refreshes host manager allowed channel false [] (manager.isDue world).state writes) :
      Prepares channel world writes
  | rested (rested : ¬(manager.autoRefresh = true ∧ manager.Overdue world)) : Prepares channel world []

end writes

section refresh
variable {host : Host κ μ} {manager : Manager} {allowed : Write → Prop}

theorem performs_beginRefresh (manager : Manager) (world : World κ μ) :
    manager.Performs [.stamp world.time] world (manager.beginRefresh world).state := by
  unfold Performs context
  rw [beginRefresh_manager]
  rfl

variable (keeps : host.Keeps (manager.Written allowed))
include keeps

theorem announced_written (channel : Channel) (force : Bool) :
    Run.Moves (manager.Written allowed) (manager.announced host channel force) :=
  (manager.sinceRefresh_moves ordinary_written).bind fun _ =>
    (manager.publish_moves ordinary_written keeps channel _).bind fun _ => Run.moves_pure _

/-- A refresh writes its time, or nothing, besides what user code writes. -/
theorem refresh_writes (channel : Channel) (force : Bool) (extraPaths : List String) (world : World κ μ) :
    ∃ writes, manager.Refreshes host allowed channel force extraPaths world writes ∧
      manager.Performs writes world (manager.refresh host channel force extraPaths world).state := by
  obtain ⟨told, tells, announced⟩ := announced_written keeps channel force world
  obtain ⟨_, returned, _⟩ := manager.announced_ends host channel force world
  let heard := (manager.announced host channel force world).state
  have concludes (needed : Bool) (discovered : List String) : Run.Moves (manager.Written allowed) (do
      manager.concludeRefresh host channel needed discovered
      return needed) :=
    (manager.publish_moves ordinary_written keeps channel _).bind fun _ => Run.moves_pure _
  cases decided : manager.needsRefresh force extraPaths (manager.age 0 world) with
  | false =>
    have skips : Run.Moves (manager.Written allowed)
        (manager.rediscoverIf host false (manager.age 0 world) extraPaths) :=
      manager.rediscoverIf_idle_moves (fun _ _ => written_of_same rfl) _ _
    -- nothing separates what the subscribers of both events write
    obtain ⟨found, finds, ended⟩ := (skips.bind (concludes false)) heard
    have idle : ¬(force = true ∨ extraPaths ≠ [] ∨ manager.Overdue world) := by
      rw [← needsRefresh_iff, decided]
      exact Bool.false_ne_true
    refine ⟨told ++ found, .idles idle ?_, ?_⟩
    · exact List.forall_mem_append.mpr ⟨tells, finds⟩
    · rw [refresh_eq, Run.bind_of_ok returned, decided]
      exact announced.append ended
  | true =>
    -- the time stands between what is written before the refresh begins and what is written from then on
    let begun := (manager.beginRefresh heard).state
    have begins : manager.beginRefresh heard = ⟨.ok (), begun, []⟩ := rfl
    have looks : manager.rediscoverIf host true (manager.age 0 world) extraPaths =
        (manager.beginRefresh >>= fun _ => manager.lookForModules host extraPaths) := rfl
    obtain ⟨found, finds, ended⟩ :=
      ((lookForModules_moves ordinary_written keeps.load extraPaths).bind (concludes true)) begun
    refine ⟨told ++ .stamp heard.time :: found, .looks (needsRefresh_iff.mp decided) tells finds, ?_⟩
    rw [refresh_eq, Run.bind_of_ok returned, decided, looks, bind_assoc, Run.bind_apply_ok begins]
    exact announced.append ((performs_beginRefresh manager heard).append ended)

/-- Before it looks for its action a call writes what a refresh writes, or nothing. -/
theorem refreshIfDue_writes (channel : Channel) (world : World κ μ) :
    ∃ writes, manager.Prepares host allowed channel world writes ∧
      manager.Performs writes world (manager.refreshIfDue host channel world).state := by
  -- to ask whether the manager is due is to read the clock at most
  have same : manager.context (manager.isDue world).state = manager.context world :=
    congrArg ManagerState.context (manager.isDue_moves (ordinary_unchanged manager) world)
  by_cases due : manager.autoRefresh = true ∧ manager.Overdue world
  · obtain ⟨auto, overdue⟩ := due
    have asked : (manager.isDue world).result = .ok true := isDue_iff.mpr ⟨auto, isOverdue_age_iff.mpr overdue⟩
    obtain ⟨writes, refreshes, performed⟩ := refresh_writes keeps channel false [] (manager.isDue world).state
    refine ⟨writes, .due auto overdue refreshes, ?_⟩
    unfold refreshIfDue
    rw [Run.bind_of_ok asked]
    simp only [if_true, Run.state_bind_pure]
    unfold Performs at performed ⊢
    rw [performed, same]
  · refine ⟨[], .rested due, ?_⟩
    have rested : manager.autoRefresh = true → manager.isOverdue (manager.age 0 world) = false := by
      intro auto
      rw [← Bool.not_eq_true, isOverdue_age_iff]
      exact fun overdue => due ⟨auto, overdue⟩
    rw [refreshIfDue_of_rested rested]
    exact same

/-- Once the manager was refreshed only user code writes into its context, whatever a call does to its own. -/
theorem call_written (channel : Channel) (name : String) (own : Option Attributes) (params : Json) (world : World κ μ) :
    manager.Written allowed (manager.refreshIfDue host channel world).state
      (manager.call host channel name own params world).state := by
  rw [call_eq]
  cases refreshed : (manager.refreshIfDue host channel world).result with
  | error panic =>
    rw [Run.bind_of_error refreshed]
    exact written_of_same rfl
  | ok value =>
    rw [Run.bind_of_ok refreshed]
    exact manager.answer_moves ordinary_written keeps channel name own params _

end refresh

section deeds

/-- What is done with a manager, or besides. -/
inductive Deed (κ μ : Type) where
  | update (name : String) (value : Json)
  | refresh (channel : Channel) (force : Bool) (extraPaths : List String)
  | call (channel : Channel) (name : String) (own : Option Attributes) (params : Json)
  | other (run : Act κ μ Unit)

variable (host : Host κ μ) (manager : Manager) (allowed : Write → Prop)

/-- A deed is run for what it does to the world. -/
def Deed.run : Deed κ μ → Act κ μ Unit
  | .update name value => manager.setContext name value
  | .refresh channel force extraPaths => do let _ ← manager.refresh host channel force extraPaths
  | .call channel name own params => do let _ ← manager.call host channel name own params
  | .other run => run

/-- The world after deeds in a row, whether they returned or not. -/
def live : List (Deed κ μ) → World κ μ → World κ μ
  | [], world => world
  | deed :: rest, world => live rest (deed.run host manager world).state

/-- What a deed writes while user code does such writes. -/
def Deed.Writes (world : World κ μ) : Deed κ μ → List Write → Prop
  | .update name value, writes => writes = [.update name value]
  | .refresh channel force extraPaths, writes => manager.Refreshes host allowed channel force extraPaths world writes
  | .call channel _ _ _, writes => ∃ early late, manager.Prepares host allowed channel world early ∧
      (∀ write ∈ late, allowed write) ∧ writes = early ++ late
  | .other _, writes => ∀ write ∈ writes, allowed write

/-- The writes of deeds in a row, each of which the manager's context shows. -/
inductive Chronicle : List (Deed κ μ) → World κ μ → List Write → Prop
  | nothing (world : World κ μ) : Chronicle [] world []
  | next {deed : Deed κ μ} {rest : List (Deed κ μ)} {world : World κ μ} {writes more : List Write}
      (wrote : deed.Writes host manager allowed world writes)
      (performed : manager.Performs writes world (deed.run host manager world).state)
      (later : Chronicle rest (deed.run host manager world).state more) :
      Chronicle (deed :: rest) world (writes ++ more)

variable {host manager allowed}

/-- All writes of deeds in a row are done in the manager's context, in order. -/
theorem Chronicle.performs {deeds : List (Deed κ μ)} {world : World κ μ} {writes : List Write}
    (chronicle : manager.Chronicle host allowed deeds world writes) :
    manager.Performs writes world (manager.live host deeds world) := by
  induction chronicle with
  | nothing world => exact rfl
  | next _ performed _ ih => exact performed.append ih

variable (keeps : host.Keeps (manager.Written allowed))
include keeps

theorem deed_writes {deed : Deed κ μ} (other : ∀ run, deed = .other run → Run.Moves (manager.Written allowed) run)
    (world : World κ μ) :
    ∃ writes, deed.Writes host manager allowed world writes ∧
      manager.Performs writes world (deed.run host manager world).state := by
  cases deed with
  | update name value =>
    refine ⟨[.update name value], rfl, ?_⟩
    unfold Performs context Deed.run setContext
    rw [modify_manager]
    rfl
  | refresh channel force extraPaths =>
    simp only [Deed.run, Run.state_bind_pure]
    exact refresh_writes keeps channel force extraPaths world
  | call channel name own params =>
    obtain ⟨early, prepares, begun⟩ := refreshIfDue_writes keeps channel world
    obtain ⟨late, allows, ended⟩ := call_written keeps channel name own params world
    refine ⟨early ++ late, ⟨early, late, prepares, allows, rfl⟩, ?_⟩
    simp only [Deed.run, Run.state_bind_pure]
    exact begun.append ended
  | other run => exact other run rfl world

/-- Whatever is done with a manager, there is a chronicle of it. -/
theorem exists_chronicle {deeds : List (Deed κ μ)}
    (others : ∀ run, .other run ∈ deeds → Run.Moves (manager.Written allowed) run) (world : World κ μ) :
    ∃ writes, manager.Chronicle host allowed deeds world writes := by
  induction deeds generalizing world with
  | nil => exact ⟨[], .nothing world⟩
  | cons deed rest ih =>
    have first (run : Act κ μ Unit) (same : deed = .other run) : Run.Moves (manager.Written allowed) run :=
      others run (same ▸ List.mem_cons_self)
    obtain ⟨writes, wrote, performed⟩ := deed_writes keeps first world
    obtain ⟨more, later⟩ := ih (fun run member => others run (List.mem_cons_of_mem deed member)) _
    exact ⟨writes ++ more, .next wrote performed later⟩

end deeds

section call
variable {host : Host κ μ} {manager : Manager} {channel : Channel} {name : String} {own : Option Attributes}
  {params : Json} {world : World κ μ}

/-- To find its action a call leaves the manager as the refresh has left it. -/
theorem Finds.unchanged {action : Action κ} {found : World κ μ}
    (finds : manager.Finds host channel name world action found) :
    found.manager manager.id = (manager.refreshIfDue host channel world).state.manager manager.id := by
  obtain ⟨refreshed, ⟨_, rfl⟩, ⟨_, rfl⟩⟩ := finds
  exact manager.resolve_moves (ordinary_unchanged manager) name _

/-- What a hook is made with is what its invocation is made with. -/
theorem seen_of_created_instantiate {action hooked : Action κ} {context seen : Context}
    (member : .created hooked seen ∈ (action.instantiate host context world).journal) : seen = context := by
  unfold Action.instantiate at member
  cases hook : action.hook with
  | none =>
    rw [hook] at member
    cases member
  | some code =>
    rw [hook] at member
    dsimp only at member
    rw [Run.note_bind] at member
    simp only [Run.journal_bind_pure, Run.foreign_apply, List.mem_singleton] at member
    cases member
    rfl

theorem seen_of_created_callAction {action hooked : Action κ} {seen : Context} {found : World κ μ}
    (member : .created hooked seen ∈ (manager.callAction host channel name own params action found).journal) :
    seen = manager.contextOver own (found.manager manager.id) := by
  unfold callAction at member
  rw [read_bind] at member
  cases instantiated :
      (action.instantiate host (manager.contextOver own (found.manager manager.id)) found).result with
  | error panic =>
    rw [Run.bind_of_error instantiated] at member
    exact seen_of_created_instantiate member
  | ok made =>
    rw [Run.bind_of_ok instantiated] at member
    rcases List.mem_append.mp member with making | after
    · exact seen_of_created_instantiate making
    · cases made with
      | error rejection => cases failCall_makes_none _ _ _ after
      | ok invocation => cases callInvocation_makes_none invocation params _ _ after

/-- What a hook is made with in a call is the context that the call lays over the manager's. -/
theorem seen_of_created {hooked : Action κ} {seen : Context}
    (member : .created hooked seen ∈ (manager.call host channel name own params world).journal) :
    seen = manager.contextOver own ((manager.refreshIfDue host channel world).state.manager manager.id) := by
  have refreshing : .created hooked seen ∉ (manager.refreshIfDue host channel world).journal := by
    intro early
    rcases (refreshIfDue_notes _ _ early).1 with stage | stage <;> cases stage
  rcases manager.call_cases channel name own params world with
    ⟨_, _, journal⟩ | ⟨_, _, _, journal⟩ | ⟨action, found, _, _, finds, journal⟩
  · rw [journal] at member
    exact absurd member refreshing
  · rw [journal] at member
    exact absurd member refreshing
  · rw [journal] at member
    have late := (List.mem_append.mp member).resolve_left refreshing
    rw [← finds.unchanged]
    exact seen_of_created_callAction late

/-- An invocation is made with the same. -/
theorem Makes.sees {invocation : Invocation κ} {ready : World κ μ}
    (makes : manager.Makes host channel name own world invocation ready) :
    invocation.context =
      manager.contextOver own ((manager.refreshIfDue host channel world).state.manager manager.id) := by
  obtain ⟨action, found, finds, instantiated⟩ := makes
  obtain ⟨hook, started⟩ := Action.instantiate_ok host instantiated.returned
  rw [started, ← finds.unchanged]
  rfl

end call

section layers

/-- The latest value that was written under a name, or the one of the settings, or the standard one. -/
def layered (manager : Manager) (settings : Settings) (time : Nat) (writes : List Write) (name : String) :
    Option Json :=
  (Write.latest writes name).or ((settings.context.get? name).or
    ((standardContext manager.target manager.name (timeText time)).get? name))

/-- An action sees what the call brings along before all else, and the manager's own bus and registry. -/
structure Sees (manager : Manager) (settings : Settings) (time : Nat) (own : Option Attributes) (writes : List Write)
    (context : Context) : Prop where
  values (name : String) : context.get? name =
    (own.bind fun own => own.get? name).or (manager.layered settings time writes name)
  dependencies (name : String) : context.dependencies.get? name =
    if name = busDependency then some (.eventBus manager.bus)
    else if name = registryDependency then some (.registry manager.registry)
    else settings.dependencies.get? name

/-- What a manager is made with. -/
structure Begins (manager : Manager) (settings : Settings) (time : Nat) (world : World κ μ) : Prop where
  context : manager.context world =
    (standardContext manager.target manager.name (timeText time)).overlay settings.context
  dependencies : manager.dependencies =
    (settings.dependencies.insert busDependency (.eventBus manager.bus)).insert registryDependency
      (.registry manager.registry)

theorem make_begins (target name : String) (settings : Settings) (world : World κ μ) :
    ∃ manager after, make target name settings world = ⟨.ok manager, after, []⟩ ∧
      manager.Begins settings world.time after := by
  obtain ⟨registry, ready, found, time⟩ : ∃ registry ready,
      registryFor settings.registry world = ⟨.ok registry, ready, []⟩ ∧ ready.time = world.time := by
    cases settings.registry with
    | some registry => exact ⟨registry, world, rfl, rfl⟩
    | none =>
      simp only [registryFor, RegistryId.global, Run.state_bind]
      cases world.globalRegistry with
      | some registry => exact ⟨registry, world, rfl, rfl⟩
      | none => exact ⟨_, _, rfl, rfl⟩
  unfold make
  rw [Run.bind_apply_ok found, ← time]
  refine ⟨_, _, rfl, ?_, rfl⟩
  exact congrArg ManagerState.context (if_pos rfl)

theorem create_begins {target name : String} {settings : Settings} {manager : Manager} {world : World κ μ}
    (created : (create target name settings world).result = .ok (.ok manager)) :
    manager.Begins settings world.time (create target name settings world).state := by
  unfold create at created ⊢
  cases named : identifiers target name with
  | error fault =>
    rw [named] at created
    cases created
  | ok pair =>
    obtain ⟨_, _, made, begins⟩ := make_begins pair.1 pair.2 settings world
    rw [named] at created
    dsimp only at created ⊢
    rw [Run.bind_apply_ok made] at created ⊢
    cases created
    exact begins

/-- Whatever is written into it, there is a layer for each name in a manager's context. -/
theorem Begins.layered {manager : Manager} {settings : Settings} {time : Nat} {born world : World κ μ}
    {writes : List Write} (begins : manager.Begins settings time born) (performs : manager.Performs writes born world)
    (name : String) : (manager.context world).get? name = manager.layered settings time writes name := by
  unfold Performs at performs
  rw [performs, Write.get?_performed, begins.context, Table.get?_overlay]
  rfl

/-- What a call lays over a manager's context is seen, and then what there is in this. -/
theorem Begins.sees {manager : Manager} {settings : Settings} {time : Nat} {born world : World κ μ}
    {writes : List Write} (begins : manager.Begins settings time born) (performs : manager.Performs writes born world)
    (own : Option Attributes) :
    manager.Sees settings time own writes (manager.contextOver own (world.manager manager.id)) where
  values name := by
    rw [← begins.layered performs]
    cases own with
    | none => rfl
    | some own => exact Table.get?_overlay _ own name
  dependencies name := by
    unfold contextOver
    rw [begins.dependencies, Table.get?_insert, Table.get?_insert]
    by_cases bus : name = busDependency
    · simp [bus, busDependency, registryDependency]
    · simp [bus]

variable {host : Host κ μ} {manager : Manager} {allowed : Write → Prop}

/-- A manager's context says what was written last, under the settings' values and over the standard ones. -/
theorem context_layers (keeps : host.Keeps (manager.Written allowed)) {target name : String} {settings : Settings}
    {start : World κ μ} (created : (create target name settings start).result = .ok (.ok manager)) :
    let born := (create target name settings start).state
    (∀ deeds : List (Deed κ μ), (∀ run, .other run ∈ deeds → Run.Moves (manager.Written allowed) run) →
      ∃ writes, manager.Chronicle host allowed deeds born writes ∧
        manager.Performs writes born (manager.live host deeds born)) ∧
    ∀ writes world, manager.Performs writes born world →
      (∀ key, (manager.context world).get? key = manager.layered settings start.time writes key) ∧
      ∀ channel action own params,
        let ran := manager.call host channel action own params world
        ∃ early late, manager.Prepares host allowed channel world early ∧ (∀ write ∈ late, allowed write) ∧
          manager.Performs (writes ++ early ++ late) born ran.state ∧
          (∀ hooked seen, .created hooked seen ∈ ran.journal →
            manager.Sees settings start.time own (writes ++ early) seen) ∧
          ∀ invocation ready, manager.Makes host channel action own world invocation ready →
            manager.Sees settings start.time own (writes ++ early) invocation.context := by
  intro born
  have begins : manager.Begins settings start.time born := create_begins created
  constructor
  · intro deeds others
    obtain ⟨writes, chronicle⟩ := exists_chronicle keeps others born
    exact ⟨writes, chronicle, chronicle.performs⟩
  · intro writes world performs
    refine ⟨begins.layered performs, fun channel action own params => ?_⟩
    obtain ⟨early, prepares, begun⟩ := refreshIfDue_writes keeps channel world
    obtain ⟨late, allows, ended⟩ := call_written keeps channel action own params world
    have refreshed : manager.Performs (writes ++ early) born (manager.refreshIfDue host channel world).state :=
      performs.append begun
    refine ⟨early, late, prepares, allows, refreshed.append ended, ?_, ?_⟩
    · intro hooked seen member
      rw [seen_of_created member]
      exact begins.sees refreshed own
    · intro invocation ready makes
      rw [makes.sees]
      exact begins.sees refreshed own

end layers

end Manager

/-- Plain user code, except that a hook that is prepared writes into its context. -/
def Host.scribbling : Host Unit Unit :=
  { Host.plain with
    prepare := fun (world, hook, context) => ⟨.ok (), (world, hook, context.setValue "target_system" .null), []⟩ }

theorem Host.scribbling_keeps (relation : World Unit Unit → World Unit Unit → Prop) [Run.Lasting relation] :
    Host.scribbling.Keeps relation :=
  { plain_keeps relation with
    prepare := fun state => Run.Lasting.stays state.1
    around := nofun }

/-- Settings that refresh the manager, with a value in the context. -/
def Settings.moody : Settings :=
  { Settings.modest ⟨3⟩ with autoRefresh := true, context := Table.empty.insert "mood" (.string "dull") }

namespace Manager

/-- The manager that is made with these settings. -/
def moody : Manager :=
  { modest with
    id := ⟨1⟩
    autoRefresh := true
    refreshInterval := .ofSeconds 60
    dependencies := (Table.empty.insert busDependency (.eventBus World.globalBus)).insert registryDependency
      (.registry ⟨3⟩) }

/-- A world in which a time was written into the manager's context by hand. -/
def moodyWorld : World Unit Unit :=
  moody.live .scribbling [.update "timestamp" (.string "never")]
    (create "maya" "studio" .moody (World.echoing "maya")).state

/-- A call brings a target system along, which the manager's context does not take over. -/
theorem context_layers_moody :
    let own : Attributes := Table.empty.insert "target_system" (.string "mine")
    let ran := moody.call .scribbling .blocking "echo" (some own) .null moodyWorld
    (∃ hooked seen, .created hooked seen ∈ ran.journal ∧ seen.get? "target_system" = some (.string "mine") ∧
      seen.get? "timestamp" = some (.string (timeText 0)) ∧ seen.get? "mood" = some (.string "dull")) ∧
    (moody.context ran.state).get? "target_system" = some (.string "maya") := by
  intro own ran
  have keeps : Host.scribbling.Keeps (moody.Written fun _ => False) := Host.scribbling_keeps _
  have created : (create "maya" "studio" .moody (World.echoing "maya")).result = .ok (.ok moody) := by rfl
  have timed : (World.echoing "maya").time = 0 := by decide +kernel
  obtain ⟨history, later⟩ := context_layers keeps created
  rw [timed] at later
  obtain ⟨writes, chronicle, performs⟩ := history [.update "timestamp" (.string "never")] (by simp)
  obtain rfl : writes = [.update "timestamp" (.string "never")] := by
    cases chronicle with
    | next wrote _ rest =>
      cases wrote
      cases rest
      rfl
  obtain ⟨early, late, prepares, allows, performed, sees, _⟩ :=
    (later _ moodyWorld performs).2 .blocking "echo" (some own) .null
  obtain rfl : late = [] := List.eq_nil_iff_forall_not_mem.mpr allows
  obtain rfl : early = [.stamp 0] := by
    cases prepares with
    | rested rested => exact absurd ⟨rfl, nofun⟩ rested
    | due _ _ refreshes =>
      cases refreshes with
      | idles idle => exact absurd (.inr (.inr nofun)) idle
      | looks _ tells finds =>
        have still : (moody.announced .scribbling .blocking false (moody.isDue moodyWorld).state).state.time = 0 := by
          decide +kernel
        rw [List.eq_nil_iff_forall_not_mem.mpr tells, List.eq_nil_iff_forall_not_mem.mpr finds, still]
        rfl
  have made : (creations ran.journal).map Action.name = ["echo"] := by decide +kernel
  obtain ⟨hooked, member, _⟩ := List.mem_map.mp (made ▸ List.mem_singleton.mpr rfl)
  obtain ⟨seen, member⟩ := mem_creations_iff.mp member
  obtain ⟨values, _⟩ := sees hooked seen member
  refine ⟨⟨hooked, seen, member, ?_, ?_, ?_⟩, ?_⟩
  · rw [values]
    rfl
  · rw [values]
    rfl
  · rw [values]
    rfl
  · rw [(later _ ran.state performed).1]
    rfl

end Manager

end Dispatch
