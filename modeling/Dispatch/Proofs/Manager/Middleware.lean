import Dispatch.Proofs.Call.Passage
import Dispatch.Proofs.Manager.Context
import Dispatch.Proofs.Pipeline.Nesting
import Mathlib.Data.List.DropRight

namespace Dispatch

variable {κ μ : Type}

/-- An addition of middleware that was made: its factory, and whether the addition returned. -/
structure Addition (κ : Type) where
  factory : κ
  returned : Bool

namespace Addition

/-- The factories of all additions up to the last one that returned. -/
def standing (history : List (Addition κ)) : List κ :=
  (history.rdropWhile fun addition => !addition.returned).map factory

/-- The last addition returned, if there was one. -/
def Intact (history : List (Addition κ)) : Prop := ∀ last ∈ history.getLast?, last.returned = true

section standing
variable {history : List (Addition κ)} {added : κ}

/-- An addition that returns makes everything stand that was added. -/
theorem standing_of_returned : standing (history ++ [⟨added, true⟩]) = history.map factory ++ [added] := by
  rw [standing, List.rdropWhile_concat_neg _ _ _ (by simp)]
  simp

/-- An addition that panics changes nothing about what stands. -/
theorem standing_of_panicked : standing (history ++ [⟨added, false⟩]) = standing history := by
  rw [standing, List.rdropWhile_concat_pos _ _ _ (by simp), standing]

theorem length_standing_le (history : List (Addition κ)) : (standing history).length ≤ history.length := by
  rw [standing, List.length_map]
  exact (List.rdropWhile_prefix _ history).length_le

/-- Everything stands if the last addition returned, or if there was none; else something is missing. -/
theorem standing_cases (history : List (Addition κ)) :
    (Intact history ∧ standing history = history.map factory) ∨
      (¬Intact history ∧ (standing history).length < history.length) := by
  unfold Intact
  rcases List.eq_nil_or_concat' history with rfl | ⟨earlier, ⟨added, returned⟩, rfl⟩
  · exact .inl ⟨nofun, rfl⟩
  · rw [List.getLast?_concat]
    cases returned with
    | true =>
      refine .inl ⟨by simp, ?_⟩
      rw [standing_of_returned, List.map_append]
      rfl
    | false =>
      refine .inr ⟨by simp, ?_⟩
      have fewer := length_standing_le earlier
      rw [standing_of_panicked, List.length_append, List.length_singleton]
      omega

end standing

end Addition

/-- The links are those that these factories build, in order. Only without factories there is no pipeline. -/
structure Pipeline.BuiltFrom (host : Host κ μ) (factories : List κ) (pipeline : Option (Pipeline κ)) : Prop where
  none_iff : pipeline = none ↔ factories = []
  links : List.Forall₂ (fun factory link => ∃ before, (host.build factory before).result = .ok link) factories
    (pipeline.getD [])

theorem Pipeline.builtFrom_of_build {host : Host κ μ} {factories : List κ} {world : World κ μ}
    {pipeline : Option (Pipeline κ)} (made : (build host factories world).result = .ok pipeline) :
    BuiltFrom host factories pipeline := by
  obtain ⟨empty, links⟩ := build_factories host made
  exact ⟨empty, links⟩

/-- A factory that panics whenever it is asked for a link. -/
def Host.Jams (host : Host κ μ) (factory : κ) : Prop := ∀ world, ∃ panic, (host.build factory world).result = .error panic

/-- Nothing is built of a factory that always panics. -/
theorem Pipeline.BuiltFrom.not_jams {host : Host κ μ} {factories : List κ} {pipeline : Option (Pipeline κ)}
    (built : BuiltFrom host factories pipeline) {factory : κ} (member : factory ∈ factories) : ¬host.Jams factory := by
  intro jams
  obtain ⟨index, bound, rfl⟩ := List.mem_iff_getElem.mp member
  obtain ⟨same, each⟩ := List.forall₂_iff_get.mp built.links
  obtain ⟨before, made⟩ := each index bound (same ▸ bound)
  obtain ⟨panic, panicked⟩ := jams before
  cases made.symm.trans panicked

namespace Manager

variable (host : Host κ μ) (manager : Manager)

/-- The manager's chain of factories, and the links that were last built of one. -/
def middleware (manager : Manager) (world : World κ μ) : List κ × Option (Pipeline κ) :=
  ((world.manager manager.id).factories, (world.manager manager.id).pipeline)

/-- The world once a factory stands in the chain, before any link is built. -/
def lengthened (factory : κ) (world : World κ μ) : World κ μ :=
  (manager.modify (fun state => { state with factories := state.factories ++ [factory] }) world).state

theorem middleware_lengthened (factory : κ) (world : World κ μ) :
    manager.middleware (manager.lengthened factory world) =
      ((manager.middleware world).1 ++ [factory], (manager.middleware world).2) := by
  unfold middleware lengthened
  rw [modify_manager]

/-- What an addition does with the links once they are built. -/
def install (pipeline : Option (Pipeline κ)) : Act κ μ Unit := do
  manager.modify fun state => { state with pipeline }
  Act.record .debug "Rebuilt middleware pipeline"
    [("manager", .string manager.name),
     ("middleware", .string (Pipeline.inspect host (pipeline.getD [])))]

theorem middleware_install (pipeline : Option (Pipeline κ)) (world : World κ μ) :
    manager.middleware (manager.install host pipeline world).state = ((manager.middleware world).1, pipeline) := by
  have installed := manager.modify_manager (fun state => { state with pipeline }) world
  exact congrArg (fun state => (state.factories, state.pipeline)) installed

/-- A factory leaves the manager's middleware alone, which is locked while the factory runs. -/
def Confines (factory : κ) : Prop := Run.Moves (Run.Unchanged manager.middleware) (host.build factory)

/-- With these additions so far the manager has come to this world. Whatever else happens leaves its middleware alone. -/
inductive Extended : List (Addition κ) → World κ μ → Prop
  | plain {world : World κ μ} (bare : manager.middleware world = ([], none)) : Extended [] world
  | added {history : List (Addition κ)} {world : World κ μ} {factory : κ} (extended : Extended history world)
      (confined : manager.Confines host factory) :
      Extended (history ++ [⟨factory, (manager.addMiddleware host factory world).result.isOk⟩])
        (manager.addMiddleware host factory world).state
  | meanwhile {history : List (Addition κ)} {before after : World κ μ} (extended : Extended history before)
      (same : Run.Unchanged manager.middleware before after) : Extended history after

/-- From one world to another there were additions, at most. -/
def Extends (before after : World κ μ) : Prop :=
  ∀ history, manager.Extended host history before → ∃ more, manager.Extended host (history ++ more) after

section addition
variable {host manager} {history : List (Addition κ)} {world : World κ μ} {factory : κ}

/-- Factories that leave the manager's middleware alone do so when links are built of all of them. -/
theorem build_moves {factories : List κ} (confined : ∀ factory ∈ factories, manager.Confines host factory) :
    Run.Moves (Run.Unchanged manager.middleware) (Pipeline.build host factories) := by
  unfold Pipeline.build
  split
  · exact Run.moves_pure _
  · exact (Run.Moves.forEach_of_mem fun factory member => (confined factory member).foreign).bind fun _ =>
      Run.moves_pure _

/-- An addition builds links of the longer chain, which is there already, and then installs them. -/
theorem addMiddleware_eq (factory : κ) (world : World κ μ) :
    manager.addMiddleware host factory world =
      (Pipeline.build host ((manager.middleware world).1 ++ [factory]) >>= manager.install host)
        (manager.lengthened factory world) := by
  have asked : ((manager.lengthened factory world).manager manager.id).factories =
      (manager.middleware world).1 ++ [factory] := congrArg Prod.fst (manager.middleware_lengthened factory world)
  rw [← asked]
  rfl

/-- An addition lengthens the chain, and installs the links that could be built of all of it, if they could. -/
theorem addMiddleware_ends
    (confined : ∀ other ∈ (manager.middleware world).1 ++ [factory], manager.Confines host other) :
    let added := manager.addMiddleware host factory world
    let chain := (manager.middleware world).1 ++ [factory]
    (∃ panic, added.result = .error panic ∧ manager.middleware added.state = (chain, (manager.middleware world).2)) ∨
      ∃ pipeline, Pipeline.BuiltFrom host chain pipeline ∧ added.result = .ok () ∧
        manager.middleware added.state = (chain, pipeline) := by
  intro added chain
  -- whether the factories return or not, the chain keeps the new one, and the links are still the old ones
  have kept : manager.middleware (Pipeline.build host chain (manager.lengthened factory world)).state =
      (chain, (manager.middleware world).2) :=
    (build_moves confined _).trans (manager.middleware_lengthened factory world)
  have onwards : added = (Pipeline.build host chain >>= manager.install host) (manager.lengthened factory world) :=
    addMiddleware_eq factory world
  cases built : (Pipeline.build host chain (manager.lengthened factory world)).result with
  | error panic =>
    rw [onwards, Run.bind_of_error built]
    exact .inl ⟨panic, rfl, kept⟩
  | ok pipeline =>
    rw [onwards, Run.bind_of_ok built]
    refine .inr ⟨pipeline, Pipeline.builtFrom_of_build built, rfl, ?_⟩
    rw [middleware_install, kept]

/-- A manager has the factories of all additions in its chain, and links built of those that stand. -/
structure Equipped (host : Host κ μ) (manager : Manager) (history : List (Addition κ)) (world : World κ μ) : Prop where
  confined : ∀ addition ∈ history, manager.Confines host addition.factory
  chain : (manager.middleware world).1 = history.map Addition.factory
  links : Pipeline.BuiltFrom host (Addition.standing history) (manager.middleware world).2

theorem Equipped.confines (equipped : manager.Equipped host history world) (confined : manager.Confines host factory) :
    ∀ other ∈ (manager.middleware world).1 ++ [factory], manager.Confines host other := by
  rw [equipped.chain]
  exact List.forall_mem_append.mpr
    ⟨List.forall_mem_map.mpr equipped.confined, List.forall_mem_singleton.mpr confined⟩

/-- One more addition, whether it returns or not. -/
theorem Equipped.added (equipped : manager.Equipped host history world) (confined : manager.Confines host factory) :
    manager.Equipped host (history ++ [⟨factory, (manager.addMiddleware host factory world).result.isOk⟩])
      (manager.addMiddleware host factory world).state := by
  have all (returned : Bool) : ∀ addition ∈ history ++ [⟨factory, returned⟩],
      manager.Confines host addition.factory :=
    List.forall_mem_append.mpr ⟨equipped.confined, List.forall_mem_singleton.mpr confined⟩
  rcases addMiddleware_ends (equipped.confines confined) with ⟨panic, panicked, left⟩ | ⟨pipeline, built, returned, left⟩
  · rw [panicked]
    refine ⟨all false, ?_, ?_⟩
    · rw [left, equipped.chain, List.map_append]
      rfl
    · rw [left]
      have still : Addition.standing (history ++ [⟨factory, false⟩]) = Addition.standing history :=
        Addition.standing_of_panicked
      exact still ▸ equipped.links
  · rw [returned]
    refine ⟨all true, ?_, ?_⟩
    · rw [left, equipped.chain, List.map_append]
      rfl
    · rw [left]
      have whole : Addition.standing (history ++ [⟨factory, true⟩]) = (manager.middleware world).1 ++ [factory] := by
        rw [Addition.standing_of_returned, equipped.chain]
      exact whole ▸ built

theorem Extended.equipped (extended : manager.Extended host history world) : manager.Equipped host history world := by
  induction extended with
  | plain bare =>
    refine ⟨nofun, ?_, ?_⟩
    · rw [bare]
      rfl
    · rw [bare]
      exact ⟨⟨fun _ => rfl, fun _ => rfl⟩, .nil⟩
  | added _ confined ih => exact ih.added confined
  | meanwhile _ same ih =>
    refine ⟨ih.confined, ?_, ?_⟩
    · rw [same, ih.chain]
    · rw [same]
      exact ih.links

/-- The links are of the whole chain just when no addition has panicked since the last one that returned. -/
theorem Equipped.whole_iff (equipped : manager.Equipped host history world) :
    (manager.installed world).length = (manager.middleware world).1.length ↔ Addition.Intact history := by
  have links : (manager.installed world).length = (Addition.standing history).length :=
    equipped.links.links.length_eq.symm
  rw [links, equipped.chain, List.length_map]
  rcases Addition.standing_cases history with ⟨intact, whole⟩ | ⟨broken, fewer⟩
  · rw [whole, List.length_map]
    exact iff_of_true rfl intact
  · exact iff_of_false fewer.ne broken

/-- Then they were built of it in order. -/
theorem Equipped.whole (equipped : manager.Equipped host history world) (intact : Addition.Intact history) :
    Pipeline.BuiltFrom host (manager.middleware world).1 (manager.middleware world).2 := by
  rcases Addition.standing_cases history with ⟨_, whole⟩ | ⟨broken, _⟩
  · rw [equipped.chain, ← whole]
    exact equipped.links
  · exact absurd intact broken

end addition

section extending
variable {host : Host κ μ} {manager : Manager}

/-- Who leaves the manager's middleware alone adds nothing. -/
theorem extends_of_same {before after : World κ μ} (same : manager.middleware after = manager.middleware before) :
    manager.Extends host before after := by
  intro history extended
  refine ⟨[], ?_⟩
  rw [List.append_nil]
  exact extended.meanwhile same

instance : Run.Lasting (manager.Extends host) where
  stays _ := extends_of_same rfl
  goesOn := by
    intro first second third begun ended history extended
    obtain ⟨more, between⟩ := begun history extended
    obtain ⟨later, after⟩ := ended _ between
    refine ⟨more ++ later, ?_⟩
    rw [← List.append_assoc]
    exact after

theorem ordinary_extends : Ordinary (manager.Extends host) where
  record _ _ _ _ _ := extends_of_same rfl
  now _ := extends_of_same rfl
  freshIndex _ := extends_of_same rfl
  registry _ _ _ := extends_of_same rfl

theorem addMiddleware_extends {factory : κ} (confined : manager.Confines host factory) :
    Run.Moves (manager.Extends host) (manager.addMiddleware host factory) := by
  intro world history extended
  exact ⟨[_], extended.added confined⟩

theorem setContext_extends (name : String) (value : Json) :
    Run.Moves (manager.Extends host) (manager.setContext name value : Act κ μ Unit) := by
  intro world
  apply extends_of_same
  unfold middleware setContext
  rw [modify_manager]

theorem beginRefresh_extends : Run.Moves (manager.Extends host) (manager.beginRefresh : Act κ μ Unit) := by
  intro world
  apply extends_of_same
  unfold middleware
  rw [beginRefresh_manager]
  rfl

variable (keeps : host.Keeps (manager.Extends host)) (channel : Channel)
include keeps

theorem refresh_extends (force : Bool) (extraPaths : List String) :
    Run.Moves (manager.Extends host) (manager.refresh host channel force extraPaths) :=
  refresh_moves_of_ordinary ordinary_extends keeps.load beginRefresh_extends
    (fun _ _ => manager.publish_moves ordinary_extends keeps channel _) force extraPaths

theorem refreshIfDue_extends : Run.Moves (manager.Extends host) (manager.refreshIfDue host channel) :=
  refreshIfDue_moves_of (manager.isDue_moves ordinary_extends) (refresh_extends keeps channel false [])

/-- If user code that runs in calls only extends the manager, calls only extend it. -/
theorem call_extends (name : String) (own : Option Attributes) (params : Json) :
    Run.Moves (manager.Extends host) (manager.call host channel name own params) :=
  (refreshIfDue_extends keeps channel).bind fun _ => manager.answer_moves ordinary_extends keeps channel name own params

theorem approach_extends (name : String) (own : Option Attributes) (params : Json) :
    Run.Moves (manager.Extends host) (manager.approach host channel name own params) :=
  approach_moves ordinary_extends (refreshIfDue_extends keeps channel) keeps.create keeps.prepare keeps.validate
    (fun _ => manager.publish_moves ordinary_extends keeps channel _) own params

omit channel in
/-- Whatever is done with the manager, one thing after the other, it is only extended. -/
theorem live_extends {deeds : List (Deed κ μ)}
    (others : ∀ run, .other run ∈ deeds → Run.Moves (manager.Extends host) run) (world : World κ μ) :
    manager.Extends host world (manager.live host deeds world) := by
  induction deeds generalizing world with
  | nil => exact Run.Lasting.stays world
  | cons deed rest ih =>
    have first : Run.Moves (manager.Extends host) (deed.run host manager) := by
      cases deed with
      | update name value => exact setContext_extends name value
      | refresh channel force extraPaths =>
        exact (refresh_extends keeps channel force extraPaths).bind fun _ => Run.moves_pure _
      | call channel name own params =>
        exact (call_extends keeps channel name own params).bind fun _ => Run.moves_pure _
      | other run => exact others run List.mem_cons_self
    exact Run.Lasting.goesOn (first world) (ih (fun run member => others run (List.mem_cons_of_mem deed member)) _)

end extending

/-- A chain counts all additions, and the links are built of those up to the last one that returned. -/
theorem middleware_of_extended {host : Host κ μ} {manager : Manager} {history : List (Addition κ)} {world : World κ μ}
    (extended : manager.Extended host history world) :
    ((manager.middleware world).1 = history.map Addition.factory ∧
      Pipeline.BuiltFrom host (Addition.standing history) (manager.middleware world).2) ∧
    ((manager.installed world).length = (manager.middleware world).1.length ↔ Addition.Intact history) ∧
    (Addition.Intact history → Pipeline.BuiltFrom host (manager.middleware world).1 (manager.middleware world).2) ∧
    (∀ factory, manager.Confines host factory →
      let added := manager.addMiddleware host factory world
      let chain := (manager.middleware world).1 ++ [factory]
      ((∃ panic, added.result = .error panic ∧
          manager.middleware added.state = (chain, (manager.middleware world).2)) ∨
        ∃ pipeline, Pipeline.BuiltFrom host chain pipeline ∧ added.result = .ok () ∧
          manager.middleware added.state = (chain, pipeline)) ∧
      ((∃ earlier ∈ history, host.Jams earlier.factory) → ∃ panic, added.result = .error panic)) ∧
    (host.Keeps (manager.Extends host) →
      (∀ channel name own params,
        let arrived := (manager.approach host channel name own params world).state
        (∃ more, manager.Extended host (history ++ more) arrived) ∧
          manager.call host channel name own params world =
            manager.callThrough host channel name own params (manager.installed arrived) world) ∧
      ∀ deeds : List (Deed κ μ), (∀ run, .other run ∈ deeds → ∃ factory, manager.Confines host factory ∧
          run = manager.addMiddleware host factory) →
        ∃ more, manager.Extended host (history ++ more) (manager.live host deeds world)) := by
  have equipped := extended.equipped
  refine ⟨⟨equipped.chain, equipped.links⟩, equipped.whole_iff, equipped.whole, ?_, fun keeps => ⟨?_, ?_⟩⟩
  · intro factory confined added chain
    have ends := addMiddleware_ends (equipped.confines confined)
    refine ⟨ends, ?_⟩
    rintro ⟨earlier, member, jams⟩
    rcases ends with ⟨panic, panicked, _⟩ | ⟨pipeline, built, _⟩
    · exact ⟨panic, panicked⟩
    · have among : earlier.factory ∈ (manager.middleware world).1 ++ [factory] := by
        rw [equipped.chain]
        exact List.mem_append_left _ (List.mem_map_of_mem member)
      exact absurd jams (built.not_jams among)
  · intro channel name own params arrived
    exact ⟨approach_extends keeps channel name own params world history extended,
      manager.call_through_arrived host channel name own params world⟩
  · intro deeds additions
    refine live_extends keeps (fun run member => ?_) world history extended
    obtain ⟨factory, confined, rfl⟩ := additions run member
    exact addMiddleware_extends confined

end Manager

/-- Plain user code, but for a factory that panics when the clock is read for the second time. -/
def Host.faltering : Host Unit Unit :=
  { Host.plain with
    build := fun _ => do if (← Act.now) = 1 then Run.panic (.text "factory 1") else return .logging }

/-- A world in which nothing was made, and in which the clock shows how often it was read. -/
def World.counting : World Unit Unit := .start () fun reading => reading

namespace Manager

theorem modest_confines_faltering : modest.Confines Host.faltering () := by
  refine Run.Moves.bind (fun _ => rfl) fun time => ?_
  split
  · exact Run.moves_panic _
  · exact Run.moves_pure _

/-- A world after two additions to the modest manager. -/
def twiceExtended : World Unit Unit :=
  modest.live Host.faltering (List.replicate 2 (.other (modest.addMiddleware Host.faltering ()))) .counting

/-- The second addition panics, since the first factory is asked for its link again. -/
theorem extended_faltering : modest.Extended Host.faltering [⟨(), true⟩, ⟨(), false⟩] twiceExtended := by
  have bare : modest.Extended Host.faltering [] .counting := .plain rfl
  have first : modest.Extended Host.faltering [⟨(), true⟩] (modest.addMiddleware Host.faltering () .counting).state :=
    bare.added modest_confines_faltering
  exact first.added modest_confines_faltering

/-- After an addition that has panicked there are two pieces of middleware and one link. -/
theorem middleware_of_extended_faltering :
    modest.Extended Host.faltering [⟨(), true⟩, ⟨(), false⟩] twiceExtended ∧
      modest.middleware twiceExtended = ([(), ()], some [.logging]) ∧
      Pipeline.BuiltFrom Host.faltering [()] (some [.logging]) ∧
      modest.call Host.faltering .blocking "echo" none .null twiceExtended =
        modest.callThrough Host.faltering .blocking "echo" none .null [.logging] twiceExtended ∧
      modest.middleware (modest.addMiddleware Host.faltering () twiceExtended).state =
        ([(), (), ()], some [.logging, .logging, .logging]) := by
  have plain := Host.plain_keeps (modest.Extends Host.faltering)
  have keeps : Host.faltering.Keeps (modest.Extends Host.faltering) :=
    ⟨plain.create, plain.prepare, plain.execute, plain.validate, plain.before, plain.after, plain.around, plain.notify,
      plain.enter, plain.load⟩
  obtain ⟨⟨_, links⟩, _, _, _, calls⟩ := middleware_of_extended extended_faltering
  obtain ⟨_, through⟩ := (calls keeps).1 .blocking "echo" none .null
  exact ⟨extended_faltering, rfl, links, through, rfl⟩

/-- An addition that panics leaves a manager without a link of middleware that it counts. -/
theorem not_always_whole :
    (¬∀ (host : Host Unit Unit) (manager : Manager) (history : List (Addition Unit)) (world : World Unit Unit),
      manager.Extended host history world →
        (manager.installed world).length = (manager.middleware world).1.length) ∧
    ¬∀ (host : Host Unit Unit) (manager : Manager) (factory : Unit) (panic : Panic) (world : World Unit Unit),
      manager.Confines host factory → (manager.addMiddleware host factory world).result = .error panic →
        manager.middleware (manager.addMiddleware host factory world).state = manager.middleware world := by
  constructor
  · intro always
    have whole := always Host.faltering modest _ _ extended_faltering
    have links : (modest.installed twiceExtended).length = 1 := rfl
    have chain : (modest.middleware twiceExtended).1.length = 2 := rfl
    omega
  · intro always
    let once := (modest.addMiddleware Host.faltering () .counting).state
    have same := always Host.faltering modest () (.text "factory 1") once modest_confines_faltering rfl
    have before : modest.middleware once = ([()], some [.logging]) := rfl
    have after : modest.middleware (modest.addMiddleware Host.faltering () once).state = ([(), ()], some [.logging]) :=
      rfl
    cases after.symm.trans (same.trans before)

end Manager

end Dispatch
