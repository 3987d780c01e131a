import Dispatch.Manager.Call
import Dispatch.Proofs.Discovery
import Dispatch.Proofs.Publishing

namespace Dispatch

variable {κ μ : Type}

/-- What the library does by the way in a call keeps a relation, the record aside that a refresh begins with. -/
structure Ordinary (relation : World κ μ → World κ μ → Prop) : Prop where
  record (severity : Severity) (message : String) (fields : List (String × Json))
    (other : message ≠ "Refreshing actions") :
    Run.Moves relation (Act.record severity message fields : Act κ μ Unit)
  now : Run.Moves relation (Act.now : Act κ μ Nat)
  freshIndex : Run.Moves relation (Act.freshIndex : Act κ μ Nat)
  registry (id : RegistryId) (f : Registry κ → Registry κ) : Run.Moves relation (id.modify f : Act κ μ Unit)

/-- User code that runs in calls keeps a relation, if the rest of the pipeline does. -/
structure Host.Keeps (host : Host κ μ) (relation : World κ μ → World κ μ → Prop) : Prop where
  create (code : κ) : Run.Moves relation (host.create code)
  prepare : Run.Moves (InvImage relation Prod.fst) host.prepare
  execute (channel : Channel) (input : Attributes) (context : Context) :
    Run.Moves (InvImage relation Prod.fst) (host.execute channel input context)
  validate (code : κ) (schema : Schema) (params : Attributes) : Run.Moves relation (host.validate code schema params)
  before (code : κ) : Run.Moves (InvImage relation Prod.fst) (host.before code)
  after (code : κ) (invocation : Invocation κ) : Run.Moves (InvImage relation Prod.fst) (host.after code invocation)
  around (code : κ) (channel : Channel)
    (link : Nat → (Channel → InvocationAct κ μ Outcome) → InvocationAct κ μ Outcome)
    (takes : host.around? code channel = some link) (following : Nat) (rest : Channel → InvocationAct κ μ Outcome)
    (moves : ∀ channel, Run.Moves (InvImage relation Prod.fst) (rest channel)) :
    Run.Moves (InvImage relation Prod.fst) (link following rest)
  notify (code : κ) (channel : Channel) (event : Event) : Run.Moves relation (host.notify code channel event)
  enter (code : κ) (dependencies : Dependencies) (scope : Scope) :
    Run.Moves relation (host.enter code dependencies scope)
  load (code : κ) (source : Source) (dependencies : Dependencies) (scope : Scope) :
    Run.Moves relation (host.load code source dependencies scope)

namespace Ordinary

variable {relation : World κ μ → World κ μ → Prop} [Run.Lasting relation] (ordinary : Ordinary relation)
include ordinary

theorem elapsedSince (start : Nat) : Run.Moves relation (Act.elapsedSince start : Act κ μ Duration) :=
  ordinary.now.bind fun _ => Run.moves_pure _

theorem derive (action : Action κ) (edit : Descriptor → Descriptor) :
    Run.Moves relation (Act.derive action edit : Act κ μ (Action κ)) :=
  ordinary.freshIndex.bind fun _ => Run.moves_pure _

/-- Whoever publishes does by the way what subscribers do. -/
theorem publish {host : Host κ μ} (bus : BusId) {channel : Channel} {name : String} {data : Attributes}
    (notifies : ∀ code, Run.Moves relation (host.notify code channel ⟨name, data⟩)) :
    Run.Moves relation (bus.publish host channel name data) := by
  have fails (fields : List (String × Json)) :
      Run.Moves relation (Act.record .warn (BusId.failureMessage channel) fields : Act κ μ Unit) :=
    ordinary.record _ _ fields (by cases channel <;> decide)
  exact bus.publish_moves_of_fails channel fails notifies

end Ordinary

section discovery

variable {relation : World κ μ → World κ μ → Prop} [Run.Lasting relation] {host : Host κ μ}

namespace RegistryId

theorem read_moves_of (registry : RegistryId) : Run.Moves relation (registry.read : Act κ μ (Registry κ)) :=
  Run.moves_state.bind fun _ => Run.moves_pure _

theorem register_moves_of (ordinary : Ordinary relation) (registry : RegistryId) (action : Action κ) :
    Run.Moves relation (registry.register action : Act κ μ _) := by
  refine registry.read_moves_of.bind fun known => ?_
  split
  · exact Run.moves_pure _
  · refine (ordinary.registry registry _).bind fun _ => Run.Moves.bind ?_ fun _ => Run.moves_pure _
    unfold recordAdmission
    split <;> exact ordinary.record _ _ _ (by decide)

theorem registerCandidate_moves_of (ordinary : Ordinary relation) (registry : RegistryId) (scope : Scope)
    (origin : Option String) (candidate : Except DiscoveryFault (Action κ)) :
    Run.Moves relation (registry.registerCandidate scope origin candidate : Act κ μ _) := by
  cases candidate with
  | error fault => exact (ordinary.record _ _ _ (by decide)).bind fun _ => Run.moves_pure _
  | ok action =>
    have targets : Run.Moves relation (targeted scope action : Act κ μ (Action κ)) := by
      unfold targeted
      split
      · exact ordinary.derive _ _
      · exact Run.moves_pure _
    have originates (action : Action κ) : Run.Moves relation (originated origin action : Act κ μ (Action κ)) := by
      unfold originated
      split
      · exact ordinary.derive _ _
      · exact Run.moves_pure _
    refine targets.bind fun targeted => (originates targeted).bind fun originated => ?_
    refine (registry.register_moves_of ordinary originated).bind fun registered => ?_
    rcases registered with rejection | (_ | _)
    · exact (ordinary.record _ _ _ (by decide)).bind fun _ => Run.moves_pure _
    · exact Run.moves_pure _
    · exact Run.moves_pure _

/-- Registering what was loaded edits the registry and leaves records. -/
theorem registerLoaded_moves_of (ordinary : Ordinary relation) (registry : RegistryId) (source : Source) (scope : Scope)
    (loaded : Except LoadFault (Module κ)) :
    Run.Moves relation (registry.registerLoaded source scope loaded : Act κ μ _) := by
  cases loaded with
  | error fault => exact (ordinary.record _ _ _ (by decide)).bind fun _ => Run.moves_pure _
  | ok loaded =>
    refine (ordinary.record _ _ _ (by decide)).bind fun _ => ?_
    refine (Run.Moves.forEach (registry.registerCandidate_moves_of ordinary scope _) loaded.candidates).bind ?_
    exact fun _ => (ordinary.record _ _ _ (by decide)).bind fun _ => Run.moves_pure _

/-- Besides what user code does to load its module, the discovery of a path edits the registry and leaves records. -/
theorem discover_path_moves (ordinary : Ordinary relation) (registry : RegistryId) {path : String} {scope : Scope}
    {dependencies : Dependencies}
    (loads : ∀ code, Run.Moves relation (host.load code (.path path) dependencies scope)) :
    Run.Moves relation (registry.discover host (.path path) scope dependencies) := by
  refine registry.read_moves_of.bind fun known => ?_
  exact (known.loader.load_moves ordinary.derive loads nofun).bind fun loaded =>
    registry.registerLoaded_moves_of ordinary _ scope loaded

end RegistryId

end discovery

section invocation

variable {relation : World κ μ → World κ μ → Prop} [Run.Lasting relation] {host : Host κ μ}

theorem Action.instantiate_moves (creates : ∀ code, Run.Moves relation (host.create code)) (action : Action κ)
    (context : Context) : Run.Moves relation (action.instantiate host context) := by
  unfold Action.instantiate
  split
  · exact Run.moves_pure _
  · exact (Run.moves_note _).bind fun _ => (creates _).foreign.bind fun _ => Run.moves_pure _

namespace Invocation

theorem invocation_moves : Run.Moves (InvImage relation Prod.fst) (invocation : InvocationAct κ μ (Invocation κ)) :=
  Run.moves_state.bind fun _ => Run.moves_pure _

/-- An edit of the invocation leaves the world alone. -/
theorem update_moves (f : Invocation κ → Invocation κ) :
    Run.Moves (InvImage relation Prod.fst) (update f : InvocationAct κ μ Unit) := fun state =>
  Run.Lasting.stays state.1

theorem prepareOnce_moves (prepares : Run.Moves (InvImage relation Prod.fst) host.prepare) :
    Run.Moves (InvImage relation Prod.fst) (prepareOnce host) := by
  have looks : Run.Moves (InvImage relation Prod.fst) (prepareHook host) := fun (world, invocation) =>
    prepares (world, invocation.hook, invocation.context)
  refine invocation_moves.bind fun current => ?_
  split
  · exact looks.bind fun _ => update_moves _
  · exact Run.moves_pure _

theorem validate_moves (validates : ∀ code schema params, Run.Moves relation (host.validate code schema params))
    (invocation : Invocation κ) (params : Attributes) : Run.Moves relation (invocation.validate host params) := by
  refine (Run.moves_note _).bind fun _ => ?_
  split
  · exact Run.moves_pure _
  · exact (validates _ _ _).foreign

/-- Besides what user code does for it, setting an invocation up changes the invocation only. -/
theorem setUp_moves (prepares : Run.Moves (InvImage relation Prod.fst) host.prepare)
    (validates : ∀ code schema params, Run.Moves relation (host.validate code schema params)) (params : Json) :
    Run.Moves (InvImage relation Prod.fst) (setUp host params) := by
  refine invocation_moves.bind fun current => ?_
  split
  · exact Run.moves_pure _
  · refine (prepareOnce_moves prepares).bind fun _ => ?_
    unfold accept
    split
    · exact Run.moves_pure _
    · refine invocation_moves.bind fun prepared => ?_
      refine (prepared.validate_moves validates _).onFirst.bind fun accepted => ?_
      split
      · exact Run.moves_pure _
      · exact (update_moves _).bind fun _ => Run.moves_pure _

theorem process_moves (ordinary : Ordinary relation) (keeps : host.Keeps relation) (channel : Channel) :
    Run.Moves (InvImage relation Prod.fst) (process host channel) := by
  have executes (input : Attributes) : Run.Moves (InvImage relation Prod.fst) (runHook host channel input) :=
    fun (world, invocation) => keeps.execute channel input invocation.context (world, invocation.hook)
  refine invocation_moves.bind fun current => ?_
  split
  · exact ((ordinary.record _ _ _ (by decide)).bind fun _ => Run.moves_pure _).onFirst
  · refine (executes _).bind fun returned => invocation_moves.bind fun current => (update_moves _).bind fun _ => ?_
    cases returned with
    | error failure => exact (ordinary.record _ _ _ (by decide)).onFirst.bind fun _ => Run.moves_pure _
    | ok output => exact (Run.moves_pure _).bind fun _ => Run.moves_pure _

end Invocation

namespace Pipeline

theorem link_moves (ordinary : Ordinary relation) (keeps : host.Keeps relation) (channel : Channel) (following : Nat)
    {rest : Channel → InvocationAct κ μ Outcome}
    (moves : ∀ channel, Run.Moves (InvImage relation Prod.fst) (rest channel)) (first : Middleware κ) :
    Run.Moves (InvImage relation Prod.fst) (link host channel following rest first) := by
  cases first with
  | logging =>
    refine Invocation.invocation_moves.bind fun current => ?_
    refine (ordinary.record _ _ _ (by cases channel <;> decide)).onFirst.bind fun _ => ?_
    refine ordinary.now.onFirst.bind fun start => (moves channel).bind fun outcome => ?_
    refine (ordinary.elapsedSince start).onFirst.bind fun elapsed => ?_
    refine Invocation.invocation_moves.bind fun left => ?_
    refine Run.Moves.bind (Run.Moves.onFirst ?_) fun _ => Run.moves_pure _
    split <;> exact ordinary.record _ _ _ (by decide)
  | performance threshold =>
    refine ordinary.now.onFirst.bind fun start => (moves channel).bind fun outcome => ?_
    refine (ordinary.elapsedSince start).onFirst.bind fun elapsed => ?_
    dsimp only
    split
    · refine Invocation.invocation_moves.bind fun current => ?_
      exact (ordinary.record _ _ _ (by decide)).onFirst.bind fun _ => Run.moves_pure _
    · exact (Run.moves_pure _).bind fun _ => Run.moves_pure _
  | custom code =>
    unfold link
    dsimp only
    split
    · rename_i link takes
      exact (keeps.around code channel link takes following rest moves).foreign
    · have edits (outcome : Outcome) : Run.Moves (InvImage relation Prod.fst) (Middleware.edited host code outcome) :=
        fun (world, invocation) => keeps.after code invocation (world, outcome)
      exact (Run.moves_note _).bind fun _ => (keeps.before code).foreign.bind fun _ =>
        (moves channel).bind fun outcome => edits outcome

/-- Besides what user code does in it, a pipeline reads the clock and leaves records. -/
theorem process_moves (ordinary : Ordinary relation) (keeps : host.Keeps relation) (links : Pipeline κ)
    (channel : Channel) : Run.Moves (InvImage relation Prod.fst) (process host links channel) := by
  induction links generalizing channel with
  | nil => exact Invocation.process_moves ordinary keeps channel
  | cons first rest ih => exact (Run.moves_note _).bind fun _ => link_moves ordinary keeps channel rest.length ih first

end Pipeline

end invocation

namespace Manager

variable {relation : World κ μ → World κ μ → Prop} [Run.Lasting relation] {host : Host κ μ}
  (ordinary : Ordinary relation) (keeps : host.Keeps relation) (manager : Manager) (channel : Channel) (name : String)

/-- A call, once the manager has been refreshed if it was due. -/
def answer (host : Host κ μ) (manager : Manager) (channel : Channel) (name : String) (own : Option Attributes)
    (params : Json) : Act κ μ Outcome := do
  match ← manager.resolve name with
  | none => manager.answerUnknown name
  | some action => manager.callAction host channel name own params action

theorem call_eq (host : Host κ μ) (own : Option Attributes) (params : Json) :
    manager.call host channel name own params =
      (manager.refreshIfDue host channel >>= fun _ => manager.answer host channel name own params) := rfl

theorem read_moves : Run.Moves relation (manager.read : Act κ μ (ManagerState κ)) :=
  Run.moves_state.bind fun _ => Run.moves_pure _

/-- A refresh that is not needed leaves a record between its events at most. -/
theorem rediscoverIf_idle_moves
    (skips : ∀ fields, Run.Moves relation (Act.record .debug "Skipping refresh" fields : Act κ μ Unit))
    (elapsed : Option Duration) (extraPaths : List String) :
    Run.Moves relation (manager.rediscoverIf host false elapsed extraPaths) := by
  cases elapsed with
  | none => exact (Run.moves_pure _).bind fun _ => Run.moves_pure _
  | some elapsed => exact (skips _).bind fun _ => Run.moves_pure _

include ordinary

theorem sinceRefresh_moves : Run.Moves relation (manager.sinceRefresh : Act κ μ (Option Duration)) := by
  refine manager.read_moves.bind fun state => ?_
  split
  · exact Run.moves_pure _
  · exact (ordinary.elapsedSince _).bind fun _ => Run.moves_pure _

theorem isDue_moves : Run.Moves relation (manager.isDue : Act κ μ Bool) := by
  unfold isDue
  split
  · exact (manager.sinceRefresh_moves ordinary).bind fun _ => Run.moves_pure _
  · exact Run.moves_pure _

theorem resolve_moves : Run.Moves relation (manager.resolve name : Act κ μ (Option (Action κ))) := by
  refine manager.registry.read_moves_of.bind fun registry => ?_
  split
  · exact Run.moves_pure _
  · split
    · exact Run.moves_pure _
    · split
      · exact Run.moves_pure _
      · exact (ordinary.record _ _ _ (by decide)).bind fun _ => Run.moves_pure _

theorem discoverPaths_moves
    (loads : ∀ code source dependencies scope, Run.Moves relation (host.load code source dependencies scope))
    (paths : List String) : Run.Moves relation (manager.discoverPaths host paths) :=
  (Run.Moves.forEach (fun _ => manager.registry.discover_path_moves ordinary fun code => loads code _ _ _) paths).bind
    fun _ => Run.moves_pure _

include keeps

theorem publish_moves (event : Event) : Run.Moves relation (manager.publish host channel event) :=
  (ordinary.publish manager.bus fun code => keeps.notify code channel _).bind fun _ => Run.moves_pure _

theorem failCall_moves (outcome : Outcome) : Run.Moves relation (manager.failCall host channel name outcome) :=
  (ordinary.record _ _ _ (by decide)).bind fun _ => (manager.publish_moves ordinary keeps channel _).bind fun _ =>
    Run.moves_pure _

theorem carryOut_moves (invocation : Invocation κ) :
    Run.Moves relation (manager.carryOut host channel name invocation) := by
  refine (manager.publish_moves ordinary keeps channel _).bind fun _ => manager.read_moves.bind fun state => ?_
  refine (Run.moves_note _).bind fun _ => ?_
  refine ((Pipeline.process_moves ordinary keeps _ channel).withLocal invocation).bind fun processed => ?_
  obtain ⟨returned, _⟩ := processed
  cases returned with
  | error panic => exact manager.failCall_moves ordinary keeps channel name _
  | ok outcome => exact (manager.publish_moves ordinary keeps channel _).bind fun _ => Run.moves_pure _

theorem callInvocation_moves (invocation : Invocation κ) (params : Json) :
    Run.Moves relation (manager.callInvocation host channel name invocation params) := by
  refine ((Invocation.setUp_moves keeps.prepare keeps.validate params).withLocal invocation).bind fun settled => ?_
  obtain ⟨returned, invocation⟩ := settled
  rcases returned with panic | violation | accepted
  · exact Run.moves_panic _
  · exact (ordinary.record _ _ _ (by decide)).bind fun _ => manager.failCall_moves ordinary keeps channel name _
  · exact manager.carryOut_moves ordinary keeps channel name invocation

/-- Whatever user code and the library by the way keep is kept by what a call does once the manager was refreshed. -/
theorem answer_moves (own : Option Attributes) (params : Json) :
    Run.Moves relation (manager.answer host channel name own params) := by
  refine (manager.resolve_moves ordinary name).bind fun found => ?_
  cases found with
  | none => exact (ordinary.record _ _ _ (by decide)).bind fun _ => Run.moves_pure _
  | some action =>
    refine manager.read_moves.bind fun state => (action.instantiate_moves keeps.create _).bind fun made => ?_
    cases made with
    | error rejection => exact manager.failCall_moves ordinary keeps channel name _
    | ok invocation => exact manager.callInvocation_moves ordinary keeps channel name invocation params

end Manager

end Dispatch
