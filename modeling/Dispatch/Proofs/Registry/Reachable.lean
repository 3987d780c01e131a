import Dispatch.Proofs.Discovery
import Dispatch.Proofs.Host
import Dispatch.Proofs.Invocation.SetUp
import Dispatch.Proofs.Registry.Content

namespace Dispatch

variable {κ μ : Type}

namespace RegistryId

/-- From the one world to the other a registry is only edited. -/
def Develops (registry : RegistryId) (before after : World κ μ) : Prop :=
  ∃ list, after.registry registry = (before.registry registry).edits list

variable (registry : RegistryId)

theorem develops_of_same {before after : World κ μ} (same : after.registry registry = before.registry registry) :
    registry.Develops before after := ⟨[], same⟩

/-- Edits that follow each other are edits. -/
instance : Run.Lasting (registry.Develops : World κ μ → World κ μ → Prop) where
  stays _ := registry.develops_of_same rfl
  goesOn := by
    rintro first second third ⟨begun, middle⟩ ⟨ended, last⟩
    refine ⟨begun ++ ended, ?_⟩
    rw [last, middle]
    exact List.foldl_append.symm

/-- Whoever edits a registry once develops it. -/
theorem modify_moves {f : Registry κ → Registry κ} (edits : ∀ known, ∃ edit, f known = known.edit edit) :
    Run.Moves registry.Develops (registry.modify f : Act κ μ Unit) := by
  intro world
  obtain ⟨edit, edited⟩ := edits (world.registry registry)
  refine ⟨[edit], ?_⟩
  change (if registry = registry then f (world.registry registry) else _) = _
  rw [if_pos rfl, edited]
  rfl

theorem record_moves (severity : Severity) (message : String) (fields : List (String × Json)) :
    Run.Moves registry.Develops (Act.record severity message fields : Act κ μ Unit) := fun _ =>
  registry.develops_of_same rfl

theorem derive_moves (action : Action κ) (change : Descriptor → Descriptor) :
    Run.Moves registry.Develops (Act.derive action change : Act κ μ (Action κ)) := fun _ =>
  registry.develops_of_same rfl

theorem read_moves : Run.Moves registry.Develops (registry.read : Act κ μ (Registry κ)) := fun _ =>
  registry.develops_of_same rfl

/-- A rejected action is answered with what speaks against it. -/
theorem register_of_error {action : Action κ} {world : World κ μ} {rejection : Rejection}
    (rejected : (world.registry registry).register action = .error rejection) :
    registry.register action world = ⟨.ok (.error rejection), world, []⟩ := by
  unfold register
  rw [read_bind, rejected]
  rfl

/-- Any other action is answered with whether it was put into the registry, which becomes the edited one. -/
theorem register_of_ok {action : Action κ} {world : World κ μ} {admission : Admission} {known : Registry κ}
    (admitted : (world.registry registry).register action = .ok (admission, known)) :
    (registry.register action world).result = .ok (.ok (admission == .registered)) ∧
      (registry.register action world).state.registry registry = known := by
  have set : (world.setRegistry registry known).registry registry = known := if_pos rfl
  unfold register
  rw [read_bind, admitted]
  cases admission <;> exact ⟨rfl, set⟩

/-- What becomes of an action that is registered, and of the registry. -/
theorem register_ends (action : Action κ) (world : World κ μ) :
    let ran := registry.register action world
    (action.IsRegistrable ∧ ran.result = .ok (.ok true) ∧
        ran.state.registry registry = (world.registry registry).insert action) ∨
      (∃ refusal, refusal ≠ .ok true ∧ ran.result = .ok refusal) ∧
        ran.state.registry registry = world.registry registry := by
  by_cases registrable : action.IsRegistrable
  · have admitted := Registry.register_of_registrable registrable (world.registry registry)
    have ⟨returned, known⟩ := registry.register_of_ok admitted
    exact .inl ⟨registrable, returned, known⟩
  · right
    rcases Registry.register_of_refused registrable (world.registry registry) with
      ⟨rejection, rejected⟩ | ⟨admission, other, admitted⟩
    · rw [registry.register_of_error rejected]
      exact ⟨⟨.error rejection, by simp, rfl⟩, rfl⟩
    · have ⟨returned, known⟩ := registry.register_of_ok admitted
      exact ⟨⟨_, by simpa using other, returned⟩, known⟩

/-- Registering an action is one edit of the registry. -/
theorem register_edits (action : Action κ) (world : World κ μ) :
    (registry.register action world).state.registry registry = (world.registry registry).edit (.register action) := by
  by_cases registrable : action.IsRegistrable
  · rw [Registry.edit_register_of_registrable registrable]
    exact (registry.register_of_ok (Registry.register_of_registrable registrable _)).2
  · rw [Registry.edit_register_of_refused registrable]
    rcases registry.register_ends action world with ⟨other, _⟩ | ⟨_, known⟩
    · exact absurd other registrable
    · exact known

/-- A candidate is given its target system and its origin, which leaves all registries alone. -/
theorem adopted_ends (scope : Scope) (origin : Option String) (action : Action κ) (world : World κ μ) :
    ∃ adopted after, (targeted scope action >>= originated origin) world = ⟨.ok adopted, after, []⟩ ∧
      adopted.content = (action.adopted scope origin).content ∧ after.registry = world.registry := by
  obtain ⟨id, ⟨name, target⟩, schema, validator, hook⟩ := action
  cases scope <;> cases target <;> cases origin <;> exact ⟨_, _, rfl, rfl, rfl⟩

/-- An acceptable candidate is put into the registry and handed back, and any other one is passed over. -/
theorem registerCandidate_ends (scope : Scope) (origin : Option String)
    (candidate : Except DiscoveryFault (Action κ)) (world : World κ μ) :
    let ran := registry.registerCandidate scope origin candidate world
    (Registry.accepted? scope origin candidate = none ∧ ran.result = .ok none ∧
        ran.state.registry registry = world.registry registry) ∨
      ∃ wanted action : Action κ, Registry.accepted? scope origin candidate = some wanted ∧
        action.content = wanted.content ∧ action.IsRegistrable ∧ ran.result = .ok (some action) ∧
        ran.state.registry registry = (world.registry registry).insert action := by
  cases candidate with
  | error fault => exact .inl ⟨rfl, rfl, rfl⟩
  | ok action =>
    obtain ⟨adopted, ready, adopting, alike, still⟩ := adopted_ends scope origin action world
    have judged : adopted.IsRegistrable ↔ (action.adopted scope origin).IsRegistrable :=
      Action.isRegistrable_congr alike
    unfold registerCandidate
    dsimp only
    rw [← bind_assoc, Run.bind_apply_ok adopting]
    dsimp only
    rw [← still]
    by_cases registrable : adopted.IsRegistrable
    · have ⟨returned, known⟩ :=
        registry.register_of_ok (Registry.register_of_registrable registrable (ready.registry registry))
      rw [Run.bind_of_ok returned]
      refine .inr ⟨_, adopted, if_pos (judged.mp registrable), alike, registrable, rfl, known⟩
    · have passed : Registry.accepted? scope origin (.ok action) = none := if_neg (mt judged.mpr registrable)
      rcases registry.register_ends adopted ready with ⟨other, _⟩ | ⟨⟨refusal, refused, returned⟩, known⟩
      · exact absurd other registrable
      · rw [Run.bind_of_ok returned]
        refine .inl ⟨passed, ?_⟩
        rcases refusal with rejection | (_ | _)
        · exact ⟨rfl, known⟩
        · exact ⟨rfl, known⟩
        · exact absurd rfl refused

/-- Candidates have been registered in a batch: the acceptable ones, in order. -/
structure Registers (scope : Scope) (origin : Option String) (candidates : List (Except DiscoveryFault (Action κ)))
    (before after : Registry κ) (found : List (Action κ)) : Prop where
  registrable : ∀ action ∈ found, action.IsRegistrable
  contents : found.map Action.content = (Registry.acceptable scope origin candidates).map Action.content
  known : after = before.edits (found.map .register)

/-- Candidates are registered one after the other. -/
theorem registerAll_ends (source : String) (scope : Scope) (origin : Option String)
    (candidates : List (Except DiscoveryFault (Action κ))) (world : World κ μ) :
    let ran := registry.registerAll source scope origin candidates world
    ∃ found, ran.result = .ok found ∧
      Registers scope origin candidates (world.registry registry) (ran.state.registry registry) found := by
  have each : ∃ handed : List (Option (Action κ)),
      (Run.forEach (registry.registerCandidate scope origin) candidates world).result = .ok handed ∧
        Registers scope origin candidates (world.registry registry)
          ((Run.forEach (registry.registerCandidate scope origin) candidates world).state.registry registry)
          handed.reduceOption := by
    induction candidates generalizing world with
    | nil => exact ⟨[], rfl, List.forall_mem_nil _, rfl, rfl⟩
    | cons candidate rest ih =>
      obtain ⟨handed, returned, later⟩ := ih (registry.registerCandidate scope origin candidate world).state
      rw [Run.forEach_cons]
      rcases registry.registerCandidate_ends scope origin candidate world with
        ⟨judged, passed, known⟩ | ⟨wanted, action, judged, alike, registrable, registered, known⟩
      · rw [Run.bind_of_ok passed, Run.bind_of_ok returned]
        rw [known] at later
        refine ⟨none :: handed, rfl, later.registrable, ?_, later.known⟩
        rw [Registry.acceptable, List.filterMap_cons_none judged]
        exact later.contents
      · rw [Run.bind_of_ok registered, Run.bind_of_ok returned]
        rw [known, ← Registry.edit_register_of_registrable registrable] at later
        refine ⟨some action :: handed, rfl, List.forall_mem_cons.mpr ⟨registrable, later.registrable⟩, ?_, later.known⟩
        rw [Registry.acceptable, List.filterMap_cons_some judged]
        exact List.cons_eq_cons.mpr ⟨alike, later.contents⟩
  obtain ⟨handed, returned, registers⟩ := each
  unfold registerAll
  rw [Run.bind_of_ok returned]
  exact ⟨handed.reduceOption, rfl, registers⟩

/-- What a module holds is registered in a batch. -/
theorem registerLoaded_of_ok (source : Source) (scope : Scope) (module : Module κ) (world : World κ μ) :
    let ran := registry.registerLoaded source scope (.ok module) world
    ∃ found, ran.result = .ok found ∧
      Registers scope source.origin? module.candidates (world.registry registry) (ran.state.registry registry)
        found := by
  unfold registerLoaded
  dsimp only
  rw [Act.record_bind]
  exact registry.registerAll_ends source.text scope source.origin? module.candidates _

/-- What a discovery hands back is registered, in order, in the registry that loading has left. -/
theorem discover_ends {host : Host κ μ} {source : Source} {scope : Scope} {dependencies : Dependencies}
    {world : World κ μ} {found : List (Action κ)}
    (returned : (registry.discover host source scope dependencies world).result = .ok found) :
    (∀ action ∈ found, action.IsRegistrable) ∧ ∃ loaded : World κ μ,
      (registry.discover host source scope dependencies world).state.registry registry =
        (loaded.registry registry).edits (found.map .register) := by
  unfold discover at returned ⊢
  rw [read_bind] at returned ⊢
  obtain ⟨outcome, loaded, returned⟩ := Run.bind_returns_iff.mp returned
  rw [Run.bind_of_ok loaded]
  cases outcome with
  | error fault =>
    cases returned
    exact ⟨List.forall_mem_nil _, _, rfl⟩
  | ok module =>
    obtain ⟨handed, ended, registers⟩ := registry.registerLoaded_of_ok source scope module _
    cases ended.symm.trans returned
    exact ⟨registers.registrable, _, registers.known⟩

end RegistryId

/-- User code that is run for a discovery only edits a registry. -/
structure Host.Respects (host : Host κ μ) (registry : RegistryId) : Prop where
  load (code : κ) (source : Source) (dependencies : Dependencies) (scope : Scope) :
    Run.Moves registry.Develops (host.load code source dependencies scope)
  enter (code : κ) (dependencies : Dependencies) (scope : Scope) :
    Run.Moves registry.Develops (host.enter code dependencies scope)
  offer (code : κ) (asked : RegistryId) (scope : Scope) :
    Run.Moves registry.Develops (host.offer code asked scope)

namespace RegistryId

variable {host : Host κ μ} {registry : RegistryId}

theorem registerAll_moves (source : String) (scope : Scope) (origin : Option String)
    (candidates : List (Except DiscoveryFault (Action κ))) :
    Run.Moves registry.Develops (registry.registerAll source scope origin candidates : Act κ μ _) := by
  intro world
  obtain ⟨found, _, registers⟩ := registry.registerAll_ends source scope origin candidates world
  exact ⟨_, registers.known⟩

theorem discover_moves (respects : host.Respects registry) (source : Source) (scope : Scope)
    (dependencies : Dependencies) : Run.Moves registry.Develops (registry.discover host source scope dependencies) := by
  refine registry.read_moves.bind fun known => ?_
  have loads := known.loader.load_moves registry.derive_moves (respects.load · source dependencies scope)
    fun _ _ code => respects.enter code dependencies scope
  refine loads.bind ?_
  rintro (fault | loaded)
  · exact (registry.record_moves _ _ _).bind fun _ => Run.moves_pure _
  · exact (registry.record_moves _ _ _).bind fun _ => registerAll_moves _ _ _ _

theorem discoverPackage_moves (respects : host.Respects registry) (package : String) (scope : Scope)
    (dependencies : Dependencies) :
    Run.Moves registry.Develops (registry.discoverPackage host package scope dependencies) := by
  refine registry.read_moves.bind fun known => ?_
  split
  · exact discover_moves respects _ scope dependencies
  · refine (registry.record_moves _ _ _).bind fun _ => ?_
    exact (respects.offer _ registry scope).foreign.bind fun _ => registerAll_moves _ _ _ _

theorem register_moves (action : Action κ) :
    Run.Moves registry.Develops (registry.register action : Act κ μ (Except Rejection Bool)) := fun world =>
  ⟨[.register action], registry.register_edits action world⟩

/-- The operations of a registry. -/
inductive Operation (κ : Type) where
  | register (action : Action κ)
  | unregister (name : String) (scope : Scope)
  | reset
  | discover (source : Source) (scope : Scope) (dependencies : Dependencies)
  | discoverPackage (package : String) (scope : Scope) (dependencies : Dependencies)

/-- An operation is run for what it does to the world. -/
def Operation.run (host : Host κ μ) (registry : RegistryId) : Operation κ → Act κ μ Unit
  | .register action => do let _ ← registry.register action
  | .unregister name scope => do let _ ← registry.unregister name scope
  | .reset => registry.reset
  | .discover source scope dependencies => do let _ ← registry.discover host source scope dependencies
  | .discoverPackage package scope dependencies => do
    let _ ← registry.discoverPackage host package scope dependencies

/-- Every operation of a registry edits it and does nothing else to it. -/
theorem operation_moves (respects : host.Respects registry) (operation : Operation κ) :
    Run.Moves registry.Develops (operation.run host registry) := by
  cases operation with
  | register action => exact (register_moves action).bind fun _ => Run.moves_pure _
  | unregister name scope =>
    refine Run.Moves.bind (fun world => ?_) fun _ => Run.moves_pure _
    exact ⟨[.unregister name scope], if_pos rfl⟩
  | reset =>
    refine Run.Moves.bind ?_ fun _ => registry.record_moves _ _ _
    exact registry.modify_moves fun known => ⟨.reset, rfl⟩
  | discover source scope dependencies =>
    exact (discover_moves respects source scope dependencies).bind fun _ => Run.moves_pure _
  | discoverPackage package scope dependencies =>
    exact (discoverPackage_moves respects package scope dependencies).bind fun _ => Run.moves_pure _

/-- The worlds that a registry can be in, by operations in a row, between which others may edit it. -/
inductive Reached (host : Host κ μ) (registry : RegistryId) : World κ μ → Prop
  | made {world : World κ μ}
      (bare : (world.registry registry).actions = ∅ ∧ (world.registry registry).byTarget = ∅) :
      Reached host registry world
  | stepped {world : World κ μ} (reached : Reached host registry world) (operation : Operation κ) :
      Reached host registry (operation.run host registry world).state
  | meanwhile {world other : World κ μ} (reached : Reached host registry world)
      (develops : registry.Develops world other) : Reached host registry other

/-- In every world that it can be in a registry is coherent. -/
theorem Reached.coherent (respects : host.Respects registry) {world : World κ μ}
    (reached : registry.Reached host world) : (world.registry registry).Coherent := by
  induction reached with
  | made bare => exact Registry.coherent_of_bare bare
  | @stepped world _ operation coherent =>
    obtain ⟨list, edited⟩ := operation_moves respects operation world
    rw [edited]
    exact coherent.edits list
  | meanwhile _ develops coherent =>
    obtain ⟨list, edited⟩ := develops
    rw [edited]
    exact coherent.edits list

/-- In every world that it can be in a registry has fitting indices and hands out what can be instantiated. -/
theorem indices_of_reached (respects : host.Respects registry) {world : World κ μ}
    (reached : registry.Reached host world) :
    let known := world.registry registry
    known.Coherent ∧
      (∀ name scope action, known.get? name scope = some action → ∀ context ready rejection,
        (action.instantiate host context ready).result ≠ .ok (.error rejection)) ∧
      ∀ name scope,
        let ran := (registry.unregister name scope : Act κ μ Bool) world
        let after := ran.state.registry registry
        ran.result = .ok (known.get? name scope).isSome ∧
          (∀ action, known.get? name scope = some action → ∀ other place, after.get? other place ≠ some action) ∧
          ∀ other target,
            (∀ action, known.get? name scope = some action → ¬(other = name ∧ action.target = some target)) →
              after.get? other (some target) = known.get? other (some target) := by
  intro known
  have coherent : known.Coherent := reached.coherent respects
  refine ⟨coherent, ?_, ?_⟩
  · intro name scope action found context ready rejection
    exact Action.instantiate_of_hook host (coherent.registrable found).executable context ready rejection
  · intro name scope ran after
    have edited : after = (known.unregister name scope).2 := if_pos rfl
    refine ⟨congrArg Except.ok (known.unregister_fst name scope), ?_, ?_⟩
    · intro action found other place still
      rw [edited] at still
      exact (coherent.get?_unregister_iff.mp still).2 found
    · intro other target spared
      rw [edited]
      refine Option.ext fun action => coherent.get?_unregister_iff.trans (and_iff_left_of_imp fun here gone => ?_)
      refine spared action gone ⟨?_, coherent.placed here⟩
      exact (coherent.named here).symm.trans (coherent.named gone)

/-- Plain user code has no use for registries. -/
theorem plain_respects (registry : RegistryId) : Host.plain.Respects registry where
  load _ _ _ _ := Run.moves_pure _
  enter _ _ _ := Run.moves_pure _
  offer _ _ _ := Run.moves_pure _

/-- A registry that one action was registered in is one of those. -/
theorem indices_of_reached_echo :
    let world := (Operation.run Host.plain ⟨3⟩ (.register (Action.echo "maya")) (World.start () fun _ => 0)).state
    (world.registry ⟨3⟩).get? "echo" none = some (Action.echo "maya") ∧ (world.registry ⟨3⟩).Coherent :=
  ⟨rfl, (indices_of_reached (plain_respects ⟨3⟩) (.stepped (.made ⟨rfl, rfl⟩) (.register (Action.echo "maya")))).1⟩

end RegistryId

end Dispatch
