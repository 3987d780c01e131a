import Dispatch.Proofs.Registry.Latest

namespace Dispatch

variable {κ μ : Type}

/-- What a discovery looks for: the module of a source, or a package, which may have a discovery hook. -/
inductive Search where
  | ofSource (source : Source)
  | ofPackage (name : String)

/-- Candidates in order, and the origin that they remember, if any. -/
structure Batch (κ : Type) where
  origin : Option String
  candidates : List (Except DiscoveryFault (Action κ))

/-- The batch without the candidates that are passed over. -/
def Batch.purged (scope : Scope) (batch : Batch κ) : Batch κ :=
  { batch with
    candidates := batch.candidates.filter fun candidate => (Registry.accepted? scope batch.origin candidate).isSome }

/-- Batches of the same acceptable candidates lead to registries of the same content, identities aside. -/
theorem RegistryId.Registers.content_congr {scope : Scope} {batch other : Batch κ}
    {before after elsewhere there : Registry κ} {found others : List (Action κ)}
    (registers : Registers scope batch.origin batch.candidates before after found)
    (too : Registers scope other.origin other.candidates elsewhere there others)
    (same : Registry.acceptable scope other.origin other.candidates =
      Registry.acceptable scope batch.origin batch.candidates)
    (alike : elsewhere.content = before.content) :
    others.map Action.content = found.map Action.content ∧ there.content = after.content := by
  have contents : others.map Action.content = found.map Action.content := by
    rw [too.contents, same, registers.contents]
  refine ⟨contents, ?_⟩
  rw [too.known, registers.known, Registry.content_registers, Registry.content_registers, contents, alike]

namespace Search

/-- A search is run in a registry. -/
def run (host : Host κ μ) (registry : RegistryId) (scope : Scope) (dependencies : Dependencies) :
    Search → Act κ μ (List (Action κ))
  | .ofSource source => registry.discover host source scope dependencies
  | .ofPackage name => registry.discoverPackage host name scope dependencies

/-- In a search candidates are gathered, or the module cannot be loaded, by user code or not. -/
inductive Gathers (host : Host κ μ) (registry : RegistryId) (scope : Scope) (dependencies : Dependencies)
    (world : World κ μ) : Search → Except LoadFault (Batch κ) → World κ μ → Prop
  | loaded {source : Source} {module : Module κ} {after : World κ μ}
      (reached : Run.Reaches ((world.registry registry).loader.load host source dependencies scope) world
        (.ok module) after) :
      Gathers host registry scope dependencies world (.ofSource source) (.ok ⟨source.origin?, module.candidates⟩) after
  | failed {source : Source} {fault : LoadFault} {after : World κ μ}
      (reached : Run.Reaches ((world.registry registry).loader.load host source dependencies scope) world
        (.error fault) after) :
      Gathers host registry scope dependencies world (.ofSource source) (.error fault) after
  | hooked {name : String} {code : κ} {offered : List (Action κ)} {after : World κ μ}
      (kept : (world.registry registry).hooks.get? name = some code)
      (reached : Run.Reaches (do
        Act.record .debug "Using discovery hook" [("package", .string name)]
        Run.foreign (host.offer code registry scope)) world offered after) :
      Gathers host registry scope dependencies world (.ofPackage name) (.ok ⟨none, offered.map .ok⟩) after
  | unhooked {name : String} {outcome : Except LoadFault (Batch κ)} {after : World κ μ}
      (missing : (world.registry registry).hooks.get? name = none)
      (gathers : Gathers host registry scope dependencies world (.ofSource (.package name)) outcome after) :
      Gathers host registry scope dependencies world (.ofPackage name) outcome after

variable {host : Host κ μ} {registry : RegistryId} {scope : Scope} {dependencies : Dependencies}

/-- After a batch was gathered it is registered. -/
theorem Gathers.registers {world loaded : World κ μ} {search : Search} {batch : Batch κ}
    (gathers : search.Gathers host registry scope dependencies world (.ok batch) loaded) :
    let ran := search.run host registry scope dependencies world
    ∃ found, ran.result = .ok found ∧
      RegistryId.Registers scope batch.origin batch.candidates (loaded.registry registry)
        (ran.state.registry registry) found := by
  generalize outcome : (Except.ok batch : Except LoadFault (Batch κ)) = gathered at gathers
  induction gathers with
  | @loaded source module after reached =>
    cases outcome
    obtain ⟨returned, rfl⟩ := reached
    unfold run RegistryId.discover
    dsimp only
    rw [RegistryId.read_bind, Run.bind_of_ok returned]
    exact registry.registerLoaded_of_ok source scope module _
  | failed reached => cases outcome
  | @hooked name code offered after kept reached =>
    cases outcome
    obtain ⟨returned, rfl⟩ := reached
    unfold run RegistryId.discoverPackage
    dsimp only
    rw [RegistryId.read_bind, kept]
    dsimp only
    rw [← bind_assoc, Run.bind_of_ok returned]
    exact registry.registerAll_ends name scope none (offered.map .ok) _
  | @unhooked name outcome after missing gathers ih =>
    unfold run RegistryId.discoverPackage
    dsimp only
    rw [RegistryId.read_bind, missing]
    exact ih outcome

/-- A module that cannot be loaded leaves the registries as loading has left them. -/
theorem Gathers.fails {world loaded : World κ μ} {search : Search} {fault : LoadFault}
    (gathers : search.Gathers host registry scope dependencies world (.error fault) loaded) :
    let ran := search.run host registry scope dependencies world
    ran.result = .ok [] ∧ ran.state.registry = loaded.registry ∧
      ∀ catalog, (world.registry registry).loader = .catalog catalog → loaded = world := by
  generalize outcome : (Except.error fault : Except LoadFault (Batch κ)) = gathered at gathers
  induction gathers with
  | loaded reached => cases outcome
  | @failed source other after reached =>
    cases outcome
    obtain ⟨returned, rfl⟩ := reached
    have idle : ∀ catalog, (world.registry registry).loader = .catalog catalog →
        ((world.registry registry).loader.load host source dependencies scope world).state = world := by
      intro catalog loads
      rw [loads] at returned ⊢
      exact Loader.state_of_catalog_failed returned
    unfold run RegistryId.discover
    dsimp only
    rw [RegistryId.read_bind, Run.bind_of_ok returned]
    exact ⟨rfl, rfl, idle⟩
  | hooked kept reached => cases outcome
  | @unhooked name outcome after missing gathers ih =>
    unfold run RegistryId.discoverPackage
    dsimp only
    rw [RegistryId.read_bind, missing]
    exact ih outcome

/-- A search registers the acceptable candidates of its batch in order, as if the others were not there. -/
theorem registers_of_gathers {world loaded : World κ μ} {search : Search} {outcome : Except LoadFault (Batch κ)}
    (gathers : search.Gathers host registry scope dependencies world outcome loaded) :
    let ran := search.run host registry scope dependencies world
    let known := ran.state.registry registry
    (∀ batch, outcome = .ok batch → ∃ found, ran.result = .ok found ∧
      found.map Action.content =
        (Registry.acceptable scope batch.origin batch.candidates).map Action.content ∧
      known = (loaded.registry registry).edits (found.map .register) ∧
      (∀ name place action, Registry.latest found name place = some action → known.get? name place = some action) ∧
      ∀ before ready, search.Gathers host registry scope dependencies before (.ok (batch.purged scope)) ready →
        (ready.registry registry).content = (loaded.registry registry).content →
        let again := search.run host registry scope dependencies before
        ∃ others, again.result = .ok others ∧ others.map Action.content = found.map Action.content ∧
          (again.state.registry registry).content = known.content) ∧
    ∀ fault, outcome = .error fault → ran.result = .ok [] ∧ ran.state.registry = loaded.registry ∧
      ∀ catalog, (world.registry registry).loader = .catalog catalog → loaded = world := by
  intro ran known
  constructor
  · rintro batch rfl
    obtain ⟨found, returned, registers⟩ := gathers.registers
    refine ⟨found, returned, registers.contents, registers.known, ?_, ?_⟩
    · intro name place action last
      rw [show known = _ from registers.known, Registry.get?_registers registers.registrable, last]
      rfl
    · intro before ready purged alike again
      obtain ⟨others, returnedToo, too⟩ := purged.registers
      obtain ⟨contents, content⟩ :=
        registers.content_congr too (Registry.acceptable_purged scope batch.origin batch.candidates) alike
      exact ⟨others, returnedToo, contents, content⟩
  · rintro fault rfl
    exact gathers.fails

end Search

/-- An action that declares no target system. -/
def Action.homeless : Action Unit := { Action.echo "maya" with descriptor := Descriptor.named "echo" }

/-- Six candidates, of which the first and the last are acceptable. -/
def Batch.mixed : Batch Unit where
  origin := some "scripts"
  candidates :=
    [.ok .homeless, .error (.unknownHandler "echo" "missing"), .ok { Action.homeless with hook := none },
      .ok { Action.homeless with descriptor := { Descriptor.named "echo" with isAbstract := true } },
      .ok { Action.homeless with descriptor := Descriptor.named "" }, .ok (.echo "blender")]

/-- Plain user code that loads the candidates of a batch, wherever it is asked to look. -/
def Host.loading (batch : Batch Unit) : Host Unit Unit :=
  { Host.plain with load := fun _ source _ _ => return .ok ⟨source.text, batch.candidates⟩ }

/-- A world in which a registry takes its modules from user code. -/
def World.loading : World Unit Unit := (World.start () fun _ => 0).setRegistry ⟨3⟩ (.empty (.custom ()))

namespace Search

/-- Out of six candidates two are registered, in the order in which they came. -/
theorem registers_of_gathers_mixed :
    let ran := run (.loading .mixed) ⟨3⟩ (some "maya") ∅ (.ofSource (.path "scripts")) .loading
    ∃ first second : Action Unit, ran.result = .ok [first, second] ∧
      first.content = (Action.homeless.adopted (some "maya") (some "scripts")).content ∧
      second.content = ((Action.echo "blender").adopted none (some "scripts")).content ∧
      (ran.state.registry ⟨3⟩).get? "echo" none = some second ∧
      (ran.state.registry ⟨3⟩).get? "echo" (some "maya") = some first := by
  dsimp only
  have gathers := @Gathers.loaded Unit Unit (.loading .mixed) ⟨3⟩ (some "maya") ∅ .loading (.path "scripts")
    ⟨"scripts", Batch.mixed.candidates⟩ _ ⟨rfl, rfl⟩
  obtain ⟨found, returned, contents, _, shown, _⟩ := (registers_of_gathers gathers).1 _ rfl
  obtain ⟨first, rest, rfl, content, contents⟩ := List.map_eq_cons_iff.mp contents
  obtain ⟨second, rest, rfl, later, contents⟩ := List.map_eq_cons_iff.mp contents
  obtain rfl := List.map_eq_nil_iff.mp contents
  have names : first.name = "echo" ∧ second.name = "echo" := ⟨congrArg Action.name content, congrArg Action.name later⟩
  have targets : first.target = some "maya" ∧ second.target = some "blender" :=
    ⟨congrArg Action.target content, congrArg Action.target later⟩
  refine ⟨first, second, returned, content, later, shown _ _ _ ?_, shown _ _ _ ?_⟩
  · simp [Registry.latest, Action.answers, names]
  · simp [Registry.latest, Action.answers, names, targets]

end Search

end Dispatch
