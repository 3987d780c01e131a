import Dispatch.Proofs.World
import Dispatch.Registry.Discovery

namespace Dispatch

variable {κ μ : Type}

namespace Catalog

theorem resolve_silent (handlers : Table (Action κ)) (entry : ManifestEntry) :
    Run.Silent (resolve handlers entry : Act κ μ _) := by
  unfold resolve
  split
  · exact Run.silent_pure _
  · exact (Act.derive_silent _ _).bind fun _ => Run.silent_pure _

theorem candidates_silent (handlers : Table (Action κ)) (manifest : Except LoadFault Manifest) :
    Run.Silent (candidates handlers manifest : Act κ μ _) := by
  cases manifest with
  | error fault => exact Run.silent_pure _
  | ok manifest => exact Run.Silent.forEach (resolve_silent handlers) _

/-- A path is read from files, without any user code. -/
theorem loadPath_silent (catalog : Catalog κ) (path : String) :
    Run.Silent (catalog.loadPath path : Act κ μ _) := by
  refine Run.silent_state.bind fun world => ?_
  split
  · exact Run.silent_pure _
  · exact (Run.Silent.forEach (candidates_silent catalog.handlers) _).bind fun _ => Run.silent_pure _

theorem loadPackage_notes {kind : Step κ → Prop} (host : Host κ μ) (catalog : Catalog κ) (name : String)
    (dependencies : Dependencies) (scope : Scope) :
    Run.Notes kind (catalog.loadPackage host name dependencies scope) := by
  unfold loadPackage
  split
  · exact Run.notes_pure _
  · exact (Run.notes_foreign _).bind fun _ => Run.notes_pure _

/-- Reading the manifests at a path derives actions and does nothing else. -/
theorem loadPath_moves {relation : World κ μ → World κ μ → Prop} [Run.Lasting relation]
    (derives : ∀ action edit, Run.Moves relation (Act.derive action edit : Act κ μ (Action κ)))
    (catalog : Catalog κ) (path : String) : Run.Moves relation (catalog.loadPath path : Act κ μ _) := by
  have resolves (entry : ManifestEntry) : Run.Moves relation (resolve catalog.handlers entry : Act κ μ _) := by
    unfold resolve
    split
    · exact Run.moves_pure _
    · exact (derives _ _).bind fun _ => Run.moves_pure _
  have reads (manifest : Except LoadFault Manifest) :
      Run.Moves relation (candidates catalog.handlers manifest : Act κ μ _) := by
    cases manifest with
    | error fault => exact Run.moves_pure _
    | ok manifest => exact Run.Moves.forEach resolves manifest.entries
  refine Run.moves_state.bind fun world => ?_
  split
  · exact Run.moves_pure _
  · exact (Run.Moves.forEach reads _).bind fun _ => Run.moves_pure _

end Catalog

/-- A catalog that is looked at is as it is. -/
@[simp] theorem CatalogId.read_bind {α : Type} (catalog : CatalogId) (next : Catalog κ → Act κ μ α)
    (world : World κ μ) : (catalog.read >>= next) world = next (world.catalog catalog) world := rfl

theorem CatalogId.read_silent (catalog : CatalogId) : Run.Silent (catalog.read : Act κ μ (Catalog κ)) :=
  Run.silent_state.bind fun _ => Run.silent_pure _

namespace Loader

/-- Only user code can panic while the module of a path is loaded. -/
theorem load_path_panics_iff (host : Host κ μ) (loader : Loader κ) (path : String) (dependencies : Dependencies)
    (scope : Scope) (world : World κ μ) (panic : Panic) :
    (loader.load host (.path path) dependencies scope world).result = .error panic ↔
      ∃ code, loader = .custom code ∧
        (host.load code (.path path) dependencies scope world).result = .error panic := by
  cases loader with
  | custom code =>
    constructor
    · intro panicked
      exact ⟨code, rfl, panicked⟩
    · rintro ⟨other, same, panicked⟩
      cases same
      exact panicked
  | catalog id =>
    have returns : Run.Returns ((Loader.catalog id : Loader κ).load host (.path path) dependencies scope) :=
      (Run.returns_note _).bind fun _ =>
        (id.read_silent.bind fun catalog => catalog.loadPath_silent path).returns
    constructor
    · intro panicked
      exact absurd panicked returns.not_panic
    · rintro ⟨code, same, _⟩
      cases same

/-- Loading is one step; what user code does for it is its own. -/
theorem load_notes (host : Host κ μ) (loader : Loader κ) (source : Source) (dependencies : Dependencies)
    (scope : Scope) :
    Run.Notes (fun step => ∃ other, step = .loading other) (loader.load host source dependencies scope) := by
  refine (Run.notes_note ⟨source, rfl⟩).bind fun _ => ?_
  cases loader with
  | custom code => exact Run.notes_foreign _
  | catalog id =>
    refine id.read_silent.notes.bind fun catalog => ?_
    cases source with
    | package name => exact catalog.loadPackage_notes host name dependencies scope
    | path location => exact (catalog.loadPath_silent location).notes

/-- Besides what user code does for it, loading a module derives actions. -/
theorem load_moves {relation : World κ μ → World κ μ → Prop} [Run.Lasting relation] {host : Host κ μ} {source : Source}
    {dependencies : Dependencies} {scope : Scope}
    (derives : ∀ action edit, Run.Moves relation (Act.derive action edit : Act κ μ (Action κ)))
    (loads : ∀ code, Run.Moves relation (host.load code source dependencies scope))
    (enters : ∀ name, source = .package name → ∀ code, Run.Moves relation (host.enter code dependencies scope))
    (loader : Loader κ) : Run.Moves relation (loader.load host source dependencies scope) := by
  refine (Run.moves_note _).bind fun _ => ?_
  cases loader with
  | custom code => exact (loads code).foreign
  | catalog id =>
    refine (Run.moves_state.bind fun _ => Run.moves_pure _).bind fun catalog => ?_
    cases source with
    | path location => exact catalog.loadPath_moves derives location
    | package name =>
      change Run.Moves relation (catalog.loadPackage host name dependencies scope)
      unfold Catalog.loadPackage
      split
      · exact Run.moves_pure _
      · exact (enters name rfl _).foreign.bind fun _ => Run.moves_pure _

/-- A catalog that has no module for a source leaves everything as it is. -/
theorem state_of_catalog_failed {host : Host κ μ} {catalog : CatalogId} {source : Source} {dependencies : Dependencies}
    {scope : Scope} {world : World κ μ} {fault : LoadFault}
    (failed : ((Loader.catalog catalog : Loader κ).load host source dependencies scope world).result =
      .ok (.error fault)) :
    ((Loader.catalog catalog : Loader κ).load host source dependencies scope world).state = world := by
  unfold load at failed ⊢
  rw [Run.note_bind] at failed ⊢
  dsimp only at failed ⊢
  rw [CatalogId.read_bind] at failed ⊢
  cases source with
  | package name =>
    change ((world.catalog catalog).loadPackage host name dependencies scope world).result = _ at failed
    change ((world.catalog catalog).loadPackage host name dependencies scope world).state = _
    unfold Catalog.loadPackage at failed ⊢
    cases known : (world.catalog catalog).packages.get? name with
    | none => rfl
    | some entryPoint =>
      rw [known] at failed
      obtain ⟨entered, _, returned⟩ := Run.bind_returns_iff.mp failed
      cases returned
  | path location =>
    change ((world.catalog catalog).loadPath location world).result = _ at failed
    change ((world.catalog catalog).loadPath location world).state = _
    unfold Catalog.loadPath at failed ⊢
    rw [Run.state_bind] at failed ⊢
    cases read : Catalog.manifests world.files location with
    | error fault => rfl
    | ok manifests =>
      rw [read] at failed
      obtain ⟨found, _, returned⟩ := Run.bind_returns_iff.mp failed
      cases returned

end Loader

namespace RegistryId

variable (registry : RegistryId)

/-- A registry that is looked at is as it is. -/
@[simp] theorem read_bind {α : Type} (next : Registry κ → Act κ μ α) (world : World κ μ) :
    (registry.read >>= next) world = next (world.registry registry) world := rfl

theorem read_silent : Run.Silent (registry.read : Act κ μ (Registry κ)) :=
  Run.silent_state.bind fun _ => Run.silent_pure _

theorem recordAdmission_silent (action : Action κ) (admission : Admission) :
    Run.Silent (recordAdmission action admission : Act κ μ Unit) := by
  cases admission <;> exact Act.record_silent _ _ _

theorem register_silent (action : Action κ) : Run.Silent (registry.register action : Act κ μ _) := by
  refine registry.read_silent.bind fun found => ?_
  split
  · exact Run.silent_pure _
  · exact (Run.silent_update _).bind fun _ =>
      (recordAdmission_silent action _).bind fun _ => Run.silent_pure _

theorem targeted_silent (scope : Scope) (action : Action κ) :
    Run.Silent (targeted scope action : Act κ μ (Action κ)) := by
  unfold targeted
  split
  · exact Act.derive_silent _ _
  · exact Run.silent_pure _

theorem originated_silent (origin : Option String) (action : Action κ) :
    Run.Silent (originated origin action : Act κ μ (Action κ)) := by
  unfold originated
  split
  · exact Act.derive_silent _ _
  · exact Run.silent_pure _

/-- Whatever is wrong with a candidate goes into the log. -/
theorem registerCandidate_silent (scope : Scope) (origin : Option String)
    (candidate : Except DiscoveryFault (Action κ)) :
    Run.Silent (registry.registerCandidate scope origin candidate : Act κ μ _) := by
  cases candidate with
  | error fault => exact (Act.record_silent _ _ _).bind fun _ => Run.silent_pure _
  | ok action =>
    refine (targeted_silent scope action).bind fun targeted => ?_
    refine (originated_silent origin targeted).bind fun originated => ?_
    refine (registry.register_silent originated).bind fun registered => ?_
    rcases registered with rejection | (_ | _)
    · exact (Act.record_silent _ _ _).bind fun _ => Run.silent_pure _
    · exact Run.silent_pure _
    · exact Run.silent_pure _

/-- What was loaded is registered without a panic and without a step. -/
theorem registerLoaded_silent (source : Source) (scope : Scope) (loaded : Except LoadFault (Module κ)) :
    Run.Silent (registry.registerLoaded source scope loaded : Act κ μ _) := by
  cases loaded with
  | error fault => exact (Act.record_silent _ _ _).bind fun _ => Run.silent_pure _
  | ok loaded =>
    refine (Act.record_silent _ _ _).bind fun _ => ?_
    exact (Run.Silent.forEach (registry.registerCandidate_silent scope _) loaded.candidates).bind fun _ =>
      (Act.record_silent _ _ _).bind fun _ => Run.silent_pure _

/-- The only step of a discovery is that it asks for the module. -/
theorem discover_notes (host : Host κ μ) (source : Source) (scope : Scope) (dependencies : Dependencies) :
    Run.Notes (fun step => ∃ other, step = .loading other)
      (registry.discover host source scope dependencies) :=
  registry.read_silent.notes.bind fun _ =>
    (Loader.load_notes host _ source dependencies scope).bind fun loaded =>
      (registry.registerLoaded_silent source scope loaded).notes

/-- A discovery panics just when its module's loading does. -/
theorem discover_panics_iff (host : Host κ μ) (source : Source) (scope : Scope) (dependencies : Dependencies)
    (world : World κ μ) (panic : Panic) :
    (registry.discover host source scope dependencies world).result = .error panic ↔
      ((world.registry registry).loader.load host source dependencies scope world).result = .error panic := by
  unfold discover
  rw [read_bind]
  exact Run.bind_panics_iff_of_returns fun loaded => (registry.registerLoaded_silent source scope loaded).returns

end RegistryId

end Dispatch
