import Dispatch.Proofs.Call.Frame
import Dispatch.Proofs.Files
import Dispatch.Proofs.Registry.Batch

namespace Dispatch

variable {κ μ : Type}

namespace Catalog

variable {handlers : Table (Action κ)}

/-- What an entry comes to, identities aside. -/
def declared (handlers : Table (Action κ)) (entry : ManifestEntry) : Except DiscoveryFault (Action κ) :=
  match handlers.get? entry.handler with
  | none => .error (.unknownHandler entry.title entry.handler)
  | some base => .ok (base.derive default entry.amend)

/-- What a manifest of a directory comes to, identities aside. -/
def offered (handlers : Table (Action κ)) : Except LoadFault Manifest → List (Except DiscoveryFault (Action κ))
  | .ok manifest => manifest.entries.map (declared handlers)
  | .error fault => [.error (.notLoaded fault)]

/-- What there is at a path, identities aside; nothing if it cannot be loaded. -/
def stock (catalog : Catalog κ) (files : Files) (path : String) : List (Except DiscoveryFault (Action κ)) :=
  match manifests files path with
  | .ok found => found.flatMap (offered catalog.handlers)
  | .error _ => []

/-- The manifest that a name stands for in a directory at a path. -/
def manifestOf (files : Files) (path : String) (place : List String) (name : String) : Except LoadFault Manifest :=
  match files.entry? (place ++ [name]) with
  | some entry => Files.manifest (Files.joined path name) entry
  | none => .error (.pathNotFound (Files.joined path name))

theorem resolve_ends (entry : ManifestEntry) (world : World κ μ) :
    ∃ candidate, (resolve handlers entry world).result = .ok candidate ∧
      candidate.map Action.content = declared handlers entry := by
  unfold resolve declared
  cases handlers.get? entry.handler with
  | none => exact ⟨_, rfl, rfl⟩
  | some base => exact ⟨_, rfl, rfl⟩

theorem candidates_ends (manifest : Except LoadFault Manifest) (world : World κ μ) :
    ∃ candidates, (Catalog.candidates handlers manifest world).result = .ok candidates ∧
      candidates.map (Except.map Action.content) = offered handlers manifest := by
  cases manifest with
  | error fault => exact ⟨_, rfl, rfl⟩
  | ok manifest => exact Run.forEach_map resolve_ends manifest.entries world

/-- A path that can be loaded yields a module with what is in stock there. -/
theorem loadPath_ends (catalog : Catalog κ) (path : String) (world : World κ μ) :
    (∃ fault, (catalog.loadPath path world).result = .ok (.error fault) ∧ catalog.stock world.files path = []) ∨
      ∃ module : Module κ, (catalog.loadPath path world).result = .ok (.ok module) ∧
        module.candidates.map (Except.map Action.content) = catalog.stock world.files path := by
  unfold loadPath stock
  rw [Run.state_bind]
  cases manifests world.files path with
  | error fault => exact .inl ⟨fault, rfl, rfl⟩
  | ok found =>
    obtain ⟨candidates, returned, contents⟩ := Run.forEach_map candidates_ends found world
    refine .inr ⟨⟨(moduleName? found).getD path, candidates.flatten⟩, ?_, ?_⟩
    · dsimp only
      rw [Run.bind_of_ok returned]
      rfl
    · dsimp only
      rw [List.map_flatten, contents, List.flatMap_def]

/-- The manifests of a directory are those of its names. -/
theorem manifests_of_directory {files : Files} {path : String} {place : List String}
    (directory : files.find? path = some (place, .directory)) :
    manifests files path = .ok ((files.manifestNames place).map (manifestOf files path place)) := by
  unfold manifests
  rw [directory]
  rfl

/-- At a file that is no directory there is one manifest, if it can be read. -/
theorem manifests_of_file {files : Files} {path : String} {place : List String} {entry : FileEntry}
    (found : files.find? path = some (place, entry)) (file : entry ≠ .directory) :
    manifests files path = (Files.manifest path entry).map fun manifest => [.ok manifest] := by
  unfold manifests
  rw [found]
  cases entry with
  | directory => exact absurd rfl file
  | text content => rfl
  | binary => rfl

end Catalog

/-- Files and catalogs are left alone by the way. -/
theorem ordinary_sources :
    Ordinary (Run.Unchanged fun world : World κ μ => (world.files, world.catalog)) where
  record _ _ _ _ := fun _ => rfl
  now := fun _ => rfl
  freshIndex := fun _ => rfl
  registry _ _ := fun _ => rfl

namespace RegistryId

variable (registry : RegistryId)

/-- What a discovery at a path of a catalog hands back and registers is what is in stock there. -/
theorem discover_path_ends (host : Host κ μ) (path : String) (scope : Scope) (dependencies : Dependencies)
    {world : World κ μ} {id : CatalogId} (loader : (world.registry registry).loader = .catalog id) :
    let ran := registry.discover host (.path path) scope dependencies world
    ∃ found, ran.result = .ok found ∧
      found.map Action.content =
        (Registry.acceptable scope (some path) ((world.catalog id).stock world.files path)).map Action.content ∧
      ran.state.registry registry = (world.registry registry).edits (found.map .register) ∧
      ran.state.files = world.files ∧ ran.state.catalog = world.catalog := by
  have still : Run.Unchanged (fun world : World κ μ => (world.registry, world.files, world.catalog)) world
      ((world.registry registry).loader.load host (.path path) dependencies scope world).state := by
    rw [loader]
    exact (world.catalog id).loadPath_moves (fun _ _ _ => rfl) path world
  obtain ⟨registries, files, catalogs⟩ := Prod.mk.inj still |>.imp_right Prod.mk.inj
  have sources (loaded : Except LoadFault (Module κ)) :
      Run.Moves (Run.Unchanged fun world : World κ μ => (world.files, world.catalog))
        (registry.registerLoaded (.path path) scope loaded) :=
    registry.registerLoaded_moves_of ordinary_sources _ scope loaded
  have loads {loaded : Except LoadFault (Module κ)}
      (ran : ((world.catalog id).loadPath path world).result = .ok loaded) :
      ((world.registry registry).loader.load host (.path path) dependencies scope world).result = .ok loaded := by
    rw [loader]
    exact ran
  unfold discover
  rw [read_bind]
  rcases (world.catalog id).loadPath_ends path world with ⟨fault, failed, nothing⟩ | ⟨module, loaded, contents⟩
  · rw [Run.bind_of_ok (loads failed), nothing]
    refine ⟨[], rfl, rfl, congrFun registries registry, ?_⟩
    exact ⟨files, catalogs⟩
  · rw [Run.bind_of_ok (loads loaded)]
    obtain ⟨found, returned, registers⟩ := registry.registerLoaded_of_ok (.path path) scope module
      ((world.registry registry).loader.load host (.path path) dependencies scope world).state
    obtain ⟨filesToo, catalogsToo⟩ := Prod.mk.inj (sources (.ok module)
      ((world.registry registry).loader.load host (.path path) dependencies scope world).state)
    refine ⟨found, returned, ?_, ?_, filesToo.trans files, catalogsToo.trans catalogs⟩
    · rw [registers.contents, Registry.acceptable_content, contents]
      rfl
    · rw [registers.known, registries]

/-- Discoveries at paths of a catalog, one after the other, come to what is in stock at each of them. -/
theorem discover_paths_ends (host : Host κ μ) (paths : List String) (scope : Scope) (dependencies : Dependencies)
    {world : World κ μ} {id : CatalogId} (loader : (world.registry registry).loader = .catalog id) :
    let ran := Run.forEach (fun path => registry.discover host (.path path) scope dependencies) paths world
    ∃ parts, ran.result = .ok parts ∧
      parts.map (List.map Action.content) = paths.map (fun path =>
        (Registry.acceptable scope (some path) ((world.catalog id).stock world.files path)).map Action.content) ∧
      ran.state.registry registry = (world.registry registry).edits (parts.flatten.map .register) := by
  induction paths generalizing world with
  | nil => exact ⟨[], rfl, rfl, rfl⟩
  | cons path rest ih =>
    obtain ⟨found, returned, contents, known, files, catalogs⟩ :=
      registry.discover_path_ends host path scope dependencies loader
    have still : ((registry.discover host (.path path) scope dependencies world).state.registry registry).loader =
        .catalog id := by
      rw [known, Registry.loader_registers, loader]
    obtain ⟨parts, later, contentsToo, knownToo⟩ := ih still
    rw [files, catalogs] at contentsToo
    rw [known] at knownToo
    dsimp only
    rw [Run.forEach_cons, Run.bind_of_ok returned, Run.bind_of_ok later]
    refine ⟨found :: parts, rfl, List.cons_eq_cons.mpr ⟨contents, contentsToo⟩, knownToo.trans ?_⟩
    rw [List.flatten_cons, List.map_append]
    exact List.foldl_append.symm

/-- A directory in stock is its manifests in stock. -/
theorem acceptable_directory {catalog : Catalog κ} {files : Files} {path : String} {place : List String}
    (directory : files.find? path = some (place, .directory)) (scope : Scope) (origin : Option String) :
    Registry.acceptable scope origin (catalog.stock files path) =
      (files.manifestNames place).flatMap fun name =>
        Registry.acceptable scope origin
          (Catalog.offered catalog.handlers (Catalog.manifestOf files path place name)) := by
  unfold Catalog.stock
  rw [Catalog.manifests_of_directory directory]
  dsimp only
  unfold Registry.acceptable
  rw [List.flatMap_map, List.filterMap_flatMap]

/-- A manifest in a directory offers by itself what it offers there, but for a fault that nothing is registered for. -/
theorem acceptable_file {catalog : Catalog κ} {files : Files} (proper : files.Proper) {path name : String}
    {place : List String} (directory : files.find? path = some (place, .directory))
    (listed : name ∈ files.manifestNames place) (scope : Scope) (origin : Option String) :
    Registry.acceptable scope origin (catalog.stock files (Files.joined path name)) =
      Registry.acceptable scope origin
        (Catalog.offered catalog.handlers (Catalog.manifestOf files path place name)) := by
  obtain ⟨manifest, entry, there, file⟩ := proper.mem_manifestNames.mp listed
  have isName : Files.IsName name :=
    proper.named _ (proper.entry?_eq_some_iff.mp there) name (List.mem_append_right place List.mem_cons_self)
  unfold Catalog.stock Catalog.manifestOf
  rw [Catalog.manifests_of_file (Files.find?_joined directory isName manifest there) file, there]
  dsimp only
  cases Files.manifest (Files.joined path name) entry with
  | error fault => rfl
  | ok manifest =>
    change Registry.acceptable scope origin ([.ok manifest].flatMap (Catalog.offered catalog.handlers)) = _
    rw [List.flatMap_singleton]

/-- Sources aside, the manifests of a directory come to what each of them offers. -/
theorem essences_of_files {catalog : Catalog κ} {files : Files} (proper : files.Proper) {path : String}
    {place : List String} (directory : files.find? path = some (place, .directory)) {scope : Scope}
    {parts : List (List (Action κ))}
    (contents : parts.map (List.map Action.content) =
      ((files.manifestNames place).map (Files.joined path)).map fun path =>
        (Registry.acceptable scope (some path) (catalog.stock files path)).map Action.content) :
    parts.map (List.map Action.essence) = (files.manifestNames place).map fun name =>
      (Registry.acceptable scope none
        (Catalog.offered catalog.handlers (Catalog.manifestOf files path place name))).map Action.essence := by
  have seen := congrArg (List.map (List.map Action.essence)) contents
  rw [List.map_map, List.map_map, List.map_map] at seen
  simp only [Function.comp_def, Action.map_essence_content] at seen
  rw [seen]
  refine List.map_congr_left fun name listed => ?_
  rw [Registry.acceptable_essence scope _ none, acceptable_file proper directory listed]

/-- To discover a directory is to discover the manifests in it one after the other, in ascending order of names. -/
theorem directory_file_by_file (host : Host κ μ) {registry : RegistryId} {world : World κ μ} {id : CatalogId}
    {path : String} {place : List String} (loader : (world.registry registry).loader = .catalog id)
    (proper : world.files.Proper) (directory : world.files.find? path = some (place, .directory)) (scope : Scope)
    (dependencies : Dependencies) :
    let names := world.files.manifestNames place
    let discovers (path : String) := registry.discover host (.path path) scope dependencies
    let whole := discovers path world
    let single := Run.forEach discovers (names.map (Files.joined path)) world
    (names.Pairwise (· < ·) ∧ ∀ name, name ∈ names ↔ Files.isManifestName name ∧
      ∃ entry, world.files.entry? (place ++ [name]) = some entry ∧ entry ≠ .directory) ∧
    ∃ found parts, whole.result = .ok found ∧ single.result = .ok parts ∧
      found.map Action.essence = parts.flatten.map Action.essence ∧
      (whole.state.registry registry).essence = (single.state.registry registry).essence ∧
      List.Forall₂ (fun name part =>
        match Catalog.manifestOf world.files path place name with
        | .ok manifest => part.map Action.essence = (Registry.acceptable scope none
            (manifest.entries.map (Catalog.declared (world.catalog id).handlers))).map Action.essence
        | .error _ => part = []) names parts := by
  intro names discovers whole single
  refine ⟨⟨Files.manifestNames_ascending _ _, fun name => proper.mem_manifestNames⟩, ?_⟩
  obtain ⟨found, returned, contents, known, _⟩ :=
    registry.discover_path_ends host path scope dependencies loader
  obtain ⟨parts, returnedToo, contentsToo, knownToo⟩ :=
    registry.discover_paths_ends host (names.map (Files.joined path)) scope dependencies loader
  let offers (name : String) := Registry.acceptable scope none
    (Catalog.offered (world.catalog id).handlers (Catalog.manifestOf world.files path place name))
  have essence : found.map Action.essence = (names.flatMap offers).map Action.essence := by
    rw [Action.essences_of_contents contents, Registry.acceptable_essence scope (some path) none,
      acceptable_directory directory]
  have essences : parts.map (List.map Action.essence) = names.map fun name => (offers name).map Action.essence :=
    essences_of_files proper directory contentsToo
  have together : found.map Action.essence = parts.flatten.map Action.essence := by
    rw [essence, List.map_flatten, essences, List.map_flatMap, List.flatMap_def]
  refine ⟨found, parts, returned, returnedToo, together, ?_, ?_⟩
  · rw [show whole.state.registry registry = _ from known, show single.state.registry registry = _ from knownToo,
      Registry.essence_registers, Registry.essence_registers, together]
  · rw [← List.forall₂_eq_eq_eq, List.forall₂_map_left_iff, List.forall₂_map_right_iff] at essences
    refine essences.flip.imp ?_
    intro name part alone
    unfold offers at alone
    cases read : Catalog.manifestOf world.files path place name with
    | error fault =>
      rw [read] at alone
      exact List.map_eq_nil_iff.mp alone
    | ok manifest =>
      rw [read] at alone
      exact alone

end RegistryId

/-- A directory with a manifest. -/
def Files.spotless : Files :=
  ⟨[(["work", "scripts", "b.json"], .text "\x7b\"actions\":[\x7b\"handler\":\"echo\"\x7d]\x7d"),
    (["work", "scripts"], .directory), ([], .directory), (["work"], .directory)]⟩

/-- Beside the manifest there is a file that looks like one and is no text. -/
def Files.blemished : Files := spotless.put ["work", "scripts", "a.json"] .binary

theorem Files.blemished_made : blemished.Made := by
  have first : empty.write "scripts/b.json" (.text "\x7b\"actions\":[\x7b\"handler\":\"echo\"\x7d]\x7d") =
      some spotless := rfl
  have second : spotless.write "scripts/a.json" .binary = some blemished := rfl
  exact .written (.written .empty (by decide) first) (by decide) second

/-- A world in which a registry takes its modules from a catalog with one handler. -/
def World.stocked : World Unit Unit :=
  let catalog : Catalog Unit := ⟨∅, Table.empty.insert "echo" (.echo "maya")⟩
  { ((World.start () fun _ => 0).setRegistry ⟨3⟩ (.empty (.catalog ⟨4⟩))).setCatalog ⟨4⟩ catalog with
    files := .blemished }

namespace RegistryId

/-- The broken manifest costs the other one nothing. -/
theorem directory_file_by_file_blemished :
    let discovers (path : String) := (RegistryId.mk 3).discover Host.plain (.path path) none ∅
    let whole := discovers "scripts" World.stocked
    let single := Run.forEach discovers ["scripts/a.json", "scripts/b.json"] World.stocked
    ∃ action, whole.result = .ok [action] ∧ action.essence = (Action.echo "maya").essence ∧
      (whole.state.registry ⟨3⟩).essence = (single.state.registry ⟨3⟩).essence := by
  intro discovers whole single
  have loader : (World.stocked.registry ⟨3⟩).loader = .catalog ⟨4⟩ := rfl
  have directory : World.stocked.files.find? "scripts" = some (["work", "scripts"], .directory) := rfl
  have listed : World.stocked.files.manifestNames ["work", "scripts"] = ["a.json", "b.json"] :=
    List.mergeSort_of_pairwise (l := ["a.json", "b.json"]) (by decide)
  have paths : ["a.json", "b.json"].map (Files.joined "scripts") = ["scripts/a.json", "scripts/b.json"] := by decide
  have there : World.stocked.files.entry? (["work", "scripts"] ++ ["b.json"]) =
      some (.text "\x7b\"actions\":[\x7b\"handler\":\"echo\"\x7d]\x7d") := rfl
  have parsed : Manifest.parse "\x7b\"actions\":[\x7b\"handler\":\"echo\"\x7d]\x7d" =
      .ok ⟨none, [⟨"echo", none, none, none, none, [], none, none⟩]⟩ := by decide +kernel
  have readable : Catalog.manifestOf World.stocked.files "scripts" ["work", "scripts"] "b.json" =
      .ok ⟨none, [⟨"echo", none, none, none, none, [], none, none⟩]⟩ := by
    unfold Catalog.manifestOf
    rw [there]
    dsimp only [Files.manifest]
    rw [parsed]
  obtain ⟨_, found, parts, returned, _, together, known, apart⟩ :=
    directory_file_by_file Host.plain loader Files.blemished_made.proper directory none ∅
  rw [listed] at known apart
  rw [paths] at known
  obtain _ | @⟨_, first, _, _, broken, _ | @⟨_, second, _, _, alone, ⟨⟩⟩⟩ := apart
  rw [readable] at alone
  have nothing : first = [] := broken
  have one : second.map Action.essence = [(Action.echo "maya").essence] := alone
  rw [nothing, List.flatten_cons, List.flatten_cons, List.flatten_nil, List.nil_append, List.append_nil,
    one] at together
  obtain ⟨action, rfl, essence⟩ := List.map_eq_singleton_iff.mp together
  exact ⟨action, returned, essence, known⟩

end RegistryId

end Dispatch
