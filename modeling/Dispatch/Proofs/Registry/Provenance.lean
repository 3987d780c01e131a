import Dispatch.Proofs.Discovery

namespace Dispatch

variable {κ μ : Type}

/-- An action is what an entry of a manifest makes of a handler, under the target system that was asked for. -/
def Action.DescendsFrom (action base : Action κ) (entry : ManifestEntry) (path : String) (scope : Scope) : Prop :=
  ∃ id, action = base.derive id fun descriptor =>
    { entry.amend descriptor with target := (entry.target.or descriptor.target).or scope, source := some path }

/-- A target system that the entry declares is the action's. -/
theorem Action.DescendsFrom.target {action base : Action κ} {entry : ManifestEntry} {path : String} {scope : Scope}
    (descends : action.DescendsFrom base entry path scope) {target : String} (declares : entry.target = some target) :
    action.target = some target := by
  obtain ⟨id, rfl⟩ := descends
  simp [Action.target, Action.derive, declares]

namespace Catalog

/-- An entry stands in a manifest at a path. -/
def Lists (files : Files) (path : String) (entry : ManifestEntry) : Prop :=
  ∃ found manifest, manifests files path = .ok found ∧ .ok manifest ∈ found ∧ entry ∈ manifest.entries

/-- An entry makes an action from a handler that is known. -/
def Makes (handlers : Table (Action κ)) (entry : ManifestEntry) (action : Action κ) : Prop :=
  ∃ base id, handlers.get? entry.handler = some base ∧ action = base.derive id entry.amend

variable {handlers : Table (Action κ)}

theorem resolve_yields (entry : ManifestEntry) :
    Run.Yields (fun candidate => ∀ action, .ok action = candidate → Makes handlers entry action)
      (resolve handlers entry : Act κ μ _) := by
  unfold resolve
  split
  · exact Run.yields_pure fun action impossible => by cases impossible
  · rename_i base known
    intro world candidate returned action same
    cases returned
    cases same
    exact ⟨base, _, known, rfl⟩

theorem candidates_yields (manifest : Except LoadFault Manifest) :
    Run.Yields (fun offered => ∀ action, .ok action ∈ offered →
        ∃ read entry, manifest = .ok read ∧ entry ∈ read.entries ∧ Makes handlers entry action)
      (candidates handlers manifest : Act κ μ _) := by
  cases manifest with
  | error fault =>
    refine Run.yields_pure fun action offered => ?_
    cases List.mem_singleton.mp offered
  | ok manifest =>
    intro world offered returned action member
    obtain ⟨entry, among, made⟩ :=
      Run.yields_forEach resolve_yields manifest.entries world offered returned _ member
    exact ⟨manifest, entry, rfl, among, made action rfl⟩

/-- The candidates at a path are made from the entries of its manifests. -/
theorem makes_of_loaded {catalog : Catalog κ} {path : String} {world : World κ μ} {module : Module κ}
    (loaded : (catalog.loadPath path world).result = .ok (.ok module)) {action : Action κ}
    (offered : .ok action ∈ module.candidates) :
    ∃ entry, Lists world.files path entry ∧ Makes catalog.handlers entry action := by
  unfold loadPath at loaded
  rw [Run.state_bind] at loaded
  cases listed : manifests world.files path with
  | error fault =>
    rw [listed] at loaded
    cases loaded
  | ok found =>
    rw [listed] at loaded
    obtain ⟨offers, ran, made⟩ := Run.bind_returns_iff.mp loaded
    cases made
    obtain ⟨offer, given, among⟩ := List.mem_flatten.mp offered
    obtain ⟨_, there, makes⟩ := Run.yields_forEach candidates_yields found world offers ran offer given
    obtain ⟨manifest, entry, rfl, member, made⟩ := makes action among
    exact ⟨entry, ⟨found, manifest, listed, there, member⟩, made⟩

end Catalog

namespace RegistryId

/-- A candidate keeps the target system that it declares. -/
theorem targeted_yields (scope : Scope) (action : Action κ) :
    Run.Yields (fun placed => ∃ id, placed = action.derive id fun descriptor =>
        { descriptor with target := descriptor.target.or scope })
      (targeted scope action : Act κ μ (Action κ)) := by
  have unchanged (same : action.descriptor.target.or scope = action.descriptor.target) :
      action = action.derive action.id fun descriptor => { descriptor with target := descriptor.target.or scope } := by
    simp only [Action.derive, same]
  unfold targeted Action.target
  cases scope with
  | none => exact Run.yields_pure ⟨action.id, unchanged Option.or_none⟩
  | some target =>
    cases declared : action.descriptor.target with
    | some own => exact Run.yields_pure ⟨action.id, unchanged (by rw [declared]; rfl)⟩
    | none =>
      intro world placed returned
      cases returned
      refine ⟨⟨world.fresh⟩, ?_⟩
      simp only [Action.derive, declared, Option.none_or]

variable (registry : RegistryId)

/-- An action that is handed back is its candidate, placed and marked. -/
theorem registerCandidate_yields (scope : Scope) (origin : String) (candidate : Except DiscoveryFault (Action κ)) :
    Run.Yields (fun handed => ∀ action, some action = handed → ∃ base id, .ok base = candidate ∧
        action = base.derive id fun descriptor =>
          { descriptor with target := descriptor.target.or scope, source := some origin })
      (registry.registerCandidate scope (some origin) candidate : Act κ μ _) := by
  cases candidate with
  | error fault => exact Run.yields_bind fun _ => Run.yields_pure fun action impossible => by cases impossible
  | ok base =>
    refine (targeted_yields scope base).bind ?_
    rintro _ ⟨id, rfl⟩ world handed returned action same
    obtain ⟨marked, marks, returned⟩ := Run.bind_returns_iff.mp returned
    cases marks
    obtain ⟨answer, _, ended⟩ := Run.bind_returns_iff.mp returned
    subst same
    rcases answer with rejection | (_ | _)
    · cases ended
    · cases ended
    · cases ended
      exact ⟨base, _, rfl, rfl⟩

/-- Every action that a discovery at a path of a catalog hands back descends from an entry of a manifest there. -/
theorem discover_descends {host : Host κ μ} {path : String} {scope : Scope} {dependencies : Dependencies}
    {world : World κ μ} {id : CatalogId} (loader : (world.registry registry).loader = .catalog id)
    {found : List (Action κ)}
    (returned : (registry.discover host (.path path) scope dependencies world).result = .ok found) :
    ∀ action ∈ found, ∃ entry base, Catalog.Lists world.files path entry ∧
      (world.catalog id).handlers.get? entry.handler = some base ∧ action.DescendsFrom base entry path scope := by
  intro action member
  unfold discover at returned
  obtain ⟨known, read, returned⟩ := Run.bind_returns_iff.mp returned
  cases read
  obtain ⟨module?, loaded, returned⟩ := Run.bind_returns_iff.mp returned
  cases module? with
  | error fault =>
    cases returned
    cases member
  | ok module =>
    rw [loader] at loaded
    have loaded : ((world.catalog id).loadPath path world).result = .ok (.ok module) := loaded
    unfold registerLoaded registerAll at returned
    obtain ⟨_, _, returned⟩ := Run.bind_returns_iff.mp returned
    obtain ⟨handed, registered, returned⟩ := Run.bind_returns_iff.mp returned
    obtain ⟨_, _, returned⟩ := Run.bind_returns_iff.mp returned
    cases returned
    obtain ⟨_, kept, rfl⟩ := List.mem_filterMap.mp member
    obtain ⟨candidate, offered, comes⟩ := Run.yields_forEach (registry.registerCandidate_yields scope path)
      module.candidates _ handed registered _ kept
    obtain ⟨placed, marked, rfl, rfl⟩ := comes action rfl
    obtain ⟨entry, listed, base, made, handled, rfl⟩ := Catalog.makes_of_loaded loaded offered
    exact ⟨entry, base, listed, handled, marked, rfl⟩

end RegistryId

end Dispatch
