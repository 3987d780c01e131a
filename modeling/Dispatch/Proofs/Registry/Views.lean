import Dispatch.Manager.State
import Dispatch.Proofs.Identifier
import Dispatch.Proofs.Registry.Reachable

namespace Dispatch

/-- A table that is made of ascending entries has just their names. -/
theorem Table.keys_ofList {α : Type} {entries : List (String × α)}
    (ascending : (entries.map Prod.fst).Pairwise (· < ·)) : (ofList entries).keys = entries.map Prod.fst :=
  congrArg keys (ofList_entries ⟨entries, List.pairwise_map.mp ascending⟩)

namespace Action
variable {κ : Type} {action first second : Action κ}

/-- The name of an action that conforms is an identifier. -/
theorem name_of_conformance (conforms : action.conformance = .ok ()) :
    ∃ core, Identifier.Rules.action.normalize action.name = .ok core := by
  unfold conformance at conforms
  cases named : Identifier.Rules.action.normalize action.name with
  | error fault =>
    rw [named] at conforms
    cases conforms
  | ok core => exact ⟨core, rfl⟩

/-- So is its target system, once it is trimmed. -/
theorem target_of_conformance {target : String} (conforms : action.conformance = .ok ())
    (declared : action.target = some target) : ∃ core, Identifier.Rules.targetSystem.normalize target = .ok core := by
  obtain ⟨name, named⟩ := name_of_conformance conforms
  unfold conformance at conforms
  rw [named, declared] at conforms
  cases placed : Identifier.Rules.targetSystem.normalize target with
  | error fault =>
    simp only [placed] at conforms
    cases conforms
  | ok core => exact ⟨core, rfl⟩

theorem qualifiedName_of_some {target : String} (declared : action.target = some target) :
    action.descriptor.qualifiedName = target ++ ":" ++ action.name := by
  have declared : action.descriptor.target = some target := declared
  unfold Descriptor.qualifiedName
  rw [declared]
  rfl

theorem qualifiedName_of_none (undeclared : action.target = none) :
    action.descriptor.qualifiedName = action.name := by
  have undeclared : action.descriptor.target = none := undeclared
  unfold Descriptor.qualifiedName
  rw [undeclared]
  rfl

/-- Actions that conform are told apart by their qualified names as they are by target system and name. -/
theorem qualifiedName_inj (conforms : first.conformance = .ok ()) (conforms' : second.conformance = .ok ())
    (same : first.descriptor.qualifiedName = second.descriptor.qualifiedName) :
    first.target = second.target ∧ first.name = second.name := by
  have bare {action : Action κ} (conforms : action.conformance = .ok ()) : ':' ∉ action.name.toList := by
    obtain ⟨core, named⟩ := name_of_conformance conforms
    exact Identifier.colon_not_mem_text rfl named
  have bareTarget {action : Action κ} {target : String} (conforms : action.conformance = .ok ())
      (declared : action.target = some target) : ':' ∉ target.toList := by
    obtain ⟨core, placed⟩ := target_of_conformance conforms declared
    exact Identifier.colon_not_mem_text rfl placed
  cases declared : first.target with
  | none =>
    cases declared' : second.target with
    | none =>
      rw [qualifiedName_of_none declared, qualifiedName_of_none declared'] at same
      exact ⟨rfl, same⟩
    | some target =>
      -- The name of the first action would have a colon.
      rw [qualifiedName_of_none declared, qualifiedName_of_some declared'] at same
      exact absurd (bare conforms) (by simp [same])
  | some target =>
    cases declared' : second.target with
    | none =>
      rw [qualifiedName_of_some declared, qualifiedName_of_none declared'] at same
      exact absurd (bare conforms') (by simp [← same])
    | some target' =>
      rw [qualifiedName_of_some declared, qualifiedName_of_some declared'] at same
      obtain ⟨rfl, named⟩ := Identifier.join_colon_inj (bareTarget conforms' declared') (bare conforms') same
      exact ⟨rfl, named⟩

end Action

namespace Registry
variable {κ : Type} {registry : Registry κ}

/-- All views of a registry tell the same. -/
structure ViewsAgree (registry : Registry κ) : Prop where
  listed (scope : Scope) : registry.names scope = (registry.listings scope none).map Listing.name
  ascending (scope : Scope) : (registry.names scope).Pairwise (· < ·)
  keyed (target : String) : registry.names (some target) = (registry.under target).keys
  found (name : String) (scope : Scope) : name ∈ registry.names scope ↔ (registry.get? name scope).isSome = true
  tagged (scope : Scope) (tag : String) :
    registry.listings scope (some tag) = (registry.listings scope none).filter fun listing => tag ∈ listing.tags
  targets (target : String) : target ∈ registry.targets ↔ registry.names (some target) ≠ []
  size : registry.size = (registry.listings none none).length
  /-- Of two entries with one qualified name, in whatever scopes, target system and name are the same. -/
  qualified {scope place : Scope} {first second : Listing} (here : first ∈ registry.listings scope none)
    (there : second ∈ registry.listings place none) (same : first.qualifiedName = second.qualifiedName) :
    first.target = second.target ∧ first.name = second.name

/-- Without a tag everything is listed. -/
theorem listings_none (registry : Registry κ) (scope : Scope) :
    registry.listings scope none = (registry.inScope scope).values.map Action.listing :=
  congrArg (List.map Action.listing) (List.filter_eq_self.mpr fun _ _ => rfl)

theorem map_name_listings (registry : Registry κ) (scope : Scope) :
    (registry.listings scope none).map Listing.name = registry.names scope := by
  rw [listings_none, List.map_map]
  rfl

/-- With a tag that is listed which has it. -/
theorem listings_some (registry : Registry κ) (scope : Scope) (tag : String) :
    registry.listings scope (some tag) = (registry.listings scope none).filter fun listing => tag ∈ listing.tags := by
  have carries (action : Action κ) : action.descriptor.hasTag tag = decide (tag ∈ action.listing.tags) := by
    rw [Bool.eq_iff_iff, decide_eq_true_eq]
    exact Table.mem_keys_iff.symm
  rw [listings_none, List.filter_map]
  exact congrArg (List.map Action.listing) (List.filter_congr fun action _ => carries action)

theorem mem_listings_iff {scope : Scope} {listing : Listing} :
    listing ∈ registry.listings scope none ↔
      ∃ name action, registry.get? name scope = some action ∧ action.listing = listing := by
  simp [listings_none, Table.values, get?, ← Table.mem_entries_iff]

/-- Actions are kept under their names. -/
theorem Coherent.names_eq_keys (coherent : registry.Coherent) (scope : Scope) :
    registry.names scope = (registry.inScope scope).keys := by
  unfold names Table.values Table.keys
  rw [List.map_map]
  refine List.map_congr_left fun entry member => ?_
  exact coherent.named (Table.mem_entries_iff.mp member : registry.get? entry.1 scope = some entry.2)

/-- A target system is there as long as it has actions. -/
theorem Tidy.mem_targets_iff (tidy : registry.Tidy) {target : String} :
    target ∈ registry.targets ↔ registry.names (some target) ≠ [] := by
  have empty_iff : registry.names (some target) = [] ↔ (registry.under target).isEmpty = true := by
    simp [names, inScope, Table.values, Table.isEmpty]
  rw [targets, Table.mem_keys_iff, ne_eq, empty_iff, under]
  cases kept : registry.byTarget.get? target with
  | none => simp [Table.isEmpty, EmptyCollection.emptyCollection, Table.empty]
  | some there => simp [tidy target there kept]

/-- In a coherent registry all views tell the same. -/
theorem Coherent.viewsAgree (coherent : registry.Coherent) : registry.ViewsAgree where
  listed scope := (registry.map_name_listings scope).symm
  ascending scope := coherent.names_eq_keys scope ▸ Table.keys_ascending _
  keyed target := coherent.names_eq_keys (some target)
  found _ _ := coherent.mem_names_iff
  tagged := registry.listings_some
  targets _ := coherent.tidy.mem_targets_iff
  size := by simp [listings_none, Registry.size, Table.size, Table.values, inScope]
  qualified := by
    intro scope place first second here there same
    obtain ⟨name, action, found, rfl⟩ := mem_listings_iff.mp here
    obtain ⟨name', action', found', rfl⟩ := mem_listings_iff.mp there
    exact Action.qualifiedName_inj (coherent.registrable found).conforms (coherent.registrable found').conforms same

end Registry

namespace Manager
variable {κ μ : Type} {manager : Manager}

/-- The views of a manager name the same actions, and looking at them changes nothing. -/
structure Offers (manager : Manager) (world : World κ μ) (names : List String) : Prop where
  available : manager.available world = ⟨.ok names, world, []⟩
  adapters : ∃ adapters, manager.adapters world = ⟨.ok adapters, world, []⟩ ∧ adapters.keys = names
  described : ∃ outcome actions, manager.describe world = ⟨.ok outcome, world, []⟩ ∧
    outcome.context.get? "actions" = some (.ofTable actions) ∧ actions.keys = names ∧
    outcome.context.get? "count" = some (.ofNat names.length)

/-- A manager offers the actions of its target system. -/
theorem offers_of_viewsAgree {world : World κ μ} (agree : (world.registry manager.registry).ViewsAgree) :
    manager.Offers world ((world.registry manager.registry).names (some manager.target)) := by
  generalize known : world.registry manager.registry = registry at agree
  have ascending := agree.ascending (some manager.target)
  constructor
  case available =>
    unfold available
    rw [RegistryId.read_bind, known]
    rfl
  case adapters =>
    unfold adapters available
    rw [bind_assoc, RegistryId.read_bind, known]
    refine ⟨_, rfl, ?_⟩
    have named : (registry.names (some manager.target)).map (Prod.fst ∘ fun name => (name, Adapter.mk manager name)) =
        registry.names (some manager.target) := List.map_id _
    rw [Table.keys_ofList (by rwa [List.map_map, named]), List.map_map, named]
  case described =>
    have named : ((registry.listings (some manager.target) none).map fun listing =>
        (listing.name, listingEntry listing)).map Prod.fst = registry.names (some manager.target) := by
      rw [List.map_map]
      exact registry.map_name_listings (some manager.target)
    have keyed := Table.keys_ofList (named ▸ ascending)
    rw [named] at keyed
    unfold describe
    rw [RegistryId.read_bind, known]
    refine ⟨_, _, rfl, ?_, keyed, ?_⟩
    · simp [Outcome.withValue, Table.get?_insert]
    · have counted := congrArg List.length keyed
      simp only [Table.keys, List.length_map] at counted
      simp [Outcome.withValue, Table.size, counted]

end Manager

namespace RegistryId
variable {κ μ : Type} {host : Host κ μ} {registry : RegistryId}

/-- In every world all views of a registry tell the same, and so do those of its managers. -/
theorem views_agree (respects : host.Respects registry) {world : World κ μ} (reached : registry.Reached host world) :
    (world.registry registry).ViewsAgree ∧ ∀ manager : Manager, manager.registry = registry →
      manager.Offers world ((world.registry registry).names (some manager.target)) := by
  have agree := (reached.coherent respects).viewsAgree
  refine ⟨agree, fun manager uses => ?_⟩
  subst uses
  exact Manager.offers_of_viewsAgree agree

/-- An action of one name for Maya and, with a tag, for Blender, beside one for no target system. -/
theorem views_agree_echo :
    let tagged : Action Unit := (Action.echo "blender").derive ⟨4⟩ (·.addTag "render")
    let ping : Action Unit := (Action.echo "maya").derive ⟨5⟩ fun _ => .named "ping"
    let registered (action : Action Unit) (world : World Unit Unit) :=
      (Operation.run Host.plain ⟨3⟩ (.register action) world).state
    let world := registered ping (registered tagged (registered (Action.echo "maya") (World.start () fun _ => 0)))
    let registry := world.registry ⟨3⟩
    let manager (target : String) : Manager := { (default : Manager) with target, registry := ⟨3⟩ }
    registry.ViewsAgree ∧ (∀ target ∈ ["maya", "blender"], (manager target).Offers world ["echo"]) ∧
      registry.names none = ["echo", "ping"] ∧ registry.targets = ["blender", "maya"] ∧
      (registry.listings (some "blender") (some "render")).map Listing.qualifiedName = ["blender:echo"] ∧
      (registry.listings (some "maya") (some "render")).map Listing.qualifiedName = [] := by
  intro tagged ping registered world registry manager
  have reached : RegistryId.Reached Host.plain ⟨3⟩ world :=
    .stepped (.stepped (.stepped (.made ⟨rfl, rfl⟩) (.register (Action.echo "maya"))) (.register tagged))
      (.register ping)
  obtain ⟨agree, offers⟩ := views_agree (plain_respects ⟨3⟩) reached
  have maya : registry.names (some "maya") = ["echo"] := by decide +kernel
  have blender : registry.names (some "blender") = ["echo"] := by decide +kernel
  refine ⟨agree, ?_, by decide +kernel, by decide +kernel, by decide +kernel, by decide +kernel⟩
  simp only [List.forall_mem_cons, List.not_mem_nil, false_implies, implies_true, and_true]
  exact ⟨maya ▸ offers (manager "maya") rfl, blender ▸ offers (manager "blender") rfl⟩

end RegistryId

end Dispatch
