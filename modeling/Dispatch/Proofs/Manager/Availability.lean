import Dispatch.Manager.Call
import Dispatch.Proofs.Call.Escape
import Dispatch.Proofs.Identifier
import Dispatch.Proofs.Registry.Provenance
import Dispatch.Proofs.Registry.Reachable

namespace Dispatch

variable {κ μ : Type}

namespace Manager

/-- A manager goes by the trimmed target system, and by its settings otherwise. -/
theorem create_ok {target name : String} {settings : Settings} {registry : RegistryId}
    (uses : settings.registry = some registry) {world : World κ μ} {manager : Manager}
    (created : (Manager.create target name settings world).result = .ok (.ok manager)) :
    manager.target = Text.trim target ∧ manager.registry = registry ∧
      manager.autoRefresh = settings.autoRefresh ∧ manager.scopeFallback = settings.scopeFallback := by
  unfold create identifiers identifier at created
  cases admitted : Identifier.Rules.targetSystem.normalize target with
  | error fault =>
    rw [admitted] at created
    cases created
  | ok core =>
    rw [admitted] at created
    cases named : Identifier.Rules.manager.normalize name with
    | error fault =>
      rw [named] at created
      cases created
    | ok title =>
      rw [named] at created
      obtain ⟨made, ended, same⟩ := Run.bind_returns_iff.mp created
      cases same
      unfold make at ended
      rw [uses] at ended
      cases ended
      exact ⟨Identifier.normalize_ok admitted, rfl, rfl, rfl⟩

variable {host : Host κ μ} {manager : Manager} {channel : Channel}

/-- A manager that does not refresh itself does nothing before a call. -/
theorem refreshIfDue_idle (settled : manager.autoRefresh = false) (world : World κ μ) :
    manager.refreshIfDue host channel world = ⟨.ok (), world, []⟩ := by
  unfold refreshIfDue isDue
  rw [settled]
  rfl

/-- A manager that does not fall back resolves names under its own target system. -/
theorem resolve_strict (strict : manager.scopeFallback = false) (name : String) (world : World κ μ) :
    manager.resolve name world =
      ⟨.ok ((world.registry manager.registry).get? name (some manager.target)), world, []⟩ := by
  unfold resolve
  rw [RegistryId.read_bind]
  cases (world.registry manager.registry).get? name (some manager.target) with
  | some action => rfl
  | none =>
    rw [strict]
    rfl

/-- Such a manager finds what is kept under its target system. -/
theorem finds_iff (settled : manager.autoRefresh = false) (strict : manager.scopeFallback = false)
    {name : String} {world : World κ μ} {action : Action κ} :
    (∃ found, manager.Finds host channel name world action found) ↔
      (world.registry manager.registry).get? name (some manager.target) = some action := by
  constructor
  · rintro ⟨found, refreshed, ⟨_, rfl⟩, ⟨resolved, _⟩⟩
    rw [refreshIfDue_idle settled, resolve_strict strict] at resolved
    exact Except.ok.inj resolved
  · intro kept
    refine ⟨world, world, ⟨?_, ?_⟩, ⟨?_, ?_⟩⟩
    · rw [refreshIfDue_idle settled]
    · rw [refreshIfDue_idle settled]
    · rw [resolve_strict strict, kept]
    · rw [resolve_strict strict]

/-- An action comes into a registry by its registration, or by the entry of a manifest that it descends from. -/
inductive Enters (host : Host κ μ) (registry : RegistryId) (action : Action κ) (target : String)
    (world : World κ μ) : World κ μ → Prop
  | registered (declares : action.target = some target)
      (accepted : (registry.register action world).result = .ok (.ok true)) :
      Enters host registry action target world (registry.register action world).state
  | discovered {path : String} {scope : Scope} {dependencies : Dependencies} {front back : List (Action κ)}
      {entry : ManifestEntry} {base : Action κ}
      (declares : entry.target = some target)
      (descends : action.DescendsFrom base entry path scope)
      (found : (registry.discover host (.path path) scope dependencies world).result =
        .ok (front ++ action :: back))
      (spared : ∀ other ∈ back, ¬(other.target = some target ∧ action.name = other.name)) :
      Enters host registry action target world (registry.discover host (.path path) scope dependencies world).state

/-- A manager for the target system of an action that has entered its registry and was not edited since. -/
inductive Serves (host : Host κ μ) (manager : Manager) (action : Action κ) (target : String) : World κ μ → Prop
  | intro {registry : RegistryId} {world entered elsewhere later : World κ μ} {list : List (Registry.Edit κ)}
      {name : String} {settings : Settings}
      (reached : registry.Reached host world)
      (enters : Enters host registry action target world entered)
      (edited : later.registry registry = (entered.registry registry).edits list)
      (spares : Registry.Spares action.name target (entered.registry registry) list)
      (uses : settings.registry = some registry)
      (settled : settings.autoRefresh = false)
      (strict : settings.scopeFallback = false)
      (created : (Manager.create target name settings elsewhere).result = .ok (.ok manager)) :
      Serves host manager action target later

/-- What enters a registry is kept under the target system that it declares. -/
theorem Enters.kept {registry : RegistryId} {action : Action κ} {target : String} {world entered : World κ μ}
    (enters : Enters host registry action target world entered) :
    action.target = some target ∧ (entered.registry registry).get? action.name (some target) = some action := by
  cases enters with
  | registered declares accepted =>
    refine ⟨declares, ?_⟩
    rcases registry.register_ends action world with ⟨_, _, known⟩ | ⟨⟨refusal, refused, returned⟩, _⟩
    · rw [known, Registry.get?_insert_some, if_pos ⟨declares, rfl⟩]
    · rw [returned] at accepted
      exact absurd (Except.ok.inj accepted) refused
  | @discovered path scope dependencies front back entry base declares descends found spared =>
    have declared : action.target = some target := descends.target declares
    obtain ⟨registrable, loaded, known⟩ := registry.discover_ends found
    refine ⟨declared, ?_⟩
    have split : (loaded.registry registry).edits ((front ++ action :: back).map .register) =
        (((loaded.registry registry).edits (front.map .register)).edit (.register action)).edits
          (back.map .register) := by
      rw [List.map_append]
      exact List.foldl_append
    rw [known, split, Registry.get?_edits_of_spares (Registry.spares_of_registers spared),
      Registry.edit_register_of_registrable (registrable action (by simp)), Registry.get?_insert_some,
      if_pos ⟨declared, rfl⟩]

/-- Entering a registry edits it. -/
theorem Enters.develops {registry : RegistryId} (respects : host.Respects registry) {action : Action κ}
    {target : String} {world entered : World κ μ} (enters : Enters host registry action target world entered) :
    registry.Develops world entered := by
  cases enters with
  | registered declares accepted => exact RegistryId.register_moves action world
  | discovered declares descends found spared => exact RegistryId.discover_moves respects _ _ _ world

/-- The manager of its target system serves an action just when there is nothing to trim from what it declares. -/
theorem serves_iff_trimmed (respects : host.Respects manager.registry) {action : Action κ} {target : String}
    {later : World κ μ} (serves : Serves host manager action target later) :
    (((∃ listed, (manager.available later).result = .ok listed ∧ action.name ∈ listed) ∧
          ∃ found, manager.Finds host channel action.name later action found) ↔ Text.trim target = target) ∧
      (Text.trim target = target → ∀ own params,
        manager.call host channel action.name own params later =
          manager.callAction host channel action.name own params action later) := by
  obtain @⟨registry, world, entered, elsewhere, _, list, name, settings, reached, enters, edited, spares, uses,
    settled, strict, created⟩ := serves
  obtain ⟨trims, here, refreshes, falls⟩ := create_ok uses created
  rw [settled] at refreshes
  rw [strict] at falls
  rw [here] at respects
  obtain ⟨declared, kept⟩ := enters.kept
  have still : (later.registry registry).get? action.name (some target) = some action := by
    rw [edited, Registry.get?_edits_of_spares spares, kept]
  have coherent : (later.registry registry).Coherent :=
    ((reached.meanwhile (enters.develops respects)).meanwhile ⟨list, edited⟩).coherent respects
  rw [finds_iff refreshes falls, here]
  refine ⟨⟨?_, ?_⟩, ?_⟩
  · rintro ⟨_, found⟩
    have placed := declared.symm.trans (coherent.placed found)
    rw [← trims]
    exact (Option.some.inj placed).symm
  · intro trimmed
    rw [trims, trimmed]
    refine ⟨⟨_, rfl, ?_⟩, still⟩
    rw [here, trims, trimmed]
    exact Registry.mem_names_of_get? still
  · intro trimmed own params
    unfold call
    rw [Run.bind_apply_ok (refreshIfDue_idle refreshes later), Run.bind_apply_ok (resolve_strict falls _ later), here,
      trims, trimmed, still]
    rfl

end Manager

/-- A registry of its own, and neither refreshes nor a fallback. -/
def Settings.modest (registry : RegistryId) : Settings :=
  { Settings.standard with autoRefresh := false, registry := some registry }

namespace Manager

/-- As soon as it is registered an action is served by the manager of its target system. -/
theorem serves_echo {target : String} {manager : Manager}
    (accepted : ((RegistryId.mk 3).register (Action.echo target) (World.start () fun _ => 0)).result = .ok (.ok true))
    (created : (Manager.create target "studio" (.modest ⟨3⟩) (World.echoing target)).result = .ok (.ok manager)) :
    Serves Host.plain manager (Action.echo target) target (World.echoing target) := by
  have spares : Registry.Spares "echo" target ((World.echoing target).registry ⟨3⟩) [] := trivial
  exact .intro (.made ⟨rfl, rfl⟩) (.registered rfl accepted) rfl spares rfl rfl rfl created

/-- A target system without blank characters around it is served. -/
theorem serves_iff_trimmed_maya : ∃ manager,
    Serves Host.plain manager (Action.echo "maya") "maya" (World.echoing "maya") ∧
      (manager.available (World.echoing "maya")).result = .ok ["echo"] ∧
      ∃ found, manager.Finds Host.plain .blocking "echo" (World.echoing "maya") (Action.echo "maya") found := by
  have served : Serves _ _ (Action.echo "maya") "maya" _ := serves_echo rfl rfl
  exact ⟨_, served, rfl,
    ((serves_iff_trimmed (RegistryId.plain_respects _) served).1.mpr rfl).2⟩

/-- A manager does not serve an action that declares its target system between blank characters. -/
theorem not_always_served : ¬∀ (κ μ : Type) (host : Host κ μ) (manager : Manager) (channel : Channel)
    (action : Action κ) (target : String) (later : World κ μ), host.Respects manager.registry →
      Serves host manager action target later →
        (∃ listed, (manager.available later).result = .ok listed ∧ action.name ∈ listed) ∧
          ∃ found, manager.Finds host channel action.name later action found := by
  intro always
  have served : Serves _ _ (Action.echo " maya ") " maya " _ := serves_echo rfl rfl
  obtain ⟨⟨listed, available, member⟩, _⟩ :=
    always Unit Unit Host.plain _ .blocking _ _ _ (RegistryId.plain_respects _) served
  cases available
  cases member

end Manager

end Dispatch
