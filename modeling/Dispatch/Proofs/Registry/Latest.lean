import Dispatch.Proofs.Registry.Reachable
import Mathlib.Data.List.Induction

namespace Dispatch

variable {κ μ : Type}

/-- Whether a look-up asks for an action: by its name, and under no other target system than the one it declares. -/
def Action.answers (action : Action κ) (name : String) (scope : Scope) : Bool :=
  action.name = name && scope.all fun target => action.target = some target

namespace Registry

variable {registry : Registry κ}

/-- The last of the actions that a look-up asks for. -/
def latest (actions : List (Action κ)) (name : String) (scope : Scope) : Option (Action κ) :=
  (actions.filter fun action => action.answers name scope).getLast?

@[simp] theorem latest_nil (name : String) (scope : Scope) : latest ([] : List (Action κ)) name scope = none := rfl

/-- A further action is the last one wherever it is asked for. -/
theorem latest_concat (actions : List (Action κ)) (action : Action κ) (name : String) (scope : Scope) :
    latest (actions ++ [action]) name scope =
      if action.answers name scope then some action else latest actions name scope := by
  unfold latest
  rw [List.filter_append]
  by_cases asked : action.answers name scope
  · simp [asked]
  · simp [asked]

/-- What was put in is found wherever it is asked for, and everything else as before. -/
theorem get?_insert (registry : Registry κ) (action : Action κ) (name : String) (scope : Scope) :
    (registry.insert action).get? name scope =
      if action.answers name scope then some action else registry.get? name scope := by
  cases scope with
  | none =>
    rw [get?_insert_none]
    exact if_congr (by simp [Action.answers, eq_comm]) rfl rfl
  | some target =>
    have asked : (action.target = some target ∧ name = action.name) ↔ action.answers name (some target) = true := by
      rw [and_comm, @eq_comm _ name]
      simp [Action.answers]
    rw [get?_insert_some]
    exact if_congr asked rfl rfl

/-- After registrations in a row a look-up finds the last action that it asks for, or what was there before. -/
theorem get?_registers {actions : List (Action κ)} (registrable : ∀ action ∈ actions, action.IsRegistrable)
    (registry : Registry κ) (name : String) (scope : Scope) :
    (registry.edits (actions.map .register)).get? name scope =
      (latest actions name scope).or (registry.get? name scope) := by
  induction actions using List.reverseRecOn with
  | nil => rfl
  | append_singleton actions action ih =>
    have before := ih fun other member => registrable other (List.mem_append_left _ member)
    have here : action.IsRegistrable := registrable action (by simp)
    have last : registry.edits ((actions ++ [action]).map .register) =
        (registry.edits (actions.map .register)).edit (.register action) := by
      simp [edits, List.foldl_append]
    rw [last, edit_register_of_registrable here, get?_insert, before, latest_concat]
    by_cases asked : action.answers name scope
    · simp [asked]
    · simp [asked]

/-- What a tidy registry keeps of a target system is told by what is found under it. -/
theorem Tidy.byTarget_get? (tidy : registry.Tidy) (target : String) :
    registry.byTarget.get? target =
      if (registry.under target).isEmpty then none else some (registry.under target) := by
  unfold under
  cases kept : registry.byTarget.get? target with
  | none => rfl
  | some there => simp [tidy target there kept]

/-- No question about their actions tells two registries apart. -/
structure Indistinguishable (first second : Registry κ) : Prop where
  get? (name : String) (scope : Scope) : first.get? name scope = second.get? name scope
  listings (scope : Scope) (tag : Option String) : first.listings scope tag = second.listings scope tag
  names (scope : Scope) : first.names scope = second.names scope
  under (target : String) : first.under target = second.under target
  targets : first.targets = second.targets
  size : first.size = second.size
  isEmpty : first.isEmpty = second.isEmpty

/-- Tidy registries are known by their look-ups. -/
theorem indistinguishable_of_get? {first second : Registry κ} (tidy : first.Tidy) (tidyToo : second.Tidy)
    (same : ∀ name scope, first.get? name scope = second.get? name scope) : first.Indistinguishable second := by
  have actions : first.actions = second.actions := Table.ext_get? fun name => same name none
  have under (target : String) : first.under target = second.under target :=
    Table.ext_get? fun name => same name (some target)
  have byTarget : first.byTarget = second.byTarget := by
    apply Table.ext_get?
    intro target
    rw [tidy.byTarget_get?, tidyToo.byTarget_get?, under]
  have inScope (scope : Scope) : first.inScope scope = second.inScope scope := by
    cases scope with
    | none => exact actions
    | some target => exact under target
  constructor
  case get? => exact same
  case listings =>
    intro scope tag
    unfold Registry.listings
    rw [inScope]
  case names =>
    intro scope
    unfold Registry.names
    rw [inScope]
  case under => exact under
  case targets =>
    unfold Registry.targets
    rw [byTarget]
  case size =>
    unfold Registry.size
    rw [actions]
  case isEmpty =>
    unfold Registry.isEmpty
    rw [actions]

/-- Which action of a name is the last one that a look-up asks for is decided by the actions of this name. -/
theorem latest_congr {first second : List (Action κ)}
    (same : ∀ name, first.filter (fun action => action.name = name) = second.filter fun action => action.name = name)
    (name : String) (scope : Scope) : latest first name scope = latest second name scope := by
  have among (actions : List (Action κ)) :
      (actions.filter fun action => action.answers name scope) =
        (actions.filter fun action => action.name = name).filter fun action =>
          scope.all fun target => action.target = some target := by
    rw [List.filter_filter]
    simp only [Action.answers, Bool.and_comm]
  unfold latest
  rw [among first, among second, same]

end Registry

namespace RegistryId

/-- What is done to a registry in a history of registrations. -/
inductive Entry (κ : Type) where
  | register (action : Action κ)
  | reset

/-- What a history has accepted since the registry was last emptied, after these actions. -/
def replay (registry : RegistryId) (accepted : List (Action κ)) : List (Entry κ) → Act κ μ (List (Action κ))
  | [] => return accepted
  | .reset :: rest => do
    registry.reset
    registry.replay [] rest
  | .register action :: rest => do
    match ← registry.register action with
    | .ok true => registry.replay (accepted ++ [action]) rest
    | _ => registry.replay accepted rest

/-- A registry shows the last of what it has accepted. -/
structure Shows (known : Registry κ) (accepted : List (Action κ)) : Prop where
  tidy : known.Tidy
  found (name : String) (scope : Scope) : known.get? name scope = Registry.latest accepted name scope

theorem shows_of_bare {known : Registry κ} (bare : known.actions = ∅ ∧ known.byTarget = ∅) : Shows known [] := by
  refine ⟨(Registry.coherent_of_bare bare).tidy, fun name scope => ?_⟩
  obtain ⟨noActions, noTargets⟩ := bare
  cases scope with
  | none => simp [Registry.get?, Registry.inScope, noActions, EmptyCollection.emptyCollection]
  | some target =>
    simp [Registry.get?, Registry.inScope, Registry.under, noTargets, EmptyCollection.emptyCollection]

/-- What is put into the indices is shown as the last. -/
theorem Shows.insert {known : Registry κ} {accepted : List (Action κ)} (shows : Shows known accepted)
    (action : Action κ) : Shows (known.insert action) (accepted ++ [action]) where
  tidy := shows.tidy.insert action
  found name scope := by rw [Registry.get?_insert, Registry.latest_concat, shows.found]

variable (registry : RegistryId)

/-- A refused registration leaves the registry as it is. -/
theorem register_of_refusal {action : Action κ} {world : World κ μ}
    (refused : (registry.register action world).result ≠ .ok (.ok true)) :
    (registry.register action world).state.registry registry = world.registry registry := by
  rcases registry.register_ends action world with ⟨_, accepted, _⟩ | ⟨_, same⟩
  · exact absurd accepted refused
  · exact same

/-- Wherever a history has begun, the registry shows in the end what the history yields. -/
theorem replay_shows (history : List (Entry κ)) {accepted : List (Action κ)} {world : World κ μ}
    (shows : Shows (world.registry registry) accepted) :
    ∃ yielded, (registry.replay accepted history world).result = .ok yielded ∧
      Shows ((registry.replay accepted history world).state.registry registry) yielded := by
  induction history generalizing accepted world with
  | nil => exact ⟨accepted, rfl, shows⟩
  | cons entry rest ih =>
    cases entry with
    | reset =>
      have returned : (registry.reset world).result = .ok () := rfl
      have emptied : (registry.reset world).state.registry registry = (world.registry registry).reset := if_pos rfl
      have bare : Shows ((registry.reset world).state.registry registry) [] := by
        rw [emptied]
        exact shows_of_bare ⟨rfl, rfl⟩
      unfold replay
      rw [Run.bind_of_ok returned]
      exact ih bare
    | register action =>
      unfold replay
      rcases registry.register_ends action world with
        ⟨_, returned, known⟩ | ⟨⟨refusal, refused, returned⟩, known⟩
      · rw [Run.bind_of_ok returned]
        apply ih
        rw [known]
        exact shows.insert action
      · rw [Run.bind_of_ok returned]
        rw [← known] at shows
        rcases refusal with rejection | (_ | _)
        · exact ih shows
        · exact ih shows
        · exact absurd rfl refused

/-- A look-up finds the last action that it asks for of those accepted since the last reset. -/
theorem last_registration_wins {registry : RegistryId} {world : World κ μ}
    (bare : (world.registry registry).actions = ∅ ∧ (world.registry registry).byTarget = ∅)
    (history : List (Entry κ)) :
    let ran := registry.replay [] history world
    let known := ran.state.registry registry
    ∃ accepted, ran.result = .ok accepted ∧
      (∀ name scope, known.get? name scope = Registry.latest accepted name scope) ∧
      (∀ action, (registry.register action ran.state).result ≠ .ok (.ok true) →
        (registry.register action ran.state).state.registry registry = known) ∧
      ∀ (other : RegistryId) (elsewhere : World κ μ) (past : List (Entry κ)) (rivals : List (Action κ)),
        (elsewhere.registry other).actions = ∅ ∧ (elsewhere.registry other).byTarget = ∅ →
        (other.replay [] past elsewhere).result = .ok rivals →
        (∀ name, accepted.filter (fun action => action.name = name) =
          rivals.filter fun action => action.name = name) →
        known.Indistinguishable ((other.replay [] past elsewhere).state.registry other) := by
  intro ran known
  obtain ⟨accepted, yielded, shows⟩ := registry.replay_shows history (shows_of_bare bare)
  refine ⟨accepted, yielded, shows.found, fun action refused => registry.register_of_refusal refused, ?_⟩
  intro other elsewhere past rivals bareToo yieldedToo same
  obtain ⟨found, returned, showsToo⟩ := other.replay_shows past (shows_of_bare bareToo)
  cases yieldedToo.symm.trans returned
  apply Registry.indistinguishable_of_get? shows.tidy showsToo.tidy
  intro name scope
  rw [shows.found, showsToo.found]
  exact Registry.latest_congr same name scope

/-- Before a reset, without a hook, and under other target systems an action is registered in vain. -/
theorem last_registration_wins_echo :
    let history : List (Entry Unit) :=
      [.register (Action.echo "maya"), .reset, .register (Action.echo "blender"), .register (Action.echo "nuke"),
        .register { Action.echo "houdini" with hook := none }]
    let known := ((RegistryId.mk 3).replay [] history (World.start () fun _ => 0)).state.registry ⟨3⟩
    known.get? "echo" none = some (Action.echo "nuke") ∧
      known.get? "echo" (some "blender") = some (Action.echo "blender") ∧ known.get? "echo" (some "maya") = none ∧
      known.get? "echo" (some "houdini") = none := by
  intro history known
  obtain ⟨accepted, yielded, found, _⟩ :=
    @last_registration_wins Unit Unit ⟨3⟩ (World.start () fun _ => 0) ⟨rfl, rfl⟩ history
  cases yielded
  exact ⟨found _ _, found _ _, found _ _, found _ _⟩

end RegistryId

end Dispatch
