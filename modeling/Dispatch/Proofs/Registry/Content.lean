import Dispatch.Loading.Basic
import Dispatch.Proofs.Registry.Edits

namespace Dispatch

variable {κ : Type}

namespace Table
variable {α β : Type}

/-- A look-up among changed values finds the changed value. -/
theorem get?_map (f : α → β) (table : Table α) (name : String) : (table.map f).get? name = (table.get? name).map f :=
  lookup?_map (fun _ => f) name table.entries

theorem map_insert (f : α → β) (table : Table α) (name : String) (value : α) :
    (table.insert name value).map f = (table.map f).insert name (f value) := by
  refine ext_get? fun other => ?_
  rw [get?_map, get?_insert, get?_insert, get?_map]
  split <;> rfl

end Table

namespace Action

/-- All of an action but its identity. -/
def content (action : Action κ) : Action κ := { action with id := default }

/-- A candidate under the requested target system unless it declares one, and with its origin, if any. -/
def adopted (scope : Scope) (origin : Option String) (action : Action κ) : Action κ :=
  { action with
    descriptor :=
      { action.descriptor with
        target := action.target.or scope
        source := origin.or action.descriptor.source } }

@[simp] theorem name_content (action : Action κ) : action.content.name = action.name := rfl

@[simp] theorem target_content (action : Action κ) : action.content.target = action.target := rfl

@[simp] theorem conformance_content (action : Action κ) : action.content.conformance = action.conformance := by
  unfold conformance
  rw [name_content, target_content]

/-- Whether an action is registrable is a matter of its content. -/
@[simp] theorem isRegistrable_content {action : Action κ} : action.content.IsRegistrable ↔ action.IsRegistrable := by
  constructor
  · rintro ⟨conforms, concrete, executable⟩
    exact ⟨by rwa [conformance_content] at conforms, concrete, executable⟩
  · rintro ⟨conforms, concrete, executable⟩
    exact ⟨by rwa [conformance_content], concrete, executable⟩

theorem isRegistrable_congr {first second : Action κ} (same : first.content = second.content) :
    first.IsRegistrable ↔ second.IsRegistrable := by
  rw [← isRegistrable_content, same, isRegistrable_content]

/-- All of an action but its identity and where it was discovered. -/
def essence (action : Action κ) : Action κ :=
  { action.content with descriptor := { action.descriptor with source := none } }

/-- A way to see actions that shows of them what registering looks at. -/
structure Faithful (view : Action κ → Action κ) : Prop where
  name (action : Action κ) : (view action).name = action.name
  target (action : Action κ) : (view action).target = action.target
  registrable {action : Action κ} : (view action).IsRegistrable ↔ action.IsRegistrable

theorem faithful_content : Faithful (content : Action κ → Action κ) :=
  ⟨name_content, target_content, isRegistrable_content⟩

theorem faithful_essence : Faithful (essence : Action κ → Action κ) := by
  have conforms (action : Action κ) : action.essence.conformance = action.conformance := rfl
  refine ⟨fun _ => rfl, fun _ => rfl, ?_⟩
  intro action
  constructor
  · rintro ⟨conformed, concrete, executable⟩
    exact ⟨conforms action ▸ conformed, concrete, executable⟩
  · rintro ⟨conformed, concrete, executable⟩
    exact ⟨(conforms action).trans conformed, concrete, executable⟩

/-- The essence of an action is that of its content. -/
theorem map_essence_content (actions : List (Action κ)) : (actions.map content).map essence = actions.map essence := by
  rw [List.map_map]
  rfl

/-- Actions of the same contents are the same in essence. -/
theorem essences_of_contents {first second : List (Action κ)} (same : first.map content = second.map content) :
    first.map essence = second.map essence := by
  rw [← map_essence_content first, same, map_essence_content]

instance (action : Action κ) : Decidable action.IsRegistrable :=
  decidable_of_iff (action.conformance.isOk = true ∧ action.isAbstract = false ∧ action.hasHook = true) <| by
    constructor
    · rintro ⟨conforms, concrete, executable⟩
      refine ⟨?_, concrete, executable⟩
      cases conformed : action.conformance with
      | error rejection =>
        rw [conformed] at conforms
        cases conforms
      | ok value => rfl
    · rintro ⟨conforms, concrete, executable⟩
      exact ⟨by rw [conforms]; rfl, concrete, executable⟩

end Action

namespace Registry

/-- What a registry holds, its actions seen in some way. -/
def viewed (view : Action κ → Action κ) (registry : Registry κ) : Registry κ :=
  { registry with
    actions := registry.actions.map view
    byTarget := registry.byTarget.map fun there => there.map view }

/-- What a registry holds regardless of identities. -/
def content (registry : Registry κ) : Registry κ :=
  { registry with
    actions := registry.actions.map Action.content
    byTarget := registry.byTarget.map fun there => there.map Action.content }

/-- What a registry holds regardless of identities and sources. -/
def essence (registry : Registry κ) : Registry κ := registry.viewed Action.essence

section view

variable {view : Action κ → Action κ}

theorem under_viewed (registry : Registry κ) (target : String) :
    (registry.viewed view).under target = (registry.under target).map view := by
  change ((registry.byTarget.map fun there => there.map view).get? target).getD ∅ = _
  unfold under
  rw [Table.get?_map]
  cases registry.byTarget.get? target <;> rfl

/-- What is put in is seen as something that is put in. -/
theorem viewed_insert (faithful : Action.Faithful view) (registry : Registry κ) (action : Action κ) :
    (registry.insert action).viewed view = (registry.viewed view).insert (view action) := by
  cases declared : action.target with
  | none =>
    simp only [insert, viewed, faithful.target, declared, Table.map_insert, faithful.name]
  | some target =>
    simp only [insert, faithful.target, declared, under_viewed, faithful.name, ← Table.map_insert]
    simp only [viewed, Table.map_insert]

theorem viewed_register (faithful : Action.Faithful view) (registry : Registry κ) (action : Action κ) :
    (registry.edit (.register action)).viewed view = (registry.viewed view).edit (.register (view action)) := by
  by_cases registrable : action.IsRegistrable
  · rw [edit_register_of_registrable registrable, viewed_insert faithful,
      edit_register_of_registrable (faithful.registrable.mpr registrable)]
  · rw [edit_register_of_refused registrable, edit_register_of_refused (mt faithful.registrable.mp registrable)]

theorem viewed_registers (faithful : Action.Faithful view) (registry : Registry κ) (actions : List (Action κ)) :
    (registry.edits (actions.map .register)).viewed view =
      (registry.viewed view).edits ((actions.map view).map .register) := by
  induction actions generalizing registry with
  | nil => rfl
  | cons action rest ih =>
    have first := ih (registry.edit (.register action))
    rw [viewed_register faithful] at first
    exact first

end view

/-- The contents of what is registered make the content of the registry. -/
theorem content_registers (registry : Registry κ) (actions : List (Action κ)) :
    (registry.edits (actions.map .register)).content =
      registry.content.edits ((actions.map Action.content).map .register) :=
  viewed_registers Action.faithful_content registry actions

theorem essence_registers (registry : Registry κ) (actions : List (Action κ)) :
    (registry.edits (actions.map .register)).essence =
      registry.essence.edits ((actions.map Action.essence).map .register) :=
  viewed_registers Action.faithful_essence registry actions

/-- What a candidate is registered as, if it is. -/
def accepted? (scope : Scope) (origin : Option String) : Except DiscoveryFault (Action κ) → Option (Action κ)
  | .error _ => none
  | .ok action => if (action.adopted scope origin).IsRegistrable then some (action.adopted scope origin) else none

/-- What the acceptable ones among candidates are registered as, in order. -/
def acceptable (scope : Scope) (origin : Option String) (candidates : List (Except DiscoveryFault (Action κ))) :
    List (Action κ) :=
  candidates.filterMap (accepted? scope origin)

/-- Without the candidates that are passed over the same actions are acceptable. -/
theorem acceptable_purged (scope : Scope) (origin : Option String)
    (candidates : List (Except DiscoveryFault (Action κ))) :
    acceptable scope origin (candidates.filter fun candidate => (accepted? scope origin candidate).isSome) =
      acceptable scope origin candidates := by
  unfold acceptable
  rw [List.filterMap_filter]
  congr 1
  funext candidate
  cases accepted? scope origin candidate <;> rfl

/-- Whether and as what a candidate is registered, seen in a way that hides its differences from another one. -/
theorem accepted?_congr {view : Action κ → Action κ} (faithful : Action.Faithful view) {scope : Scope}
    {origin other : Option String} {first second : Action κ}
    (same : view (first.adopted scope origin) = view (second.adopted scope other)) :
    (accepted? scope origin (.ok first)).map view = (accepted? scope other (.ok second)).map view := by
  have judged : (first.adopted scope origin).IsRegistrable ↔ (second.adopted scope other).IsRegistrable := by
    rw [← faithful.registrable, same, faithful.registrable]
  unfold accepted?
  dsimp only
  by_cases registrable : (first.adopted scope origin).IsRegistrable
  · rw [if_pos registrable, if_pos (judged.mp registrable), Option.map_some, Option.map_some, same]
  · rw [if_neg registrable, if_neg (mt judged.mpr registrable)]

/-- The contents of candidates decide what is acceptable. -/
theorem acceptable_content (scope : Scope) (origin : Option String)
    (candidates : List (Except DiscoveryFault (Action κ))) :
    (acceptable scope origin candidates).map Action.content =
      (acceptable scope origin (candidates.map (Except.map Action.content))).map Action.content := by
  have judged (candidate : Except DiscoveryFault (Action κ)) :
      (accepted? scope origin candidate).map Action.content =
        (accepted? scope origin (candidate.map Action.content)).map Action.content := by
    cases candidate with
    | error fault => rfl
    | ok action => exact accepted?_congr Action.faithful_content rfl
  unfold acceptable
  rw [List.map_filterMap, List.map_filterMap, List.filterMap_map]
  exact congrArg (List.filterMap · candidates) (funext judged)

/-- Where candidates come from makes no difference to what is acceptable in essence. -/
theorem acceptable_essence (scope : Scope) (origin other : Option String)
    (candidates : List (Except DiscoveryFault (Action κ))) :
    (acceptable scope origin candidates).map Action.essence =
      (acceptable scope other candidates).map Action.essence := by
  have judged (candidate : Except DiscoveryFault (Action κ)) :
      (accepted? scope origin candidate).map Action.essence =
        (accepted? scope other candidate).map Action.essence := by
    cases candidate with
    | error fault => rfl
    | ok action => exact accepted?_congr Action.faithful_essence rfl
  unfold acceptable
  rw [List.map_filterMap, List.map_filterMap]
  exact congrArg (List.filterMap · candidates) (funext judged)

end Registry

end Dispatch
