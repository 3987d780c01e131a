import Dispatch.Registry.Basic

namespace Dispatch

namespace Table
variable {α : Type}

/-- A look-up after a removal is decided by the name. -/
theorem get?_erase (table : Table α) (name other : String) :
    (table.erase name).get? other = if other = name then none else table.get? other := by
  split
  · rename_i same
    rw [same, get?_erase_self]
  · rename_i ne
    exact table.get?_erase_of_ne ne

/-- In a table without names nothing is found, and the other way round. -/
theorem isEmpty_iff {table : Table α} : table.isEmpty = true ↔ ∀ name, table.get? name = none := by
  constructor
  · intro empty name
    have none : table.entries = [] := List.isEmpty_iff.mp empty
    unfold get?
    rw [none]
    rfl
  · intro missing
    obtain rfl : table = Table.empty := ext_get? missing
    rfl

end Table

namespace Registry
variable {κ : Type}

/-- What is found in a scope is listed there. -/
theorem mem_names_of_get? {registry : Registry κ} {name : String} {scope : Scope} {action : Action κ}
    (found : registry.get? name scope = some action) : action.name ∈ registry.names scope := by
  have member : (name, action) ∈ (registry.inScope scope).entries := Table.mem_entries_iff.mpr found
  exact List.mem_map_of_mem (List.mem_map_of_mem member)

/-- Under a target system there is what was kept there last. -/
theorem under_setUnder (registry : Registry κ) (target other : String) (actions : Table (Action κ)) :
    (registry.setUnder target actions).under other = if other = target then actions else registry.under other := by
  unfold setUnder under
  split
  · rename_i empty
    rw [Table.get?_erase]
    split
    · exact Table.ext_get? fun name => (Table.isEmpty_iff.mp empty name).symm
    · rfl
  · rw [Table.get?_insert]
    split <;> rfl

theorem actions_setUnder (registry : Registry κ) (target : String) (actions : Table (Action κ)) :
    (registry.setUnder target actions).actions = registry.actions := by
  unfold setUnder
  split <;> rfl

/-- Regardless of target systems the last action of a name is found. -/
theorem get?_insert_none (registry : Registry κ) (action : Action κ) (name : String) :
    (registry.insert action).get? name none = if name = action.name then some action else registry.get? name none := by
  unfold insert
  cases action.target <;> exact Table.get?_insert _ _ _ _

/-- Under a target system the last action of a name is found that declares it. -/
theorem get?_insert_some (registry : Registry κ) (action : Action κ) (name target : String) :
    (registry.insert action).get? name (some target) =
      if action.target = some target ∧ name = action.name then some action
      else registry.get? name (some target) := by
  unfold insert
  cases declared : action.target with
  | none => simp [get?, inScope, under]
  | some own =>
    simp only [get?, inScope, under, Table.get?_insert, Option.some.injEq]
    by_cases same : target = own
    · subst same
      simp [Table.get?_insert]
    · simp [same, Ne.symm same]

/-- A look-up regardless of target systems after a removal under one of them. -/
theorem get?_unregisterScoped_none (registry : Registry κ) (name target other : String) :
    (registry.unregisterScoped name target).2.get? other none =
      if other = name ∧ (registry.actions.get? name).any (fun action => action.target = some target) then none
      else registry.get? other none := by
  unfold unregisterScoped
  simp only [actions_setUnder]
  by_cases owned : (registry.actions.get? name).any fun action => action.target = some target
  · simp only [owned, if_true, and_true, get?, inScope, Table.get?_erase]
  · simp [owned, get?, inScope, actions_setUnder]

/-- A look-up under a target system after a removal under one of them. -/
theorem get?_unregisterScoped_some (registry : Registry κ) (name target other place : String) :
    (registry.unregisterScoped name target).2.get? other (some place) =
      if place = target ∧ other = name then none else registry.get? other (some place) := by
  have kept : (registry.unregisterScoped name target).2.under place =
      (registry.setUnder target ((registry.under target).erase name)).under place := by
    unfold unregisterScoped
    dsimp only
    split <;> rfl
  change ((registry.unregisterScoped name target).2.under place).get? other = _
  rw [kept, under_setUnder]
  by_cases same : place = target
  · subst same
    simp [Table.get?_erase, get?, inScope]
  · simp [same, get?, inScope]

theorem actions_withdraw (registry : Registry κ) (name : String) (action : Action κ) :
    (registry.withdraw name action).actions = registry.actions := by
  unfold withdraw
  cases action.target with
  | none => rfl
  | some target =>
    dsimp only
    split
    · exact actions_setUnder _ _ _
    · rfl

/-- Only the action itself is taken from under its target system. -/
theorem get?_withdraw (registry : Registry κ) (name other place : String) (action : Action κ) :
    (registry.withdraw name action).get? other (some place) =
      if other = name ∧ action.target = some place ∧ (registry.get? name (some place)).any action.isSame then none
      else registry.get? other (some place) := by
  unfold withdraw
  cases declared : action.target with
  | none => simp
  | some target =>
    dsimp only
    split
    · rename_i same
      change ((registry.setUnder target _).under place).get? other = _
      rw [under_setUnder]
      by_cases here : place = target
      · subst here
        change (registry.get? name (some place)).any action.isSame at same
        simp only [same, if_true, Table.get?_erase, and_true]
        rfl
      · simp [here, Ne.symm here, get?, inScope]
    · rename_i other
      have other : ¬(registry.get? name (some target)).any action.isSame := other
      split
      · rename_i taken
        obtain ⟨_, here, same⟩ := taken
        cases here
        exact absurd same other
      · rfl

/-- A look-up regardless of target systems after a removal regardless of them. -/
theorem get?_unregisterAnywhere_none (registry : Registry κ) (name other : String) :
    (registry.unregisterAnywhere name).2.get? other none =
      if other = name then none else registry.get? other none := by
  unfold unregisterAnywhere
  cases found : registry.actions.get? name with
  | none =>
    change registry.actions.get? other = if other = name then none else registry.actions.get? other
    split
    · rename_i same
      rw [same, found]
    · rfl
  | some action =>
    change (withdraw _ name action).actions.get? other = _
    rw [actions_withdraw, Table.get?_erase]
    rfl

/-- Where nothing is found regardless of target systems nothing is removed. -/
theorem unregisterAnywhere_of_missing {registry : Registry κ} {name : String}
    (missing : registry.get? name none = none) : registry.unregisterAnywhere name = (false, registry) := by
  have missing : registry.actions.get? name = none := missing
  unfold unregisterAnywhere
  rw [missing]

/-- A removal regardless of target systems takes an action also from under its own, if it is the same there. -/
theorem get?_unregisterAnywhere_some {registry : Registry κ} {name : String} {action : Action κ}
    (found : registry.get? name none = some action) (other place : String) :
    (registry.unregisterAnywhere name).2.get? other (some place) =
      if other = name ∧ action.target = some place ∧ (registry.get? name (some place)).any action.isSame then none
      else registry.get? other (some place) := by
  have found : registry.actions.get? name = some action := found
  unfold unregisterAnywhere
  rw [found]
  exact get?_withdraw _ _ _ _ _

end Registry

end Dispatch
