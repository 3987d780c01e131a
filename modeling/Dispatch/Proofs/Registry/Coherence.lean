import Dispatch.Proofs.Registry.Lookup

namespace Dispatch

/-- What a registry lets into its indices. -/
structure Action.IsRegistrable {κ : Type} (action : Action κ) : Prop where
  conforms : action.conformance = .ok ()
  concrete : action.isAbstract = false
  executable : action.hasHook = true

namespace Registry
variable {κ : Type} {registry : Registry κ}

/-- No target system is kept for nothing. -/
def Tidy (registry : Registry κ) : Prop :=
  ∀ target there, registry.byTarget.get? target = some there → there.isEmpty = false

/-- The two indices of a registry fit each other. -/
structure Coherent (registry : Registry κ) : Prop where
  /-- In either index an action is kept under its own name. -/
  named {name : String} {scope : Scope} {action : Action κ} (found : registry.get? name scope = some action) :
    action.name = name
  /-- Under a target system there are only actions that declare it. -/
  placed {name target : String} {action : Action κ} (found : registry.get? name (some target) = some action) :
    action.target = some target
  registrable {name : String} {scope : Scope} {action : Action κ} (found : registry.get? name scope = some action) :
    action.IsRegistrable
  tidy : registry.Tidy
  /-- What is found regardless of target systems is also found under the one that it declares. -/
  linked {name target : String} {action : Action κ} (found : registry.get? name none = some action)
    (declared : action.target = some target) : registry.get? name (some target) = some action

/-- A registry without actions is coherent. -/
theorem coherent_of_bare (bare : registry.actions = ∅ ∧ registry.byTarget = ∅) : registry.Coherent := by
  obtain ⟨noActions, noTargets⟩ := bare
  have nothing (name : String) (scope : Scope) : registry.get? name scope = none := by
    cases scope with
    | none =>
      change registry.actions.get? name = none
      rw [noActions]
      rfl
    | some target =>
      change ((registry.byTarget.get? target).getD ∅).get? name = none
      rw [noTargets]
      rfl
  constructor
  · intro name scope action found
    simp [nothing] at found
  · intro name target action found
    simp [nothing] at found
  · intro name scope action found
    simp [nothing] at found
  · intro target there kept
    rw [noTargets] at kept
    cases kept
  · intro name target action found
    simp [nothing] at found

/-- What is listed in a scope is found there under its name. -/
theorem Coherent.mem_names_iff (coherent : registry.Coherent) {name : String} {scope : Scope} :
    name ∈ registry.names scope ↔ (registry.get? name scope).isSome = true := by
  constructor
  · intro listed
    obtain ⟨action, among, rfl⟩ := List.mem_map.mp listed
    obtain ⟨⟨key, _⟩, member, rfl⟩ := List.mem_map.mp among
    have found : registry.get? key scope = some _ := Table.mem_entries_iff.mp member
    simp [coherent.named found, found]
  · intro found
    obtain ⟨action, found⟩ := Option.isSome_iff_exists.mp found
    have listed := mem_names_of_get? found
    rwa [coherent.named found] at listed

/-- Only what is registrable is registered. -/
theorem admission_registered_iff {action : Action κ} :
    admission action = .ok .registered ↔ action.IsRegistrable := by
  unfold admission
  cases conforms : action.conformance with
  | error rejection =>
    constructor
    · intro admitted
      cases admitted
    · intro registrable
      exact absurd (conforms.symm.trans registrable.conforms) (by simp)
  | ok value =>
    change (if action.isAbstract = true then .ok .abstract
      else if (!action.hasHook) = true then .ok .hookless else .ok .registered) = Except.ok Admission.registered ↔ _
    constructor
    · intro admitted
      cases concrete : action.isAbstract with
      | true => simp [concrete] at admitted
      | false =>
        cases executable : action.hasHook with
        | false => simp [concrete, executable] at admitted
        | true => exact ⟨conforms, concrete, executable⟩
    · intro registrable
      simp [registrable.concrete, registrable.executable]

/-- A target system is given up with the last of its actions. -/
theorem Tidy.setUnder (tidy : registry.Tidy) (target : String) (actions : Table (Action κ)) :
    (registry.setUnder target actions).Tidy := by
  intro other there kept
  unfold Registry.setUnder at kept
  split at kept
  · rw [Table.get?_erase] at kept
    split at kept
    · cases kept
    · exact tidy other there kept
  · rename_i nonempty
    rw [Table.get?_insert] at kept
    split at kept
    · cases kept
      simpa using nonempty
    · exact tidy other there kept

theorem Tidy.insert (tidy : registry.Tidy) (action : Action κ) : (registry.insert action).Tidy := by
  intro other there kept
  unfold Registry.insert at kept
  cases declared : action.target with
  | none =>
    simp only [declared] at kept
    exact tidy other there kept
  | some target =>
    simp only [declared, Table.get?_insert] at kept
    split at kept
    · cases kept
      cases empty : ((registry.under target).insert action.name action).isEmpty with
      | false => rfl
      | true =>
        have missing := Table.isEmpty_iff.mp empty action.name
        rw [Table.get?_insert_self] at missing
        cases missing
    · exact tidy other there kept

theorem Tidy.unregister (tidy : registry.Tidy) (name : String) (scope : Scope) :
    (registry.unregister name scope).2.Tidy := by
  cases scope with
  | some target =>
    change (registry.unregisterScoped name target).2.Tidy
    unfold unregisterScoped
    dsimp only
    split
    · exact tidy.setUnder target _
    · exact tidy.setUnder target _
  | none =>
    change (registry.unregisterAnywhere name).2.Tidy
    unfold unregisterAnywhere
    split
    · exact tidy
    · have kept : Tidy { registry with actions := registry.actions.erase name } := tidy
      unfold withdraw
      split
      · exact kept
      · dsimp only
        split
        · exact kept.setUnder _ _
        · exact kept

/-- A registrable action that is put into a coherent registry leaves it coherent. -/
theorem Coherent.insert (coherent : registry.Coherent) {action : Action κ} (registrable : action.IsRegistrable) :
    (registry.insert action).Coherent := by
  have found_cases {name : String} {scope : Scope} {found : Action κ}
      (here : (registry.insert action).get? name scope = some found) :
      (found = action ∧ name = action.name ∧ ∀ target, scope = some target → action.target = some target) ∨
        registry.get? name scope = some found := by
    cases scope with
    | none =>
      rw [get?_insert_none] at here
      split at here
      · rename_i same
        exact .inl ⟨(Option.some.inj here).symm, same, fun _ impossible => by cases impossible⟩
      · exact .inr here
    | some target =>
      rw [get?_insert_some] at here
      split at here
      · rename_i same
        refine .inl ⟨(Option.some.inj here).symm, same.2, fun other eq => ?_⟩
        cases eq
        exact same.1
      · exact .inr here
  constructor
  case named =>
    intro name scope found here
    rcases found_cases here with ⟨rfl, same, _⟩ | before
    · exact same.symm
    · exact coherent.named before
  case placed =>
    intro name target found here
    rcases found_cases here with ⟨rfl, _, declared⟩ | before
    · exact declared target rfl
    · exact coherent.placed before
  case registrable =>
    intro name scope found here
    rcases found_cases here with ⟨rfl, _, _⟩ | before
    · exact registrable
    · exact coherent.registrable before
  case tidy => exact coherent.tidy.insert action
  case linked =>
    intro name target found here declared
    rw [get?_insert_none] at here
    rw [get?_insert_some]
    split at here
    · rename_i same
      cases here
      rw [if_pos ⟨declared, same⟩]
    · rename_i other
      rw [if_neg fun both => other both.2]
      exact coherent.linked here declared

/-- Whoever unregisters is told whether there was anything to unregister. -/
theorem unregister_fst (registry : Registry κ) (name : String) (scope : Scope) :
    (registry.unregister name scope).1 = (registry.get? name scope).isSome := by
  cases scope with
  | some target => rfl
  | none =>
    change (registry.unregisterAnywhere name).1 = (registry.actions.get? name).isSome
    unfold unregisterAnywhere
    cases registry.actions.get? name <;> rfl

/-- Unregistering takes out the action that the look-up finds, wherever it is found, and no other one. -/
theorem Coherent.get?_unregister_iff (coherent : registry.Coherent) {name other : String} {scope place : Scope}
    {action : Action κ} :
    (registry.unregister name scope).2.get? other place = some action ↔
      registry.get? other place = some action ∧ registry.get? name scope ≠ some action := by
  cases scope with
  | some target =>
    cases place with
    | none =>
      change (registry.unregisterScoped name target).2.get? other none = some action ↔ _
      rw [get?_unregisterScoped_none]
      split
      · rename_i taken
        obtain ⟨rfl, owned⟩ := taken
        obtain ⟨owner, found, declared⟩ := (Option.any_eq_true _ _).mp owned
        rw [coherent.linked found (of_decide_eq_true declared)]
        have found : registry.get? other none = some owner := found
        simp [found]
      · rename_i left
        refine ⟨fun found => ⟨found, fun same => left ?_⟩, And.left⟩
        obtain rfl : other = name := (coherent.named found).symm.trans (coherent.named same)
        have found : registry.actions.get? other = some action := found
        exact ⟨rfl, by simp [found, coherent.placed same]⟩
    | some place =>
      change (registry.unregisterScoped name target).2.get? other (some place) = some action ↔ _
      rw [get?_unregisterScoped_some]
      split
      · rename_i taken
        obtain ⟨rfl, rfl⟩ := taken
        simp
      · rename_i left
        refine ⟨fun found => ⟨found, fun same => left ?_⟩, And.left⟩
        have place := (coherent.placed found).symm.trans (coherent.placed same)
        exact ⟨Option.some.inj place, (coherent.named found).symm.trans (coherent.named same)⟩
  | none =>
    cases place with
    | none =>
      change (registry.unregisterAnywhere name).2.get? other none = some action ↔ _
      rw [get?_unregisterAnywhere_none]
      split
      · rename_i same
        subst same
        simp
      · rename_i left
        refine ⟨fun found => ⟨found, fun same => left ?_⟩, And.left⟩
        exact (coherent.named found).symm.trans (coherent.named same)
    | some place =>
      change (registry.unregisterAnywhere name).2.get? other (some place) = some action ↔ _
      cases found : registry.get? name none with
      | none =>
        rw [unregisterAnywhere_of_missing found]
        simp
      | some owner =>
        rw [get?_unregisterAnywhere_some found]
        split
        · rename_i taken
          obtain ⟨rfl, declared, _⟩ := taken
          rw [coherent.linked found declared]
          simp
        · rename_i left
          refine ⟨fun here => ⟨here, fun same => left ?_⟩, And.left⟩
          cases same
          obtain rfl : other = name := (coherent.named here).symm.trans (coherent.named found)
          exact ⟨rfl, coherent.placed here, by simp [here, Action.isSame]⟩

/-- What is taken out of a coherent registry leaves it coherent. -/
theorem Coherent.unregister (coherent : registry.Coherent) (name : String) (scope : Scope) :
    (registry.unregister name scope).2.Coherent := by
  constructor
  case named =>
    intro other place action found
    exact coherent.named (coherent.get?_unregister_iff.mp found).1
  case placed =>
    intro other place action found
    exact coherent.placed (coherent.get?_unregister_iff.mp found).1
  case registrable =>
    intro other place action found
    exact coherent.registrable (coherent.get?_unregister_iff.mp found).1
  case tidy => exact coherent.tidy.unregister name scope
  case linked =>
    intro other place action found declared
    obtain ⟨before, left⟩ := coherent.get?_unregister_iff.mp found
    exact coherent.get?_unregister_iff.mpr ⟨coherent.linked before declared, left⟩

end Registry

end Dispatch
