import Dispatch.Proofs.Registry.Coherence

namespace Dispatch.Registry

variable {κ : Type}

/-- All that can be done to a registry from outside. -/
inductive Edit (κ : Type) where
  | register (action : Action κ)
  | unregister (name : String) (scope : Scope)
  | reset
  | setLoader (loader : Loader κ)
  | addHook (package : String) (code : κ)
  | clearHooks

/-- The registry after an edit; a registration that is refused changes nothing. -/
def edit (registry : Registry κ) : Edit κ → Registry κ
  | .register action =>
    match registry.register action with
    | .ok (_, after) => after
    | .error _ => registry
  | .unregister name scope => (registry.unregister name scope).2
  | .reset => registry.reset
  | .setLoader loader => { registry with loader }
  | .addHook package code => { registry with hooks := registry.hooks.insert package code }
  | .clearHooks => { registry with hooks := ∅ }

/-- The registry after edits in order. -/
def edits (registry : Registry κ) (list : List (Edit κ)) : Registry κ := list.foldl edit registry

variable {registry : Registry κ}

/-- A registrable action is put into the indices. -/
theorem register_of_registrable {action : Action κ} (registrable : action.IsRegistrable) (registry : Registry κ) :
    registry.register action = .ok (.registered, registry.insert action) := by
  unfold register
  rw [admission_registered_iff.mpr registrable]
  rfl

theorem edit_register_of_registrable {action : Action κ} (registrable : action.IsRegistrable)
    (registry : Registry κ) : registry.edit (.register action) = registry.insert action := by
  simp only [edit, register_of_registrable registrable]

/-- An action that is not registrable is rejected or passed over. -/
theorem register_of_refused {action : Action κ} (refused : ¬action.IsRegistrable) (registry : Registry κ) :
    (∃ rejection, registry.register action = .error rejection) ∨
      ∃ admission, admission ≠ .registered ∧ registry.register action = .ok (admission, registry) := by
  rw [← admission_registered_iff] at refused
  unfold register
  cases admitted : admission action with
  | error rejection => exact .inl ⟨rejection, rfl⟩
  | ok admission =>
    cases admission with
    | registered => exact absurd admitted refused
    | abstract => exact .inr ⟨.abstract, by decide, rfl⟩
    | hookless => exact .inr ⟨.hookless, by decide, rfl⟩

theorem edit_register_of_refused {action : Action κ} (refused : ¬action.IsRegistrable) (registry : Registry κ) :
    registry.edit (.register action) = registry := by
  rcases register_of_refused refused registry with ⟨rejection, registered⟩ | ⟨admission, _, registered⟩
  · simp only [edit, registered]
  · simp only [edit, registered]

/-- Registrations leave hooks and loader as they are. -/
theorem equipment_registers (actions : List (Action κ)) (registry : Registry κ) :
    (registry.edits (actions.map .register)).hooks = registry.hooks ∧
      (registry.edits (actions.map .register)).loader = registry.loader := by
  have once (action : Action κ) (registry : Registry κ) :
      (registry.edit (.register action)).hooks = registry.hooks ∧
        (registry.edit (.register action)).loader = registry.loader := by
    by_cases registrable : action.IsRegistrable
    · rw [edit_register_of_registrable registrable]
      unfold insert
      cases action.target <;> exact ⟨rfl, rfl⟩
    · rw [edit_register_of_refused registrable]
      exact ⟨rfl, rfl⟩
  induction actions generalizing registry with
  | nil => exact ⟨rfl, rfl⟩
  | cons first rest ih =>
    obtain ⟨hooks, loader⟩ := ih (registry.edit (.register first))
    exact ⟨hooks.trans (once first registry).1, loader.trans (once first registry).2⟩

theorem loader_registers (actions : List (Action κ)) (registry : Registry κ) :
    (registry.edits (actions.map .register)).loader = registry.loader := (equipment_registers actions registry).2

/-- Each edit keeps a registry coherent. -/
theorem Coherent.edit (coherent : registry.Coherent) (edit : Edit κ) : (registry.edit edit).Coherent := by
  cases edit with
  | register action =>
    by_cases registrable : action.IsRegistrable
    · rw [edit_register_of_registrable registrable]
      exact coherent.insert registrable
    · rw [edit_register_of_refused registrable]
      exact coherent
  | unregister name scope => exact coherent.unregister name scope
  | reset => exact coherent_of_bare ⟨rfl, rfl⟩
  | setLoader loader => exact ⟨coherent.named, coherent.placed, coherent.registrable, coherent.tidy, coherent.linked⟩
  | addHook package code =>
    exact ⟨coherent.named, coherent.placed, coherent.registrable, coherent.tidy, coherent.linked⟩
  | clearHooks => exact ⟨coherent.named, coherent.placed, coherent.registrable, coherent.tidy, coherent.linked⟩

/-- However it is edited, a registry stays coherent. -/
theorem Coherent.edits (coherent : registry.Coherent) (list : List (Edit κ)) : (registry.edits list).Coherent := by
  induction list generalizing registry with
  | nil => exact coherent
  | cons first rest ih => exact ih (coherent.edit first)

/-- Edits that may change what a name stands for under a target system. -/
def Touches (registry : Registry κ) (name target : String) : Edit κ → Prop
  | .register action => action.IsRegistrable ∧ action.target = some target ∧ name = action.name
  | .unregister other (some place) => target = place ∧ name = other
  | .unregister other none =>
    name = other ∧ ∃ action, registry.get? other none = some action ∧ action.target = some target
  | .reset => True
  | .setLoader _ | .addHook .. | .clearHooks => False

/-- No edit of a history touches a name under a target system. -/
def Spares (name target : String) : Registry κ → List (Edit κ) → Prop
  | _, [] => True
  | registry, first :: rest => ¬registry.Touches name target first ∧ Spares name target (registry.edit first) rest

/-- An edit that does not touch a name under a target system leaves what is found there. -/
theorem get?_edit_of_untouched {name target : String} {edit : Edit κ} (untouched : ¬registry.Touches name target edit) :
    (registry.edit edit).get? name (some target) = registry.get? name (some target) := by
  cases edit with
  | register action =>
    by_cases registrable : action.IsRegistrable
    · rw [edit_register_of_registrable registrable, get?_insert_some, if_neg fun here => untouched ⟨registrable, here⟩]
    · rw [edit_register_of_refused registrable]
  | unregister other scope =>
    cases scope with
    | some place =>
      change (registry.unregisterScoped other place).2.get? name (some target) = _
      rw [get?_unregisterScoped_some]
      exact if_neg untouched
    | none =>
      change (registry.unregisterAnywhere other).2.get? name (some target) = _
      cases found : registry.get? other none with
      | none => rw [unregisterAnywhere_of_missing found]
      | some action =>
        rw [get?_unregisterAnywhere_some found, if_neg]
        rintro ⟨here, declared, _⟩
        exact untouched ⟨here, action, found, declared⟩
  | reset => exact absurd trivial untouched
  | setLoader loader => rfl
  | addHook package code => rfl
  | clearHooks => rfl

/-- What is found under a target system is found there until an edit touches it. -/
theorem get?_edits_of_spares {name target : String} {list : List (Edit κ)} (spares : Spares name target registry list) :
    (registry.edits list).get? name (some target) = registry.get? name (some target) := by
  induction list generalizing registry with
  | nil => rfl
  | cons first rest ih => exact (ih spares.2).trans (get?_edit_of_untouched spares.1)

/-- Registrations of other names, or under other target systems, spare a name under its own. -/
theorem spares_of_registers {name target : String} {actions : List (Action κ)}
    (spared : ∀ other ∈ actions, ¬(other.target = some target ∧ name = other.name)) :
    Spares name target registry (actions.map .register) := by
  induction actions generalizing registry with
  | nil => trivial
  | cons first rest ih =>
    obtain ⟨spared, later⟩ := List.forall_mem_cons.mp spared
    exact ⟨fun touches => spared touches.2, ih later⟩

end Dispatch.Registry
