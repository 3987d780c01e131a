import Dispatch.Proofs.Registry.Reachable

namespace Dispatch

variable {κ μ : Type}

namespace Registry

variable {registry : Registry κ}

/-- Every name that is found under some target system is found regardless of target systems. -/
def Joined (registry : Registry κ) : Prop :=
  ∀ name target action, registry.get? name (some target) = some action → (registry.get? name none).isSome = true

/-- An edit takes a name from the index over all while another target system has an action of this name. -/
def Strands (registry : Registry κ) : Edit κ → Prop
  | .unregister name scope =>
    ∃ action, registry.get? name scope = some action ∧ registry.get? name none = some action ∧
      ∃ target, action.target ≠ some target ∧ (registry.get? name (some target)).isSome = true
  | _ => False

/-- No edit of a history strands anything. -/
def Careful : Registry κ → List (Edit κ) → Prop
  | _, [] => True
  | registry, first :: rest => ¬registry.Strands first ∧ Careful (registry.edit first) rest

theorem joined_of_bare (bare : registry.actions = ∅ ∧ registry.byTarget = ∅) : registry.Joined := by
  intro name target action found
  obtain ⟨_, noTargets⟩ := bare
  simp [get?, inScope, under, noTargets, EmptyCollection.emptyCollection] at found

/-- What is put in is found over all. -/
theorem Joined.insert (joined : registry.Joined) (action : Action κ) : (registry.insert action).Joined := by
  intro name target found here
  rw [get?_insert_none]
  rw [get?_insert_some] at here
  split
  · rfl
  · rename_i other
    rw [if_neg fun both => other both.2] at here
    exact joined name target found here

/-- An unregistration that strands an action leaves its name missing over all. -/
theorem Coherent.not_joined_of_strands (coherent : registry.Coherent) {name : String} {scope : Scope}
    (strands : registry.Strands (.unregister name scope)) : ¬(registry.unregister name scope).2.Joined := by
  obtain ⟨action, found, latest, target, elsewhere, held⟩ := strands
  obtain ⟨left, here⟩ := Option.isSome_iff_exists.mp held
  intro joined
  have other : registry.get? name scope ≠ some left := by
    intro same
    have same : action = left := Option.some.inj (found.symm.trans same)
    exact elsewhere (same ▸ coherent.placed here)
  have stays := coherent.get?_unregister_iff.mpr ⟨here, other⟩
  obtain ⟨still, overall⟩ := Option.isSome_iff_exists.mp (joined name target left stays)
  obtain ⟨before, taken⟩ := coherent.get?_unregister_iff.mp overall
  exact taken (found.trans (latest.symm.trans before))

/-- Any other unregistration takes a name from the index over all with the last action that has it. -/
theorem Coherent.joined_unregister (coherent : registry.Coherent) (joined : registry.Joined) {name : String}
    {scope : Scope} (careful : ¬registry.Strands (.unregister name scope)) :
    (registry.unregister name scope).2.Joined := by
  intro other target left stays
  obtain ⟨here, kept⟩ := coherent.get?_unregister_iff.mp stays
  obtain ⟨latest, overall⟩ := Option.isSome_iff_exists.mp (joined other target left here)
  by_cases taken : registry.get? name scope = some latest
  · exfalso
    obtain rfl : other = name := (coherent.named overall).symm.trans (coherent.named taken)
    have elsewhere : latest.target ≠ some target := by
      intro declared
      have same : left = latest := Option.some.inj (here.symm.trans (coherent.linked overall declared))
      exact kept (same ▸ taken)
    exact careful ⟨latest, taken, overall, target, elsewhere, by simp [here]⟩
  · rw [coherent.get?_unregister_iff.mpr ⟨overall, taken⟩]
    rfl

/-- One edit keeps all names findable over all just when it strands nothing. -/
theorem Coherent.joined_edit_iff (coherent : registry.Coherent) (joined : registry.Joined) (edit : Edit κ) :
    (registry.edit edit).Joined ↔ ¬registry.Strands edit := by
  cases edit with
  | register action =>
    refine iff_of_true ?_ not_false
    by_cases registrable : action.IsRegistrable
    · rw [edit_register_of_registrable registrable]
      exact joined.insert action
    · rw [edit_register_of_refused registrable]
      exact joined
  | unregister name scope =>
    constructor
    · intro still strands
      exact coherent.not_joined_of_strands strands still
    · intro careful
      exact coherent.joined_unregister joined careful
  | reset => exact iff_of_true (joined_of_bare ⟨rfl, rfl⟩) not_false
  | setLoader loader => exact iff_of_true joined not_false
  | addHook package code => exact iff_of_true joined not_false
  | clearHooks => exact iff_of_true joined not_false

/-- Throughout a history all names can be found over all just when none of its edits strands anything. -/
theorem Coherent.joined_throughout_iff (coherent : registry.Coherent) (joined : registry.Joined)
    (list : List (Edit κ)) :
    (∀ front, front <+: list → (registry.edits front).Joined) ↔ Careful registry list := by
  induction list generalizing registry with
  | nil =>
    refine iff_of_true (fun front within => ?_) trivial
    rw [List.prefix_nil.mp within]
    exact joined
  | cons first rest ih =>
    constructor
    · intro throughout
      have once : (registry.edit first).Joined := throughout [first] (by simp)
      refine ⟨(coherent.joined_edit_iff joined first).mp once, (ih (coherent.edit first) once).mp ?_⟩
      intro front within
      exact throughout (first :: front) ((List.cons_prefix_cons).mpr ⟨rfl, within⟩)
    · rintro ⟨careful, later⟩ front within
      have once : (registry.edit first).Joined := (coherent.joined_edit_iff joined first).mpr careful
      cases front with
      | nil => exact joined
      | cons head front =>
        obtain ⟨rfl, rest⟩ := List.cons_prefix_cons.mp within
        exact (ih (coherent.edit head) once).mpr later front rest

/-- With the index over all the one by target systems is empty. -/
theorem Joined.targets_of_isEmpty (joined : registry.Joined) (tidy : registry.Tidy) (empty : registry.isEmpty = true) :
    registry.targets = [] := by
  have nothing (target : String) : registry.byTarget.get? target = none := by
    cases kept : registry.byTarget.get? target with
    | none => rfl
    | some there =>
      have missing (name : String) : there.get? name = none := by
        have overAll : registry.get? name none = none := Table.isEmpty_iff.mp empty name
        cases here : there.get? name with
        | none => rfl
        | some action =>
          have found : registry.get? name (some target) = some action := by
            simp [get?, inScope, under, kept, here]
          simpa [overAll] using joined name target action found
      have empty : there.isEmpty = true := Table.isEmpty_iff.mpr missing
      simp [tidy target there kept] at empty
  have bare : registry.byTarget = Table.empty := Table.ext_get? nothing
  unfold targets
  rw [bare]
  rfl

end Registry

namespace RegistryId

variable {host : Host κ μ} {registry : RegistryId}

/-- All that is found under target systems is found regardless of them just when no edit strands anything. -/
theorem found_over_all_of_careful {made world : World κ μ}
    (bare : (made.registry registry).actions = ∅ ∧ (made.registry registry).byTarget = ∅)
    {past : List (Registry.Edit κ)}
    (edited : world.registry registry = (made.registry registry).edits past) :
    let known := world.registry registry
    ((∀ front, front <+: past → ((made.registry registry).edits front).Joined) ↔
        Registry.Careful (made.registry registry) past) ∧
      (Registry.Careful (made.registry registry) past →
        (∀ name target action, known.get? name (some target) = some action →
            ∃ other, known.get? name none = some other) ∧
          (known.isEmpty = true → known.targets = []) ∧
          ∀ target name, name ∈ known.names (some target) → name ∈ known.names none) := by
  intro known
  have fresh : (made.registry registry).Coherent := Registry.coherent_of_bare bare
  have throughout := fresh.joined_throughout_iff (Registry.joined_of_bare bare) past
  refine ⟨throughout, fun careful => ?_⟩
  have coherent : known.Coherent := by
    change (world.registry registry).Coherent
    rw [edited]
    exact fresh.edits past
  have joined : known.Joined := by
    change (world.registry registry).Joined
    rw [edited]
    exact throughout.mpr careful past List.prefix_rfl
  refine ⟨?_, joined.targets_of_isEmpty coherent.tidy, ?_⟩
  · intro name target action found
    exact Option.isSome_iff_exists.mp (joined name target action found)
  · intro target name listed
    obtain ⟨action, found⟩ := Option.isSome_iff_exists.mp (coherent.mem_names_iff.mp listed)
    exact coherent.mem_names_iff.mpr (joined name target action found)

/-- An unregistration that does not take the latest action of its name strands nothing. -/
theorem found_over_all_of_careful_echo :
    let past : List (Registry.Edit Unit) :=
      [.register (Action.echo "maya"), .register (Action.echo "blender"), .unregister "echo" (some "maya")]
    let known := (Registry.empty default : Registry Unit).edits past
    Registry.Careful (Registry.empty default) past ∧ known.get? "echo" (some "blender") = some (Action.echo "blender") ∧
      ∃ other, known.get? "echo" none = some other := by
  intro past known
  have careful : Registry.Careful (Registry.empty default) past := by
    refine ⟨not_false, not_false, ?_, trivial⟩
    rintro ⟨action, found, latest, _⟩
    have found : some (Action.echo "maya") = some action := found
    have latest : some (Action.echo "blender") = some action := latest
    have same : Action.echo "maya" = Action.echo "blender" := Option.some.inj (found.trans latest.symm)
    exact absurd (congrArg Action.target same) (by decide)
  let made : World Unit Unit := World.start () fun _ => 0
  have edited : (made.setRegistry ⟨3⟩ known).registry ⟨3⟩ = (made.registry ⟨3⟩).edits past := rfl
  have found : known.get? "echo" (some "blender") = some (Action.echo "blender") := rfl
  exact ⟨careful, found, ((found_over_all_of_careful ⟨rfl, rfl⟩ edited).2 careful).1 _ _ _ found⟩

/-- Not all that a target system has is found over all, once its name is unregistered under another one. -/
theorem not_always_found_over_all : ¬∀ (κ μ : Type) (host : Host κ μ) (registry : RegistryId) (world : World κ μ),
    host.Respects registry → registry.Reached host world → ∀ name target action,
      (world.registry registry).get? name (some target) = some action →
        ∃ other, (world.registry registry).get? name none = some other := by
  intro always
  have made : Reached Host.plain ⟨3⟩ (World.start () fun _ => 0) := .made ⟨rfl, rfl⟩
  have both := (made.stepped (.register (Action.echo "maya"))).stepped (.register (Action.echo "blender"))
  have reached := both.stepped (.unregister "echo" (some "blender"))
  obtain ⟨other, overall⟩ :=
    always Unit Unit Host.plain ⟨3⟩ _ (plain_respects _) reached "echo" "maya" (Action.echo "maya") rfl
  cases overall

end RegistryId

end Dispatch
