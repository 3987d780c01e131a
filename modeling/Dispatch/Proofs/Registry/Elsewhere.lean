import Dispatch.Proofs.Registry.Batch
import Mathlib.Data.List.Forall2

namespace Dispatch

variable {κ μ : Type}

namespace Registry

/-- An edit that touches other target systems only. -/
def Edit.Elsewhere (target : String) : Edit κ → Prop
  | .register action => action.target ≠ some target
  | .unregister _ (some place) => place ≠ target
  | _ => False

/-- Edits that do the same with actions taken to be the same, and none that disregards target systems. -/
inductive Edit.Like (same : Action κ → Action κ → Prop) : Edit κ → Edit κ → Prop
  | register {action other : Action κ} (alike : same action other) : Like same (.register action) (.register other)
  | unregister (name target : String) : Like same (.unregister name (some target)) (.unregister name (some target))
  | reset : Like same .reset .reset
  | setLoader (loader : Loader κ) : Like same (.setLoader loader) (.setLoader loader)
  | addHook (package : String) (code : κ) : Like same (.addHook package code) (.addHook package code)
  | clearHooks : Like same .clearHooks .clearHooks

variable {same : Action κ → Action κ → Prop} {target : String} {first second : Registry κ}

/-- Under a target system two registries have the same, name by name. -/
def Agree (same : Action κ → Action κ → Prop) (target : String) (first second : Registry κ) : Prop :=
  ∀ name, Option.Rel same (first.get? name (some target)) (second.get? name (some target))

/-- What is only done elsewhere touches no name of the target system. -/
theorem Edit.Elsewhere.not_touches {edit : Edit κ} (elsewhere : edit.Elsewhere target) (name : String) :
    ¬first.Touches name target edit := by
  intro touches
  cases edit with
  | register action => exact elsewhere touches.2.1
  | unregister other scope =>
    cases scope with
    | some place => exact elsewhere touches.1.symm
    | none => exact elsewhere
  | reset => exact elsewhere
  | setLoader loader => exact touches
  | addHook package code => exact touches
  | clearHooks => exact touches

/-- Edits elsewhere keep the agreement. -/
theorem Agree.edits_elsewhere (agree : Agree same target first second) {list : List (Edit κ)}
    (elsewhere : ∀ edit ∈ list, edit.Elsewhere target) : Agree same target first (second.edits list) := by
  induction list generalizing second with
  | nil => exact agree
  | cons edit rest ih =>
    obtain ⟨here, later⟩ := List.forall_mem_cons.mp elsewhere
    refine ih (fun name => ?_) later
    rw [get?_edit_of_untouched (here.not_touches name)]
    exact agree name

/-- Actions that are taken to be the same have the same content. -/
def RespectsContent (same : Action κ → Action κ → Prop) : Prop :=
  ∀ action other, same action other → action.content = other.content

/-- The same edit on both sides keeps the agreement. -/
theorem Agree.edit_like (contents : RespectsContent same) (agree : Agree same target first second)
    {edit other : Edit κ} (like : edit.Like same other) : Agree same target (first.edit edit) (second.edit other) := by
  intro name
  cases like with
  | @register action rival alike =>
    have content := contents action rival alike
    have named : action.name = rival.name := by simpa using congrArg Action.name content
    have declared : action.target = rival.target := by simpa using congrArg Action.target content
    by_cases registrable : action.IsRegistrable
    · have too := (Action.isRegistrable_congr content).mp registrable
      rw [edit_register_of_registrable registrable, edit_register_of_registrable too, get?_insert_some,
        get?_insert_some, named, declared]
      split
      · exact .some alike
      · exact agree name
    · have too := mt (Action.isRegistrable_congr content).mpr registrable
      rw [edit_register_of_refused registrable, edit_register_of_refused too]
      exact agree name
  | unregister other place =>
    change Option.Rel same ((first.unregisterScoped other place).2.get? name (some target))
      ((second.unregisterScoped other place).2.get? name (some target))
    rw [get?_unregisterScoped_some, get?_unregisterScoped_some]
    split
    · exact .none
    · exact agree name
  | reset => exact .none
  | setLoader loader => exact agree name
  | addHook package code => exact agree name
  | clearHooks => exact agree name

theorem Agree.edits_like (contents : RespectsContent same) (agree : Agree same target first second)
    {list others : List (Edit κ)} (like : List.Forall₂ (Edit.Like same) list others) :
    Agree same target (first.edits list) (second.edits others) := by
  induction like generalizing first second with
  | nil => exact agree
  | cons head _ ih => exact ih (agree.edit_like contents head)

end Registry

/-- A search in a scope as an operation of a registry. -/
def Search.operation (scope : Scope) (dependencies : Dependencies) : Search → RegistryId.Operation κ
  | .ofSource source => .discover source scope dependencies
  | .ofPackage name => .discoverPackage name scope dependencies

namespace RegistryId

variable {host : Host κ μ} {registry : RegistryId}

/-- What an operation of a registry comes to in a world, as edits. -/
inductive Effects (host : Host κ μ) (registry : RegistryId) (world : World κ μ) :
    Operation κ → List (Registry.Edit κ) → Prop
  | register (action : Action κ) : Effects host registry world (.register action) [.register action]
  | unregister (name : String) (scope : Scope) :
      Effects host registry world (.unregister name scope) [.unregister name scope]
  | reset : Effects host registry world .reset [.reset]
  | search {search : Search} {scope : Scope} {dependencies : Dependencies} {batch : Batch κ} {loaded : World κ μ}
      {made : List (Registry.Edit κ)} {found : List (Action κ)}
      (gathers : search.Gathers host registry scope dependencies world (.ok batch) loaded)
      (loading : loaded.registry registry = (world.registry registry).edits made)
      (returned : (search.run host registry scope dependencies world).result = .ok found) :
      Effects host registry world (search.operation scope dependencies) (made ++ found.map .register)

/-- An operation does to the registry what it comes to. -/
theorem Effects.edits {world : World κ μ} {operation : Operation κ} {list : List (Registry.Edit κ)}
    (effects : Effects host registry world operation list) :
    (operation.run host registry world).state.registry registry = (world.registry registry).edits list := by
  cases effects with
  | register action =>
    unfold Operation.run
    rw [Run.state_bind_pure]
    exact registry.register_edits action world
  | unregister name scope => exact if_pos rfl
  | reset => exact if_pos rfl
  | @search search scope dependencies batch loaded made found gathers loading returned =>
    have ran : ((search.operation scope dependencies).run host registry world).state =
        (search.run host registry scope dependencies world).state := by
      cases search <;> exact Run.state_bind_pure _ _ _
    obtain ⟨handed, ended, registers⟩ := gathers.registers
    cases ended.symm.trans returned
    rw [ran, registers.known, loading]
    exact (List.foldl_append).symm

section batches
variable {scope : Scope} {origin : Option String} {candidates others : List (Except DiscoveryFault (Action κ))}
  {before after once later : Registry κ} {found handed : List (Action κ)}

/-- A batch whose acceptable candidates belong to other target systems is registered elsewhere. -/
theorem Registers.elsewhere (registers : Registers scope origin candidates before after found) {target : String}
    (foreign : ∀ action ∈ Registry.acceptable scope origin candidates, action.target ≠ some target) :
    ∀ edit ∈ found.map Registry.Edit.register, edit.Elsewhere target := by
  intro edit member
  obtain ⟨action, among, rfl⟩ := List.mem_map.mp member
  have accepted : action.content ∈ (Registry.acceptable scope origin candidates).map Action.content := by
    rw [← registers.contents]
    exact List.mem_map_of_mem among
  obtain ⟨wanted, acceptable, content⟩ := List.mem_map.mp accepted
  have declared : wanted.target = action.target := by simpa using congrArg Action.target content
  change action.target ≠ some target
  rw [← declared]
  exact foreign wanted acceptable

/-- Batches that come to candidates of the same content are registered alike. -/
theorem Registers.like (registers : Registers scope origin candidates before after found)
    (too : Registers scope origin others once later handed)
    (same : (Registry.acceptable scope origin candidates).map Action.content =
      (Registry.acceptable scope origin others).map Action.content) :
    List.Forall₂ (Registry.Edit.Like fun action other => action.content = other.content)
      (found.map .register) (handed.map .register) := by
  have contents : List.Forall₂ Eq (found.map Action.content) (handed.map Action.content) := by
    rw [registers.contents, same, too.contents]
    exact List.forall₂_refl _
  rw [List.forall₂_map_left_iff, List.forall₂_map_right_iff] at contents ⊢
  exact contents.imp fun action other alike => Registry.Edit.Like.register alike

end batches

/-- Two histories of a registry, of which the second has more operations, all on other target systems. -/
inductive Woven (host : Host κ μ) (registry : RegistryId) (target : String) (same : Action κ → Action κ → Prop)
    (start : World κ μ) : World κ μ → World κ μ → Prop
  | start : Woven host registry target same start start start
  | both {plain woven : World κ μ} {operation : Operation κ} {list others : List (Registry.Edit κ)}
      (past : Woven host registry target same start plain woven)
      (effects : Effects host registry plain operation list)
      (too : Effects host registry woven operation others)
      (like : List.Forall₂ (Registry.Edit.Like same) list others) :
      Woven host registry target same start (operation.run host registry plain).state
        (operation.run host registry woven).state
  | inserted {plain woven : World κ μ} {operation : Operation κ} {list : List (Registry.Edit κ)}
      (past : Woven host registry target same start plain woven)
      (effects : Effects host registry woven operation list)
      (elsewhere : ∀ edit ∈ list, edit.Elsewhere target) :
      Woven host registry target same start plain (operation.run host registry woven).state
  | meanwhile {plain woven after later : World κ μ} {list others : List (Registry.Edit κ)}
      (past : Woven host registry target same start plain woven)
      (edited : after.registry registry = (plain.registry registry).edits list)
      (too : later.registry registry = (woven.registry registry).edits others)
      (like : List.Forall₂ (Registry.Edit.Like same) list others) :
      Woven host registry target same start after later

/-- Whatever is woven in elsewhere, under the target system both histories come to the same. -/
theorem Woven.agree {target : String} {same : Action κ → Action κ → Prop} (reflexive : ∀ action, same action action)
    (contents : Registry.RespectsContent same) {start plain woven : World κ μ}
    (histories : Woven host registry target same start plain woven) :
    Registry.Agree same target (plain.registry registry) (woven.registry registry) := by
  induction histories with
  | start =>
    intro name
    cases (start.registry registry).get? name (some target) with
    | none => exact .none
    | some action => exact .some (reflexive action)
  | both _ effects too like agree =>
    rw [effects.edits, too.edits]
    exact agree.edits_like contents like
  | inserted _ effects elsewhere agree =>
    rw [effects.edits]
    exact agree.edits_elsewhere elsewhere
  | meanwhile _ edited too like agree =>
    rw [edited, too]
    exact agree.edits_like contents like

end RegistryId

end Dispatch
