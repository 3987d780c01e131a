import Dispatch.Proofs.Registry.Batch

namespace Dispatch

variable {κ μ : Type}

attribute [ext] Registry

namespace Registry

variable {actions : List (Action κ)}

/-- What is put in is kept under its target system, and all other target systems are as before. -/
theorem byTarget_insert (registry : Registry κ) (action : Action κ) (target : String) :
    (registry.insert action).byTarget.get? target =
      if action.target = some target then some ((registry.insert action).under target)
      else registry.byTarget.get? target := by
  cases declared : action.target with
  | none => simp [insert, declared]
  | some place =>
    simp only [insert, under, declared, Table.get?_insert, Option.some.injEq, eq_comm]
    split <;> simp

/-- The target systems that one of the actions declares are kept after their registrations. -/
theorem byTarget_registers (registrable : ∀ action ∈ actions, action.IsRegistrable) (registry : Registry κ)
    (target : String) :
    (registry.edits (actions.map .register)).byTarget.get? target =
      if ∃ action ∈ actions, action.target = some target then
        some ((registry.edits (actions.map .register)).under target)
      else registry.byTarget.get? target := by
  induction actions using List.reverseRecOn with
  | nil => simp [edits]
  | append_singleton actions action ih =>
    have before := ih fun other member => registrable other (List.mem_append_left _ member)
    have here : action.IsRegistrable := registrable action (by simp)
    have last : registry.edits ((actions ++ [action]).map .register) =
        (registry.edits (actions.map .register)).insert action := by
      rw [← edit_register_of_registrable here]
      simp [edits, List.foldl_append]
    rw [last, byTarget_insert, before]
    by_cases declared : action.target = some target
    · simp [declared]
    · have same : ((registry.edits (actions.map .register)).insert action).under target =
          (registry.edits (actions.map .register)).under target := by
        unfold under
        rw [byTarget_insert, if_neg declared]
      simp [declared, same, or_and_right, exists_or]

/-- Registering the same actions once more changes nothing. -/
theorem registers_twice_of_registrable (registrable : ∀ action ∈ actions, action.IsRegistrable)
    (registry : Registry κ) :
    (registry.edits (actions.map .register)).edits (actions.map .register) =
      registry.edits (actions.map .register) := by
  have found (name : String) (scope : Scope) :
      ((registry.edits (actions.map .register)).edits (actions.map .register)).get? name scope =
        (registry.edits (actions.map .register)).get? name scope := by
    rw [get?_registers registrable, get?_registers registrable, ← Option.or_assoc, Option.or_self]
  have under (target : String) :
      ((registry.edits (actions.map .register)).edits (actions.map .register)).under target =
        (registry.edits (actions.map .register)).under target :=
    Table.ext_get? fun name => found name (some target)
  apply Registry.ext
  · exact Table.ext_get? fun name => found name none
  · apply Table.ext_get?
    intro target
    rw [byTarget_registers registrable, under, byTarget_registers registrable registry]
    split <;> rfl
  · exact (equipment_registers actions _).1
  · exact (equipment_registers actions _).2

/-- Actions that are not registrable make no difference to registrations in a row. -/
theorem registers_filter (actions : List (Action κ)) (registry : Registry κ) :
    registry.edits ((actions.filter fun action => action.IsRegistrable).map .register) =
      registry.edits (actions.map .register) := by
  induction actions generalizing registry with
  | nil => rfl
  | cons action rest ih =>
    have later : registry.edits ((action :: rest).map .register) =
        (registry.edit (.register action)).edits (rest.map .register) := rfl
    by_cases registrable : action.IsRegistrable
    · rw [List.filter_cons_of_pos (by simpa using registrable), later, ← ih]
      rfl
    · rw [List.filter_cons_of_neg (by simpa using registrable), later, edit_register_of_refused registrable, ih]

/-- Registering the same actions once more changes nothing, whether they are registrable or not. -/
theorem registers_twice (actions : List (Action κ)) (registry : Registry κ) :
    (registry.edits (actions.map .register)).edits (actions.map .register) =
      registry.edits (actions.map .register) := by
  have registrable : ∀ action ∈ actions.filter fun action => action.IsRegistrable, action.IsRegistrable := by
    intro action member
    simpa using (List.mem_filter.mp member).2
  simpa only [registers_filter] using registers_twice_of_registrable registrable registry

/-- What listings, target systems and sizes tell of a registry is told of its content. -/
theorem listings_content (registry : Registry κ) (scope : Scope) (tag : Option String) :
    registry.content.listings scope tag = registry.listings scope tag := by
  have inScope : registry.content.inScope scope = (registry.inScope scope).map Action.content := by
    cases scope with
    | none => rfl
    | some target => exact under_viewed registry target
  have values (table : Table (Action κ)) : (table.map Action.content).values = table.values.map Action.content := by
    simp [Table.values, Table.map]
  unfold listings
  rw [inScope, values, List.filter_map, List.map_map]
  rfl

theorem targets_content (registry : Registry κ) : registry.content.targets = registry.targets := by
  simp [targets, Table.keys, content, Table.map]

theorem size_content (registry : Registry κ) : registry.content.size = registry.size := by
  simp [size, Table.size, content, Table.map]

end Registry

/-- The batch, identities aside. -/
def Batch.content (batch : Batch κ) : Batch κ :=
  { batch with candidates := batch.candidates.map (Except.map Action.content) }

/-- The actions that a loader registers, and the batch that is gathered, or why there is none. -/
structure Answer (κ : Type) where
  made : List (Action κ)
  outcome : Except LoadFault (Batch κ)

namespace Answer

/-- The answer, identities aside. -/
def content (answer : Answer κ) : Answer κ := ⟨answer.made.map Action.content, answer.outcome.map Batch.content⟩

/-- What a search with this answer hands back. -/
def accepted (scope : Scope) (answer : Answer κ) : List (Action κ) :=
  match answer.outcome with
  | .ok batch => Registry.acceptable scope batch.origin batch.candidates
  | .error _ => []

/-- What is registered in a search with this answer. -/
def registered (scope : Scope) (answer : Answer κ) : List (Action κ) := answer.made ++ answer.accepted scope

theorem accepted_content (scope : Scope) (answer : Answer κ) :
    (answer.content.accepted scope).map Action.content = (answer.accepted scope).map Action.content := by
  obtain ⟨made, fault | batch⟩ := answer
  · rfl
  · exact (Registry.acceptable_content scope batch.origin batch.candidates).symm

theorem registered_content (scope : Scope) (answer : Answer κ) :
    (answer.content.registered scope).map Action.content = (answer.registered scope).map Action.content := by
  unfold registered
  rw [List.map_append, List.map_append, accepted_content]
  congr 1
  exact List.map_map.trans rfl

end Answer

namespace Search

variable {host : Host κ μ} {registry : RegistryId} {scope : Scope} {dependencies : Dependencies}

/-- Searches are answered one after the other, by loaders that only register actions. -/
inductive Answered (host : Host κ μ) (registry : RegistryId) (scope : Scope) (dependencies : Dependencies) :
    World κ μ → List Search → List (Answer κ) → Prop
  | done (world : World κ μ) : Answered host registry scope dependencies world [] []
  | next {world loaded : World κ μ} {search : Search} {rest : List Search} {answer : Answer κ}
      {answers : List (Answer κ)}
      (gathers : search.Gathers host registry scope dependencies world answer.outcome loaded)
      (making : loaded.registry registry = (world.registry registry).edits (answer.made.map .register))
      (later : Answered host registry scope dependencies (search.run host registry scope dependencies world).state rest
        answers) :
      Answered host registry scope dependencies world (search :: rest) (answer :: answers)

/-- A search registers what its answer says, and hands it back. -/
theorem Gathers.answers {world loaded : World κ μ} {search : Search} {answer : Answer κ}
    (gathers : search.Gathers host registry scope dependencies world answer.outcome loaded)
    (making : loaded.registry registry = (world.registry registry).edits (answer.made.map .register)) :
    let ran := search.run host registry scope dependencies world
    ∃ found, ran.result = .ok found ∧ found.map Action.content = (answer.accepted scope).map Action.content ∧
      (ran.state.registry registry).content = (world.registry registry).content.edits
        (((answer.registered scope).map Action.content).map .register) := by
  obtain ⟨made, outcome⟩ := answer
  have registered (actions : List (Action κ)) :
      ((loaded.registry registry).edits (actions.map .register)).content =
        (world.registry registry).content.edits (((made ++ actions).map Action.content).map .register) := by
    rw [making, Registry.content_registers, Registry.content_registers, List.map_append, List.map_append]
    exact List.foldl_append.symm
  cases outcome with
  | error fault =>
    obtain ⟨returned, known, _⟩ := gathers.fails
    refine ⟨[], returned, rfl, ?_⟩
    rw [known]
    exact registered []
  | ok batch =>
    obtain ⟨found, returned, registers⟩ := gathers.registers
    refine ⟨found, returned, registers.contents, ?_⟩
    rw [registers.known, registered, List.map_append, registers.contents, ← List.map_append]
    rfl

/-- Searches in order register what their answers say, and hand it back. -/
theorem Answered.ends {world : World κ μ} {searches : List Search} {answers : List (Answer κ)}
    (answered : Answered host registry scope dependencies world searches answers) :
    let ran := Run.forEach (run host registry scope dependencies) searches world
    ∃ found, ran.result = .ok found ∧
      found.map (List.map Action.content) = answers.map (fun answer => (answer.accepted scope).map Action.content) ∧
      (ran.state.registry registry).content = (world.registry registry).content.edits
        ((answers.flatMap fun answer => (answer.registered scope).map Action.content).map .register) := by
  induction answered with
  | done world => exact ⟨[], rfl, rfl, rfl⟩
  | @next world loaded search rest answer answers gathers making later ih =>
    obtain ⟨found, returned, contents, known⟩ := gathers.answers making
    obtain ⟨others, returnedToo, contentsToo, knownToo⟩ := ih
    dsimp only
    rw [Run.forEach_cons, Run.bind_of_ok returned, Run.bind_of_ok returnedToo]
    refine ⟨found :: others, rfl, List.cons_eq_cons.mpr ⟨contents, contentsToo⟩, knownToo.trans ?_⟩
    rw [known, List.flatMap_cons, List.map_append]
    exact List.foldl_append.symm

/-- Searches leave the loader as it is, however they are answered. -/
theorem Answered.loader {world : World κ μ} {searches : List Search} {answers : List (Answer κ)}
    (answered : Answered host registry scope dependencies world searches answers) :
    ((Run.forEach (run host registry scope dependencies) searches world).state.registry registry).loader =
      (world.registry registry).loader := by
  obtain ⟨_, _, _, known⟩ := answered.ends
  have loader := congrArg Registry.loader known
  rwa [Registry.loader_registers] at loader

/-- Searches that are answered alike a second time hand the same back and do nothing to the registry. -/
theorem discover_again {world again : World κ μ} {searches : List Search} {answers others : List (Answer κ)}
    (answered : Answered host registry scope dependencies world searches answers)
    (same : again.registry registry =
      (Run.forEach (run host registry scope dependencies) searches world).state.registry registry)
    (answeredToo : Answered host registry scope dependencies again searches others)
    (alike : others.map Answer.content = answers.map Answer.content) :
    let first := Run.forEach (run host registry scope dependencies) searches world
    let second := Run.forEach (run host registry scope dependencies) searches again
    let before := first.state.registry registry
    let after := second.state.registry registry
    (∃ found handed, first.result = .ok found ∧ second.result = .ok handed ∧
      handed.map (List.map Action.content) = found.map (List.map Action.content)) ∧
    (∀ place tag, after.listings place tag = before.listings place tag) ∧ after.targets = before.targets ∧
      after.size = before.size ∧ after.content = before.content := by
  intro first second before after
  obtain ⟨found, returned, contents, known⟩ := answered.ends
  obtain ⟨handed, returnedToo, contentsToo, knownToo⟩ := answeredToo.ends
  have handing (answers : List (Answer κ)) :
      answers.map (fun answer => (answer.accepted scope).map Action.content) =
        (answers.map Answer.content).map fun answer => (answer.accepted scope).map Action.content := by
    simp [Function.comp_def, Answer.accepted_content]
  have registering (answers : List (Answer κ)) :
      answers.flatMap (fun answer => (answer.registered scope).map Action.content) =
        (answers.map Answer.content).flatMap fun answer => (answer.registered scope).map Action.content := by
    simp [List.flatMap_map, Answer.registered_content]
  have content : after.content = before.content := by
    refine knownToo.trans ?_
    rw [same, known, registering others, alike, ← registering answers]
    exact Registry.registers_twice _ _
  refine ⟨⟨found, handed, returned, returnedToo, ?_⟩, ?_, ?_, ?_, content⟩
  · rw [contents, contentsToo, handing others, alike, ← handing answers]
  · intro place tag
    rw [← Registry.listings_content, content, Registry.listings_content]
  · rw [← Registry.targets_content, content, Registry.targets_content]
  · rw [← Registry.size_content, content, Registry.size_content]

/-- Code that hands over a batch wherever it is asked to look answers alike at all times. -/
theorem answered_of_loading (batch : Batch Unit) (paths : List String) (scope : Scope) {registry : RegistryId}
    {world : World Unit Unit} (loader : (world.registry registry).loader = .custom ()) :
    Answered (.loading batch) registry scope ∅ world (paths.map fun path => .ofSource (.path path))
      (paths.map fun path => ⟨[], .ok ⟨some path, batch.candidates⟩⟩) := by
  induction paths generalizing world with
  | nil => exact .done world
  | cons path rest ih =>
    have loads : ((world.registry registry).loader.load (.loading batch) (.path path) ∅ scope world).result =
        .ok (.ok ⟨path, batch.candidates⟩) := by
      rw [loader]
      rfl
    have idle : ((world.registry registry).loader.load (.loading batch) (.path path) ∅ scope world).state.registry
        registry = (world.registry registry).edits [] := by
      rw [loader]
      rfl
    have gathers : (Search.ofSource (.path path)).Gathers (.loading batch) registry scope ∅ world
        (.ok ⟨some path, batch.candidates⟩) _ := .loaded (Run.reaches_of_ok loads)
    refine .next gathers idle (ih ?_)
    obtain ⟨found, _, registers⟩ := gathers.registers
    rw [registers.known, Registry.loader_registers, idle]
    exact loader

/-- The world after two paths have been searched for the same names under two target systems. -/
def combed (world : World Unit Unit) : World Unit Unit :=
  (Run.forEach (run (.loading .mixed) ⟨3⟩ (some "maya") ∅) [.ofSource (.path "scripts"), .ofSource (.path "more")]
    world).state

/-- To search them again makes no difference. -/
theorem discover_again_mixed :
    ((combed (combed .loading)).registry ⟨3⟩).targets = ["blender", "maya"] ∧
      ((combed (combed .loading)).registry ⟨3⟩).size = 1 := by
  let answers : List (Answer Unit) :=
    ["scripts", "more"].map fun path => ⟨[], .ok ⟨some path, Batch.mixed.candidates⟩⟩
  have answer (world : World Unit Unit) (loader : (world.registry ⟨3⟩).loader = .custom ()) :
      Answered (.loading .mixed) ⟨3⟩ (some "maya") ∅ world
        [.ofSource (.path "scripts"), .ofSource (.path "more")] answers :=
    answered_of_loading .mixed ["scripts", "more"] (some "maya") loader
  have again (world : World Unit Unit) (loader : (world.registry ⟨3⟩).loader = .custom ()) :
      ((combed (combed world)).registry ⟨3⟩).targets = ((combed world).registry ⟨3⟩).targets ∧
        ((combed (combed world)).registry ⟨3⟩).size = ((combed world).registry ⟨3⟩).size := by
    have answered := answer world loader
    obtain ⟨_, _, targets, size, _⟩ :=
      discover_again answered rfl (answer (combed world) (answered.loader.trans loader)) rfl
    exact ⟨targets, size⟩
  have known : ((combed .loading).registry ⟨3⟩).targets = ["blender", "maya"] ∧
      ((combed .loading).registry ⟨3⟩).size = 1 := by
    decide +kernel
  obtain ⟨targets, size⟩ := again .loading rfl
  exact ⟨targets.trans known.1, size.trans known.2⟩

end Search

end Dispatch
