import Dispatch.Manager.Sharing
import Dispatch.Proofs.Identifier
import Dispatch.Proofs.World
import Mathlib.Data.List.Dedup

namespace Dispatch.Manager

variable {κ μ : Type}

/-- Target system and name of a manager. -/
def names (manager : Manager) : String × String := (manager.target, manager.name)

/-- Texts that both are identifiers, and the pair of identifiers that they stand for. -/
def StandFor (target name : String) (pair : String × String) : Prop :=
  Identifier.Rules.targetSystem.normalize target = .ok pair.1 ∧ Identifier.Rules.manager.normalize name = .ok pair.2

/-- The key of a pair of identifiers. -/
def keyOf (pair : String × String) : String := pair.1 ++ ":" ++ pair.2

section keys
variable {target name : String} {pair other : String × String}

theorem identifiers_ok_iff : identifiers target name = .ok pair ↔ StandFor target name pair := by
  unfold identifiers identifier StandFor
  cases Identifier.Rules.targetSystem.normalize target with
  | error fault => simp [bind, Except.bind]
  | ok core =>
    cases Identifier.Rules.manager.normalize name with
    | error fault => simp [bind, Except.bind]
    | ok title => simp [bind, Except.bind, pure, Except.pure, Prod.ext_iff]

/-- Identifiers stand for themselves. -/
theorem StandFor.normal (stand : StandFor target name pair) : StandFor pair.1 pair.2 pair :=
  ⟨Identifier.normalize_normal stand.1, Identifier.normalize_normal stand.2⟩

theorem StandFor.unique (stand : StandFor target name pair) (stand' : StandFor target name other) : other = pair := by
  have first : other.1 = pair.1 := by simpa [stand.1] using stand'.1.symm
  have second : other.2 = pair.2 := by simpa [stand.2] using stand'.2.symm
  exact Prod.ext first second

theorem cacheKey_of_standFor (stand : StandFor target name pair) : cacheKey target name = keyOf pair := by
  simp [cacheKey, keyOf, stand.1, stand.2]

/-- Only texts that stand for a pair of identifiers have its key. -/
theorem standFor_of_cacheKey (normal : StandFor pair.1 pair.2 pair) (same : cacheKey target name = keyOf pair) :
    StandFor target name pair := by
  have bare := Identifier.colon_not_mem rfl normal.1
  have bare' := Identifier.colon_not_mem rfl normal.2
  obtain ⟨first, second⟩ := Identifier.join_colon_inj bare bare' same
  constructor
  · cases admitted : Identifier.Rules.targetSystem.normalize target with
    | ok core => simpa [admitted] using first
    | error fault =>
      -- the text would stand for itself in the key, and be the identifier after all
      simp only [admitted] at first
      rw [first, normal.1] at admitted
      cases admitted
  · cases admitted : Identifier.Rules.manager.normalize name with
    | ok core => simpa [admitted] using second
    | error fault =>
      simp only [admitted] at second
      rw [second, normal.2] at admitted
      cases admitted

/-- Different pairs of identifiers have different keys. -/
theorem keyOf_inj (normal : StandFor pair.1 pair.2 pair) (same : keyOf other = keyOf pair) : other = pair := by
  have bare := Identifier.colon_not_mem rfl normal.1
  have bare' := Identifier.colon_not_mem rfl normal.2
  obtain ⟨first, second⟩ := Identifier.join_colon_inj bare bare' same
  exact Prod.ext first second

end keys

/-- A run that neither looks at the shared managers nor changes them: it goes alike whichever there are. -/
def Overlooks {α : Type} (run : Act κ μ α) : Prop := ∀ world table,
  run { world with shared := table } =
    ⟨(run world).result, { (run world).state with shared := table }, (run world).journal⟩

section overlooks
variable {α β : Type}

theorem Overlooks.apart {run : Act κ μ α} (overlooks : Overlooks run) (world : World κ μ) :
    (run world).state.shared = world.shared := by
  have same := congrArg (fun ran => ran.state.shared) (overlooks world world.shared)
  exact same

theorem overlooks_pure (value : α) : Overlooks (pure value : Act κ μ α) := fun _ _ => rfl

/-- An edit of other parts of the world overlooks the shared managers. -/
theorem overlooks_update {f : World κ μ → World κ μ}
    (elsewhere : ∀ world table, f { world with shared := table } = { f world with shared := table }) :
    Overlooks (Run.update f : Act κ μ Unit) := by
  intro world table
  rw [Run.update_apply, Run.update_apply, elsewhere]

theorem Overlooks.bind {first : Act κ μ α} {next : α → Act κ μ β} (overlooks : Overlooks first)
    (overlooksNext : ∀ value, Overlooks (next value)) : Overlooks (first >>= next) := by
  intro world table
  have begun := overlooks world table
  cases ran : (first world).result with
  | error panic =>
    have panicked : (first { world with shared := table }).result = .error panic := by rw [begun, ran]
    rw [Run.bind_of_error ran, Run.bind_of_error panicked, begun]
  | ok value =>
    have returned : (first { world with shared := table }).result = .ok value := by rw [begun, ran]
    rw [Run.bind_of_ok ran, Run.bind_of_ok returned, begun, overlooksNext value]

/-- Whoever looks at other parts of the world overlooks the shared managers. -/
theorem overlooks_state_bind {next : World κ μ → Act κ μ α}
    (elsewhere : ∀ world table, next { world with shared := table } = next world)
    (overlooks : ∀ world, Overlooks (next world)) : Overlooks (Run.state >>= next) := by
  intro world table
  rw [Run.state_bind, Run.state_bind, elsewhere]
  exact overlooks world world table

theorem record_overlooks (severity : Severity) (message : String) (fields : List (String × Json)) :
    Overlooks (Act.record severity message fields : Act κ μ Unit) := overlooks_update fun _ _ => rfl

theorem freshIndex_overlooks : Overlooks (Act.freshIndex : Act κ μ Nat) := fun _ _ => rfl

theorem registryFor_overlooks (given : Option RegistryId) : Overlooks (registryFor given : Act κ μ RegistryId) := by
  cases given with
  | some id => exact overlooks_pure id
  | none =>
    refine overlooks_state_bind (fun _ _ => rfl) fun world => ?_
    cases world.globalRegistry with
    | some id => exact overlooks_pure id
    | none =>
      have created : Overlooks (RegistryId.create : Act κ μ RegistryId) := fun _ _ => rfl
      exact (record_overlooks _ _ _).bind fun _ => created.bind fun id =>
        (overlooks_update fun _ _ => rfl).bind fun _ => overlooks_pure id

theorem make_overlooks (target name : String) (settings : Settings) :
    Overlooks (make target name settings : Act κ μ Manager) := by
  refine (registryFor_overlooks settings.registry).bind fun registry => ?_
  have timed : Overlooks (Act.now : Act κ μ Nat) := fun _ _ => rfl
  refine timed.bind fun time => (record_overlooks _ _ _).bind fun _ => freshIndex_overlooks.bind fun index => ?_
  exact (overlooks_update fun _ _ => rfl).bind fun _ => overlooks_pure _

theorem create_overlooks (target name : String) (settings : Settings) :
    Overlooks (create target name settings : Act κ μ (Except ConfigFault Manager)) := by
  unfold create
  split
  · exact overlooks_pure _
  · exact (make_overlooks _ _ _).bind fun manager => overlooks_pure _

end overlooks

/-- A manager of these names comes into the world, under an identity that was not taken. -/
structure Arises (pair : String × String) (manager : Manager) (before after : World κ μ) : Prop where
  named : manager.names = pair
  fresh : before.fresh ≤ manager.id.index
  taken : manager.id.index < after.fresh

section create
variable {target name : String} {pair : String × String} (settings : Settings) (world : World κ μ)

theorem registryFor_ends (given : Option RegistryId) : ∃ id after,
    registryFor given world = ⟨.ok id, after, []⟩ ∧ world.fresh ≤ after.fresh := by
  cases given with
  | some id => exact ⟨id, world, rfl, Nat.le_refl _⟩
  | none =>
    simp only [registryFor, RegistryId.global, Run.state_bind]
    cases world.globalRegistry with
    | some id => exact ⟨id, world, rfl, Nat.le_refl _⟩
    | none =>
      have later : world.fresh ≤ world.fresh + 1 + 1 := by omega
      exact ⟨_, _, rfl, later⟩

theorem make_ends (target name : String) : ∃ manager after,
    make target name settings world = ⟨.ok manager, after, []⟩ ∧ Arises (target, name) manager world after := by
  obtain ⟨registry, ready, found, later⟩ := registryFor_ends world settings.registry
  unfold make
  rw [Run.bind_apply_ok found]
  exact ⟨_, _, rfl, rfl, later, Nat.lt_succ_self _⟩

/-- Texts that are no identifiers make no manager. -/
theorem create_of_unnamed (unnamed : ¬∃ pair, StandFor target name pair) : ∃ fault,
    create target name settings world = ⟨.ok (.error fault), world, []⟩ := by
  unfold create
  cases named : identifiers target name with
  | error fault => exact ⟨fault, rfl⟩
  | ok pair => exact absurd ⟨pair, identifiers_ok_iff.mp named⟩ unnamed

theorem create_of_named (stand : StandFor target name pair) : ∃ manager after,
    create target name settings world = ⟨.ok (.ok manager), after, []⟩ ∧ Arises pair manager world after := by
  unfold create
  rw [identifiers_ok_iff.mpr stand]
  obtain ⟨manager, after, made, arises⟩ := make_ends settings world pair.1 pair.2
  exact ⟨manager, after, Run.bind_apply_ok made _, arises⟩

end create

/-- A request for a manager of these names, shared or of one's own, or to give all shared ones up. -/
inductive Request where
  | obtain (target name : String) (settings : Settings) (own : Bool)
  | clear

/-- A request is run for what it does to the world. -/
def Request.run : Request → Act κ μ Unit
  | .obtain target name settings own => do let _ ← Manager.obtain target name settings own
  | .clear => do let _ ← clearShared

/-- Requests from the one world to the other, the latest first, between which sharing was left alone. -/
inductive Requested (start : World κ μ) : List Request → World κ μ → Prop
  | nothing : Requested start [] start
  | made {past : List Request} {world : World κ μ} (earlier : Requested start past world) (request : Request) :
      Requested start (request :: past) (request.run world).state
  | meanwhile {past : List Request} {world other : World κ μ} (earlier : Requested start past world)
      (apart : other.shared = world.shared) (later : world.fresh ≤ other.fresh) : Requested start past other

/-- The pairs of identifiers for which a shared manager was asked since all were given up. -/
def standing : List Request → List (String × String)
  | [] => []
  | .clear :: _ => []
  | .obtain _ _ _ true :: past => standing past
  | .obtain target name _ false :: past =>
    match identifiers target name with
    | .error _ => standing past
    | .ok pair => pair :: standing past

/-- Every manager is shared under the key of its own names, and no manager is shared twice. -/
structure Orderly (world : World κ μ) : Prop where
  keyed (key : String) (manager : Manager) (kept : world.shared.get? key = some manager) : key = keyOf manager.names
  normal (key : String) (manager : Manager) (kept : world.shared.get? key = some manager) :
    StandFor manager.names.1 manager.names.2 manager.names
  taken (key : String) (manager : Manager) (kept : world.shared.get? key = some manager) :
    manager.id.index < world.fresh
  single (key key' : String) (manager manager' : Manager) (kept : world.shared.get? key = some manager)
    (kept' : world.shared.get? key' = some manager') (same : manager'.id = manager.id) : manager' = manager

/-- What a request for a manager does to the shared ones: nothing, or one more is shared. -/
inductive Grows (before after : World κ μ) : Prop
  | none (same : after.shared = before.shared) (later : before.fresh ≤ after.fresh)
  | added {pair : String × String} {manager : Manager} (normal : StandFor pair.1 pair.2 pair)
      (absent : before.shared.get? (keyOf pair) = Option.none) (arises : Arises pair manager before after)
      (added : after.shared = before.shared.insert (keyOf pair) manager)

theorem Grows.later {before after : World κ μ} (grows : Grows before after) : before.fresh ≤ after.fresh := by
  cases grows with
  | none _ later => exact later
  | added _ _ arises _ => exact Nat.le_of_lt (Nat.lt_of_le_of_lt arises.fresh arises.taken)

/-- What was shared stays so. -/
theorem Grows.kept {before after : World κ μ} (grows : Grows before after) {key : String} {manager : Manager}
    (kept : before.shared.get? key = some manager) : after.shared.get? key = some manager := by
  cases grows with
  | none same _ => rw [same]; exact kept
  | @added pair other normal absent arises added =>
    have elsewhere : key ≠ keyOf pair := by
      rintro rfl
      rw [absent] at kept
      cases kept
    rw [added, Table.get?_insert_of_ne _ elsewhere]
    exact kept

/-- What is shared was so, or has just been made. -/
theorem Grows.known {before after : World κ μ} (grows : Grows before after) {key : String} {manager : Manager}
    (kept : after.shared.get? key = some manager) :
    before.shared.get? key = some manager ∨ before.fresh ≤ manager.id.index := by
  cases grows with
  | none same _ =>
    rw [same] at kept
    exact .inl kept
  | @added pair other normal absent arises added =>
    rw [added, Table.get?_insert] at kept
    split at kept
    · cases kept
      exact .inr arises.fresh
    · exact .inl kept

theorem orderly_of_bare {world : World κ μ} (bare : world.shared = ∅) : Orderly world := by
  have nothing (key : String) (manager : Manager) : world.shared.get? key ≠ some manager := by
    rw [bare]
    exact nofun
  constructor
  · exact fun key manager kept => absurd kept (nothing key manager)
  · exact fun key manager kept => absurd kept (nothing key manager)
  · exact fun key manager kept => absurd kept (nothing key manager)
  · exact fun key _ manager _ kept => absurd kept (nothing key manager)

/-- Requests for managers leave the shared ones in order. -/
theorem Orderly.grows {before after : World κ μ} (orderly : Orderly before) (grows : Grows before after) :
    Orderly after := by
  cases grows with
  | none same later =>
    constructor
    · rw [same]; exact orderly.keyed
    · rw [same]; exact orderly.normal
    · rw [same]; exact fun key manager kept => Nat.lt_of_lt_of_le (orderly.taken key manager kept) later
    · rw [same]; exact orderly.single
  | @added pair manager normal absent arises added =>
    have entry (key : String) (other : Manager) (kept : after.shared.get? key = some other) :
        (key = keyOf pair ∧ other = manager) ∨ (key ≠ keyOf pair ∧ before.shared.get? key = some other) := by
      rw [added, Table.get?_insert] at kept
      by_cases here : key = keyOf pair
      · simp_all
      · simp_all
    constructor
    · intro key other kept
      rcases entry key other kept with ⟨rfl, rfl⟩ | ⟨_, kept⟩
      · rw [arises.named]
      · exact orderly.keyed key other kept
    · intro key other kept
      rcases entry key other kept with ⟨rfl, rfl⟩ | ⟨_, kept⟩
      · rw [← arises.named] at normal
        exact normal
      · exact orderly.normal key other kept
    · intro key other kept
      rcases entry key other kept with ⟨rfl, rfl⟩ | ⟨_, kept⟩
      · exact arises.taken
      · have known := orderly.taken key other kept
        have fresh := arises.fresh
        have taken := arises.taken
        omega
    · intro key key' other other' kept kept' same
      have index : other'.id.index = other.id.index := by rw [same]
      have fresh := arises.fresh
      rcases entry key other kept with ⟨_, rfl⟩ | ⟨_, kept⟩ <;>
        rcases entry key' other' kept' with ⟨_, rfl⟩ | ⟨_, kept'⟩
      · rfl
      · have known := orderly.taken key' other' kept'
        omega
      · have known := orderly.taken key other kept
        omega
      · exact orderly.single key key' other other' kept kept' same

section obtain
variable {target name : String} {pair : String × String} (settings : Settings) {world : World κ μ}

theorem obtain_shared (target name : String) :
    (obtain target name settings false : Act κ μ (Except ConfigFault Manager)) = share target name settings := rfl

/-- A shared manager that is there is handed out. -/
theorem obtain_of_kept {manager : Manager} (kept : world.shared.get? (cacheKey target name) = some manager) :
    ∃ log, (obtain target name settings false : Act κ μ _) world =
      ⟨.ok (.ok manager), { world with log }, []⟩ := by
  rw [obtain_shared, share, Run.state_bind, kept]
  exact ⟨_, rfl⟩

/-- A shared manager that is not there is made and shared. -/
theorem obtain_of_absent (stand : StandFor target name pair) (absent : world.shared.get? (keyOf pair) = none) :
    ∃ manager after, (obtain target name settings false : Act κ μ _) world = ⟨.ok (.ok manager), after, []⟩ ∧
      Arises pair manager world after ∧ after.shared = world.shared.insert (keyOf pair) manager := by
  obtain ⟨manager, after, created, arises⟩ := create_of_named settings world stand
  have kept : after.shared = world.shared := by
    have apart := (create_overlooks target name settings).apart world
    rw [created] at apart
    exact apart
  have added : after.shared.insert (keyOf pair) manager = world.shared.insert (keyOf pair) manager := by rw [kept]
  rw [obtain_shared, share, Run.state_bind, cacheKey_of_standFor stand, absent]
  exact ⟨manager, _, Run.bind_apply_ok created _, ⟨arises.named, arises.fresh, arises.taken⟩, added⟩

/-- Texts that are no identifiers find no shared manager and make none. -/
theorem obtain_of_unnamed (orderly : Orderly world) (unnamed : ¬∃ pair, StandFor target name pair) :
    ∃ fault, (obtain target name settings false : Act κ μ _) world = ⟨.ok (.error fault), world, []⟩ := by
  have absent : world.shared.get? (cacheKey target name) = none := by
    cases kept : world.shared.get? (cacheKey target name) with
    | none => rfl
    | some manager =>
      have normal := orderly.normal _ manager kept
      have stand : StandFor target name manager.names := standFor_of_cacheKey normal (orderly.keyed _ manager kept)
      exact absurd ⟨manager.names, stand⟩ unnamed
  obtain ⟨fault, refused⟩ := create_of_unnamed settings world unnamed
  rw [obtain_shared, share, Run.state_bind, absent]
  exact ⟨fault, Run.bind_apply_ok refused _⟩

/-- A request for a shared manager is refused, or leaves a manager of these names shared and hands it out. -/
theorem obtain_shared_ends (orderly : Orderly world) (target name : String) :
    let ran := (obtain target name settings false : Act κ μ _) world
    (¬(∃ pair, StandFor target name pair) ∧ ∃ fault, ran = ⟨.ok (.error fault), world, []⟩) ∨
      ∃ pair manager, StandFor target name pair ∧ manager.names = pair ∧ ran.result = .ok (.ok manager) ∧
        ran.state.shared.get? (keyOf pair) = some manager ∧ Grows world ran.state ∧
        (∀ key, key ≠ keyOf pair → ran.state.shared.get? key = world.shared.get? key) := by
  intro ran
  by_cases named : ∃ pair, StandFor target name pair
  · right
    obtain ⟨pair, stand⟩ := named
    cases kept : world.shared.get? (keyOf pair) with
    | some manager =>
      rw [← cacheKey_of_standFor stand] at kept
      obtain ⟨log, ended⟩ := obtain_of_kept settings kept
      rw [cacheKey_of_standFor stand] at kept
      have normal := orderly.normal _ manager kept
      have same : pair = manager.names := keyOf_inj normal (orderly.keyed _ manager kept)
      have ended : ran = ⟨.ok (.ok manager), { world with log }, []⟩ := ended
      rw [ended]
      exact ⟨pair, manager, stand, same.symm, rfl, kept, .none rfl (Nat.le_refl _), fun _ _ => rfl⟩
    | none =>
      obtain ⟨manager, after, ended, arises, added⟩ := obtain_of_absent settings stand kept
      have ended : ran = ⟨.ok (.ok manager), after, []⟩ := ended
      have there : after.shared.get? (keyOf pair) = some manager := by simp [added]
      have others (key : String) (elsewhere : key ≠ keyOf pair) : after.shared.get? key = world.shared.get? key := by
        rw [added]
        exact Table.get?_insert_of_ne _ elsewhere _
      rw [ended]
      exact ⟨pair, manager, stand, arises.named, rfl, there, .added stand.normal kept arises added, others⟩
  · left
    exact ⟨named, obtain_of_unnamed settings orderly named⟩

theorem obtain_own_overlooks (target name : String) :
    Overlooks (obtain target name settings true : Act κ μ (Except ConfigFault Manager)) :=
  (record_overlooks _ _ _).bind fun _ => create_overlooks target name settings

/-- A request for a manager of one's own is refused, or makes one. -/
theorem obtain_own_ends (target name : String) (world : World κ μ) :
    let ran := (obtain target name settings true : Act κ μ _) world
    (¬(∃ pair, StandFor target name pair) ∧ ∃ fault, ran.result = .ok (.error fault) ∧
        ran.state.fresh = world.fresh) ∨
      ∃ pair manager, StandFor target name pair ∧ ran.result = .ok (.ok manager) ∧
        Arises pair manager world ran.state := by
  intro ran
  have ended : ran = ((Act.record .debug "Creating uncached action manager"
      [("target_system", .string target), ("manager", .string name)] : Act κ μ Unit) >>= fun _ =>
        create target name settings) world := rfl
  rw [ended, Act.record_bind]
  by_cases named : ∃ pair, StandFor target name pair
  · right
    obtain ⟨pair, stand⟩ := named
    obtain ⟨manager, after, created, arises⟩ := create_of_named settings _ stand
    rw [created]
    exact ⟨pair, manager, stand, rfl, arises.named, arises.fresh, arises.taken⟩
  · left
    obtain ⟨fault, refused⟩ := create_of_unnamed settings _ named
    rw [refused]
    exact ⟨named, fault, rfl, rfl⟩

/-- A request is refused, or hands out the manager that is shared under its names, or a new one. -/
theorem obtain_ends (orderly : Orderly world) (target name : String) (own : Bool) :
    let ran := (obtain target name settings own : Act κ μ _) world
    Grows world ran.state ∧
      ((¬(∃ pair, StandFor target name pair) ∧ ∃ fault, ran.result = .ok (.error fault) ∧
          ran.state.shared = world.shared) ∨
        ∃ manager, StandFor target name manager.names ∧ ran.result = .ok (.ok manager) ∧
          ((own = false ∧ ran.state.shared.get? (keyOf manager.names) = some manager) ∨
            (own = true ∧ ran.state.shared = world.shared ∧ Arises manager.names manager world ran.state))) := by
  intro ran
  cases own with
  | false =>
    rcases obtain_shared_ends settings orderly target name with
      ⟨unnamed, fault, refused⟩ | ⟨pair, manager, stand, rfl, returned, kept, grows, _⟩
    · have refused : ran = ⟨.ok (.error fault), world, []⟩ := refused
      rw [refused]
      exact ⟨.none rfl (Nat.le_refl _), .inl ⟨unnamed, fault, rfl, rfl⟩⟩
    · exact ⟨grows, .inr ⟨manager, stand, returned, .inl ⟨rfl, kept⟩⟩⟩
  | true =>
    have same : ran.state.shared = world.shared := (obtain_own_overlooks settings target name).apart world
    rcases obtain_own_ends settings target name world with
      ⟨unnamed, fault, refused, still⟩ | ⟨pair, manager, stand, returned, arises⟩
    · exact ⟨.none same (Nat.le_of_eq still.symm), .inl ⟨unnamed, fault, refused, same⟩⟩
    · have later : world.fresh ≤ ran.state.fresh := Nat.le_of_lt (Nat.lt_of_le_of_lt arises.fresh arises.taken)
      obtain rfl := arises.named
      exact ⟨.none same later, .inr ⟨manager, stand, returned, .inr ⟨rfl, same, arises⟩⟩⟩

end obtain

section requests
variable {start world before after : World κ μ} {past between : List Request}

theorem obtain_run_state (target name : String) (settings : Settings) (own : Bool) (world : World κ μ) :
    ((Request.obtain target name settings own).run world).state =
      ((obtain target name settings own : Act κ μ _) world).state := by
  change (((obtain target name settings own : Act κ μ _) >>= fun _ => pure ()) world).state = _
  rw [Run.bind_apply]
  rcases (obtain target name settings own : Act κ μ _) world with ⟨_ | _, state, journal⟩ <;> rfl

/-- What is shared after some requests was so before them and has not been given up, or was made in between. -/
structure Continues (between : List Request) (before after : World κ μ) : Prop where
  orderly : Orderly after
  later : before.fresh ≤ after.fresh
  kept (lasting : Request.clear ∉ between) (key : String) (manager : Manager)
    (kept : before.shared.get? key = some manager) : after.shared.get? key = some manager
  known (key : String) (manager : Manager) (kept : after.shared.get? key = some manager) :
    (before.shared.get? key = some manager ∧ .clear ∉ between) ∨ before.fresh ≤ manager.id.index

theorem Requested.continues (orderly : Orderly before) (requested : Requested before between after) :
    Continues between before after := by
  induction requested with
  | nothing => exact ⟨orderly, Nat.le_refl _, fun _ _ _ kept => kept, fun _ _ kept => .inl ⟨kept, List.not_mem_nil⟩⟩
  | @made between world earlier request ih =>
    cases request with
    | clear =>
      have bare : ((Request.clear.run : Act κ μ Unit) world).state.shared = ∅ := rfl
      refine ⟨orderly_of_bare bare, ih.later, fun lasting => ?_, fun key manager kept => ?_⟩
      · exact absurd List.mem_cons_self lasting
      · rw [bare] at kept
        cases kept
    | obtain target name settings own =>
      have grows := (obtain_ends settings ih.orderly target name own).1
      have same : .clear ∉ Request.obtain target name settings own :: between ↔ .clear ∉ between := by simp
      rw [obtain_run_state]
      refine ⟨ih.orderly.grows grows, Nat.le_trans ih.later grows.later, ?_, ?_⟩
      · intro lasting key manager kept
        exact grows.kept (ih.kept (same.mp lasting) key manager kept)
      · intro key manager kept
        rw [same]
        rcases grows.known kept with kept | fresh
        · exact ih.known key manager kept
        · exact .inr (Nat.le_trans ih.later fresh)
  | @meanwhile between world other earlier apart later ih =>
    have grows : Grows world other := .none apart later
    refine ⟨ih.orderly.grows grows, Nat.le_trans ih.later later, ?_, ?_⟩
    · intro lasting key manager kept
      exact grows.kept (ih.kept lasting key manager kept)
    · rw [apart]
      exact ih.known

/-- What is shared are managers of the pairs that stand. -/
theorem Requested.shared_iff (bare : start.shared = ∅) (requested : Requested start past world) (key : String) :
    (∃ manager, world.shared.get? key = some manager) ↔ ∃ pair ∈ standing past, key = keyOf pair := by
  induction requested with
  | nothing =>
    rw [bare]
    exact ⟨fun ⟨_, kept⟩ => (nomatch kept), fun ⟨_, stands, _⟩ => (nomatch stands)⟩
  | meanwhile _ apart _ ih => rw [apart]; exact ih
  | @made past world earlier request ih =>
    have orderly := (earlier.continues (orderly_of_bare bare)).orderly
    cases request with
    | clear => exact ⟨fun ⟨_, kept⟩ => (nomatch kept), fun ⟨_, stands, _⟩ => (nomatch stands)⟩
    | obtain target name settings own =>
      rw [obtain_run_state]
      cases own with
      | true => rw [(obtain_own_overlooks settings target name).apart world]; exact ih
      | false =>
        rcases obtain_shared_ends settings orderly target name with
          ⟨unnamed, fault, refused⟩ | ⟨pair, manager, stand, named, returned, kept, grows, elsewhere⟩
        · have none : ∃ fault, identifiers target name = .error fault := by
            cases named : identifiers target name with
            | error fault => exact ⟨fault, rfl⟩
            | ok pair => exact absurd ⟨pair, identifiers_ok_iff.mp named⟩ unnamed
          obtain ⟨fault', refused'⟩ := none
          rw [refused, standing, refused']
          exact ih
        · rw [standing, identifiers_ok_iff.mpr stand]
          by_cases here : key = keyOf pair
          · rw [here]
            exact ⟨fun _ => ⟨pair, List.mem_cons_self, rfl⟩, fun _ => ⟨manager, kept⟩⟩
          · rw [elsewhere key here, ih]
            simp [here]

theorem normal_of_standing {pair : String × String} (stands : pair ∈ standing past) :
    StandFor pair.1 pair.2 pair := by
  induction past using standing.induct with
  | case1 => cases stands
  | case2 => cases stands
  | case3 target name settings past ih => exact ih stands
  | case4 target name settings past fault refused ih =>
    rw [standing, refused] at stands
    exact ih stands
  | case5 target name settings past other named ih =>
    rw [standing, named] at stands
    rcases List.mem_cons.mp stands with rfl | stands
    · exact (identifiers_ok_iff.mp named).normal
    · exact ih stands

/-- There is one key for every pair that stands. -/
theorem Requested.keys_perm (bare : start.shared = ∅) (requested : Requested start past world) :
    world.shared.keys.Perm ((standing past).dedup.map keyOf) := by
  have distinct : world.shared.keys.Nodup := world.shared.keys_ascending.imp fun lt => String.ne_of_lt lt
  have distinct' : ((standing past).dedup.map keyOf).Nodup := by
    refine List.Nodup.map_on (fun pair stands other _ same => ?_) (List.nodup_dedup _)
    exact keyOf_inj (normal_of_standing (List.mem_dedup.mp stands)) same.symm |>.symm
  refine (List.perm_ext_iff_of_nodup distinct distinct').mpr fun key => ?_
  rw [Table.mem_keys_iff, Option.isSome_iff_exists, requested.shared_iff bare key]
  simp [eq_comm]

/-- A request handed this manager out: it is the one that is shared under its names now, or a new one of one's own. -/
structure Handed (own : Bool) (manager : Manager) (before after : World κ μ) : Prop where
  orderly : Orderly before
  grows : Grows before after
  shared (asked : own = false) : after.shared.get? (keyOf manager.names) = some manager
  fresh (asked : own = true) : before.fresh ≤ manager.id.index
  apart (asked : own = true) : after.shared = before.shared
  taken : manager.id.index < after.fresh

theorem handed_of_obtain (orderly : Orderly world) {target name : String} {settings : Settings} {own : Bool}
    {manager : Manager} (returned : ((obtain target name settings own : Act κ μ _) world).result = .ok (.ok manager)) :
    Handed own manager world ((obtain target name settings own : Act κ μ _) world).state := by
  obtain ⟨grows, ended⟩ := obtain_ends settings orderly target name own
  rcases ended with ⟨_, fault, refused, _⟩ | ⟨handed, _, returned', place⟩
  · rw [refused] at returned
    cases returned
  · rw [returned'] at returned
    cases returned
    rcases place with ⟨rfl, kept⟩ | ⟨rfl, same, arises⟩
    · exact ⟨orderly, grows, fun _ => kept, nofun, nofun, (orderly.grows grows).taken _ manager kept⟩
    · exact ⟨orderly, grows, nofun, fun _ => arises.fresh, fun _ => same, arises.taken⟩

section twice
variable {own own' : Bool} {manager manager' : Manager} {first second last : World κ μ}

/-- A shared manager with the identity of an earlier one was shared then, and was not given up since. -/
theorem Handed.known (handed : Handed own manager before first) (onward : Continues between first second)
    (handed' : Handed false manager' second last) (same : manager'.id = manager.id) :
    first.shared.get? (keyOf manager'.names) = some manager' ∧ .clear ∉ between := by
  have taken := handed.taken
  have later := onward.later
  have index : manager'.id.index = manager.id.index := by rw [same]
  rcases handed'.grows.known (handed'.shared rfl) with kept | fresh
  · rcases onward.known _ manager' kept with known | fresh
    · exact known
    · omega
  · omega

/-- A manager that is handed out twice was shared both times. -/
theorem Handed.same (handed : Handed own manager before first) (onward : Continues between first second)
    (handed' : Handed own' manager' second last) (same : manager'.id = manager.id) :
    own = false ∧ own' = false ∧ manager' = manager ∧ .clear ∉ between := by
  have index : manager'.id.index = manager.id.index := by rw [same]
  cases own' with
  | true =>
    have taken := handed.taken
    have later := onward.later
    have fresh := handed'.fresh rfl
    omega
  | false =>
    obtain ⟨known, lasting⟩ := handed.known onward handed' same
    cases own with
    | false =>
      have orderly := handed.orderly.grows handed.grows
      exact ⟨rfl, rfl, orderly.single _ _ manager manager' (handed.shared rfl) known same, lasting⟩
    | true =>
      rw [handed.apart rfl] at known
      have older := handed.orderly.taken _ manager' known
      have fresh := handed.fresh rfl
      omega

/-- The shared manager of the same names is handed out until all are given up. -/
theorem Handed.again (handed : Handed false manager before first) (onward : Continues between first second)
    (handed' : Handed false manager' second last) (names : manager'.names = manager.names)
    (lasting : .clear ∉ between) : manager' = manager := by
  have still := handed'.grows.kept (onward.kept lasting _ manager (handed.shared rfl))
  rw [← names, handed'.shared rfl] at still
  exact Option.some.inj still

/-- Two requests hand out one manager just when both are for the shared one of the same names. -/
theorem Handed.same_iff (handed : Handed own manager before first) (onward : Continues between first second)
    (handed' : Handed own' manager' second last) :
    (manager'.id = manager.id ↔ own = false ∧ own' = false ∧ manager'.names = manager.names ∧ .clear ∉ between) ∧
      (manager'.id = manager.id → manager' = manager) := by
  constructor
  · constructor
    · intro same
      obtain ⟨shared, shared', rfl, lasting⟩ := handed.same onward handed' same
      exact ⟨shared, shared', rfl, lasting⟩
    · rintro ⟨rfl, rfl, names, lasting⟩
      rw [handed.again onward handed' names lasting]
  · intro same
    exact (handed.same onward handed' same).2.2.1

end twice

/-- The managers of two requests are the same just when both share one pair of names and none was given up. -/
theorem sharing_of_requests (bare : start.shared = ∅) (requested : Requested start past world) :
    (∃ keys, (sharedKeys : Act κ μ (List String)) world = ⟨.ok keys, world, []⟩ ∧
      keys.Perm ((standing past).dedup.map keyOf)) ∧
      ∀ target name settings own,
        let ran := (obtain target name settings own : Act κ μ (Except ConfigFault Manager)) world
        ((∃ manager, ran.result = .ok (.ok manager)) ∨ ∃ fault, ran.result = .ok (.error fault)) ∧
          ((∃ fault, ran.result = .ok (.error fault)) ↔ ¬∃ pair, StandFor target name pair) ∧
          (∀ fault, ran.result = .ok (.error fault) → ran.state.shared = world.shared) ∧
          (own = true → Overlooks (obtain target name settings own : Act κ μ (Except ConfigFault Manager))) ∧
          ∀ manager, ran.result = .ok (.ok manager) →
            StandFor target name manager.names ∧ (own = true → world.fresh ≤ manager.id.index) ∧
              ∀ between later target' name' settings' own' manager', Requested ran.state between later →
                ((obtain target' name' settings' own' : Act κ μ _) later).result = .ok (.ok manager') →
                  (manager'.id = manager.id ↔
                    own = false ∧ own' = false ∧ manager'.names = manager.names ∧ .clear ∉ between) ∧
                  (manager'.id = manager.id → manager' = manager) := by
  have orderly := (requested.continues (orderly_of_bare bare)).orderly
  constructor
  · exact ⟨world.shared.keys, rfl, requested.keys_perm bare⟩
  · intro target name settings own ran
    have apart : own = true → Overlooks (obtain target name settings own : Act κ μ (Except ConfigFault Manager)) := by
      rintro rfl
      exact obtain_own_overlooks settings target name
    rcases (obtain_ends settings orderly target name own).2 with
      ⟨unnamed, fault, refused, same⟩ | ⟨manager, stand, returned, _⟩
    · have refused : ran.result = .ok (.error fault) := refused
      refine ⟨.inr ⟨fault, refused⟩, ⟨fun _ => unnamed, fun _ => ⟨fault, refused⟩⟩, fun _ _ => same, apart, ?_⟩
      intro manager returned
      rw [refused] at returned
      cases returned
    · have returned : ran.result = .ok (.ok manager) := returned
      have accepted (fault : ConfigFault) : ran.result ≠ .ok (.error fault) := by
        rw [returned]
        exact nofun
      refine ⟨.inl ⟨manager, returned⟩, ?_, fun fault refused => absurd refused (accepted fault), apart, ?_⟩
      · exact ⟨fun ⟨fault, refused⟩ => absurd refused (accepted fault), fun unnamed => absurd ⟨_, stand⟩ unnamed⟩
      · intro handed same
        rw [returned] at same
        cases same
        have handed : Handed own manager world ran.state := handed_of_obtain orderly returned
        refine ⟨stand, handed.fresh, fun between later target' name' settings' own' manager' requested second => ?_⟩
        have onward := requested.continues (orderly.grows handed.grows)
        exact handed.same_iff onward (handed_of_obtain onward.orderly second)

/-- Blank characters around the names make no difference. -/
theorem sharing_of_requests_maya :
    let start : World Unit Unit := World.start () fun _ => 0
    let ask := fun target name => (obtain target name .standard false : Act Unit Unit (Except ConfigFault Manager))
    let first := ask "maya" "studio" start
    let second := ask " maya " "studio " first.state
    ∃ manager, first.result = .ok (.ok manager) ∧ second.result = .ok (.ok manager) ∧
      manager.names = ("maya", "studio") := by
  intro start ask first second
  have stand : StandFor "maya" "studio" ("maya", "studio") := ⟨rfl, rfl⟩
  have stand' : StandFor " maya " "studio " ("maya", "studio") := ⟨rfl, rfl⟩
  have begun : Requested start [] start := .nothing
  have asked := (sharing_of_requests rfl begun).2 "maya" "studio" .standard false
  obtain ⟨manager, returned⟩ := asked.1.resolve_right fun refused => asked.2.1.mp refused ⟨_, stand⟩
  obtain ⟨names, _, again⟩ := asked.2.2.2.2 manager returned
  have onward : Requested start [.obtain "maya" "studio" .standard false] first.state :=
    .made begun (.obtain "maya" "studio" .standard false)
  have asked' := (sharing_of_requests rfl onward).2 " maya " "studio " .standard false
  obtain ⟨manager', returned'⟩ := asked'.1.resolve_right fun refused => asked'.2.1.mp refused ⟨_, stand'⟩
  have names' : StandFor " maya " "studio " manager'.names := (asked'.2.2.2.2 manager' returned').1
  have named : manager.names = ("maya", "studio") := stand.unique names
  have same : manager'.names = manager.names := (stand'.unique names').trans named.symm
  have one := again [] first.state " maya " "studio " .standard false manager' .nothing returned'
  obtain rfl := one.2 (one.1.mpr ⟨rfl, rfl, same, List.not_mem_nil⟩)
  exact ⟨manager', returned, returned', named⟩

end requests

end Dispatch.Manager
