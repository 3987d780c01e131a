import Dispatch.Run

namespace Dispatch.Run

variable {ν σ τ α β : Type}

/-- After a value the second run takes over. -/
theorem bind_of_ok {first : Run ν σ α} {state : σ} {value : α} (returned : (first state).result = .ok value)
    (next : α → Run ν σ β) :
    (first >>= next) state =
      ⟨(next value (first state).state).result, (next value (first state).state).state,
        (first state).journal ++ (next value (first state).state).journal⟩ := by
  rw [bind_apply]
  rcases ran : first state with ⟨result, after, journal⟩
  rw [ran] at returned
  obtain rfl : result = .ok value := returned
  rfl

/-- After a panic there is no second run. -/
theorem bind_of_error {first : Run ν σ α} {state : σ} {panic : Panic}
    (panicked : (first state).result = .error panic) (next : α → Run ν σ β) :
    (first >>= next) state = ⟨.error panic, (first state).state, (first state).journal⟩ := by
  rw [bind_apply]
  rcases ran : first state with ⟨result, after, journal⟩
  rw [ran] at panicked
  obtain rfl : result = .error panic := panicked
  rfl

/-- Looking at the state leaves everything to what follows. -/
@[simp] theorem state_bind (next : σ → Run ν σ α) (state : σ) :
    (Run.state >>= next) state = next state state := rfl

/-- A note stands before the steps of what follows. -/
@[simp] theorem note_bind (step : ν) (next : Unit → Run ν σ α) (state : σ) :
    (Run.note step >>= next) state =
      ⟨(next () state).result, (next () state).state, step :: (next () state).journal⟩ := rfl

/-- Turning a value into another one takes no step. -/
theorem journal_bind_pure (run : Run ν σ α) (f : α → β) (state : σ) :
    ((run >>= fun value => Pure.pure (f value)) state).journal = (run state).journal := by
  cases ran : (run state).result with
  | error panic => rw [bind_of_error ran]
  | ok value => simp [bind_of_ok ran]

/-- Turning a value into another one leaves the state as it is. -/
theorem state_bind_pure (run : Run ν σ α) (f : α → β) (state : σ) :
    ((run >>= fun value => Pure.pure (f value)) state).state = (run state).state := by
  cases ran : (run state).result with
  | error panic => rw [bind_of_error ran]
  | ok value => simp [bind_of_ok ran]

/-- A panic of two runs arises in the first one, or in the second one once the first has returned. -/
theorem bind_panics_iff {first : Run ν σ α} {next : α → Run ν σ β} {state : σ} {panic : Panic} :
    ((first >>= next) state).result = .error panic ↔
      (first state).result = .error panic ∨
        ∃ value, (first state).result = .ok value ∧ (next value (first state).state).result = .error panic := by
  cases ran : (first state).result with
  | error other => simp [bind_of_error ran]
  | ok value => simp [bind_of_ok ran]

/-- Two runs return if the first one does, and the second one from there. -/
theorem bind_returns_iff {first : Run ν σ α} {next : α → Run ν σ β} {state : σ} {value : β} :
    ((first >>= next) state).result = .ok value ↔
      ∃ middle, (first state).result = .ok middle ∧ (next middle (first state).state).result = .ok value := by
  cases ran : (first state).result with
  | error panic => simp [bind_of_error ran]
  | ok middle => simp [bind_of_ok ran]

/-- From this state a run gets to a value and to another state. -/
structure Reaches (run : Run ν σ α) (state : σ) (value : α) (after : σ) : Prop where
  returned : (run state).result = .ok value
  ended : (run state).state = after

/-- A run that returns reaches what it returns, where it ends. -/
theorem reaches_of_ok {run : Run ν σ α} {state : σ} {value : α} (returned : (run state).result = .ok value) :
    Reaches run state value (run state).state := ⟨returned, rfl⟩

/-- A run returns if it ends with a value, whatever state it starts in. -/
def Returns (run : Run ν σ α) : Prop := ∀ state, ∃ value, (run state).result = .ok value

/-- A run that returns does not panic. -/
theorem Returns.not_panic {run : Run ν σ α} (returns : Returns run) {state : σ} {panic : Panic} :
    (run state).result ≠ .error panic := by
  intro panicked
  obtain ⟨value, returned⟩ := returns state
  rw [returned] at panicked
  cases panicked

/-- Before a run that returns nothing can go wrong. -/
theorem Returns.bind_panics_iff {first : Run ν σ α} (returns : Returns first) {next : α → Run ν σ β} {state : σ}
    {panic : Panic} :
    ((first >>= next) state).result = .error panic ↔
      ∃ value, (first state).result = .ok value ∧ (next value (first state).state).result = .error panic := by
  rw [Run.bind_panics_iff]
  constructor
  · rintro (panicked | later)
    · exact absurd panicked returns.not_panic
    · exact later
  · intro later
    exact .inr later

/-- After a run only another one that does not return can go wrong. -/
theorem bind_panics_iff_of_returns {first : Run ν σ α} {next : α → Run ν σ β}
    (returns : ∀ value, Returns (next value)) {state : σ} {panic : Panic} :
    ((first >>= next) state).result = .error panic ↔ (first state).result = .error panic := by
  rw [Run.bind_panics_iff]
  constructor
  · rintro (panicked | ⟨value, _, panicked⟩)
    · exact panicked
    · exact absurd panicked (returns value).not_panic
  · intro panicked
    exact .inl panicked

/-- A run without a value of interest returns the only one there is. -/
theorem Returns.unit {run : Run ν σ Unit} (returns : Returns run) (state : σ) : (run state).result = .ok () := by
  obtain ⟨⟨⟩, returned⟩ := returns state
  exact returned

theorem returns_pure (value : α) : Returns (Pure.pure value : Run ν σ α) := fun _ => ⟨value, rfl⟩

theorem returns_note (step : ν) : Returns (Run.note step : Run ν σ Unit) := fun _ => ⟨(), rfl⟩

/-- Whatever happens to a state of its own, the run around it returns. -/
theorem returns_withLocal (start : τ) (run : Run ν (σ × τ) α) : Returns (withLocal start run) := by
  intro state
  exact ⟨((run (state, start)).result, (run (state, start)).state.2), rfl⟩

theorem Returns.bind {first : Run ν σ α} {next : α → Run ν σ β} (returns : Returns first)
    (returnsNext : ∀ value, Returns (next value)) : Returns (first >>= next) := by
  intro state
  obtain ⟨middle, returned⟩ := returns state
  obtain ⟨value, returnedNext⟩ := returnsNext middle (first state).state
  exact ⟨value, bind_returns_iff.mpr ⟨middle, returned, returnedNext⟩⟩

theorem Returns.forEach {run : α → Run ν σ β} (returns : ∀ item, Returns (run item)) (items : List α) :
    Returns (forEach run items) := by
  induction items with
  | nil => exact returns_pure []
  | cons item rest ih =>
    rw [forEach_cons]
    exact (returns item).bind fun value => ih.bind fun values => returns_pure (value :: values)

/-- All steps that a run takes are of one kind. -/
def Notes (kind : ν → Prop) (run : Run ν σ α) : Prop := ∀ state, ∀ step ∈ (run state).journal, kind step

section notes
variable {kind : ν → Prop}

theorem Notes.mono {other : ν → Prop} {run : Run ν σ α} (notes : Notes kind run)
    (wider : ∀ step, kind step → other step) : Notes other run :=
  fun state step member => wider step (notes state step member)

theorem notes_pure (value : α) : Notes kind (Pure.pure value : Run ν σ α) := fun _ _ member => by cases member

/-- User code takes no steps that count. -/
theorem notes_foreign (run : Run ν σ α) : Notes kind (foreign run) := fun _ _ member => by cases member

theorem notes_note {step : ν} (right : kind step) : Notes kind (Run.note step : Run ν σ Unit) := by
  intro state other member
  rw [List.mem_singleton.mp member]
  exact right

theorem Notes.caught {run : Run ν σ α} (notes : Notes kind run) : Notes kind (caught run) := notes

theorem Notes.onFirst {run : Run ν σ α} (notes : Notes kind run) :
    Notes kind (onFirst run : Run ν (σ × τ) α) := fun state => notes state.1

theorem Notes.bind {first : Run ν σ α} {next : α → Run ν σ β} (notes : Notes kind first)
    (notesNext : ∀ value, Notes kind (next value)) : Notes kind (first >>= next) := by
  intro state step member
  cases ran : (first state).result with
  | error panic =>
    rw [bind_of_error ran] at member
    exact notes state step member
  | ok value =>
    rw [bind_of_ok ran] at member
    rcases List.mem_append.mp member with early | late
    · exact notes state step early
    · exact notesNext value _ step late

theorem Notes.forEach {run : α → Run ν σ β} (notes : ∀ item, Notes kind (run item)) (items : List α) :
    Notes kind (forEach run items) := by
  induction items with
  | nil => exact notes_pure []
  | cons item rest ih =>
    rw [forEach_cons]
    exact (notes item).bind fun value => ih.bind fun values => notes_pure (value :: values)

end notes

/-- A run is silent if it returns without having taken a step. -/
def Silent (run : Run ν σ α) : Prop := ∀ state, ∃ value after, run state = ⟨.ok value, after, []⟩

section silent

theorem Silent.returns {run : Run ν σ α} (silent : Silent run) : Returns run := by
  intro state
  obtain ⟨value, after, ran⟩ := silent state
  rw [ran]
  exact ⟨value, rfl⟩

/-- A run without steps takes steps of any kind. -/
theorem Silent.notes {kind : ν → Prop} {run : Run ν σ α} (silent : Silent run) : Notes kind run := by
  intro state step member
  obtain ⟨value, after, ran⟩ := silent state
  rw [ran] at member
  cases member

theorem silent_pure (value : α) : Silent (Pure.pure value : Run ν σ α) := fun state => ⟨value, state, rfl⟩

theorem silent_state : Silent (Run.state : Run ν σ σ) := fun state => ⟨state, state, rfl⟩

theorem silent_update (f : σ → σ) : Silent (Run.update f : Run ν σ Unit) := fun state => ⟨(), f state, rfl⟩

theorem Silent.onFirst {run : Run ν σ α} (silent : Silent run) : Silent (onFirst run : Run ν (σ × τ) α) := by
  rintro ⟨first, second⟩
  obtain ⟨value, after, ran⟩ := silent first
  refine ⟨value, (after, second), ?_⟩
  rw [onFirst_apply, ran]

theorem Silent.bind {first : Run ν σ α} {next : α → Run ν σ β} (silent : Silent first)
    (silentNext : ∀ value, Silent (next value)) : Silent (first >>= next) := by
  intro state
  obtain ⟨middle, after, ran⟩ := silent state
  obtain ⟨value, last, ranNext⟩ := silentNext middle after
  refine ⟨value, last, ?_⟩
  rw [bind_apply_ok ran, ranNext]
  rfl

theorem Silent.forEach {run : α → Run ν σ β} (silent : ∀ item, Silent (run item)) (items : List α) :
    Silent (forEach run items) := by
  induction items with
  | nil => exact silent_pure []
  | cons item rest ih =>
    rw [forEach_cons]
    exact (silent item).bind fun value => ih.bind fun values => silent_pure (value :: values)

end silent

/-- Whatever a run returns is good. -/
def Yields (good : α → Prop) (run : Run ν σ α) : Prop := ∀ state value, (run state).result = .ok value → good value

section yields
variable {good : β → Prop}

theorem yields_pure {value : β} (right : good value) : Yields good (Pure.pure value : Run ν σ β) := by
  intro state returned same
  cases same
  exact right

theorem Yields.bind {middle : α → Prop} {first : Run ν σ α} {next : α → Run ν σ β} (yields : Yields middle first)
    (yieldsNext : ∀ value, middle value → Yields good (next value)) : Yields good (first >>= next) := by
  intro state value returned
  obtain ⟨between, ran, ended⟩ := bind_returns_iff.mp returned
  exact yieldsNext between (yields state between ran) _ value ended

/-- Whatever the first run returns, the second one decides. -/
theorem yields_bind {first : Run ν σ α} {next : α → Run ν σ β} (yieldsNext : ∀ value, Yields good (next value)) :
    Yields good (first >>= next) := by
  have anything : Yields (fun _ => True) first := fun _ _ _ => trivial
  exact anything.bind fun value _ => yieldsNext value

/-- Each value comes from an item. -/
theorem yields_forEach {origin : α → β → Prop} {run : α → Run ν σ β} (yields : ∀ item, Yields (origin item) (run item))
    (items : List α) :
    Yields (fun values => ∀ value ∈ values, ∃ item ∈ items, origin item value) (forEach run items) := by
  induction items with
  | nil => exact yields_pure (List.forall_mem_nil _)
  | cons item rest ih =>
    rw [forEach_cons]
    refine (yields item).bind fun value comes => ih.bind fun values come => yields_pure ?_
    intro other member
    rcases List.mem_cons.mp member with rfl | later
    · exact ⟨item, List.mem_cons_self, comes⟩
    · obtain ⟨source, among, comes⟩ := come other later
      exact ⟨source, List.mem_cons_of_mem item among, comes⟩

end yields

/-- If the item alone decides what a run returns, as far as it is looked at, so it is for one run after the other. -/
theorem forEach_map {γ : Type} {look : β → γ} {expected : α → γ} {run : α → Run ν σ β}
    (each : ∀ item state, ∃ value, (run item state).result = .ok value ∧ look value = expected item) (items : List α)
    (state : σ) :
    ∃ values, (forEach run items state).result = .ok values ∧ values.map look = items.map expected := by
  induction items generalizing state with
  | nil => exact ⟨[], rfl, rfl⟩
  | cons item rest ih =>
    obtain ⟨value, returned, looks⟩ := each item state
    obtain ⟨values, later, lookToo⟩ := ih (run item state).state
    rw [forEach_cons, bind_of_ok returned, bind_of_ok later]
    exact ⟨value :: values, rfl, List.cons_eq_cons.mpr ⟨looks, lookToo⟩⟩

/-- A relation between states that any number of runs can keep. -/
class Lasting (relation : σ → σ → Prop) : Prop where
  stays (state : σ) : relation state state
  goesOn {first second third : σ} (begun : relation first second) (ended : relation second third) :
    relation first third

/-- What is looked at of the state is as it was. -/
def Unchanged (look : σ → τ) (before after : σ) : Prop := look after = look before

instance (look : σ → τ) : Lasting (Unchanged look) where
  stays _ := rfl
  goesOn begun ended := ended.trans begun

/-- Where a run ends, also with a panic, is in this relation to where it started. -/
def Moves (relation : σ → σ → Prop) (run : Run ν σ α) : Prop := ∀ state, relation state (run state).state

section moves
variable {relation : σ → σ → Prop}

/-- Whatever follows from a relation is kept with it. -/
theorem Moves.mono {other : σ → σ → Prop} {run : Run ν σ α} (moves : Moves relation run)
    (wider : ∀ before after, relation before after → other before after) : Moves other run :=
  fun state => wider _ _ (moves state)

/-- What happens to the first half of a pair is all that counts. -/
theorem Moves.onFirst {run : Run ν σ α} (moves : Moves relation run) :
    Moves (InvImage relation Prod.fst) (onFirst run : Run ν (σ × τ) α) := fun state => moves state.1

theorem Moves.withLocal {run : Run ν (σ × τ) α} (moves : Moves (InvImage relation Prod.fst) run) (start : τ) :
    Moves relation (withLocal start run) := fun state => moves (state, start)

theorem Moves.foreign {run : Run ν σ α} (moves : Moves relation run) : Moves relation (foreign run) := moves

/-- A panic that is caught has happened. -/
theorem Moves.caught {run : Run ν σ α} (moves : Moves relation run) : Moves relation (caught run) := moves

variable [Lasting relation]

instance : Lasting (InvImage relation (Prod.fst : σ × τ → σ)) where
  stays state := Lasting.stays state.1
  goesOn {first second third} begun ended := by
    have together : relation first.1 third.1 := Lasting.goesOn begun ended
    exact together

theorem moves_pure (value : α) : Moves relation (Pure.pure value : Run ν σ α) := Lasting.stays

theorem moves_panic (panic : Panic) : Moves relation (Run.panic panic : Run ν σ α) := Lasting.stays

theorem moves_state : Moves relation (Run.state : Run ν σ σ) := Lasting.stays

theorem moves_note (step : ν) : Moves relation (Run.note step : Run ν σ Unit) := Lasting.stays

theorem Moves.bind {first : Run ν σ α} {next : α → Run ν σ β} (moves : Moves relation first)
    (movesNext : ∀ value, Moves relation (next value)) : Moves relation (first >>= next) := by
  intro state
  cases ran : (first state).result with
  | error panic =>
    rw [bind_of_error ran]
    exact moves state
  | ok value =>
    rw [bind_of_ok ran]
    exact Lasting.goesOn (moves state) (movesNext value _)

/-- Only the runs that are made have to keep the relation. -/
theorem Moves.forEach_of_mem {run : α → Run ν σ β} {items : List α} (moves : ∀ item ∈ items, Moves relation (run item)) :
    Moves relation (forEach run items) := by
  induction items with
  | nil => exact moves_pure []
  | cons item rest ih =>
    obtain ⟨first, others⟩ := List.forall_mem_cons.mp moves
    rw [forEach_cons]
    exact first.bind fun value => (ih others).bind fun values => moves_pure (value :: values)

theorem Moves.forEach {run : α → Run ν σ β} (moves : ∀ item, Moves relation (run item)) (items : List α) :
    Moves relation (forEach run items) := Moves.forEach_of_mem fun item _ => moves item

end moves

end Dispatch.Run
