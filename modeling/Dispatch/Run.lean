namespace Dispatch

/-- A panic of user code, with its words if it has any. -/
inductive Panic where
  | text (words : String)
  | unnamed
deriving DecidableEq, Inhabited

/-- A panic without words is described by words of its own. -/
def Panic.words : Panic → String
  | .text words => words
  | .unnamed => "unknown panic payload"

/-- What a run leaves behind. -/
structure Ran (ν σ α : Type) where
  result : Except Panic α
  state : σ
  journal : List ν

/-- Computations that may panic, on a state in `σ`, with values in `α` and a journal of steps in `ν`. -/
def Run (ν σ α : Type) : Type := σ → Ran ν σ α

namespace Run
variable {ν σ τ α β : Type}

/-- A value without any steps. -/
def pure (value : α) : Run ν σ α := fun state => ⟨.ok value, state, []⟩

/-- What follows a panic is not run. -/
def bind (first : Run ν σ α) (next : α → Run ν σ β) : Run ν σ β := fun state =>
  match first state with
  | ⟨.error panic, state, journal⟩ => ⟨.error panic, state, journal⟩
  | ⟨.ok value, state, journal⟩ =>
    let ran := next value state
    ⟨ran.result, ran.state, journal ++ ran.journal⟩

instance : Monad (Run ν σ) where
  pure := pure
  bind := bind

instance [Inhabited α] : Inhabited (Run ν σ α) := ⟨pure default⟩

/-- Ends the run. -/
def panic (panic : Panic) : Run ν σ α := fun state => ⟨.error panic, state, []⟩

/-- The state as it is now. -/
def state : Run ν σ σ := fun state => ⟨.ok state, state, []⟩

/-- Edits the state. -/
def update (f : σ → σ) : Run ν σ Unit := fun state => ⟨.ok (), f state, []⟩

/-- One step for the journal. -/
def note (step : ν) : Run ν σ Unit := fun state => ⟨.ok (), state, [step]⟩

/-- A panic becomes a value. -/
def caught (run : Run ν σ α) : Run ν σ (Except Panic α) := fun state =>
  let ran := run state
  ⟨.ok ran.result, ran.state, ran.journal⟩

/-- User code; its steps are its own. -/
def foreign (run : Run ν σ α) : Run ν σ α := fun state =>
  let ran := run state
  ⟨ran.result, ran.state, []⟩

/-- A run on the first half of a pair. -/
def onFirst (run : Run ν σ α) : Run ν (σ × τ) α := fun (first, second) =>
  let ran := run first
  ⟨ran.result, (ran.state, second), ran.journal⟩

/-- A run with a state of its own beside the shared one; it ends with the run, however that ends. -/
def withLocal (start : τ) (run : Run ν (σ × τ) α) : Run ν σ (Except Panic α × τ) := fun state =>
  let ran := run (state, start)
  ⟨.ok (ran.result, ran.state.2), ran.state.1, ran.journal⟩

/-- Runs one after the other, for each item in turn. -/
def forEach (run : α → Run ν σ β) : List α → Run ν σ (List β)
  | [] => return []
  | item :: rest => do
    let value ← run item
    let values ← forEach run rest
    return value :: values

/-- A value changes nothing. -/
@[simp] theorem pure_apply (value : α) (state : σ) :
    (Pure.pure value : Run ν σ α) state = ⟨.ok value, state, []⟩ := rfl

/-- A panic keeps the state. -/
@[simp] theorem panic_apply (panic : Panic) (state : σ) :
    (Run.panic panic : Run ν σ α) state = ⟨.error panic, state, []⟩ := rfl

/-- Looking at the state changes nothing. -/
@[simp] theorem state_apply (state : σ) : (Run.state : Run ν σ σ) state = ⟨.ok state, state, []⟩ := rfl

/-- An edit yields nothing but the state. -/
@[simp] theorem update_apply (f : σ → σ) (state : σ) :
    (Run.update f : Run ν σ Unit) state = ⟨.ok (), f state, []⟩ := rfl

/-- A note changes only the journal. -/
@[simp] theorem note_apply (step : ν) (state : σ) :
    (Run.note step : Run ν σ Unit) state = ⟨.ok (), state, [step]⟩ := rfl

/-- A caught run always yields a value. -/
@[simp] theorem caught_apply (run : Run ν σ α) (state : σ) :
    caught run state = ⟨.ok (run state).result, (run state).state, (run state).journal⟩ := rfl

/-- User code leaves nothing in the journal. -/
@[simp] theorem foreign_apply (run : Run ν σ α) (state : σ) :
    foreign run state = ⟨(run state).result, (run state).state, []⟩ := rfl

/-- The second half of a pair stays as it is. -/
@[simp] theorem onFirst_apply (run : Run ν σ α) (first : σ) (second : τ) :
    onFirst run (first, second) =
      ⟨(run first).result, ((run first).state, second), (run first).journal⟩ := rfl

/-- The state beside the shared one comes back with the result. -/
@[simp] theorem withLocal_apply (start : τ) (run : Run ν (σ × τ) α) (state : σ) :
    withLocal start run state =
      ⟨.ok ((run (state, start)).result, (run (state, start)).state.2), (run (state, start)).state.1,
        (run (state, start)).journal⟩ := rfl

/-- The second run goes on from where the first one ended. -/
theorem bind_apply (first : Run ν σ α) (next : α → Run ν σ β) (state : σ) :
    (first >>= next) state =
      match first state with
      | ⟨.error panic, state, journal⟩ => ⟨.error panic, state, journal⟩
      | ⟨.ok value, state, journal⟩ =>
        ⟨(next value state).result, (next value state).state, journal ++ (next value state).journal⟩ :=
  rfl

/-- After a value the next run starts, and the journals are joined. -/
theorem bind_apply_ok {first : Run ν σ α} {state after : σ} {value : α} {journal : List ν}
    (ran : first state = ⟨.ok value, after, journal⟩) (next : α → Run ν σ β) :
    (first >>= next) state =
      ⟨(next value after).result, (next value after).state, journal ++ (next value after).journal⟩ := by
  rw [bind_apply, ran]

/-- After a panic nothing is run. -/
theorem bind_apply_panic {first : Run ν σ α} {state after : σ} {panic : Panic} {journal : List ν}
    (ran : first state = ⟨.error panic, after, journal⟩) (next : α → Run ν σ β) :
    (first >>= next) state = ⟨.error panic, after, journal⟩ := by
  rw [bind_apply, ran]

/-- Only the value is changed. -/
@[simp] theorem map_apply (f : α → β) (run : Run ν σ α) (state : σ) :
    (f <$> run) state = ⟨(run state).result.map f, (run state).state, (run state).journal⟩ := by
  show bind run (fun value => pure (f value)) state = _
  unfold bind
  rcases run state with ⟨⟨⟩ | ⟨⟩, after, journal⟩ <;> simp [pure, Except.map]

/-- No items take no steps. -/
@[simp] theorem forEach_nil (run : α → Run ν σ β) : forEach run [] = return [] := rfl

/-- The first item is run before the rest. -/
theorem forEach_cons (run : α → Run ν σ β) (item : α) (rest : List α) :
    forEach run (item :: rest) = do
      let value ← run item
      let values ← forEach run rest
      return value :: values := rfl

instance : LawfulMonad (Run ν σ) := LawfulMonad.mk' _
  (fun run => funext fun state => by
    show bind run _ state = run state
    unfold bind
    rcases run state with ⟨⟨⟩ | ⟨⟩, after, journal⟩ <;> simp [pure])
  (fun value next => funext fun state => by
    show bind (pure value) next state = next value state
    simp [bind, pure])
  (fun run first second => funext fun state => by
    show bind (bind run first) second state = bind run (fun value => bind (first value) second) state
    unfold bind
    rcases run state with ⟨⟨⟩ | ⟨value⟩, after, journal⟩
    · rfl
    · simp only
      rcases first value after with ⟨⟨⟩ | ⟨⟩, last, more⟩ <;> simp)

end Run

end Dispatch
