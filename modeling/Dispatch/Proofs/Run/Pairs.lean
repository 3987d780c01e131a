import Dispatch.Proofs.Run

namespace Dispatch

variable {ν σ τ α β γ δ σ' τ' : Type}

/-- Results correspond if they are values that do, or the same panic. -/
inductive SameResult (values : α → β → Prop) : Except Panic α → Except Panic β → Prop
  | value {first : α} {second : β} (same : values first second) : SameResult values (.ok first) (.ok second)
  | panic (panic : Panic) : SameResult values (.error panic) (.error panic)

/-- Which steps of two journals correspond, and which steps do not count. -/
structure Correspondence (ν : Type) where
  steps : ν → ν → Prop
  hidden : ν → Prop

/-- Journals correspond if their steps do one by one, hidden ones aside. -/
inductive Correspondence.Journals (correspondence : Correspondence ν) : List ν → List ν → Prop
  | nil : Journals correspondence [] []
  | both {first second : ν} {rest others : List ν} (same : correspondence.steps first second)
      (later : Journals correspondence rest others) : Journals correspondence (first :: rest) (second :: others)
  | first {step : ν} {rest others : List ν} (hidden : correspondence.hidden step)
      (later : Journals correspondence rest others) : Journals correspondence (step :: rest) others
  | second {step : ν} {rest others : List ν} (hidden : correspondence.hidden step)
      (later : Journals correspondence rest others) : Journals correspondence rest (step :: others)

/-- Two ends of runs that correspond. -/
structure Ran.Together (correspondence : Correspondence ν) (states : σ → τ → Prop) (values : α → β → Prop)
    (first : Ran ν σ α) (second : Ran ν τ β) : Prop where
  result : SameResult values first.result second.result
  state : states first.state second.state
  journal : correspondence.Journals first.journal second.journal

/-- From states that correspond two runs come to ends that correspond. -/
def Run.Together (correspondence : Correspondence ν) (states : σ → τ → Prop) (values : α → β → Prop)
    (first : Run ν σ α) (second : Run ν τ β) : Prop :=
  ∀ start other, states start other → (first start).Together correspondence states values (second other)

/-- The same of user code, whose steps are its own. -/
def Run.Agree (states : σ → τ → Prop) (values : α → β → Prop) (first : Run ν σ α) (second : Run ν τ β) : Prop :=
  ∀ start other, states start other →
    SameResult values (first start).result (second other).result ∧ states (first start).state (second other).state

/-- Pairs correspond if their halves do. -/
def Both (first : α → γ → Prop) (second : β → δ → Prop) (pair : α × β) (other : γ × δ) : Prop :=
  first pair.1 other.1 ∧ second pair.2 other.2

theorem SameResult.map {values : α → β → Prop} {others : γ → δ → Prop} {first : Except Panic α}
    {second : Except Panic β} (same : SameResult values first second) {f : α → γ} {g : β → δ}
    (maps : ∀ one two, values one two → others (f one) (g two)) : SameResult others (first.map f) (second.map g) := by
  cases same with
  | value same => exact .value (maps _ _ same)
  | panic panic => exact .panic panic

/-- Values may correspond in a weaker way. -/
theorem SameResult.mono {values others : α → β → Prop} {first : Except Panic α} {second : Except Panic β}
    (same : SameResult values first second) (weaker : ∀ one two, values one two → others one two) :
    SameResult others first second := by
  cases same with
  | value same => exact .value (weaker _ _ same)
  | panic panic => exact .panic panic

namespace Correspondence.Journals

variable {correspondence : Correspondence ν}

theorem append {first second later last : List ν} (begun : correspondence.Journals first second)
    (ended : correspondence.Journals later last) : correspondence.Journals (first ++ later) (second ++ last) := by
  induction begun with
  | nil => exact ended
  | both same _ ih => exact .both same ih
  | first hidden _ ih => exact .first hidden ih
  | second hidden _ ih => exact .second hidden ih

/-- Steps that do not count correspond to no steps, and to other steps that do not count. -/
theorem of_hidden {first second : List ν} (hidden : ∀ step ∈ first, correspondence.hidden step)
    (others : ∀ step ∈ second, correspondence.hidden step) : correspondence.Journals first second := by
  induction first with
  | nil =>
    induction second with
    | nil => exact .nil
    | cons step rest ih =>
      obtain ⟨one, more⟩ := List.forall_mem_cons.mp others
      exact .second one (ih more)
  | cons step rest ih =>
    obtain ⟨one, more⟩ := List.forall_mem_cons.mp hidden
    exact .first one (ih more)

/-- Where corresponding steps are the same, the journals are, but for the steps that do not count. -/
theorem filter_eq {counts : ν → Bool} {first second : List ν} (journals : correspondence.Journals first second)
    (same : ∀ one two, correspondence.steps one two → one = two)
    (hidden : ∀ step, correspondence.hidden step → counts step = false) :
    first.filter counts = second.filter counts := by
  induction journals with
  | nil => rfl
  | both one _ ih =>
    rw [same _ _ one, List.filter_cons, List.filter_cons, ih]
  | first one _ ih =>
    rw [List.filter_cons_of_neg (by simp [hidden _ one]), ih]
  | second one _ ih =>
    rw [List.filter_cons_of_neg (by simp [hidden _ one]), ih]

end Correspondence.Journals

namespace Run

variable {correspondence : Correspondence ν} {states : σ → τ → Prop} {values : α → β → Prop}

theorem together_pure {first : α} {second : β} (same : values first second) :
    Together correspondence states values (Pure.pure first : Run ν σ α) (Pure.pure second : Run ν τ β) :=
  fun _ _ start => ⟨.value same, start, .nil⟩

theorem together_note {first second : ν} (same : correspondence.steps first second) :
    Together correspondence states Eq (Run.note first : Run ν σ Unit) (Run.note second : Run ν τ Unit) :=
  fun _ _ start => ⟨.value rfl, start, .both same .nil⟩

theorem together_panic (panic : Panic) :
    Together correspondence states values (Run.panic panic : Run ν σ α) (Run.panic panic : Run ν τ β) :=
  fun _ _ start => ⟨.panic panic, start, .nil⟩

theorem together_state :
    Together correspondence states states (Run.state : Run ν σ σ) (Run.state : Run ν τ τ) :=
  fun _ _ start => ⟨.value start, start, .nil⟩

/-- Edits go together if they keep states that correspond so. -/
theorem together_update {f : σ → σ} {g : τ → τ}
    (keeps : ∀ start other, states start other → states (f start) (g other)) :
    Together correspondence states Eq (Run.update f : Run ν σ Unit) (Run.update g : Run ν τ Unit) :=
  fun _ _ start => ⟨.value rfl, keeps _ _ start, .nil⟩

end Run

section bind
variable {correspondence : Correspondence ν} {states : σ → τ → Prop} {values : γ → δ → Prop}
  {middle : α → β → Prop} {next : α → Run ν σ γ} {other : β → Run ν τ δ}

/-- What comes next goes together from wherever the first runs end. -/
theorem Ran.Together.bind {first : Run ν σ α} {second : Run ν τ β} {start : σ} {begin : τ}
    (together : (first start).Together correspondence states middle (second begin))
    (later : ∀ one two, middle one two → Run.Together correspondence states values (next one) (other two)) :
    ((first >>= next) start).Together correspondence states values ((second >>= other) begin) := by
  obtain ⟨result, state, journal⟩ := together
  cases ran : (first start).result with
  | error panic =>
    rw [ran] at result
    cases ended : (second begin).result with
    | ok value => rw [ended] at result; cases result
    | error same =>
      rw [ended] at result
      cases result
      rw [Run.bind_of_error ran, Run.bind_of_error ended]
      exact ⟨.panic panic, state, journal⟩
  | ok value =>
    rw [ran] at result
    cases ended : (second begin).result with
    | error panic => rw [ended] at result; cases result
    | ok corresponding =>
      rw [ended] at result
      cases result with
      | value same =>
        obtain ⟨result, last, steps⟩ := later _ _ same _ _ state
        rw [Run.bind_of_ok ran, Run.bind_of_ok ended]
        exact ⟨result, last, journal.append steps⟩

theorem Run.Together.bind {first : Run ν σ α} {second : Run ν τ β}
    (together : Run.Together correspondence states middle first second)
    (later : ∀ one two, middle one two → Run.Together correspondence states values (next one) (other two)) :
    Run.Together correspondence states values (first >>= next) (second >>= other) :=
  fun _ _ start => (together _ _ start).bind later

/-- After the same value the same may come next. -/
theorem Run.Together.bind_same {next : α → Run ν σ γ} {other : α → Run ν τ δ} {first : Run ν σ α} {second : Run ν τ α}
    (together : Run.Together correspondence states Eq first second)
    (later : ∀ value, Run.Together correspondence states values (next value) (other value)) :
    Run.Together correspondence states values (first >>= next) (second >>= other) :=
  together.bind fun value _ same => same ▸ later value

/-- The second run may do something first that goes together with nothing at all. -/
theorem Run.Together.preceded {first : Run ν σ γ} {aside : Run ν τ β} {other : β → Run ν τ δ}
    (beside : Run.Together correspondence states (fun _ _ => True) (Pure.pure () : Run ν σ Unit) aside)
    (later : ∀ value, Run.Together correspondence states values first (other value)) :
    Run.Together correspondence states values first (aside >>= other) := by
  have joined : Run.Together correspondence states values ((Pure.pure () : Run ν σ Unit) >>= fun _ => first)
      (aside >>= other) := beside.bind fun _ value _ => later value
  rwa [pure_bind] at joined

/-- The second run may do more with the value that it came to. -/
theorem Run.Together.followed {first : Run ν σ γ} {second : Run ν τ β} {reached : γ → β → Prop} {other : β → Run ν τ δ}
    (together : Run.Together correspondence states reached first second)
    (later : ∀ one two, reached one two →
      Run.Together correspondence states values (Pure.pure one : Run ν σ γ) (other two)) :
    Run.Together correspondence states values first (second >>= other) := by
  have joined : Run.Together correspondence states values (first >>= Pure.pure) (second >>= other) :=
    together.bind later
  rwa [bind_pure] at joined

end bind

namespace Run

variable {correspondence : Correspondence ν} {states : σ → τ → Prop} {values : α → β → Prop} {first : Run ν σ α}
  {second : Run ν τ β}

/-- Whoever catches a panic catches it in both. -/
theorem Together.caught (together : Together correspondence states values first second) :
    Together correspondence states (SameResult values) (caught first) (caught second) :=
  fun _ _ start =>
    have ended := together _ _ start
    ⟨.value ended.result, ended.state, ended.journal⟩

theorem Agree.foreign (agree : Agree states values first second) :
    Together correspondence states values (foreign first) (foreign second) :=
  fun _ _ start => ⟨(agree _ _ start).1, (agree _ _ start).2, .nil⟩

/-- Beside a state that corresponds there may be another one. -/
theorem Together.onFirst {locals : σ' → τ' → Prop} (together : Together correspondence states values first second) :
    Together correspondence (Both states locals) values (onFirst first) (onFirst second) :=
  fun _ _ start =>
    have ended := together _ _ start.1
    ⟨ended.result, ⟨ended.state, start.2⟩, ended.journal⟩

theorem Together.withLocal {locals : σ' → τ' → Prop} {one : σ'} {two : τ'} (same : locals one two)
    {first : Run ν (σ × σ') α} {second : Run ν (τ × τ') β}
    (together : Together correspondence (Both states locals) values first second) :
    Together correspondence states (Both (SameResult values) locals) (withLocal one first) (withLocal two second) :=
  fun start other corresponding =>
    have ended := together _ _ (show Both states locals (start, one) (other, two) from ⟨corresponding, same⟩)
    ⟨.value ⟨ended.result, ended.state.2⟩, ended.state.1, ended.journal⟩

/-- Runs for the same items go together if they do for each item, with the same values. -/
theorem Together.forEach {run : α → Run ν σ β} {other : α → Run ν τ β}
    (together : ∀ item, Together correspondence states Eq (run item) (other item)) (items : List α) :
    Together correspondence states Eq (forEach run items) (forEach other items) := by
  induction items with
  | nil => exact together_pure rfl
  | cons item rest ih =>
    rw [forEach_cons, forEach_cons]
    exact (together item).bind_same fun value => ih.bind_same fun values => together_pure rfl

end Run

end Dispatch
