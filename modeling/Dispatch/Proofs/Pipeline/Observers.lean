import Dispatch.Proofs.Invocation.Uses
import Dispatch.Proofs.Pipeline.Nesting
import Dispatch.Proofs.Run.Pairs

namespace Dispatch

variable {κ μ : Type}

namespace Outcome

/-- Outcomes that at most one entry of their contexts tells apart. -/
structure SameBut (key : String) (first second : Outcome) : Prop where
  success : first.success = second.success
  message : first.message = second.message
  error : first.error = second.error
  prompt : first.prompt = second.prompt
  others (name : String) (other : name ≠ key) : first.context.get? name = second.context.get? name

/-- What is told under a name in the entry of the time taken. -/
def performance? (outcome : Outcome) (name : String) : Option Json :=
  ((outcome.context.get? Middleware.performanceKey).bind Json.asObject?).bind (Table.get? · name)

/-- Outcomes that at most the time taken tells apart. -/
structure Observed (first second : Outcome) : Prop where
  same : SameBut Middleware.performanceKey first second
  members (name : String) (other : name ≠ Middleware.timeKey) : first.performance? name = second.performance? name

theorem observed_refl (outcome : Outcome) : Observed outcome outcome :=
  ⟨⟨rfl, rfl, rfl, rfl, fun _ _ => rfl⟩, fun _ _ => rfl⟩

variable {first second : Outcome}

/-- A time that is noted keeps the other members of its entry, and all other entries. -/
theorem Observed.noted (observed : Observed first second) (time : Json) :
    Observed first (second.withValue Middleware.performanceKey
      (Middleware.withTime (second.context.get? Middleware.performanceKey) time)) := by
  obtain ⟨⟨success, message, error, prompt, others⟩, members⟩ := observed
  refine ⟨⟨success, message, error, prompt, fun name other => ?_⟩, fun name other => ?_⟩
  · rw [others name other]
    exact (Table.get?_insert_of_ne _ other _).symm
  · rw [members name other]
    unfold performance? withValue Middleware.withTime
    rw [Table.get?_insert_self, Option.bind_some, Json.asObject?_ofTable, Option.bind_some,
      Table.get?_insert_of_ne _ other]
    cases (second.context.get? Middleware.performanceKey).bind Json.asObject? <;> rfl

/-- The entry of the time taken decides on its members. -/
theorem performance?_congr
    (same : first.context.get? Middleware.performanceKey = second.context.get? Middleware.performanceKey)
    (name : String) : first.performance? name = second.performance? name := by
  unfold performance?
  rw [same]

end Outcome

/-- Whether worlds correspond depends neither on their logs nor on how often their clocks were read. -/
def World.Unclocked (worlds : World κ μ → World κ μ → Prop) : Prop :=
  ∀ ⦃first second⦄, worlds first second → ∀ log other readings more,
    worlds { first with log, readings } { second with log := other, readings := more }

/-- Worlds that only their logs and their readings of the clock tell apart. -/
def World.SameButClocked (first second : World κ μ) : Prop :=
  { first with log := second.log, readings := second.readings } = second

theorem World.unclocked_sameButClocked : World.Unclocked (World.SameButClocked : World κ μ → World κ μ → Prop) := by
  intro first second same log other readings more
  have clocked := congrArg (fun world : World κ μ => { world with log := other, readings := more }) same
  exact clocked

/-- A link whose code does the same in worlds that correspond and leaves the entry of the time taken alone. -/
structure Host.Unobservant (host : Host κ μ) (worlds : World κ μ → World κ μ → Prop) (channel : Channel) (code : κ) :
    Prop where
  plain : host.around? code channel = none
  before : Run.Agree (Both worlds Eq) Eq (host.before code) (host.before code)
  after (invocation : Invocation κ) :
    Run.Agree (Both worlds (Outcome.SameBut Middleware.performanceKey)) Eq (host.after code invocation)
      (host.after code invocation)
  keeps (invocation : Invocation κ) (state : World κ μ × Outcome) :
    (host.after code invocation state).state.2.context.get? Middleware.performanceKey =
      state.2.context.get? Middleware.performanceKey

/-- Hooks do the same in worlds that correspond, whatever the time is. -/
structure Host.Steady (host : Host κ μ) (worlds : World κ μ → World κ μ → Prop) (channel : Channel) : Prop where
  unclocked : World.Unclocked worlds
  execute (input : Attributes) (context : Context) :
    Run.Agree (Both worlds Eq) Eq (host.execute channel input context) (host.execute channel input context)

/-- Whether a link is of user code. -/
def Middleware.isCustom : Middleware κ → Bool
  | .custom _ => true
  | _ => false

/-- The links of user code. -/
def Pipeline.bare (links : Pipeline κ) : Pipeline κ := links.filter Middleware.isCustom

/-- Whether a step enters a link that only observes. -/
def Step.isOfObserver : Step κ → Bool
  | .entered link => !link.isCustom
  | _ => false

/-- Whether a step is one of user code around an invocation, or of its hook. -/
def Step.isOfHook : Step κ → Bool
  | .before _ | .after _ | .executed .. => true
  | _ => false

/-- The same steps but for those that enter links that only observe. -/
def Step.besideObservers : Correspondence (Step κ) where
  steps := Eq
  hidden step := step.isOfObserver = true

/-- Runs on the same invocation in worlds that correspond, the second one with observers. -/
def Invocation.Watched {α : Type} (worlds : World κ μ → World κ μ → Prop) (values : α → α → Prop)
    (bare watched : InvocationAct κ μ α) : Prop :=
  Run.Together Step.besideObservers (Both worlds Eq) values bare watched

variable {host : Host κ μ} {worlds : World κ μ → World κ μ → Prop} {channel : Channel}

namespace Invocation.Watched

theorem read : Watched worlds Eq (invocation : InvocationAct κ μ (Invocation κ)) invocation := fun _ _ states =>
  ⟨.value states.2, states, .nil⟩

theorem update (f : Invocation κ → Invocation κ) :
    Watched worlds Eq (Invocation.update f : InvocationAct κ μ Unit) (Invocation.update f) :=
  Run.together_update fun _ _ states => ⟨states.1, congrArg f states.2⟩

section unclocked
variable (unclocked : World.Unclocked worlds)
include unclocked

theorem record (severity : Severity) (message : String) (fields : List (String × Json)) :
    Watched worlds Eq (Run.onFirst (Act.record severity message fields))
      (Run.onFirst (Act.record severity message fields)) :=
  Run.Together.onFirst (Run.together_update fun _ _ same => unclocked same _ _ _ _)

/-- What only reads the clock and writes to the log goes together with nothing at all. -/
theorem of_clocked {α : Type} {aside : Act κ μ α}
    (clocked : ∀ world, ∃ value log readings, aside world = ⟨.ok value, { world with log, readings }, []⟩) :
    Run.Together Step.besideObservers (Both worlds Eq) (fun _ _ => True) (pure () : InvocationAct κ μ Unit)
      (Run.onFirst aside : InvocationAct κ μ α) := by
  rintro ⟨first, invocation⟩ ⟨second, same⟩ states
  obtain ⟨value, log, readings, ran⟩ := clocked second
  rw [Run.onFirst_apply, ran]
  exact ⟨.value trivial, ⟨unclocked states.1 first.log log first.readings readings, states.2⟩, .nil⟩

end unclocked

section process
variable (steady : host.Steady worlds channel)
include steady

theorem runHook (input : Attributes) :
    Watched worlds Eq (Invocation.runHook host channel input) (Invocation.runHook host channel input) := by
  rintro ⟨first, invocation⟩ ⟨second, same⟩ ⟨corresponding, rfl⟩
  obtain ⟨result, worlds, hooks⟩ :=
    steady.execute input invocation.context (first, invocation.hook) (second, invocation.hook) ⟨corresponding, rfl⟩
  rw [runHook_apply, runHook_apply]
  refine ⟨.value ?_, ⟨worlds, by rw [hooks]⟩, .both rfl .nil⟩
  generalize (host.execute channel input invocation.context (first, invocation.hook)).result = one at result
  generalize (host.execute channel input invocation.context (second, invocation.hook)).result = two at result
  cases result with
  | value same => rw [same]
  | panic panic => rfl

theorem finish (returned : Except Failure Output) :
    Watched worlds Outcome.Observed (Invocation.finish returned : InvocationAct κ μ Outcome)
      (Invocation.finish returned) := by
  refine read.bind_same fun current => (update _).bind_same fun _ => ?_
  cases returned with
  | error failure =>
    exact (record steady.unclocked _ _ _).bind_same fun _ => Run.together_pure (Outcome.observed_refl _)
  | ok output => exact Run.together_pure (Outcome.observed_refl _)

/-- The invocation's own processing does the same in worlds that correspond. -/
theorem process :
    Watched worlds Outcome.Observed (Invocation.process host channel) (Invocation.process host channel) := by
  refine read.bind_same fun current => ?_
  split
  · refine Run.Together.onFirst (Run.Together.bind_same ?_ fun _ => Run.together_pure (Outcome.observed_refl _))
    exact Run.together_update fun _ _ same => steady.unclocked same _ _ _ _
  · exact (runHook steady _).bind_same fun returned => finish steady returned

end process

end Invocation.Watched

namespace Middleware

open Invocation (Watched)

/-- User code that is unobservant leaves outcomes that only the time taken tells apart. -/
theorem edited_watched {code : κ} (unobservant : host.Unobservant worlds channel code) {outcome result : Outcome}
    (observed : outcome.Observed result) :
    Watched worlds Outcome.Observed (edited host code outcome) (edited host code result) := by
  rintro ⟨first, invocation⟩ ⟨second, same⟩ ⟨corresponding, rfl⟩
  obtain ⟨ended, worlds, alike⟩ :=
    unobservant.after invocation (first, outcome) (second, result) ⟨corresponding, observed.same⟩
  have kept := unobservant.keeps invocation (first, outcome)
  have keptToo := unobservant.keeps invocation (second, result)
  refine ⟨ended.map fun _ _ _ => ⟨alike, fun name other => ?_⟩, ⟨worlds, rfl⟩, .both rfl .nil⟩
  rw [Outcome.performance?_congr kept, Outcome.performance?_congr keptToo, observed.members name other]

variable {bare watched : InvocationAct κ μ Outcome} (inside : Watched worlds Outcome.Observed bare watched)
include inside

section observers
variable (unclocked : World.Unclocked worlds)
include unclocked

/-- Logging around a run changes nothing about it. -/
theorem logged_watched : Watched worlds Outcome.Observed bare (logged channel watched) := by
  refine Run.Together.preceded (fun _ _ states => ⟨.value trivial, states, .nil⟩) fun current => ?_
  refine (Watched.of_clocked unclocked fun world => ⟨_, _, _, rfl⟩).preceded fun _ => ?_
  refine (Watched.of_clocked unclocked fun world => ⟨_, _, _, rfl⟩).preceded fun start => ?_
  refine Run.Together.followed inside fun outcome result observed => ?_
  refine (Watched.of_clocked unclocked fun world => ⟨_, _, _, rfl⟩).preceded fun elapsed => ?_
  refine Run.Together.preceded (fun _ _ states => ⟨.value trivial, states, .nil⟩) fun left => ?_
  refine (Watched.of_clocked unclocked fun world => ?_).preceded fun _ => Run.together_pure observed
  split <;> exact ⟨_, _, _, rfl⟩

/-- Taking the time of a run changes nothing but the time that is noted. -/
theorem timed_watched (threshold : Duration) :
    Watched worlds Outcome.Observed bare (timed threshold watched) := by
  refine (Watched.of_clocked unclocked fun world => ⟨_, _, _, rfl⟩).preceded fun start => ?_
  refine Run.Together.followed inside fun outcome result observed => ?_
  refine (Watched.of_clocked unclocked fun world => ⟨_, _, _, rfl⟩).preceded fun elapsed => ?_
  have noted := observed.noted (secondsJson elapsed)
  dsimp only
  split
  · refine Run.Together.preceded (fun _ _ states => ⟨.value trivial, states, .nil⟩) fun current => ?_
    exact (Watched.of_clocked unclocked fun world => ⟨_, _, _, rfl⟩).preceded fun _ => Run.together_pure noted
  · exact Run.together_pure noted

end observers

theorem around_watched {code : κ} (unobservant : host.Unobservant worlds channel code) :
    Watched worlds Outcome.Observed (around host code bare) (around host code watched) := by
  refine (Run.together_note rfl).bind_same fun _ => unobservant.before.foreign.bind_same fun _ => ?_
  exact Run.Together.bind inside fun outcome result observed => edited_watched unobservant observed

end Middleware

namespace Pipeline

open Invocation (Watched)

/-- Links that only observe can be left out. -/
theorem process_watched (steady : host.Steady worlds channel) (links : Pipeline κ)
    (unobservant : ∀ code, .custom code ∈ links → host.Unobservant worlds channel code) :
    Watched worlds Outcome.Observed (process host links.bare channel) (process host links channel) := by
  induction links with
  | nil => exact Watched.process steady
  | cons first rest ih =>
    have inside := ih fun code member => unobservant code (List.mem_cons_of_mem first member)
    have entered {link : Middleware κ} (observes : link.isCustom = false) :
        Run.Together Step.besideObservers (Both worlds Eq) (fun _ _ => True) (pure () : InvocationAct κ μ Unit)
          (Run.note (.entered link)) := fun _ _ states =>
      ⟨.value trivial, states, .second (by simp [Step.besideObservers, Step.isOfObserver, observes]) .nil⟩
    cases first with
    | logging => exact (entered rfl).preceded fun _ => Middleware.logged_watched inside steady.unclocked
    | performance threshold =>
      exact (entered rfl).preceded fun _ => Middleware.timed_watched inside steady.unclocked threshold
    | custom code =>
      have acts := unobservant code List.mem_cons_self
      refine (Run.together_note rfl).bind_same fun _ => ?_
      simp only [link, acts.plain]
      exact Middleware.around_watched inside acts

/-- The links keep what the action itself tells of the time taken. -/
theorem performance?_of_afters {codes : List κ} (unobservant : ∀ code ∈ codes, host.Unobservant worlds channel code)
    {invocation : Invocation κ} {state : World κ μ × Outcome}
    (returned : (afters host codes invocation state).result = .ok ()) (name : String) :
    state.2.performance? name = (afters host codes invocation state).state.2.performance? name := by
  induction codes generalizing state with
  | nil => rfl
  | cons code rest ih =>
    obtain ⟨acts, others⟩ := List.forall_mem_cons.mp unobservant
    unfold afters at returned ⊢
    rw [List.foldlM_cons] at returned ⊢
    obtain ⟨_, left, later⟩ := Run.bind_returns_iff.mp returned
    rw [Run.bind_of_ok left]
    exact (Outcome.performance?_congr (acts.keeps invocation state) name).symm.trans (ih others later)

/-- Inserting links that only observe changes nothing but records and the time taken that an outcome tells. -/
theorem observers_inserted (steady : host.Steady worlds channel) {codes : List κ} {links : Pipeline κ}
    (inserted : links.bare = codes.map .custom) (unobservant : ∀ code ∈ codes, host.Unobservant worlds channel code)
    {world other : World κ μ} (same : worlds world other) (invocation : Invocation κ) :
    let bare := process host (codes.map .custom) channel (world, invocation)
    let ran := process host links channel (other, invocation)
    bare.journal.filter Step.isOfHook = ran.journal.filter Step.isOfHook ∧
      bare.state.2 = ran.state.2 ∧ worlds bare.state.1 ran.state.1 ∧
      SameResult (Outcome.SameBut Middleware.performanceKey) bare.result ran.result ∧
      ∀ outcome, ran.result = .ok outcome → ∃ own,
        (Invocation.process host channel (befores host codes (world, invocation)).state).result = .ok own ∧
          ∀ name ≠ Middleware.timeKey, own.performance? name = outcome.performance? name := by
  intro bare ran
  have members (code : κ) (member : .custom code ∈ links) : host.Unobservant worlds channel code := by
    have kept : .custom code ∈ links.bare := List.mem_filter.mpr ⟨member, rfl⟩
    rw [inserted] at kept
    obtain ⟨_, among, same⟩ := List.mem_map.mp kept
    cases same
    exact unobservant code among
  have together := process_watched steady links members (world, invocation) (other, invocation) ⟨same, rfl⟩
  rw [inserted] at together
  obtain ⟨result, ⟨worlds, invocations⟩, journal⟩ := together
  refine ⟨journal.filter_eq (fun _ _ => id) ?_, invocations, worlds, result.mono fun _ _ => Outcome.Observed.same, ?_⟩
  · intro step observes
    cases step <;> first | rfl | cases observes
  · intro outcome returned
    change SameResult Outcome.Observed bare.result ran.result at result
    rw [returned] at result
    cases ended : bare.result with
    | error panic =>
      rw [ended] at result
      cases result
    | ok left =>
      rw [ended] at result
      obtain ⟨observed⟩ := result
      change (process host (codes.map .custom) channel (world, invocation)).result = .ok left at ended
      rw [process_nests host fun code member => (unobservant code member).plain] at ended
      obtain ⟨_, _, later⟩ := Run.bind_returns_iff.mp ended
      obtain ⟨own, processed, closed⟩ := Run.bind_returns_iff.mp later
      obtain ⟨acted, rfl⟩ := onOutcome_returns_iff.mp closed
      have kept := performance?_of_afters (fun code member => unobservant code (List.mem_reverse.mp member)) acted
      exact ⟨own, processed, fun name other => (kept name).trans (observed.members name other)⟩

/-- Links that mark messages do not see to the time taken. -/
theorem marking_unobservant (channel : Channel) : marking.Unobservant World.SameButClocked channel () where
  plain := rfl
  before _ _ states := ⟨.value rfl, states⟩
  after := by
    rintro invocation ⟨first, outcome⟩ ⟨second, result⟩ ⟨worlds, success, message, error, prompt, others⟩
    exact ⟨.value rfl, worlds, success, congrArg (· ++ "!") message, error, prompt, others⟩
  keeps _ _ := rfl

theorem marking_steady (channel : Channel) : marking.Steady World.SameButClocked channel where
  unclocked := World.unclocked_sameButClocked
  execute _ _ _ _ states := ⟨.value rfl, states⟩

/-- Three observers around and between two links, and an action that tells something of its own time. -/
theorem observers_inserted_marking :
    let world : World Unit Unit := World.start () fun reading => 5 * reading
    let input : Attributes := .ofList [("performance", .obj [("frames", .ofNat 3)])]
    let invocation := { Invocation.start (Action.echo "maya") () default with input := some input, phase := .validated }
    let links : Pipeline Unit := [.performance ⟨3⟩, .custom (), .logging, .custom (), .performance ⟨9⟩]
    let bare := process marking ([(), ()].map .custom) .blocking (world, invocation)
    let ran := process marking links .blocking (world, invocation)
    bare.journal.filter Step.isOfHook = ran.journal.filter Step.isOfHook ∧ bare.state.2 = ran.state.2 ∧
      World.SameButClocked bare.state.1 ran.state.1 ∧
      SameResult (Outcome.SameBut Middleware.performanceKey) bare.result ran.result ∧
      ran.journal.length = 10 ∧
      (ran.result.toOption.bind (·.performance? "frames")).bind Json.asNat? = some 3 := by
  intro world input invocation links bare ran
  have inserted : links.bare = [(), ()].map .custom := rfl
  have same : World.SameButClocked world world := rfl
  obtain ⟨hooks, last, worlds, result, _⟩ :=
    observers_inserted (marking_steady .blocking) inserted (fun _ _ => marking_unobservant .blocking) same invocation
  refine ⟨hooks, last, worlds, result, ?_, ?_⟩
  · decide +kernel
  · decide +kernel

end Pipeline

end Dispatch
