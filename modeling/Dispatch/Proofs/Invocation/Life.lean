import Dispatch.Proofs.Host
import Dispatch.Proofs.Invocation.Uses

namespace Dispatch.Invocation

variable {κ μ : Type} (host : Host κ μ)

/-- Where uses have led to, and the steps that they took. -/
structure Past (κ μ : Type) where
  state : World κ μ × Invocation κ
  journal : List (Step κ)

/-- One more use. A use that panics has been one. -/
def Past.next (past : Past κ μ) (use : Use κ μ) : Past κ μ :=
  ⟨(use.run host past.state).state, past.journal ++ (use.run host past.state).journal⟩

/-- The past after uses in a row, of which the latest stands first. -/
def past (start : World κ μ × Invocation κ) : List (Use κ μ) → Past κ μ
  | [] => ⟨start, []⟩
  | use :: earlier => (past start earlier).next host use

/-- What the latest use of those has yielded that have yielded anything. -/
def latest (start : World κ μ × Invocation κ) (yields : Use κ μ → World κ μ × Invocation κ → Option Attributes) :
    List (Use κ μ) → Option Attributes
  | [] => none
  | use :: earlier => (yields use (past host start earlier).state).or (latest start yields earlier)

/-- What is known from its past of an invocation, of how often its hook was used, of its input and its output. -/
structure Fits (start : World κ μ × Invocation κ) (uses : List (Use κ μ)) (current : Invocation κ)
    (journal : List (Step κ)) : Prop where
  executions : journal.countP Step.isExecution = if current.phase.isFinal then 1 else 0
  preparations : journal.countP Step.isPreparation = if current.prepared then 1 else 0
  attempted : current.prepared = uses.any Use.setsUp
  unprepared : current.prepared = false → current.hook = start.2.hook ∧ current.phase = .created
  ready : current.phase = .validated → current.input.isSome = true
  input : current.input = latest host start (Use.accepts host) uses
  executed : ∀ channel input, .executed channel input ∈ journal → current.input = some input
  output : current.output = latest host start (Use.hands host) uses
  unfinished : current.phase.isFinal = false → current.output = none

variable {host} {start : World κ μ × Invocation κ} {earlier : List (Use κ μ)} {current : Invocation κ}
  {journal more : List (Step κ)} {use : Use κ μ}

/-- Validating is neither preparing nor executing. -/
theorem countP_of_checks {kind : Step κ → Bool} (other : ∀ table, kind (.validated table) = false)
    (checks : ∀ step ∈ more, ∃ table, step = .validated table) : more.countP kind = 0 := by
  refine List.countP_eq_zero.mpr fun step member => ?_
  obtain ⟨table, rfl⟩ := checks step member
  simp [other]

theorem latest_of_none {yields : Use κ μ → World κ μ × Invocation κ → Option Attributes}
    (nothing : yields use (past host start earlier).state = none) :
    latest host start yields (use :: earlier) = latest host start yields earlier := by
  change (yields use (past host start earlier).state).or _ = _
  rw [nothing]
  rfl

/-- Before an invocation is processed its hook has not been executed. -/
theorem Fits.not_executed (fits : Fits host start earlier current journal)
    (unprocessed : current.phase.isFinal = false) (channel : Channel) (input : Attributes) :
    .executed channel input ∉ journal := by
  have none : journal.countP Step.isExecution = 0 := by
    rw [fits.executions, unprocessed]
    rfl
  exact fun member => List.countP_eq_zero.mp none _ member rfl

/-- An invocation that is past its first phase has been prepared. -/
theorem Fits.prepared_of_ne (fits : Fits host start earlier current journal) (begun : current.phase ≠ .created) :
    current.prepared = true := by
  cases prepared : current.prepared with
  | true => rfl
  | false => exact absurd (fits.unprepared prepared).2 begun

/-- Nothing is known of an invocation at first but that it is new. -/
theorem fits_start (world : World κ μ) (action : Action κ) (hook : κ) (context : Context) :
    Fits host (world, Invocation.start action hook context) [] (.start action hook context) [] where
  executions := rfl
  preparations := rfl
  attempted := rfl
  unprepared _ := ⟨rfl, rfl⟩
  ready validated := by cases validated
  input := rfl
  executed _ _ member := by cases member
  output := rfl
  unfinished _ := rfl

/-- A use that leaves the invocation as it is leaves what is known. -/
theorem Fits.pass (fits : Fits host start earlier current journal) (context : Context)
    (checks : ∀ step ∈ more, ∃ table, step = .validated table)
    (accepts : use.accepts host (past host start earlier).state = none)
    (hands : use.hands host (past host start earlier).state = none)
    (late : use.setsUp = true → current.phase.isFinal = true) :
    Fits host start (use :: earlier) { current with context } (journal ++ more) where
  executions := by rw [List.countP_append, countP_of_checks (fun _ => rfl) checks, fits.executions, Nat.add_zero]
  preparations := by rw [List.countP_append, countP_of_checks (fun _ => rfl) checks, fits.preparations, Nat.add_zero]
  attempted := by
    rw [List.any_cons, ← fits.attempted]
    cases setsUp : use.setsUp with
    | false => rfl
    | true =>
      refine fits.prepared_of_ne fun created => ?_
      have final := late setsUp
      rw [created] at final
      cases final
  unprepared := fits.unprepared
  ready := fits.ready
  input := by rw [latest_of_none accepts, fits.input]
  executed channel input member := by
    rcases List.mem_append.mp member with before | now
    · exact fits.executed channel input before
    · obtain ⟨table, impossible⟩ := checks _ now
      cases impossible
  output := by rw [latest_of_none hands, fits.output]
  unfinished := fits.unfinished

/-- A set-up prepares the hook unless that has been done, and takes the input that is accepted. -/
theorem Fits.setUp (fits : Fits host start earlier current journal) (unprocessed : current.phase.isFinal = false)
    (hook : κ) (context : Context) {params : Json} {accepted : Option Attributes}
    (checks : ∀ step ∈ more, ∃ table, step = .validated table)
    (accepts : (Use.setUp params).accepts host (past host start earlier).state = accepted) :
    Fits host start (.setUp params :: earlier)
      ({ current with hook, context, prepared := true }.taking accepted)
      (journal ++ ((if current.prepared then [] else [.prepared]) ++ more)) := by
  let ready := { current with hook, context, prepared := true }
  have stays : (ready.taking accepted).phase.isFinal = false := ready.taking_open accepted unprocessed
  constructor
  case executions =>
    rw [List.countP_append, List.countP_append, countP_of_checks (fun _ => rfl) checks, fits.executions, unprocessed,
      stays]
    cases current.prepared <;> rfl
  case preparations =>
    rw [List.countP_append, List.countP_append, countP_of_checks (fun _ => rfl) checks, fits.preparations,
      taking_prepared]
    cases current.prepared <;> rfl
  case attempted => rw [taking_prepared, List.any_cons]; rfl
  case unprepared =>
    intro unprepared
    rw [taking_prepared] at unprepared
    cases unprepared
  case ready =>
    cases accepted with
    | none => exact fits.ready
    | some input => exact fun _ => rfl
  case input =>
    rw [taking_input]
    change accepted.or current.input = ((Use.setUp params).accepts host (past host start earlier).state).or _
    rw [accepts, fits.input]
  case executed =>
    intro channel input member
    rcases List.mem_append.mp member with before | now
    · exact absurd before (fits.not_executed unprocessed channel input)
    · rcases List.mem_append.mp now with preparing | checking
      · cases prepared : current.prepared <;> simp [prepared] at preparing
      · obtain ⟨table, impossible⟩ := checks _ checking
        cases impossible
  case output => rw [latest_of_none rfl, taking_output, ← fits.output]
  case unfinished =>
    intro _
    rw [taking_output]
    exact fits.unfinished unprocessed

/-- A ready invocation that is processed is executed, on its input. -/
theorem Fits.process (fits : Fits host start earlier current journal) {input : Attributes} {channel : Channel}
    (ready : current.readyInput = .ok input) (hook : κ) (success : Bool) {handed : Option Attributes}
    (hands : (Use.process channel).hands host (past host start earlier).state = handed) :
    Fits host start (.process channel :: earlier)
      { current with hook, phase := if success then .executed else .failed, output := handed.or current.output }
      (journal ++ [.executed channel input]) := by
  obtain ⟨validated, given⟩ := Use.readyInput_ok_iff.mp ready
  have prepared : current.prepared = true := fits.prepared_of_ne (by rw [validated]; decide)
  have unprocessed : current.phase.isFinal = false := by rw [validated]; rfl
  constructor
  case executions =>
    rw [List.countP_append, fits.executions, unprocessed]
    cases success <;> rfl
  case preparations =>
    rw [List.countP_append, fits.preparations]
    rfl
  case attempted => exact fits.attempted
  case unprepared =>
    intro unprepared
    rw [prepared] at unprepared
    cases unprepared
  case ready =>
    intro validated
    cases success <;> cases validated
  case input => rw [latest_of_none rfl, fits.input]
  case executed =>
    intro other known member
    rcases List.mem_append.mp member with before | now
    · exact absurd before (fits.not_executed unprocessed other known)
    · cases List.mem_singleton.mp now
      exact given
  case output =>
    unfold latest
    rw [hands, fits.output]
  case unfinished =>
    intro open_
    cases success <;> cases open_

/-- Whatever use comes next, what is known of the invocation stays true. -/
theorem Fits.next (prepares : ∀ world context, (host.prepare (world, start.2.hook, context)).result = .ok ())
    (fits : Fits host start earlier (past host start earlier).state.2 (past host start earlier).journal)
    (use : Use κ μ) :
    Fits host start (use :: earlier) (past host start (use :: earlier)).state.2
      (past host start (use :: earlier)).journal := by
  rcases here : (past host start earlier).state with ⟨world, current⟩
  rw [here] at fits
  have state : (past host start (use :: earlier)).state = (use.run host (world, current)).state :=
    congrArg (fun state => (use.run host state).state) here
  have journal : (past host start (use :: earlier)).journal =
      (past host start earlier).journal ++ (use.run host (world, current)).journal :=
    congrArg (fun state => (past host start earlier).journal ++ (use.run host state).journal) here
  rw [state, journal]
  rcases use.kinds host world current with
    ⟨params, rfl, unprocessed⟩ | ⟨channel, input, rfl, ready⟩ | ⟨⟨context, same⟩, checks, accepts, hands, late⟩
  · have ready (unprepared : current.prepared = false) :
        (host.prepare (world, current.hook, current.context)).result = .ok () := by
      rw [(fits.unprepared unprepared).1]
      exact prepares world current.context
    obtain ⟨taken, _, ⟨checks, validations, steps⟩⟩ := Use.setsUp_of_open host unprocessed ready params
    obtain ⟨after, hook, context, readied⟩ := readied_eq host world current
    rw [taken, steps, readied]
    exact fits.setUp unprocessed hook context validations (by rw [here])
  · obtain ⟨steps, outcome, hook, _, ended⟩ := process_of_ready host ready channel world
    rw [Use.run_process, steps, ended]
    exact fits.process ready hook outcome.success (by rw [here])
  · rw [same]
    rw [← here] at accepts hands
    exact fits.pass context checks accepts hands late

/-- So it is true after any uses in a row. -/
theorem fits_past (world : World κ μ) (action : Action κ) {hook : κ} (context : Context)
    (prepares : ∀ world context, (host.prepare (world, hook, context)).result = .ok ()) (uses : List (Use κ μ)) :
    let now := past host (world, .start action hook context) uses
    Fits host (world, .start action hook context) uses now.state.2 now.journal := by
  induction uses with
  | nil => exact fits_start world action hook context
  | cons use earlier ih => exact ih.next prepares use

section conduct
variable {world : World κ μ}

/-- No use takes a phase back or skips one. -/
theorem advances_of_use (prepares : current.prepared = false →
      (host.prepare (world, current.hook, current.context)).result = .ok ()) (use : Use κ μ) :
    Phase.Advances current.phase (use.run host (world, current)).state.2.phase := by
  rcases use.kinds host world current with
    ⟨params, rfl, unprocessed⟩ | ⟨channel, input, rfl, ready⟩ | passes
  · obtain ⟨after, hook, context, readied⟩ := readied_eq host world current
    rw [(Use.setsUp_of_open host unprocessed prepares params).ready, readied]
    cases (Use.setUp params).accepts host (world, current) with
    | none => exact .stays _
    | some input =>
      change Phase.Advances current.phase .validated
      cases phase : current.phase with
      | created => exact .validated
      | validated => exact .stays _
      | executed => simp [phase, Phase.isFinal] at unprocessed
      | failed => simp [phase, Phase.isFinal] at unprocessed
  · obtain ⟨_, outcome, hook, _, ended⟩ := process_of_ready host ready channel world
    rw [Use.run_process, ended, (Use.readyInput_ok_iff.mp ready).1]
    cases outcome.success with
    | true => exact .executed
    | false => exact .failed
  · obtain ⟨context, same⟩ := passes.same
    rw [same]
    exact .stays _

/-- A set-up has the hook prepare what is not prepared yet, and only if it succeeds it touches phase and input. -/
theorem setUp_conduct (prepares : current.prepared = false →
      (host.prepare (world, current.hook, current.context)).result = .ok ()) (params : Json) :
    let ran := (Use.setUp params).run host (world, current)
    (ran.result = .ok (.setUp (.ok ())) ↔ ((Use.setUp params).accepts host (world, current)).isSome = true) ∧
      (ran.result ≠ .ok (.setUp (.ok ())) →
        ran.state.2.phase = current.phase ∧ ran.state.2.input = current.input) ∧
      (current.phase.isFinal = false →
        ran.state.2 = (Use.readied host (world, current)).2.taking ((Use.setUp params).accepts host (world, current)) ∧
          ran.journal.countP Step.isPreparation = if current.prepared then 0 else 1) := by
  cases processed : current.phase.isFinal with
  | true =>
    have ran := setUp_of_final host processed params world
    have nothing : (Use.setUp params).accepts host (world, current) = none :=
      Use.accepts_of_refused host params (by simp [ran])
    rw [nothing, Use.run_setUp, ran]
    exact ⟨by simp [Except.map], fun _ => ⟨rfl, rfl⟩, fun unprocessed => by cases unprocessed⟩
  | false =>
    obtain ⟨taken, answer, ⟨checks, validations, steps⟩⟩ := Use.setsUp_of_open host processed prepares params
    refine ⟨answer, fun refused => ?_, fun _ => ⟨taken, ?_⟩⟩
    · have nothing : (Use.setUp params).accepts host (world, current) = none := by
        simpa using fun accepted => refused (answer.mpr accepted)
      obtain ⟨after, hook, context, readied⟩ := readied_eq host world current
      rw [taken, nothing, readied]
      exact ⟨rfl, rfl⟩
    · rw [steps, List.countP_append, countP_of_checks (fun _ => rfl) validations]
      cases current.prepared <;> rfl

/-- A set-up that has parameters validated has the hook prepared before, unless that has been done. -/
theorem setUp_prepares (fits : Fits host start earlier current journal)
    (prepares : current.prepared = false →
      (host.prepare (world, current.hook, current.context)).result = .ok ())
    {params : Json} {early late : List (Step κ)} {table : Attributes}
    (steps : ((Use.setUp params).run host (world, current)).journal = early ++ .validated table :: late) :
    .prepared ∈ journal ++ early := by
  cases processed : current.phase.isFinal with
  | true =>
    rw [Use.run_setUp, setUp_of_final host processed] at steps
    simp at steps
  | false =>
    obtain ⟨_, _, ⟨checks, validations, taken⟩⟩ := Use.setsUp_of_open host processed prepares params
    rw [taken] at steps
    cases prepared : current.prepared with
    | true =>
      have once : journal.countP Step.isPreparation = 1 := by
        rw [fits.preparations, prepared]
        rfl
      obtain ⟨step, member, preparation⟩ := List.countP_pos_iff.mp (Nat.lt_of_lt_of_eq Nat.zero_lt_one once.symm)
      cases step with
      | prepared => exact List.mem_append_left early member
      | _ => cases preparation
    | false =>
      rw [prepared] at steps
      cases early with
      | nil => cases steps
      | cons first rest =>
        cases (List.cons.inj steps).1
        exact List.mem_append_right journal List.mem_cons_self

/-- Processing what is not ready changes nothing, and else the outcome tells the new phase. -/
theorem process_conduct (ready : current.phase = .validated → current.input.isSome = true) (channel : Channel) :
    let ran := (Use.process channel).run host (world, current)
    (current.phase ≠ .validated →
      (∃ outcome, ran.result = .ok (.processed outcome) ∧ outcome.success = false) ∧
        (∃ log, ran.state = ({ world with log }, current)) ∧ ran.journal = []) ∧
      (current.phase = .validated → ∃ outcome input, ran.result = .ok (.processed outcome) ∧
        ran.journal = [.executed channel input] ∧ (outcome.success = true ↔ ran.state.2.phase = .executed) ∧
          ran.state.2.phase.isFinal = true) := by
  dsimp only
  rw [Use.run_process]
  constructor
  · intro early
    cases given : current.readyInput with
    | ok input => exact absurd (Use.readyInput_ok_iff.mp given).1 early
    | error failure =>
      obtain ⟨⟨outcome, returned, failed⟩, same, journal⟩ := process_of_unready host given channel world
      exact ⟨⟨outcome, by rw [returned]; rfl, failed⟩, same, journal⟩
  · intro validated
    obtain ⟨input, given⟩ := Option.isSome_iff_exists.mp (ready validated)
    obtain ⟨journal, outcome, hook, returned, ended⟩ :=
      process_of_ready host (Use.readyInput_ok_iff.mpr ⟨validated, given⟩) channel world
    refine ⟨outcome, input, by rw [returned]; rfl, journal, ?_, ?_⟩
    · rw [ended]
      cases outcome.success <;> simp
    · rw [ended]
      cases outcome.success <;> rfl

end conduct

variable (host)

/-- Whatever is done with a new invocation, and in whatever order, its hook is prepared and executed once at most. -/
theorem life_of_uses (action : Action κ) (hook : κ) (context : Context) (world : World κ μ)
    (prepares : ∀ world context, (host.prepare (world, hook, context)).result = .ok ()) (uses : List (Use κ μ)) :
    let start := (world, Invocation.start action hook context)
    let now := past host start uses
    let current := now.state.2
    now.journal.countP Step.isExecution = (if current.phase.isFinal then 1 else 0) ∧
      now.journal.countP Step.isPreparation = (if uses.any Use.setsUp then 1 else 0) ∧
      current.input = latest host start (Use.accepts host) uses ∧
      (∀ channel input, .executed channel input ∈ now.journal →
        latest host start (Use.accepts host) uses = some input) ∧
      current.output = latest host start (Use.hands host) uses ∧
      (∀ use : Use κ μ, Phase.Advances current.phase (use.run host now.state).state.2.phase) ∧
      (∀ params,
        let ran := (Use.setUp params).run host now.state
        (ran.result = .ok (.setUp (.ok ())) ↔ ((Use.setUp params).accepts host now.state).isSome = true) ∧
          (ran.result ≠ .ok (.setUp (.ok ())) →
            ran.state.2.phase = current.phase ∧ ran.state.2.input = current.input) ∧
          (∀ early table late, ran.journal = early ++ .validated table :: late → .prepared ∈ now.journal ++ early) ∧
          (current.phase.isFinal = false →
            ran.state.2 = (Use.readied host now.state).2.taking ((Use.setUp params).accepts host now.state) ∧
              ran.journal.countP Step.isPreparation = if current.prepared then 0 else 1)) ∧
      ∀ channel,
        let ran := (Use.process channel).run host now.state
        (current.phase ≠ .validated →
          (∃ outcome, ran.result = .ok (.processed outcome) ∧ outcome.success = false) ∧
            (∃ log, ran.state = ({ now.state.1 with log }, current)) ∧ ran.journal = []) ∧
          (current.phase = .validated → ∃ outcome input, ran.result = .ok (.processed outcome) ∧
            ran.journal = [.executed channel input] ∧ (outcome.success = true ↔ ran.state.2.phase = .executed) ∧
              ran.state.2.phase.isFinal = true) := by
  intro start now current
  have fits : Fits host start uses current now.journal := fits_past world action context prepares uses
  have ready (unprepared : current.prepared = false) :
      (host.prepare (now.state.1, current.hook, current.context)).result = .ok () := by
    rw [(fits.unprepared unprepared).1]
    exact prepares _ _
  refine ⟨fits.executions, ?_, fits.input, ?_, fits.output, ?_, ?_, ?_⟩
  · rw [← fits.attempted]
    exact fits.preparations
  · intro channel input member
    rw [← fits.input]
    exact fits.executed channel input member
  · exact fun use => advances_of_use ready use
  · intro params ran
    obtain ⟨answer, refused, prepared⟩ := setUp_conduct ready params
    exact ⟨answer, refused, fun early table late steps => setUp_prepares fits ready steps, prepared⟩
  · exact fun channel => process_conduct fits.ready channel

/-- A new invocation of an action that hands its input back. -/
def echoed : World Unit Unit × Invocation Unit := (World.start () fun _ => 0, .start (Action.echo "maya") () default)

/-- An invocation that is set up twice and then processed twice hands the second input back. -/
theorem life_of_uses_echo :
    let uses : List (Use Unit Unit) :=
      [.process .cooperative, .process .blocking, .setUp (.obj [("second", .null)]), .setUp (.obj [("first", .null)]),
        .process .blocking]
    let now := past Host.plain echoed uses
    now.state.2.phase = .executed ∧ now.journal.countP Step.isExecution = 1 ∧
      now.journal.countP Step.isPreparation = 1 ∧ now.state.2.output.map Table.keys = some ["second"] := by
  intro uses now
  obtain ⟨executions, preparations, _, _, output, _⟩ :=
    life_of_uses Host.plain (Action.echo "maya") () default (World.start () fun _ => 0) (fun _ _ => rfl) uses
  have phase : now.state.2.phase = .executed := by decide +kernel
  have handed : (latest Host.plain echoed (Use.hands Host.plain) uses).map Table.keys = some ["second"] := by
    decide +kernel
  refine ⟨phase, ?_, preparations, ?_⟩
  · have once : now.journal.countP Step.isExecution = if now.state.2.phase.isFinal then 1 else 0 := executions
    rw [once, phase]
    rfl
  · rw [← handed]
    exact congrArg (Option.map Table.keys) output

end Dispatch.Invocation
