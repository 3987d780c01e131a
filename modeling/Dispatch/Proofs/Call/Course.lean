import Dispatch.Proofs.Call.Escape
import Dispatch.Proofs.Pipeline

namespace Dispatch.Manager

variable {κ μ : Type} (host : Host κ μ) (manager : Manager) (channel : Channel) (name : String)

/-- The world in which the links begin. -/
def begun (input : Attributes) (world : World κ μ) : World κ μ :=
  (manager.publish host channel (manager.beforeEvent name (some input)) world).state

/-- The manager's links around an invocation. -/
def processing (invocation : Invocation κ) (world : World κ μ) : Ran (Step κ) (World κ μ × Invocation κ) Outcome :=
  Pipeline.process host ((world.manager manager.id).pipeline.getD []) channel (world, invocation)

/-- A call has its parameters accepted: this is the input, and the invocation that carries it, and the world. -/
inductive Accepts (own : Option Attributes) (params : Json) (world : World κ μ) :
    Attributes → Invocation κ → World κ μ → Prop
  | intro {invocation prepared : Invocation κ} {ready looked accepted : World κ μ} {table input : Attributes}
      (makes : manager.Makes host channel name own world invocation ready)
      (prepares : Run.Reaches (Invocation.prepareOnce host) (ready, invocation) () (looked, prepared))
      (given : Schema.parameters params = .ok table)
      (validates : Run.Reaches (prepared.validate host table) looked (.ok input) accepted) :
      Accepts own params world input { prepared with input := some input, phase := .validated } accepted

/-- Publishing an event on the manager's bus tells everybody of it who is subscribed in the world where this begins. -/
def telling (event : Event) (world : World κ μ) : List (Step κ) :=
  .published manager.bus channel event ::
    ((world.bus manager.bus).subscriptions channel event.name).map (.notified channel · event)

/-- What is published under a title holds a value under a key. -/
structure Carries (event : Event) (title key : String) (value : Json) : Prop where
  named : event.name = title
  held : event.data.get? key = some value

/-- The ways of a call that returns, with the events that it publishes and those who hear of them. -/
inductive Course (own : Option Attributes) (params : Json) (world : World κ μ) (journal : List (Step κ))
    (outcome : Outcome) : Prop
  | unknown {refreshed unresolved : World κ μ}
      (refreshes : Run.Reaches (manager.refreshIfDue host channel) world () refreshed)
      (resolves : Run.Reaches (manager.resolve name) refreshed none unresolved)
      (told : callEvents journal = [])
      (heard : tellings journal = [])
      (untouched : ∀ step ∈ journal, step.stage = .loading ∨ step.stage = .telling)
      (answer : outcome = notFound name)
      (failed : outcome.success = false)
  | rejected {action : Action κ} {found : World κ μ} {rejection : Rejection} {error : Event}
      (finds : manager.Finds host channel name world action found)
      (rejects : (action.instantiate host (manager.contextOver own (found.manager manager.id)) found).result =
        .ok (.error rejection))
      (told : callEvents journal = [(manager.bus, channel, error)])
      (heard : tellings journal = manager.telling channel error
        (action.instantiate host (manager.contextOver own (found.manager manager.id)) found).state)
      (carries : Carries error (Event.callError name) "error" (.ofString? outcome.error))
      (unprocessed : ∀ step ∈ journal, step.stage ≠ .processing)
      (answer : outcome = executionFailure name rejection.report)
      (failed : outcome.success = false)
  | refused {invocation : Invocation κ} {ready : World κ μ} {violation : Violation} {error : Event}
      (makes : manager.Makes host channel name own world invocation ready)
      (refuses : (Invocation.setUp host params (ready, invocation)).result = .ok (.error violation))
      (told : callEvents journal = [(manager.bus, channel, error)])
      (heard : tellings journal =
        manager.telling channel error (Invocation.setUp host params (ready, invocation)).state.1)
      (carries : Carries error (Event.callError name) "error" (.ofString? outcome.error))
      (unprocessed : ∀ step ∈ journal, step.stage ≠ .processing)
      (answer : outcome = preparationFailure name violation)
      (failed : outcome.success = false)
  | carriedOut {input : Attributes} {invocation : Invocation κ} {accepted : World κ μ} {result : Outcome}
      {before after : Event}
      (accepts : manager.Accepts host channel name own params world input invocation accepted)
      (processed : (manager.processing host channel invocation
        (manager.begun host channel name input accepted)).result = .ok result)
      (told : callEvents journal = [(manager.bus, channel, before), (manager.bus, channel, after)])
      (heard : tellings journal = manager.telling channel before accepted ++ manager.telling channel after
        (manager.processing host channel invocation (manager.begun host channel name input accepted)).state.1)
      (given : Carries before (Event.beforeExecute name) "params" (.ofTable input))
      (carries : Carries after (Event.afterExecute name) "result" result.toWire)
      (kept : outcome = { result with message := outcome.message })
      (filled : outcome.message =
        if result.message = "" then "Action " ++ name ++ " executed successfully" else result.message)
  | interrupted {input : Attributes} {invocation : Invocation κ} {accepted : World κ μ} {panic : Panic}
      {before error : Event}
      (accepts : manager.Accepts host channel name own params world input invocation accepted)
      (panicked : (manager.processing host channel invocation
        (manager.begun host channel name input accepted)).result = .error panic)
      (told : callEvents journal = [(manager.bus, channel, before), (manager.bus, channel, error)])
      (heard : tellings journal = manager.telling channel before accepted ++ manager.telling channel error
        (manager.processing host channel invocation (manager.begun host channel name input accepted)).state.1)
      (given : Carries before (Event.beforeExecute name) "params" (.ofTable input))
      (carries : Carries error (Event.callError name) "error" (.ofString? outcome.error))
      (answer : outcome = executionFailure name (Failure.ofPanic panic).report)
      (failed : outcome.success = false)

section events

theorem beforeEvent_carries (input : Attributes) :
    Carries (manager.beforeEvent name (some input)) (Event.beforeExecute name) "params" (.ofTable input) :=
  ⟨rfl, Table.get?_insert_self _ _ _⟩

theorem afterEvent_carries (result : Outcome) :
    Carries (manager.afterEvent name result) (Event.afterExecute name) "result" result.toWire :=
  ⟨rfl, Table.get?_insert_self _ _ _⟩

theorem errorEvent_carries (outcome : Outcome) :
    Carries (manager.errorEvent name outcome) (Event.callError name) "error" (.ofString? outcome.error) := by
  refine ⟨rfl, ?_⟩
  unfold errorEvent
  rw [Table.get?_insert_of_ne _ (by decide), Table.get?_insert_self]

/-- Publishing on a manager's bus tells of the event, and takes no other step. -/
theorem publish_journal (event : Event) (world : World κ μ) :
    (manager.publish host channel event world).journal = manager.telling channel event world := by
  unfold publish
  rw [Run.journal_bind_pure]
  exact (manager.bus.publish_ends host channel event.name event.data world).2

/-- All steps of publishing an event tell of it. -/
theorem mem_telling {event : Event} {world : World κ μ} {step : Step κ}
    (member : step ∈ manager.telling channel event world) : step.stage = .telling ∧ step.tells = event.isOfCall := by
  rcases List.mem_cons.mp member with rfl | notice
  · exact ⟨rfl, rfl⟩
  · obtain ⟨subscription, _, rfl⟩ := List.mem_map.mp notice
    exact ⟨rfl, rfl⟩

theorem publish_notes_telling (event : Event) :
    Run.Notes (fun step => step.stage = .telling) (manager.publish host channel event) := by
  intro world step member
  rw [publish_journal] at member
  exact (mem_telling manager channel member).1

/-- An event of a call that is published stands in the journal with all who hear of it. -/
theorem publish_tellings {event : Event} (ofCall : event.isOfCall = true) (world : World κ μ) :
    tellings (manager.publish host channel event world).journal = manager.telling channel event world := by
  rw [publish_journal]
  exact List.filter_eq_self.mpr fun step member => (mem_telling manager channel member).2.trans ofCall

theorem callEvents_telling {event : Event} (ofCall : event.isOfCall = true) (world : World κ μ) :
    callEvents (manager.telling channel event world) = [(manager.bus, channel, event)] := by
  simp [callEvents, telling, Step.callEvent?, ofCall, List.filterMap_map]

/-- Who tells of one event of a call publishes just that one. -/
theorem callEvents_of_telling {journal : List (Step κ)} {event : Event} {world : World κ μ}
    (heard : tellings journal = manager.telling channel event world) (ofCall : event.isOfCall = true) :
    callEvents journal = [(manager.bus, channel, event)] := by
  rw [← callEvents_tellings, heard, manager.callEvents_telling channel ofCall]

/-- Who tells of two events of a call publishes just those. -/
theorem callEvents_of_tellings {journal : List (Step κ)} {first second : Event} {world later : World κ μ}
    (heard : tellings journal = manager.telling channel first world ++ manager.telling channel second later)
    (ofCall : first.isOfCall = true) (alsoOfCall : second.isOfCall = true) :
    callEvents journal = [(manager.bus, channel, first), (manager.bus, channel, second)] := by
  rw [← callEvents_tellings, heard, callEvents_append, manager.callEvents_telling channel ofCall,
    manager.callEvents_telling channel alsoOfCall]
  rfl

end events

/-- A call that fails tells of its error and ends with it. -/
theorem failCall_ends (outcome : Outcome) (world : World κ μ) :
    (manager.failCall host channel name outcome world).result = .ok outcome ∧
      tellings (manager.failCall host channel name outcome world).journal =
        manager.telling channel (manager.errorEvent name outcome) world := by
  unfold failCall
  rw [Act.record_bind, Run.bind_of_ok ((manager.publish_returns host channel _).unit _)]
  refine ⟨rfl, ?_⟩
  rw [Run.pure_apply, List.append_nil]
  exact manager.publish_tellings host channel (Event.isOfCall_callError _ _) _

theorem failCall_notes (outcome : Outcome) :
    Run.Notes (fun step => step.stage = .telling) (manager.failCall host channel name outcome) :=
  (Act.record_silent _ _ _).notes.bind fun _ => (manager.publish_notes_telling host channel _).bind fun _ =>
    Run.notes_pure _

/-- A call that is set up publishes an event, goes through the links, and is concluded. -/
theorem carryOut_apply (invocation : Invocation κ) (world : World κ μ) :
    let opened := manager.publish host channel (manager.beforeEvent name invocation.input) world
    let processed := manager.processing host channel invocation opened.state
    let concluded := manager.conclude host channel name processed.result processed.state.1
    manager.carryOut host channel name invocation world =
      ⟨concluded.result, concluded.state,
        opened.journal ++ .routed ((opened.state.manager manager.id).pipeline.getD []) ::
          (processed.journal ++ concluded.journal)⟩ := by
  intro opened processed concluded
  unfold carryOut
  rw [Run.bind_of_ok ((manager.publish_returns host channel _).unit world)]
  rfl

/-- A call whose links have returned tells so and ends with what they returned. -/
theorem conclude_ends (result : Outcome) (world : World κ μ) :
    let ran := manager.conclude host channel name (.ok result) world
    ran.result = .ok (result.fillMessage ("Action " ++ name ++ " executed successfully")) ∧
      tellings ran.journal = manager.telling channel (manager.afterEvent name result) world := by
  intro ran
  have ended : ran = ⟨.ok _, _, (manager.publish host channel (manager.afterEvent name result) world).journal ++ []⟩ :=
    Run.bind_of_ok ((manager.publish_returns host channel _).unit world) _
  rw [ended, List.append_nil]
  exact ⟨rfl, manager.publish_tellings host channel (Event.isOfCall_afterExecute _ _) world⟩

/-- After the event before, a call that is set up tells of what its conclusion does and ends as that one does. -/
theorem carryOut_ends {invocation : Invocation κ} {input : Attributes} (given : invocation.input = some input)
    (world : World κ μ) :
    let processed := manager.processing host channel invocation (manager.begun host channel name input world)
    let concluded := manager.conclude host channel name processed.result processed.state.1
    (manager.carryOut host channel name invocation world).result = concluded.result ∧
      tellings (manager.carryOut host channel name invocation world).journal =
        manager.telling channel (manager.beforeEvent name (some input)) world ++ tellings concluded.journal := by
  intro processed concluded
  have quiet : tellings processed.journal = [] := tellings_eq_nil fun step member =>
    Step.tells_of_stage (by rw [Pipeline.process_notes host _ channel _ step member]; decide)
  have told : tellings (manager.publish host channel (manager.beforeEvent name (some input)) world).journal =
      manager.telling channel (manager.beforeEvent name (some input)) world :=
    manager.publish_tellings host channel (Event.isOfCall_beforeExecute _ _) world
  rw [carryOut_apply, given]
  refine ⟨rfl, ?_⟩
  rw [tellings_append, told]
  change _ ++ tellings (processed.journal ++ _) = _
  rw [tellings_append, quiet]
  rfl

/-- An empty message is filled in, and nothing else of the outcome changes. -/
theorem fillMessage_keeps (result : Outcome) (message : String) :
    result.fillMessage message = { result with message := (result.fillMessage message).message } ∧
      (result.fillMessage message).message = if result.message = "" then message else result.message := by
  unfold Outcome.fillMessage
  by_cases empty : result.message = ""
  · simp [empty]
  · simp [empty]

section course
variable {host manager channel name}
variable {own : Option Attributes} {params : Json} {world : World κ μ} {early : List (Step κ)} {outcome : Outcome}

/-- A call that fails before anything is processed tells of its error and of nothing else. -/
theorem failCall_after (before : ∀ step ∈ early, step.IsEarly) {failed : Outcome} {last : World κ μ}
    (returned : (manager.failCall host channel name failed last).result = .ok outcome) :
    outcome = failed ∧
      tellings (early ++ (manager.failCall host channel name failed last).journal) =
        manager.telling channel (manager.errorEvent name outcome) last ∧
      ∀ step ∈ early ++ (manager.failCall host channel name failed last).journal, step.stage ≠ .processing := by
  obtain ⟨ended, heard⟩ := manager.failCall_ends host channel name failed last
  obtain rfl : failed = outcome := Except.ok.inj (ended.symm.trans returned)
  refine ⟨rfl, ?_, ?_⟩
  · rw [tellings_append, tellings_early before, List.nil_append]
    exact heard
  · intro step member
    rcases List.mem_append.mp member with early | telling
    · exact (before step early).1
    · rw [manager.failCall_notes host channel name _ last step telling]
      decide

/-- A call with accepted parameters is carried out or interrupted. -/
theorem carryOut_course (before : ∀ step ∈ early, step.IsEarly) {input : Attributes} {invocation : Invocation κ}
    {accepted : World κ μ}
    (accepts : manager.Accepts host channel name own params world input invocation accepted)
    (returned : (manager.carryOut host channel name invocation accepted).result = .ok outcome) :
    manager.Course host channel name own params world
      (early ++ (manager.carryOut host channel name invocation accepted).journal) outcome := by
  have given : invocation.input = some input := by
    cases accepts
    rfl
  obtain ⟨ended, heard⟩ := manager.carryOut_ends host channel name given accepted
  rw [ended] at returned
  have all : tellings (early ++ (manager.carryOut host channel name invocation accepted).journal) =
      tellings (manager.carryOut host channel name invocation accepted).journal := by
    rw [tellings_append, tellings_early before, List.nil_append]
  rw [heard] at all
  cases processed : (manager.processing host channel invocation
      (manager.begun host channel name input accepted)).result with
  | error panic =>
    rw [processed] at returned all
    obtain ⟨failed, error⟩ := manager.failCall_ends host channel name
      (executionFailure name (Failure.ofPanic panic).report) (manager.processing host channel invocation
        (manager.begun host channel name input accepted)).state.1
    cases failed.symm.trans returned
    have heard := all.trans (congrArg _ error)
    exact .interrupted accepts processed
      (manager.callEvents_of_tellings channel heard (Event.isOfCall_beforeExecute _ _) (Event.isOfCall_callError _ _))
      heard (manager.beforeEvent_carries name input) (manager.errorEvent_carries name _) rfl rfl
  | ok result =>
    rw [processed] at returned all
    obtain ⟨finished, after⟩ := manager.conclude_ends host channel name result (manager.processing host channel
      invocation (manager.begun host channel name input accepted)).state.1
    cases finished.symm.trans returned
    have heard := all.trans (congrArg _ after)
    obtain ⟨kept, filled⟩ := fillMessage_keeps result ("Action " ++ name ++ " executed successfully")
    exact .carriedOut accepts processed
      (manager.callEvents_of_tellings channel heard (Event.isOfCall_beforeExecute _ _)
        (Event.isOfCall_afterExecute _ _))
      heard (manager.beforeEvent_carries name input) (manager.afterEvent_carries name result) kept filled

/-- A set-up that succeeds has the parameters accepted. -/
theorem accepts_of_setUp {invocation : Invocation κ} {ready : World κ μ}
    (makes : manager.Makes host channel name own world invocation ready)
    (succeeded : (Invocation.setUp host params (ready, invocation)).result = .ok (.ok ())) :
    ∃ input, manager.Accepts host channel name own params world input
      (Invocation.setUp host params (ready, invocation)).state.2
      (Invocation.setUp host params (ready, invocation)).state.1 := by
  have unprocessed : invocation.phase.isFinal = false := by
    obtain ⟨action, hook, context, rfl⟩ := makes.starts
    rfl
  rw [Invocation.setUp_of_open host unprocessed] at succeeded ⊢
  obtain ⟨_, prepares, accepted⟩ := Run.bind_returns_iff.mp succeeded
  rw [Run.bind_of_ok prepares]
  rcases ended : (Invocation.prepareOnce host (ready, invocation)).state with ⟨looked, prepared⟩
  rw [ended] at accepted
  obtain ⟨table, input, given, validated, state⟩ := Invocation.accept_accepted host accepted
  refine ⟨input, ?_⟩
  simp only [state]
  exact .intro makes ⟨prepares, ended⟩ given (Run.reaches_of_ok validated)

/-- A call with an invocation is refused, carried out or interrupted. -/
theorem callInvocation_course (before : ∀ step ∈ early, step.IsEarly) {invocation : Invocation κ}
    {ready : World κ μ} (makes : manager.Makes host channel name own world invocation ready)
    (returned : (manager.callInvocation host channel name invocation params ready).result = .ok outcome) :
    manager.Course host channel name own params world
      (early ++ (manager.callInvocation host channel name invocation params ready).journal) outcome := by
  have prefixed : ∀ step ∈ early ++ (Invocation.setUp host params (ready, invocation)).journal, step.IsEarly := by
    intro step member
    rcases List.mem_append.mp member with early | settling
    · exact before step early
    · exact Step.isEarly_of_preparing (Invocation.setUp_notes host params _ step settling).1
  unfold callInvocation at returned ⊢
  rw [Run.bind_of_ok rfl] at returned ⊢
  simp only [Run.withLocal_apply, ← List.append_assoc] at returned ⊢
  cases settled : (Invocation.setUp host params (ready, invocation)).result with
  | error panic => simp [settled] at returned
  | ok accepted =>
    cases accepted with
    | error violation =>
      simp only [settled, Act.record_bind] at returned ⊢
      obtain ⟨answer, heard, unprocessed⟩ := failCall_after prefixed returned
      have told := manager.callEvents_of_telling channel heard (Event.isOfCall_callError _ _)
      exact .refused makes settled told heard (manager.errorEvent_carries name outcome) unprocessed answer
        (by rw [answer]; rfl)
    | ok accepted =>
      obtain ⟨input, accepts⟩ := accepts_of_setUp makes settled
      simp only [settled] at returned ⊢
      exact carryOut_course prefixed accepts returned

/-- A call of an action that was found is rejected, refused, carried out or interrupted. -/
theorem callAction_course (before : ∀ step ∈ early, step.IsEarly) {action : Action κ} {found : World κ μ}
    (finds : manager.Finds host channel name world action found)
    (returned : (manager.callAction host channel name own params action found).result = .ok outcome) :
    manager.Course host channel name own params world
      (early ++ (manager.callAction host channel name own params action found).journal) outcome := by
  unfold callAction at returned ⊢
  rw [read_bind] at returned ⊢
  obtain ⟨made, instantiated, ended⟩ := Run.bind_returns_iff.mp returned
  have prefixed : ∀ step ∈ early ++ (action.instantiate host (manager.contextOver own (found.manager manager.id))
      found).journal, step.IsEarly := by
    intro step member
    rcases List.mem_append.mp member with early | making
    · exact before step early
    · exact Step.isEarly_of_preparing (Action.instantiate_notes host action _ found step making)
  rw [Run.bind_of_ok instantiated, ← List.append_assoc]
  cases made with
  | error rejection =>
    obtain ⟨answer, heard, unprocessed⟩ := failCall_after prefixed ended
    have told := manager.callEvents_of_telling channel heard (Event.isOfCall_callError _ _)
    exact .rejected finds instantiated told heard (manager.errorEvent_carries name outcome) unprocessed answer
      (by rw [answer]; rfl)
  | ok invocation =>
    exact callInvocation_course prefixed ⟨action, found, finds, Run.reaches_of_ok instantiated⟩ ended

/-- Whatever way a call takes, it has something to say. -/
theorem Course.speaks {journal : List (Step κ)}
    (course : manager.Course host channel name own params world journal outcome) : outcome.message ≠ "" := by
  cases course with
  | unknown _ _ _ _ _ answer _ => simp [answer, notFound, Outcome.withPrompt, Outcome.failed]
  | rejected _ _ _ _ _ _ answer _ =>
    simp [answer, executionFailure, Outcome.ofReport, Outcome.withPrompt, Outcome.withValue, Outcome.failed]
  | refused _ _ _ _ _ _ answer _ =>
    simp [answer, preparationFailure, Outcome.ofReport, Outcome.withPrompt, Outcome.withValue, Outcome.failed]
  | carriedOut _ _ _ _ _ _ _ filled =>
    rw [filled]
    split
    · simp
    · assumption
  | interrupted _ _ _ _ _ _ answer _ =>
    simp [answer, executionFailure, Outcome.ofReport, Outcome.withPrompt, Outcome.withValue, Outcome.failed]

/-- Before a call looks for its action it takes the steps of a refresh or none. -/
theorem refreshIfDue_notes : Run.Notes Step.IsOfRefresh (manager.refreshIfDue host channel) := by
  refine manager.isDue_silent.notes.bind fun due => ?_
  split
  · exact (manager.refresh_notes host channel false []).bind fun _ => Run.notes_pure _
  · exact Run.notes_pure _

/-- A call of an unknown action takes no steps beyond those of a refresh. -/
theorem answerUnknown_course (ofRefresh : ∀ step ∈ early, step.IsOfRefresh) {refreshed last : World κ μ}
    (refreshes : Run.Reaches (manager.refreshIfDue host channel) world () refreshed)
    (resolves : Run.Reaches (manager.resolve name) refreshed none last)
    (returned : (manager.answerUnknown name last).result = .ok outcome) :
    manager.Course host channel name own params world (early ++ (manager.answerUnknown name last).journal)
      outcome := by
  unfold answerUnknown at returned ⊢
  rw [Act.record_bind] at returned ⊢
  rw [Run.pure_apply, List.append_nil]
  have unheard : tellings early = [] := tellings_eq_nil fun step member => (ofRefresh step member).2
  have untold : callEvents early = [] := by
    rw [← callEvents_tellings, unheard]
    rfl
  exact .unknown refreshes resolves untold unheard (fun step member => (ofRefresh step member).1)
    (Except.ok.inj returned).symm (by rw [← Except.ok.inj returned]; rfl)

end course

variable {host manager channel name} in
/-- A call that returns takes one of five ways, as its events and its outcome show, and has something to say. -/
theorem call_course {own : Option Attributes} {params : Json} {world : World κ μ} {outcome : Outcome}
    (returned : (manager.call host channel name own params world).result = .ok outcome) :
    manager.Course host channel name own params world
        (manager.call host channel name own params world).journal outcome ∧
      outcome.message ≠ "" := by
  suffices course : manager.Course host channel name own params world
      (manager.call host channel name own params world).journal outcome from ⟨course, course.speaks⟩
  unfold call at returned ⊢
  obtain ⟨_, refreshed, returned⟩ := Run.bind_returns_iff.mp returned
  obtain ⟨found, resolved, ended⟩ := Run.bind_returns_iff.mp returned
  rw [Run.bind_of_ok refreshed, Run.bind_of_ok resolved, ← List.append_assoc]
  have early : ∀ step ∈ (manager.refreshIfDue host channel world).journal ++
      (manager.resolve name (manager.refreshIfDue host channel world).state).journal, step.IsOfRefresh := by
    intro step member
    rcases List.mem_append.mp member with refreshing | resolving
    · exact refreshIfDue_notes world step refreshing
    · exact (manager.resolve_silent name).notes _ step resolving
  cases found with
  | none =>
    exact answerUnknown_course early (Run.reaches_of_ok refreshed) (Run.reaches_of_ok resolved) ended
  | some action =>
    exact callAction_course (fun step member => (early step member).isEarly)
      ⟨_, Run.reaches_of_ok refreshed, Run.reaches_of_ok resolved⟩ ended

/-- The call of an action that hands its input back takes one of the ways, and a subscriber hears of it. -/
theorem call_course_echo :
    let world := (World.globalBus.subscribe .blocking (Event.beforeExecute "echo") () (World.echoing "maya")).state
    let ran := Manager.modest.call Host.plain .blocking "echo" none (.obj []) world
    ∃ outcome, ran.result = .ok outcome ∧
      Manager.modest.Course Host.plain .blocking "echo" none (.obj []) world ran.journal outcome ∧
      outcome.message ≠ "" ∧ (callEvents ran.journal).length = 2 ∧ (tellings ran.journal).length = 3 := by
  intro world ran
  obtain ⟨outcome, returned⟩ : ∃ outcome, ran.result = .ok outcome := ⟨_, rfl⟩
  obtain ⟨course, speaks⟩ := call_course returned
  exact ⟨outcome, returned, course, speaks, by decide +kernel, by decide +kernel⟩

end Dispatch.Manager
