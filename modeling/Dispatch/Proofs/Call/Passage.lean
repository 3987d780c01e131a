import Dispatch.Proofs.Manager.Protocol

namespace Dispatch

variable {κ μ : Type}

/-- How a call arrives where its links are looked up, or why it does not. -/
inductive Arrival (κ : Type) where
  | unknown
  | rejected (rejection : Rejection)
  | refused (violation : Violation)
  | ready (invocation : Invocation κ)

/-- User code that runs in calls of this name before their links are looked up leaves alone what is looked at. -/
structure Host.Awaits {σ : Type} (host : Host κ μ) (look : World κ μ → σ) (name : String) : Prop where
  load : host.Reserved look
  create (code : κ) : Run.Moves (Run.Unchanged look) (host.create code)
  prepare : Run.Moves (InvImage (Run.Unchanged look) Prod.fst) host.prepare
  validate (code : κ) (schema : Schema) (params : Attributes) :
    Run.Moves (Run.Unchanged look) (host.validate code schema params)
  notify (code : κ) (channel : Channel) (event : Event)
    (early : event.name ∈ [Event.beforeRefresh, Event.afterRefresh, Event.beforeExecute name]) :
    Run.Moves (Run.Unchanged look) (host.notify code channel event)

namespace Manager

variable (host : Host κ μ) (manager : Manager) (channel : Channel) (name : String)

/-- The links that calls of the manager go through. -/
def installed (manager : Manager) (world : World κ μ) : Pipeline κ := (world.manager manager.id).pipeline.getD []

/-- A call up to where its links are looked up. -/
def approach (own : Option Attributes) (params : Json) : Act κ μ (Arrival κ) := do
  manager.refreshIfDue host channel
  match ← manager.resolve name with
  | none => return .unknown
  | some action =>
    match ← action.instantiate host (manager.contextOver own (← manager.read)) with
    | .error rejection => return .rejected rejection
    | .ok invocation =>
      let (settled, invocation) ← Run.withLocal invocation (Invocation.setUp host params)
      match settled with
      | .error panic => Run.panic panic
      | .ok (.error violation) => return .refused violation
      | .ok (.ok ()) =>
        manager.publish host channel (manager.beforeEvent name invocation.input)
        return .ready invocation

/-- The rest of a call, through these links if it needs any. -/
def passage (links : Pipeline κ) : Arrival κ → Act κ μ Outcome
  | .unknown => manager.answerUnknown name
  | .rejected rejection => manager.failCall host channel name (executionFailure name rejection.report)
  | .refused violation => do
    Act.record .warn "Invalid action input"
      [("action", .string name),
       ("error", .string violation.message),
       ("code", .string violation.code)]
    manager.failCall host channel name (preparationFailure name violation)
  | .ready invocation => do
    Run.note (.routed links)
    let (returned, _) ← Run.withLocal invocation (Pipeline.process host links channel)
    manager.conclude host channel name returned

/-- A call that goes through these links, whichever are installed. -/
def callThrough (own : Option Attributes) (params : Json) (links : Pipeline κ) : Act κ μ Outcome :=
  manager.approach host channel name own params >>= manager.passage host channel name links

/-- Whoever looks nothing up may have looked. -/
theorem read_discarded {α : Type} (run : Act κ μ α) : (manager.read >>= fun _ => run) = run := by
  funext world
  rw [read_bind]

/-- A call is its approach, a look at the links installed, and the passage through them. -/
theorem call_eq_approach (own : Option Attributes) (params : Json) :
    manager.call host channel name own params = (do
      let arrival ← manager.approach host channel name own params
      let state ← manager.read
      manager.passage host channel name (state.pipeline.getD []) arrival) := by
  unfold call approach
  simp only [bind_assoc]
  refine bind_congr fun _ => bind_congr fun found => ?_
  cases found with
  | none => exact (manager.read_discarded _).symm.trans (pure_bind _ _).symm
  | some action =>
    simp only [callAction, bind_assoc]
    refine bind_congr fun state => bind_congr fun made => ?_
    cases made with
    | error rejection => exact (manager.read_discarded _).symm.trans (pure_bind _ _).symm
    | ok invocation =>
      simp only [callInvocation, bind_assoc]
      refine bind_congr fun answer => ?_
      rcases answer with ⟨panic | violation | ⟨⟩, invocation⟩
      · rfl
      · exact (manager.read_discarded _).symm.trans (pure_bind _ _).symm
      · simp only [carryOut, passage, bind_assoc, pure_bind]

/-- Whatever was installed when it was made, a call goes through the links that are installed when it has arrived. -/
theorem call_through_arrived (own : Option Attributes) (params : Json) (world : World κ μ) :
    manager.call host channel name own params world =
      manager.callThrough host channel name own params
        (manager.installed (manager.approach host channel name own params world).state) world := by
  rw [call_eq_approach, callThrough]
  cases approached : (manager.approach host channel name own params world).result with
  | error panic => rw [Run.bind_of_error approached, Run.bind_of_error approached]
  | ok arrival =>
    rw [Run.bind_of_ok approached, Run.bind_of_ok approached, read_bind]
    rfl

section moves
variable {relation : World κ μ → World κ μ → Prop} [Run.Lasting relation] {host manager channel name}

/-- A call up to where it looks its links up keeps what its refresh, its set-up and its event before keep. -/
theorem approach_moves (ordinary : Ordinary relation)
    (refreshes : Run.Moves relation (manager.refreshIfDue host channel))
    (creates : ∀ code, Run.Moves relation (host.create code))
    (prepares : Run.Moves (InvImage relation Prod.fst) host.prepare)
    (validates : ∀ code schema params, Run.Moves relation (host.validate code schema params))
    (tells : ∀ input, Run.Moves relation (manager.publish host channel (manager.beforeEvent name input)))
    (own : Option Attributes) (params : Json) :
    Run.Moves relation (manager.approach host channel name own params) := by
  refine refreshes.bind fun _ => (manager.resolve_moves ordinary name).bind fun found => ?_
  cases found with
  | none => exact Run.moves_pure _
  | some action =>
    refine manager.read_moves.bind fun state => (action.instantiate_moves creates _).bind fun made => ?_
    cases made with
    | error rejection => exact Run.moves_pure _
    | ok invocation =>
      refine ((Invocation.setUp_moves prepares validates params).withLocal invocation).bind ?_
      rintro ⟨panic | violation | ⟨⟩, invocation⟩
      · exact Run.moves_panic _
      · exact Run.moves_pure _
      · exact (tells _).bind fun _ => Run.moves_pure _

/-- What the library does by the way leaves what is installed alone. -/
theorem ordinary_installed : Ordinary (Run.Unchanged (manager.installed : World κ μ → Pipeline κ)) where
  record _ _ _ _ _ := rfl
  now _ := rfl
  freshIndex _ := rfl
  registry _ _ _ := rfl

/-- So does a refresh that leaves its time. -/
theorem beginRefresh_installed (manager : Manager) :
    Run.Moves (Run.Unchanged manager.installed) (manager.beginRefresh : Act κ μ Unit) := by
  intro world
  unfold Run.Unchanged installed
  rw [beginRefresh_manager]
  rfl

theorem approach_awaited (awaits : host.Awaits manager.installed name) (own : Option Attributes) (params : Json) :
    Run.Moves (Run.Unchanged manager.installed) (manager.approach host channel name own params) := by
  have tells (event : Event)
      (early : event.name ∈ [Event.beforeRefresh, Event.afterRefresh, Event.beforeExecute name]) :
      Run.Moves (Run.Unchanged manager.installed) (manager.publish host channel event) :=
    (ordinary_installed.publish manager.bus fun code => awaits.notify code channel event early).bind fun _ =>
      Run.moves_pure _
  have refreshes : Run.Moves (Run.Unchanged manager.installed) (manager.refreshIfDue host channel) := by
    refine refreshIfDue_moves_of (manager.isDue_moves ordinary_installed) (refresh_moves_of_ordinary ordinary_installed
      awaits.load manager.beginRefresh_installed (fun event early => ?_) false [])
    exact tells event (List.mem_append_left [Event.beforeExecute name] early)
  exact approach_moves ordinary_installed refreshes awaits.create awaits.prepare awaits.validate
    (fun input => tells _ (by simp [beforeEvent])) own params

end moves

/-- A call goes through the links that are installed when it has arrived, whatever is installed later. -/
theorem call_through_installed (own : Option Attributes) (params : Json) :
    (∀ world, manager.call host channel name own params world =
      manager.callThrough host channel name own params
        (manager.installed (manager.approach host channel name own params world).state) world) ∧
    (host.Awaits manager.installed name → ∀ world, manager.call host channel name own params world =
      manager.callThrough host channel name own params (manager.installed world) world) := by
  have arrived := manager.call_through_arrived host channel name own params
  refine ⟨arrived, fun awaits world => ?_⟩
  have same : manager.installed (manager.approach host channel name own params world).state =
      manager.installed world := approach_awaited awaits own params world
  rw [arrived, same]

end Manager

/-- Plain user code whose hooks add a link to the modest manager when they execute. -/
def Host.extending : Host Unit Unit :=
  { Host.plain with
    execute := fun _ input _ => do
      Run.onFirst (Manager.modest.addMiddleware Host.plain ())
      return .ok (.data input none) }

/-- Plain user code that adds a link to the modest manager when it prepares a hook. -/
def Host.anticipating : Host Unit Unit :=
  { Host.plain with prepare := Run.onFirst (Manager.modest.addMiddleware Host.plain ()) }

/-- The way through the middleware that a step takes. -/
def Step.route? : Step κ → Option (Pipeline κ)
  | .routed links => some links
  | _ => none

/-- The ways through the middleware that a journal takes, in order. -/
def routes (journal : List (Step κ)) : List (Pipeline κ) := journal.filterMap Step.route?

namespace Manager

/-- A link that is added while the hook executes is there after the call, which has not gone through it. -/
theorem call_through_installed_of_extending :
    let ran := modest.call Host.extending .blocking "echo" none (.obj []) (.echoing "maya")
    Host.extending.Awaits modest.installed "echo" ∧
      ran = modest.callThrough Host.extending .blocking "echo" none (.obj []) [] (.echoing "maya") ∧
      routes ran.journal = [[]] ∧ modest.installed ran.state = [.logging] := by
  have awaits : Host.extending.Awaits modest.installed "echo" :=
    ⟨fun _ _ _ _ _ => rfl, fun _ _ => rfl, fun _ => rfl, fun _ _ _ _ => rfl, fun _ _ _ _ _ => rfl⟩
  exact ⟨awaits, (modest.call_through_installed Host.extending .blocking "echo" none (.obj [])).2 awaits _, rfl, rfl⟩

/-- A link that is added while the hook is prepared is one that the call goes through. -/
theorem not_always_through_installed : ¬∀ (host : Host Unit Unit) (manager : Manager) (channel : Channel)
    (name : String) (own : Option Attributes) (params : Json) (world : World Unit Unit),
    manager.call host channel name own params world =
      manager.callThrough host channel name own params (manager.installed world) world := by
  intro always
  have same := congrArg (fun ran => routes ran.journal)
    (always Host.anticipating modest .blocking "echo" none (.obj []) (.echoing "maya"))
  have added : routes (modest.call Host.anticipating .blocking "echo" none (.obj []) (.echoing "maya")).journal =
    [[.logging]] := rfl
  have plain : routes (modest.callThrough Host.anticipating .blocking "echo" none (.obj [])
    (modest.installed (.echoing "maya")) (.echoing "maya")).journal = [[]] := rfl
  have none := added.symm.trans (same.trans plain)
  cases none

end Manager

end Dispatch
