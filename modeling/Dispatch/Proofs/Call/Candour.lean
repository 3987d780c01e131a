import Dispatch.Proofs.Call.Course
import Dispatch.Proofs.Invocation.Uses

namespace Dispatch

variable {κ μ : Type}

namespace Outcome

/-- The text that takes the place of an empty message. -/
def successText (name : String) : String := "Action " ++ name ++ " executed successfully"

/-- If it is a failure, the outcome says something, and not that the action was executed successfully. -/
def Candid (name : String) (outcome : Outcome) : Prop :=
  outcome.success = false → outcome.message ≠ "" ∧ outcome.message ≠ successText name

section candid
variable {name : String} {outcome : Outcome}

theorem not_candid_iff :
    ¬outcome.Candid name ↔
      outcome.success = false ∧ (outcome.message = "" ∨ outcome.message = successText name) := by
  unfold Candid
  rw [Classical.not_imp, Classical.not_and_iff_not_or_not, Classical.not_not, Classical.not_not]

/-- An outcome is candid on account of its success and its message alone. -/
theorem Candid.of_same {other : Outcome} (candid : outcome.Candid name) (success : other.success = outcome.success)
    (message : other.message = outcome.message) : other.Candid name := by
  unfold Candid
  rw [success, message]
  exact candid

/-- A candid outcome is as candid with its message filled in, whatever with: a failure has one already. -/
theorem Candid.fillMessage (candid : outcome.Candid name) (message : String) :
    (outcome.fillMessage message).Candid name := by
  unfold Outcome.fillMessage
  split
  · rename_i empty
    intro failed
    exact absurd (String.isEmpty_iff.mp empty) (candid failed).1
  · exact candid

/-- To be filled in with the text makes no failure candid. -/
theorem candid_fillMessage_iff : (outcome.fillMessage (successText name)).Candid name ↔ outcome.Candid name := by
  refine ⟨fun filled failed => ?_, fun candid => candid.fillMessage _⟩
  by_cases empty : outcome.message = ""
  · have same : outcome.fillMessage (successText name) = { outcome with message := successText name } := by
      simp [Outcome.fillMessage, empty]
    rw [same] at filled
    exact absurd rfl (filled failed).2
  · have same : outcome.fillMessage (successText name) = outcome := by simp [Outcome.fillMessage, empty]
    rw [same] at filled
    exact filled failed

end candid

end Outcome

open Outcome (successText)

namespace Invocation

/-- A failure that an invocation finds does not claim success. -/
theorem failureMessage_candid (name other : String) (failure : Failure) :
    (Outcome.ofReport (failureMessage other failure) failure.report).Candid name := by
  intro _
  change "Failed to execute " ++ other ++ ": " ++ failure.message ≠ "" ∧
    "Failed to execute " ++ other ++ ": " ++ failure.message ≠ successText name
  generalize failure.message = words
  simp [successText, ← String.toList_inj]

/-- What follows from a candid complete outcome, or from anything else that a hook hands back, is candid. -/
theorem settle_candid (name other : String) {handed : Except Failure Output}
    (candid : ∀ made, handed = .ok (.complete made) → made.Candid name) : (settle other handed).2.2.Candid name := by
  rcases handed with failure | ⟨values, prompt⟩ | made
  · exact failureMessage_candid name other failure
  · intro failed
    change true = false at failed
    cases failed
  · exact (candid made rfl).fillMessage _

/-- Under its own name an invocation is candid just if the complete outcome is that its hook hands back. -/
theorem settle_candid_iff {name : String} {handed : Except Failure Output} :
    (settle name handed).2.2.Candid name ↔ ∀ made, handed = .ok (.complete made) → made.Candid name := by
  refine ⟨?_, settle_candid name name⟩
  rintro candid made rfl
  exact Outcome.candid_fillMessage_iff.mp candid

/-- The outcome of an invocation follows from what its hook hands back, if it is ready. -/
theorem process_outcome (host : Host κ μ) (channel : Channel) (world : World κ μ) (invocation : Invocation κ) :
    (process host channel (world, invocation)).result =
      .ok (match invocation.readyInput with
        | .error failure => .ofReport (failureMessage invocation.name failure) failure.report
        | .ok input =>
          (settle invocation.name
            (returned (host.execute channel input invocation.context (world, invocation.hook)).result)).2.2) := by
  unfold process
  rw [invocation_bind]
  cases invocation.readyInput with
  | error failure => rfl
  | ok input =>
    dsimp only
    rw [Run.bind_apply_ok (runHook_apply host channel input world invocation)]
    obtain ⟨after, finished⟩ := finish_ends
      (returned (host.execute channel input invocation.context (world, invocation.hook)).result)
      (host.execute channel input invocation.context (world, invocation.hook)).state.1
      { invocation with hook := (host.execute channel input invocation.context (world, invocation.hook)).state.2 }
    rw [finished]
    rfl

/-- Only a complete outcome is handed back as one; a panic is a failure. -/
theorem returned_eq_complete_iff {result : Except Panic (Except Failure Output)} {made : Outcome} :
    returned result = .ok (.complete made) ↔ result = .ok (.ok (.complete made)) := by
  cases result with
  | error panic => exact ⟨nofun, nofun⟩
  | ok handed => simp [returned]

/-- An invocation comes to a failure that claims success just if its hook hands such a failure back. -/
theorem process_claims_iff (host : Host κ μ) (channel : Channel) (world : World κ μ) (invocation : Invocation κ) :
    ∃ outcome, (process host channel (world, invocation)).result = .ok outcome ∧
      (¬outcome.Candid invocation.name ↔ ∃ input made, invocation.readyInput = .ok input ∧
        (host.execute channel input invocation.context (world, invocation.hook)).result = .ok (.ok (.complete made)) ∧
        ¬made.Candid invocation.name) := by
  refine ⟨_, process_outcome host channel world invocation, ?_⟩
  cases invocation.readyInput with
  | error failure =>
    refine iff_of_false (Classical.not_not.mpr (failureMessage_candid _ _ failure)) ?_
    rintro ⟨input, made, ready, _⟩
    cases ready
  | ok input =>
    dsimp only
    rw [settle_candid_iff]
    simp [returned_eq_complete_iff]

end Invocation

/-- User code hands candid outcomes back and leaves them candid. -/
structure Host.Candid (host : Host κ μ) (name : String) : Prop where
  execute {channel : Channel} {input : Attributes} {context : Context} {state : World κ μ × κ} {made : Outcome}
    (handed : (host.execute channel input context state).result = .ok (.ok (.complete made))) : made.Candid name
  after {code : κ} {invocation : Invocation κ} {world : World κ μ} {outcome : Outcome} (candid : outcome.Candid name)
    (returned : (host.after code invocation (world, outcome)).result = .ok ()) :
    (host.after code invocation (world, outcome)).state.2.Candid name
  around {code : κ} {channel : Channel} {link : Nat → (Channel → InvocationAct κ μ Outcome) → InvocationAct κ μ Outcome}
    (takes : host.around? code channel = some link) (following : Nat) {rest : Channel → InvocationAct κ μ Outcome}
    (yields : ∀ channel, Run.Yields (Outcome.Candid name) (rest channel)) :
    Run.Yields (Outcome.Candid name) (link following rest)

section pipeline
variable {host : Host κ μ} {name : String} (candid : host.Candid name)
include candid

theorem Invocation.process_candid (channel : Channel) :
    Run.Yields (Outcome.Candid name) (Invocation.process host channel) := by
  rintro ⟨world, invocation⟩ outcome ended
  obtain rfl := Except.ok.inj ((process_outcome host channel world invocation).symm.trans ended)
  split
  · exact failureMessage_candid name _ _
  · refine settle_candid name _ fun made handed => ?_
    exact candid.execute (returned_eq_complete_iff.mp handed)

theorem Middleware.edited_candid (code : κ) {outcome : Outcome} (before : outcome.Candid name) :
    Run.Yields (Outcome.Candid name) (edited host code outcome) := by
  rintro ⟨world, invocation⟩ left ended
  change (host.after code invocation (world, outcome)).result.map _ = _ at ended
  cases returned : (host.after code invocation (world, outcome)).result with
  | error panic =>
    rw [returned] at ended
    cases ended
  | ok value =>
    rw [returned] at ended
    cases ended
    exact candid.after before returned

/-- One link is candid if the rest is. -/
theorem Pipeline.link_candid (channel : Channel) (following : Nat) {rest : Channel → InvocationAct κ μ Outcome}
    (yields : ∀ channel, Run.Yields (Outcome.Candid name) (rest channel)) (first : Middleware κ) :
    Run.Yields (Outcome.Candid name) (link host channel following rest first) := by
  cases first with
  | logging =>
    refine Run.yields_bind fun current => Run.yields_bind fun _ => Run.yields_bind fun start => ?_
    refine (yields channel).bind fun outcome right => Run.yields_bind fun elapsed => Run.yields_bind fun left => ?_
    exact Run.yields_bind fun _ => Run.yields_pure right
  | performance threshold =>
    refine Run.yields_bind fun start => (yields channel).bind fun outcome right => Run.yields_bind fun elapsed => ?_
    have noted (value : Json) : (outcome.withValue Middleware.performanceKey value).Candid name := right.of_same rfl rfl
    dsimp only
    split
    · exact Run.yields_bind fun current => Run.yields_bind fun _ => Run.yields_pure (noted _)
    · exact Run.yields_pure (noted _)
  | custom code =>
    unfold link
    dsimp only
    split
    · rename_i link takes
      exact candid.around takes following yields
    · refine Run.yields_bind fun _ => Run.yields_bind fun _ => (yields channel).bind fun outcome right => ?_
      exact Middleware.edited_candid candid code right

/-- Through any links an invocation comes to a candid outcome, or to none. -/
theorem Pipeline.process_candid (links : Pipeline κ) (channel : Channel) :
    Run.Yields (Outcome.Candid name) (process host links channel) := by
  induction links generalizing channel with
  | nil => exact Invocation.process_candid candid channel
  | cons first rest ih => exact Run.yields_bind fun _ => link_candid candid channel rest.length ih first

end pipeline

namespace Manager

/-- A call of an unknown action does not claim success. -/
theorem notFound_candid (name : String) : (notFound name).Candid name := by
  intro _
  change "Action " ++ name ++ " not found" ≠ "" ∧ "Action " ++ name ++ " not found" ≠ successText name
  simp [successText, ← String.toList_inj]

theorem executionFailure_candid (name : String) (report : Report) : (executionFailure name report).Candid name := by
  intro _
  change "Action " ++ name ++ " execution failed: " ++ report.message ≠ "" ∧
    "Action " ++ name ++ " execution failed: " ++ report.message ≠ successText name
  simp [successText, ← String.toList_inj]

theorem preparationFailure_candid (name : String) (violation : Violation) :
    (preparationFailure name violation).Candid name := by
  intro _
  change "Error preparing action " ++ name ++ ": " ++ violation.message ≠ "" ∧
    "Error preparing action " ++ name ++ ": " ++ violation.message ≠ successText name
  simp [successText, ← String.toList_inj]

section call
variable {host : Host κ μ} {manager : Manager} {channel : Channel} {name : String} {own : Option Attributes}
  {params : Json} {world : World κ μ} {outcome : Outcome}

/-- A call is candid of its own accord unless it is carried out. Then its outcome is that of the links, filled in. -/
theorem Course.candid_or_filled {journal : List (Step κ)}
    (course : manager.Course host channel name own params world journal outcome) :
    outcome.Candid name ∨
      ∃ input invocation accepted result,
        manager.Accepts host channel name own params world input invocation accepted ∧
          (manager.processing host channel invocation (manager.begun host channel name input accepted)).result =
            .ok result ∧
          outcome = result.fillMessage (successText name) := by
  cases course with
  | unknown _ _ _ _ _ answer _ => exact .inl (answer ▸ notFound_candid name)
  | rejected _ _ _ _ _ _ answer _ => exact .inl (answer ▸ executionFailure_candid name _)
  | refused _ _ _ _ _ _ answer _ => exact .inl (answer ▸ preparationFailure_candid name _)
  | interrupted _ _ _ _ _ _ answer _ => exact .inl (answer ▸ executionFailure_candid name _)
  | @carriedOut input invocation accepted result _ _ accepts processed _ _ _ _ kept filled =>
    refine .inr ⟨input, invocation, accepted, result, accepts, processed, ?_⟩
    obtain ⟨same, message⟩ := fillMessage_keeps result (successText name)
    rw [kept, same, filled, message]
    rfl

/-- A failure that claims success comes of a call whose links returned a failure without a message or with this one. -/
theorem call_claims_iff (returned : (manager.call host channel name own params world).result = .ok outcome) :
    (outcome.success = false ∧ outcome.message = successText name ↔
      ∃ input invocation accepted result,
        manager.Accepts host channel name own params world input invocation accepted ∧
          (manager.processing host channel invocation (manager.begun host channel name input accepted)).result =
            .ok result ∧
          outcome = result.fillMessage (successText name) ∧
          result.success = false ∧ (result.message = "" ∨ result.message = successText name)) ∧
    (∀ world invocation, ∃ processed,
      (Invocation.process host channel (world, invocation)).result = .ok processed ∧
        (¬processed.Candid invocation.name ↔ ∃ input made, invocation.readyInput = .ok input ∧
          (host.execute channel input invocation.context (world, invocation.hook)).result =
            .ok (.ok (.complete made)) ∧
          made.success = false ∧ (made.message = "" ∨ made.message = successText invocation.name))) ∧
    (host.Candid name → outcome.Candid name) := by
  obtain ⟨course, speaks⟩ := call_course returned
  refine ⟨?_, fun world invocation => ?_, fun candid => ?_⟩
  · -- every call has something to say, so a failure that is not candid says the text
    have claims : outcome.success = false ∧ outcome.message = successText name ↔ ¬outcome.Candid name := by
      rw [Outcome.not_candid_iff, or_iff_right speaks]
    rw [claims]
    constructor
    · intro boasts
      rcases course.candid_or_filled with candid | ⟨input, invocation, accepted, result, accepts, processed, rfl⟩
      · exact absurd candid boasts
      · rw [Outcome.candid_fillMessage_iff, Outcome.not_candid_iff] at boasts
        exact ⟨input, invocation, accepted, result, accepts, processed, rfl, boasts⟩
    · rintro ⟨_, _, _, result, _, _, rfl, boasts⟩
      rw [Outcome.candid_fillMessage_iff, Outcome.not_candid_iff]
      exact boasts
  · simp only [← Outcome.not_candid_iff]
    exact Invocation.process_claims_iff host channel world invocation
  · rcases course.candid_or_filled with already | ⟨_, invocation, _, result, _, processed, rfl⟩
    · exact already
    · exact (Pipeline.process_candid candid _ channel _ result processed).fillMessage _

end call

end Manager

/-- Plain user code hands data back, which is a success, and has no links of its own. -/
theorem Host.plain_candid (name : String) : Host.plain.Candid name where
  execute handed := nomatch handed
  after candid _ := candid
  around takes := nomatch takes

/-- Plain user code, but for hooks that fail with an error and without a message. -/
def Host.boasting : Host Unit Unit :=
  { Host.plain with execute := fun _ _ _ => return .ok (.complete (.failed "" "boom")) }

namespace Manager

/-- A hook that fails without a message makes the call claim success, and one that returns its input does not. -/
theorem call_claims_iff_boasting :
    (∃ outcome, (modest.call Host.boasting .blocking "echo" none (.obj []) (.echoing "maya")).result = .ok outcome ∧
      ∃ input invocation accepted result,
        modest.Accepts Host.boasting .blocking "echo" none (.obj []) (.echoing "maya") input invocation accepted ∧
          (modest.processing Host.boasting .blocking invocation
            (modest.begun Host.boasting .blocking "echo" input accepted)).result = .ok result ∧
          outcome = result.fillMessage (successText "echo") ∧
          result.success = false ∧ (result.message = "" ∨ result.message = successText "echo")) ∧
    Host.plain.Candid "echo" ∧
    ∃ outcome, (modest.call Host.plain .cooperative "echo" none (.obj []) (.echoing "maya")).result = .ok outcome ∧
      outcome.Candid "echo" := by
  have echoed : ∃ outcome,
      (modest.call Host.plain .cooperative "echo" none (.obj []) (.echoing "maya")).result = .ok outcome := ⟨_, rfl⟩
  obtain ⟨outcome, returned⟩ := echoed
  have candid := (call_claims_iff returned).2.2 (Host.plain_candid "echo")
  exact ⟨⟨_, rfl, (call_claims_iff rfl).1.mp ⟨rfl, rfl⟩⟩, Host.plain_candid "echo", outcome, returned, candid⟩

/-- Failures do claim success: not every call returns a candid outcome. -/
theorem not_always_candid : ¬∀ (host : Host Unit Unit) (manager : Manager) (channel : Channel) (name : String)
    (own : Option Attributes) (params : Json) (world : World Unit Unit) (outcome : Outcome),
    (manager.call host channel name own params world).result = .ok outcome → outcome.Candid name := by
  intro always
  have candid := always Host.boasting modest .blocking "echo" none (.obj []) (.echoing "maya") _ rfl rfl
  exact candid.2 rfl

end Manager

end Dispatch
