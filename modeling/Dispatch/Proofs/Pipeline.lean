import Dispatch.Middleware.Pipeline
import Dispatch.Proofs.Invocation.SetUp

namespace Dispatch

variable {κ μ : Type} (host : Host κ μ)

namespace Invocation

theorem runHook_notes (channel : Channel) (input : Attributes) :
    Run.Notes (fun step => step.stage = .processing) (runHook host channel input) := by
  intro state step member
  rw [List.mem_singleton.mp member]
  rfl

theorem finish_silent (returned : Except Failure Output) :
    Run.Silent (finish returned : InvocationAct κ μ Outcome) := by
  refine invocation_silent.bind fun current => (Run.silent_update _).bind fun _ => ?_
  cases returned with
  | error failure => exact (Act.record_silent _ _ _).onFirst.bind fun _ => Run.silent_pure _
  | ok output => exact (Run.silent_pure _).bind fun _ => Run.silent_pure _

/-- Processing an invocation executes its hook or does nothing at all. -/
theorem process_notes (channel : Channel) :
    Run.Notes (fun step => step.stage = .processing) (process host channel) := by
  refine invocation_silent.notes.bind fun current => ?_
  split
  · exact ((Act.record_silent _ _ _).bind fun _ => Run.silent_pure _).onFirst.notes
  · exact (runHook_notes host channel _).bind fun returned => (finish_silent returned).notes

end Invocation

namespace Middleware

variable {kind : Step κ → Prop} {rest : InvocationAct κ μ Outcome}

theorem logged_notes (channel : Channel) (notes : Run.Notes kind rest) : Run.Notes kind (logged channel rest) := by
  refine Invocation.invocation_silent.notes.bind fun current => ?_
  refine (Act.record_silent _ _ _).onFirst.notes.bind fun _ => ?_
  refine Act.now_silent.onFirst.notes.bind fun start => notes.bind fun outcome => ?_
  refine (Act.elapsedSince_silent start).onFirst.notes.bind fun elapsed => ?_
  refine Invocation.invocation_silent.notes.bind fun left => ?_
  refine (Run.Silent.onFirst ?_).notes.bind fun _ => Run.notes_pure _
  split <;> exact Act.record_silent _ _ _

theorem timed_notes (threshold : Duration) (notes : Run.Notes kind rest) : Run.Notes kind (timed threshold rest) := by
  refine Act.now_silent.onFirst.notes.bind fun start => notes.bind fun outcome => ?_
  refine (Act.elapsedSince_silent start).onFirst.notes.bind fun elapsed => Run.Silent.notes ?_
  dsimp only
  split
  · refine Invocation.invocation_silent.bind fun current => ?_
    exact (Act.record_silent _ _ _).onFirst.bind fun _ => Run.silent_pure _
  · exact (Run.silent_pure _).bind fun _ => Run.silent_pure _

theorem edited_notes (code : κ) (outcome : Outcome) :
    Run.Notes (fun step => step.stage = .processing) (edited host code outcome) := by
  intro state step member
  rw [List.mem_singleton.mp member]
  rfl

theorem around_notes (code : κ) (notes : Run.Notes (fun step => step.stage = .processing) rest) :
    Run.Notes (fun step => step.stage = .processing) (around host code rest) :=
  (Run.notes_note (by rfl)).bind fun _ => (Run.notes_foreign _).bind fun _ =>
    notes.bind fun outcome => edited_notes host code outcome

end Middleware

namespace Pipeline

/-- One link takes the steps of the rest, and steps of its own kind. -/
theorem link_notes (channel : Channel) (following : Nat) {rest : Channel → InvocationAct κ μ Outcome}
    (notes : ∀ channel, Run.Notes (fun step => step.stage = .processing) (rest channel)) (first : Middleware κ) :
    Run.Notes (fun step => step.stage = .processing) (link host channel following rest first) := by
  cases first with
  | logging => exact Middleware.logged_notes channel (notes channel)
  | performance threshold => exact Middleware.timed_notes threshold (notes channel)
  | custom code =>
    unfold link
    dsimp only
    split
    · exact Run.notes_foreign _
    · exact Middleware.around_notes host code (notes channel)

/-- Whatever the links are, they only process. -/
theorem process_notes (links : Pipeline κ) (channel : Channel) :
    Run.Notes (fun step => step.stage = .processing) (process host links channel) := by
  induction links generalizing channel with
  | nil => exact Invocation.process_notes host channel
  | cons first rest ih => exact (Run.notes_note (by rfl)).bind fun _ => link_notes host channel rest.length ih first

end Pipeline

end Dispatch
