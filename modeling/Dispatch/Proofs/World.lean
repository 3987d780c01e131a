import Dispatch.Proofs.Run
import Dispatch.World

namespace Dispatch.Act

variable {κ μ : Type}

theorem record_silent (severity : Severity) (message : String) (fields : List (String × Json)) :
    Run.Silent (record severity message fields : Act κ μ Unit) :=
  Run.silent_update _

/-- A record leaves everything to what follows. -/
@[simp] theorem record_bind {α : Type} (severity : Severity) (message : String) (fields : List (String × Json))
    (next : Unit → Act κ μ α) (world : World κ μ) :
    (record severity message fields >>= next) world =
      next () { world with log := world.log ++ [⟨severity, message, fields⟩] } := rfl

theorem freshIndex_silent : Run.Silent (freshIndex : Act κ μ Nat) := fun _ => ⟨_, _, rfl⟩

theorem now_silent : Run.Silent (now : Act κ μ Nat) := fun _ => ⟨_, _, rfl⟩

theorem elapsedSince_silent (start : Nat) : Run.Silent (elapsedSince start : Act κ μ Duration) :=
  now_silent.bind fun _ => Run.silent_pure _

theorem derive_silent (action : Action κ) (edit : Descriptor → Descriptor) :
    Run.Silent (derive action edit : Act κ μ (Action κ)) :=
  freshIndex_silent.bind fun _ => Run.silent_pure _

end Dispatch.Act
