import Dispatch.Manager.State

namespace Dispatch

variable {κ μ : Type}

namespace Manager

/-- The manager shared under these names, made if there is none yet. -/
def share (target name : String) (settings : Settings) : Act κ μ (Except ConfigFault Manager) := do
  let key := cacheKey target name
  match (← Run.state).shared.get? key with
  | some manager =>
    Act.record .debug "Returning cached action manager" [("key", .string key)]
    return .ok manager
  | none =>
    match ← create target name settings with
    | .error fault => return .error fault
    | .ok manager =>
      Run.update fun world => { world with shared := world.shared.insert key manager }
      return .ok manager

/-- A manager of one's own if it is asked for, and the shared one otherwise. -/
def obtain (target name : String) (settings : Settings) (own : Bool) :
    Act κ μ (Except ConfigFault Manager) := do
  if own then
    Act.record .debug "Creating uncached action manager"
      [("target_system", .string target), ("manager", .string name)]
    create target name settings
  else share target name settings

/-- The keys under which managers are shared. -/
def sharedKeys : Act κ μ (List String) := do return (← Run.state).shared.keys

/-- Gives all shared managers up, and says how many there were. -/
def clearShared : Act κ μ Nat := do
  let count := (← Run.state).shared.size
  Run.update fun world => { world with shared := ∅ }
  Act.record .debug "Cleared action manager cache" [("count", .ofNat count)]
  return count

end Manager

end Dispatch
