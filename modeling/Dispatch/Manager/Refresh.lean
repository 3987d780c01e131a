import Dispatch.Manager.State
import Dispatch.Publishing

namespace Dispatch

variable {κ μ : Type}

namespace Manager

/-- How long ago the last refresh was, if there was one. -/
def sinceRefresh (manager : Manager) : Act κ μ (Option Duration) := do
  match (← manager.read).lastRefresh with
  | none => return none
  | some time => return some (← Act.elapsedSince time)

/-- Whether a time since the last refresh is too long. -/
def isOverdue (manager : Manager) (elapsed : Option Duration) : Bool :=
  elapsed.all fun elapsed => manager.refreshInterval.nanos ≤ elapsed.nanos

/-- Whether a call has to refresh the manager first. -/
def isDue (manager : Manager) : Act κ μ Bool := do
  if manager.autoRefresh then return manager.isOverdue (← manager.sinceRefresh) else return false

/-- Publishes on the manager's bus, whoever takes it. -/
def publish (host : Host κ μ) (manager : Manager) (channel : Channel) (event : Event) : Act κ μ Unit := do
  let _ ← manager.bus.publish host channel event.name event.data

/-- The time of a refresh goes into the manager and into its context. -/
def stamp (manager : Manager) : Act κ μ Unit := do
  let time ← Act.now
  manager.modify fun state => { state with lastRefresh := some time }
  manager.setContext "timestamp" (.string (timeText time))
  manager.setContext "last_refresh" (.string (timeText time))

/-- The names of the actions found at each path, in order. -/
def discoverPaths (host : Host κ μ) (manager : Manager) (paths : List String) : Act κ μ (List String) := do
  let found ← Run.forEach (fun path =>
    manager.registry.discover host (.path path) (some manager.target) manager.dependencies) paths
  return found.flatten.map Action.name

/-- A refresh that is needed says so and leaves its time. -/
def beginRefresh (manager : Manager) : Act κ μ Unit := do
  Act.record .info "Refreshing actions"
    [("manager", .string manager.name), ("target_system", .string manager.target)]
  manager.stamp

/-- The work of a refresh that is needed. -/
def rediscover (host : Host κ μ) (manager : Manager) (extraPaths : List String) :
    Act κ μ (List String) := do
  manager.beginRefresh
  let discovered ← manager.discoverPaths host (manager.searchPaths ++ extraPaths)
  Act.record .debug "Refreshed actions"
    [("manager", .string manager.name),
     ("discovered", .ofNat discovered.length),
     ("available", .ofNat (← manager.available).length)]
  return discovered

/-- A refresh that is not needed leaves a record of how long ago the last one was. -/
def recordSkip (manager : Manager) (elapsed : Option Duration) : Act κ μ Unit :=
  match elapsed with
  | none => return ()
  | some elapsed =>
    Act.record .debug "Skipping refresh"
      [("manager", .string manager.name), ("elapsed", .string elapsed.spelled)]

/-- Subscribers hear that a refresh begins. -/
def announceRefresh (host : Host κ μ) (manager : Manager) (channel : Channel) (force : Bool) : Act κ μ Unit :=
  manager.publish host channel ⟨Event.beforeRefresh, manager.facts.insert "force" (.bool force)⟩

/-- Subscribers hear what a refresh found. -/
def concludeRefresh (host : Host κ μ) (manager : Manager) (channel : Channel) (needed : Bool)
    (discovered : List String) : Act κ μ Unit :=
  manager.publish host channel
    ⟨Event.afterRefresh,
      (manager.facts.insert "refreshed" (.bool needed)).insert "discovered" (.strings discovered)⟩

/-- Whether a refresh has to look for modules: on demand, for extra paths, or because the manager is overdue. -/
def needsRefresh (manager : Manager) (force : Bool) (extraPaths : List String) (elapsed : Option Duration) :
    Bool :=
  force || !extraPaths.isEmpty || manager.isOverdue elapsed

/-- What a refresh does between its events. -/
def rediscoverIf (host : Host κ μ) (manager : Manager) (needed : Bool) (elapsed : Option Duration)
    (extraPaths : List String) : Act κ μ (List String) :=
  if needed then manager.rediscover host extraPaths
  else do
    manager.recordSkip elapsed
    return []

/-- Whether the manager was refreshed. -/
def refresh (host : Host κ μ) (manager : Manager) (channel : Channel) (force : Bool)
    (extraPaths : List String) : Act κ μ Bool := do
  let elapsed ← manager.sinceRefresh
  let needed := manager.needsRefresh force extraPaths elapsed
  manager.announceRefresh host channel force
  let discovered ← manager.rediscoverIf host needed elapsed extraPaths
  manager.concludeRefresh host channel needed discovered
  return needed

/-- The word that stands before a source in events. -/
def sourceWord : Source → String
  | .path _ => "path"
  | .package _ => "package"

/-- Discovers one source between an event before and an event after. -/
def discover (host : Host κ μ) (manager : Manager) (source : Source) : Act κ μ (List (Action κ)) := do
  let facts := manager.facts.insert (sourceWord source) (.string source.text)
  manager.publish host .blocking ⟨Event.beforeDiscover, facts⟩
  let discovered ←
    match source with
    | .path _ => manager.registry.discover host source (some manager.target) manager.dependencies
    | .package name =>
      manager.registry.discoverPackage host name (some manager.target) manager.dependencies
  manager.publish host .blocking
    ⟨Event.afterDiscover, facts.insert "discovered" (.strings (discovered.map Action.name))⟩
  return discovered

end Manager

end Dispatch
