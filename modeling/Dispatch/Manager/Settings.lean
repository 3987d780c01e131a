import Dispatch.Action.Context
import Dispatch.Action.Failure
import Dispatch.Duration
import Dispatch.Identifier
import Dispatch.Json.Printer
import Dispatch.Text.Blank

namespace Dispatch

/-- Why settings or names of a manager are refused. -/
inductive ConfigFault where
  | invalidVariable (key message : String)
  | invalidIdentifier (field value : String) (fault : Identifier.Fault)
  /-- Reading them ended in a panic. -/
  | panicked (panic : Panic)

namespace ConfigFault

/-- The code that callers branch on. -/
def code : ConfigFault → String
  | .invalidVariable .. => "INVALID_ENV_VAR"
  | .invalidIdentifier .. => "INVALID_IDENTIFIER"
  | .panicked panic => (Failure.ofPanic panic).code

/-- The key or the field is named first, then what is wrong with it. -/
def message : ConfigFault → String
  | .invalidVariable key message => "invalid value for " ++ key ++ ": " ++ message
  | .invalidIdentifier field value fault => "invalid " ++ field ++ " '" ++ value ++ "': " ++ fault.message
  | .panicked panic => (Failure.ofPanic panic).message

end ConfigFault

/-- Without a registry or a bus of its own a manager takes the process-wide ones. -/
structure Settings where
  searchPaths : List String
  autoRefresh : Bool
  refreshInterval : Duration
  /-- Whether actions of other target systems are found as well. -/
  scopeFallback : Bool
  context : Attributes
  dependencies : Dependencies
  registry : Option RegistryId
  bus : Option BusId

namespace Settings

/-- Refreshes before calls, at most once a minute, and no fallback to other target systems. -/
def standard : Settings := ⟨[], true, .ofSeconds 60, false, ∅, ∅, none, none⟩

instance : Inhabited Settings := ⟨standard⟩

/-- Paths are added behind the ones that are there. -/
def addSearchPaths (settings : Settings) (paths : List String) : Settings :=
  { settings with searchPaths := settings.searchPaths ++ paths }

/-- A value takes the place of an older one of its name. -/
def setContext (settings : Settings) (name : String) (value : Json) : Settings :=
  { settings with context := settings.context.insert name value }

/-- A dependency takes the place of an older one of its name. -/
def inject (settings : Settings) (name : String) (value : Dependency) : Settings :=
  { settings with dependencies := settings.dependencies.insert name value }

/-- Where to look for modules. -/
def pathsVariable : String := "DCC_MCP_ACTION_PATHS"

/-- Whether calls refresh the manager. -/
def autoRefreshVariable : String := "DCC_MCP_AUTO_REFRESH"

/-- How long after a refresh the next one is due. -/
def intervalVariable : String := "DCC_MCP_REFRESH_INTERVAL"

/-- Whether actions of other target systems are found as well. -/
def fallbackVariable : String := "DCC_MCP_SCOPE_FALLBACK"

/-- Paths stand between colons; empty ones are passed over. -/
def splitPaths (text : String) : List String :=
  ((text.toList.splitOn ':').map String.ofList).filter fun path => !path.isEmpty

/-- The words for yes and no. Only Latin capitals lower to their letters. -/
def readFlag (key text : String) : Except ConfigFault Bool :=
  let word := (Text.trim text).map Char.toLower
  if ["true", "1", "yes", "on"].contains word then .ok true
  else if ["false", "0", "no", "off"].contains word then .ok false
  else .error (.invalidVariable key
    ("invalid boolean value '" ++ text ++ "', expected true/false/1/0/yes/no/on/off"))

/-- A bare number of 64 bits, perhaps with a plus sign. -/
def readSeconds? (text : String) : Option Nat :=
  let digits :=
    match text.toList with
    | '+' :: rest => rest
    | cs => cs
  if digits.isEmpty ∨ !digits.all Char.isDigit then none
  else
    let n := digits.foldl (fun n c => 10 * n + (c.toNat - '0'.toNat)) 0
    if n < Nat.pow 2 64 then some n else none

/-- A bare number counts seconds; any other duration is spelled with units. -/
def readInterval (key text : String) : Except ConfigFault Duration :=
  let core := Text.trim text
  match readSeconds? core with
  | some n => .ok (.ofSeconds n)
  | none =>
    match Duration.parse core with
    | .ok interval => .ok interval
    | .error .carried => .error (.panicked (.text Duration.ReadError.carried.message))
    | .error fault => .error (.invalidVariable key ("invalid duration '" ++ text ++ "': " ++ fault.message))

/-- Settings as far as variables are set, and the standard ones otherwise. -/
def ofVariables (value? : String → Option String) : Except ConfigFault Settings := do
  let mut settings := standard
  if let some text := value? pathsVariable then
    settings := settings.addSearchPaths (splitPaths text)
  if let some text := value? autoRefreshVariable then
    settings := { settings with autoRefresh := ← readFlag autoRefreshVariable text }
  if let some text := value? intervalVariable then
    settings := { settings with refreshInterval := ← readInterval intervalVariable text }
  if let some text := value? fallbackVariable then
    settings := { settings with scopeFallback := ← readFlag fallbackVariable text }
  return settings

/-- What a reader of logs sees. -/
def inspect (settings : Settings) : String :=
  Text.labelled "ManagerConfig"
    [("search_paths", Text.bracketed (settings.searchPaths.map Text.quoted)),
     ("auto_refresh", Text.flag settings.autoRefresh),
     ("refresh_interval", settings.refreshInterval.brief),
     ("scope_fallback", Text.flag settings.scopeFallback),
     ("context", Json.inspectTable settings.context),
     ("dependencies", settings.dependencies.inspectNames),
     ("registry", Text.flag settings.registry.isSome),
     ("event_bus", Text.flag settings.bus.isSome)]

end Settings

end Dispatch
