import Dispatch.Action.Context
import Dispatch.Action.Output
import Dispatch.Event
import Dispatch.Loading.Basic
import Dispatch.Run

namespace Dispatch.StandIn

/-- How a mock answers. -/
inductive MockBehavior where
  | echo
  | respond (values : Attributes)
  | fail (error : String)
  | panic (words : String)
  | complete (outcome : Outcome)
deriving Inhabited

/-- A mock and what it was called with. -/
structure Mock where
  name : String
  target : Option String
  schema : Schema
  behavior : MockBehavior
  /-- The inputs of all calls, the earliest first. -/
  calls : List Attributes
deriving Inhabited

namespace Mock

/-- A mock that hands its input back. -/
def echoing (name : String) : Mock := ⟨name, none, .empty, .echo, []⟩

/-- What a mock answers, and the mock that remembers the call. -/
def answer (mock : Mock) (input : Attributes) : Except Panic (Except Failure Output) × Mock :=
  let reply : Except Panic (Except Failure Output) :=
    match mock.behavior with
    | .echo => .ok (.ok (.ofValues input))
    | .respond values => .ok (.ok (.ofValues values))
    | .fail error => .ok (.error (.failed error))
    | .panic words => .error (.text words)
    | .complete outcome => .ok (.ok (.complete outcome))
  (reply, { mock with calls := mock.calls ++ [input] })

/-- Whether any call had this value under this name. -/
def wasCalledWith (mock : Mock) (name : String) (value : Json) : Bool :=
  mock.calls.any fun input => (input.get? name).any fun found => found.same value

/-- A mock that remembers no calls. -/
def reset (mock : Mock) : Mock := { mock with calls := [] }

end Mock

/-- The events that a recorder was notified of, the earliest first. -/
structure Recorder where
  events : List Event
deriving Inhabited

namespace Recorder

/-- Nothing has been recorded yet. -/
def empty : Recorder := ⟨[]⟩

/-- An event is remembered behind the earlier ones. -/
def add (recorder : Recorder) (event : Event) : Recorder := ⟨recorder.events ++ [event]⟩

/-- The names of the events, the earliest first. -/
def names (recorder : Recorder) : List String := recorder.events.map Event.name

/-- How often an event was recorded. -/
def count (recorder : Recorder) (event : String) : Nat :=
  (recorder.events.filter fun other => other.name = event).length

end Recorder

/-- The lines that a recording link of middleware leaves behind. -/
def beforeLine (label : String) : String := label ++ ":before"

/-- The line after the rest. -/
def afterLine (label : String) : String := label ++ ":after"

/-- What a loader was asked for. -/
structure LoadRecord where
  source : Source
  scope : Scope
  dependencies : List String

/-- Modules by their sources, and what was asked for. -/
structure MemoryLoader (κ : Type) where
  modules : List (Source × Module κ)
  loads : List LoadRecord

/-- Whether a path starts at the root, and its parts without empty ones and dots inside. -/
def pathParts (path : String) : Bool × List String :=
  let parts := (path.toList.splitOn '/').map String.ofList
  let rooted := path.toList.head? = some '/'
  let named := parts.filter fun part => part ≠ "" ∧ part ≠ "."
  (rooted, if !rooted ∧ parts.head? = some "." then "." :: named else named)

/-- Whether two sources are the same for a loader. -/
def sameSource : Source → Source → Bool
  | .path first, .path second => pathParts first = pathParts second
  | .package first, .package second => first = second
  | _, _ => false

namespace MemoryLoader
variable {κ : Type}

/-- A loader without modules. -/
def empty : MemoryLoader κ := ⟨[], []⟩

instance : Inhabited (MemoryLoader κ) := ⟨empty⟩

/-- A later module of a source takes the place of the earlier one. -/
def insert (loader : MemoryLoader κ) (source : Source) (loaded : Module κ) : MemoryLoader κ :=
  { loader with
    modules := (source, loaded) :: loader.modules.filter fun entry => !sameSource entry.1 source }

/-- What is said of a source without a module. -/
def notFound : Source → LoadFault
  | .path location => .pathNotFound location
  | .package name => .packageNotFound name

/-- The module of a source, and the loader that remembers having been asked. -/
def load (loader : MemoryLoader κ) (source : Source) (dependencies : Dependencies) (scope : Scope) :
    Except LoadFault (Module κ) × MemoryLoader κ :=
  let found := loader.modules.find? fun entry => sameSource entry.1 source
  let loads := loader.loads ++ [⟨source, scope, dependencies.keys⟩]
  (found.elim (.error (notFound source)) fun entry => .ok entry.2, { loader with loads })

end MemoryLoader

end Dispatch.StandIn
