import Dispatch.Json.Basic
import Dispatch.Text.Quoted

namespace Dispatch

/-- The identity of a registry. -/
structure RegistryId where
  index : Nat
deriving DecidableEq, Inhabited

/-- The identity of an event bus. -/
structure BusId where
  index : Nat
deriving DecidableEq, Inhabited

/-- An injected value together with its type. -/
inductive Dependency where
  | string (value : String)
  | word (value : Nat)
  | integer (value : Int)
  | double (value : Double)
  | bool (value : Bool)
  | json (value : Json)
  | registry (id : RegistryId)
  | eventBus (id : BusId)

/-- Injected values by name. -/
abbrev Dependencies := Table Dependency

/-- Names in quotes, as a reader of logs sees them. -/
def Table.inspectNames {α : Type} (table : Table α) : String :=
  Text.braced (table.keys.map Text.quoted)

/-- Values by name, and the dependencies that go with them. -/
structure Context where
  values : Attributes
  dependencies : Dependencies

namespace Context

instance : Inhabited Context := ⟨⟨∅, ∅⟩⟩

/-- The value of a name. -/
def get? (context : Context) (name : String) : Option Json := context.values.get? name

/-- A value takes the place of an older one of its name. -/
def setValue (context : Context) (name : String) (value : Json) : Context :=
  { context with values := context.values.insert name value }

end Context

end Dispatch
