import Dispatch.Action.Descriptor
import Dispatch.Action.Failure
import Dispatch.Schema.Basic

namespace Dispatch

/-- Where an action is looked up: under one target system, or regardless of target systems. -/
abbrev Scope := Option String

/-- Actions are told apart by this number. -/
structure ActionId where
  index : Nat
deriving DecidableEq, Inhabited

/-- An action with its user code in `κ`: a validator in place of its schema, and a hook that executes it. -/
structure Action (κ : Type) where
  id : ActionId
  descriptor : Descriptor
  schema : Schema
  validator : Option κ
  hook : Option κ
deriving Inhabited

namespace Action
variable {κ : Type}

/-- The name that the action is called by. -/
def name (action : Action κ) : String := action.descriptor.name

/-- The target system that the action declares, if any. -/
def target (action : Action κ) : Option String := action.descriptor.target

/-- An abstract action is a base for others and is not registered. -/
def isAbstract (action : Action κ) : Bool := action.descriptor.isAbstract

/-- Only an action with a hook can be executed. -/
def hasHook (action : Action κ) : Bool := action.hook.isSome

/-- Whether two are one and the same action. -/
def isSame (action other : Action κ) : Bool := action.id = other.id

/-- Another action with an edited descriptor. -/
def derive (action : Action κ) (id : ActionId) (edit : Descriptor → Descriptor) : Action κ :=
  { action with id, descriptor := edit action.descriptor }

/-- Name and declared target system have to be identifiers. -/
def conformance (action : Action κ) : Except Rejection Unit := do
  match Identifier.Rules.action.normalize action.name with
  | .error fault => .error (.invalidName action.name fault)
  | .ok _ => .ok ()
  match action.target with
  | none => .ok ()
  | some target =>
    match Identifier.Rules.targetSystem.normalize target with
    | .error fault => .error (.invalidTarget action.name target fault)
    | .ok _ => .ok ()

/-- The title under which input schemas are advertised. -/
def schemaTitle : String := "InputModel"

/-- The entry in listings. -/
def listing (action : Action κ) : Listing :=
  let descriptor := action.descriptor
  { name := descriptor.name
    qualifiedName := descriptor.qualifiedName
    description := descriptor.description
    category := descriptor.category
    tags := descriptor.tags.keys
    target := descriptor.target
    version := descriptor.version
    author := descriptor.author
    dependencies := descriptor.dependencies
    source := descriptor.source
    inputSchema := action.schema.advertise schemaTitle }

/-- What a reader of logs sees. -/
def inspect (action : Action κ) : String :=
  Text.labelled "ActionType"
    [("name", Text.quoted action.name),
     ("target_system", Text.optional (action.target.map Text.quoted)),
     ("has_execute_hook", Text.flag action.hasHook),
     ("is_abstract", Text.flag action.isAbstract)]

end Action

end Dispatch
