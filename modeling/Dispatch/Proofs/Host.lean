import Dispatch.Manager.Call
import Dispatch.Proofs.Run

namespace Dispatch

/-- User code whose hook factories, preparations, validators and loaders return. -/
structure Host.Calm {κ μ : Type} (host : Host κ μ) : Prop where
  create (code : κ) : Run.Returns (host.create code)
  prepare : Run.Returns host.prepare
  validate (code : κ) (schema : Schema) (params : Attributes) : Run.Returns (host.validate code schema params)
  load (code : κ) (source : Source) (dependencies : Dependencies) (scope : Scope) :
    Run.Returns (host.load code source dependencies scope)

/-- Plain user code does what it is asked for and remembers nothing. -/
def Host.plain : Host Unit Unit where
  create _ := return ()
  prepare := return ()
  execute _ input _ := return .ok (.data input none)
  validate _ _ params := return .ok params
  build _ := return .logging
  linkName _ := Middleware.anonymous
  before _ := return ()
  after _ _ := return ()
  around? _ _ := none
  notify _ _ _ := return .ok ()
  enter _ _ _ := return []
  offer _ _ _ := return []
  load _ source _ _ := return .ok ⟨source.text, []⟩

/-- An action with a hook and without a schema, under a target system as it is written. -/
def Action.echo (target : String) : Action Unit :=
  { id := ⟨1⟩
    descriptor := { Descriptor.named "echo" with target := some target }
    schema := .empty
    validator := none
    hook := some () }

/-- A manager that neither refreshes nor falls back. -/
def Manager.modest : Manager :=
  { id := ⟨2⟩
    name := "studio"
    target := "maya"
    registry := ⟨3⟩
    bus := World.globalBus
    dependencies := ∅
    searchPaths := []
    autoRefresh := false
    refreshInterval := ⟨0⟩
    scopeFallback := false }

/-- A world in which the action is registered, in a registry that was empty before. -/
def World.echoing (target : String) : World Unit Unit :=
  ((RegistryId.mk 3).register (Action.echo target) (World.start () fun _ => 0)).state

end Dispatch
