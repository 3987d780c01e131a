import Dispatch.Action.Basic

namespace Dispatch

/-- Catalogs are told apart by this number. -/
structure CatalogId where
  index : Nat
deriving DecidableEq, Inhabited

/-- Where a registry takes modules from: a catalog, or user code. -/
inductive Loader (κ : Type) where
  | catalog (id : CatalogId)
  | custom (code : κ)
deriving Inhabited

/-- Actions in two indices, and what is needed to discover more of them. -/
structure Registry (κ : Type) where
  actions : Table (Action κ)
  /-- No target system is kept without an action. -/
  byTarget : Table (Table (Action κ))
  /-- User code that offers the actions of a package. -/
  hooks : Table κ
  loader : Loader κ

/-- What becomes of an action that conforms. -/
inductive Admission where
  | abstract
  | hookless
  | registered
deriving DecidableEq

namespace Registry
variable {κ : Type}

/-- A registry that knows no action. -/
def empty (loader : Loader κ) : Registry κ := ⟨∅, ∅, ∅, loader⟩

instance : Inhabited (Registry κ) := ⟨empty default⟩

/-- The actions of a target system. -/
def under (registry : Registry κ) (target : String) : Table (Action κ) :=
  (registry.byTarget.get? target).getD ∅

/-- The actions that a look-up in a scope can find. -/
def inScope (registry : Registry κ) : Scope → Table (Action κ)
  | some target => registry.under target
  | none => registry.actions

/-- The action that a look-up in a scope finds. -/
def get? (registry : Registry κ) (name : String) (scope : Scope) : Option (Action κ) :=
  (registry.inScope scope).get? name

/-- The names of a scope's actions, in ascending order. -/
def names (registry : Registry κ) (scope : Scope) : List String :=
  (registry.inScope scope).values.map Action.name

/-- The listings of a scope, or only those with a tag. -/
def listings (registry : Registry κ) (scope : Scope) (tag : Option String) : List Listing :=
  ((registry.inScope scope).values.filter fun action => tag.all action.descriptor.hasTag).map Action.listing

/-- The target systems that have actions. -/
def targets (registry : Registry κ) : List String := registry.byTarget.keys

/-- How many names the index over all has. -/
def size (registry : Registry κ) : Nat := registry.actions.size

/-- Whether the index over all has none. -/
def isEmpty (registry : Registry κ) : Bool := registry.actions.isEmpty

/-- Keeps the actions of a target system, or nothing if there are none. -/
def setUnder (registry : Registry κ) (target : String) (actions : Table (Action κ)) : Registry κ :=
  if actions.isEmpty then { registry with byTarget := registry.byTarget.erase target }
  else { registry with byTarget := registry.byTarget.insert target actions }

/-- Puts an action into the index over all, and under its target system if it declares one. -/
def insert (registry : Registry κ) (action : Action κ) : Registry κ :=
  let registry :=
    match action.target with
    | some target =>
      let there := (registry.under target).insert action.name action
      { registry with byTarget := registry.byTarget.insert target there }
    | none => registry
  { registry with actions := registry.actions.insert action.name action }

/-- Whether an action may be registered. -/
def admission (action : Action κ) : Except Rejection Admission := do
  action.conformance
  if action.isAbstract then return .abstract
  else if !action.hasHook then return .hookless
  else return .registered

/-- Only a conforming action that can be executed is put into the indices. -/
def register (registry : Registry κ) (action : Action κ) : Except Rejection (Admission × Registry κ) := do
  match ← admission action with
  | .registered => return (.registered, registry.insert action)
  | refused => return (refused, registry)

/-- Removes the action of a target system, also from the index over all if it is there under this system. -/
def unregisterScoped (registry : Registry κ) (name target : String) : Bool × Registry κ :=
  let there := registry.under target
  let kept := registry.setUnder target (there.erase name)
  let owned := (kept.actions.get? name).any fun action => action.target = some target
  (there.contains name, if owned then { kept with actions := kept.actions.erase name } else kept)

/-- Takes what is kept under a name from under an action's target system, if it is this same action. -/
def withdraw (registry : Registry κ) (name : String) (action : Action κ) : Registry κ :=
  match action.target with
  | none => registry
  | some target =>
    let there := registry.under target
    if (there.get? name).any action.isSame then registry.setUnder target (there.erase name) else registry

/-- Removes an action from the index over all, also under its target system if it is the same action there. -/
def unregisterAnywhere (registry : Registry κ) (name : String) : Bool × Registry κ :=
  match registry.actions.get? name with
  | none => (false, registry)
  | some action => (true, { registry with actions := registry.actions.erase name }.withdraw name action)

/-- Whether an action was there, and the registry without it. -/
def unregister (registry : Registry κ) (name : String) : Scope → Bool × Registry κ
  | some target => registry.unregisterScoped name target
  | none => registry.unregisterAnywhere name

/-- Both indices are emptied; hooks and loader stay. -/
def reset (registry : Registry κ) : Registry κ := { registry with actions := ∅, byTarget := ∅ }

/-- What a reader of logs sees. -/
def inspect (registry : Registry κ) : String :=
  Text.labelled "ActionRegistry"
    [("actions", toString registry.size),
     ("target_systems", Text.bracketed (registry.targets.map Text.quoted))]

end Registry

end Dispatch
