import Dispatch.Manager.State

namespace Dispatch.Fixture

variable {κ μ : Type}

/-- Settings with a registry and a bus of their own, and without refreshes before calls. -/
def isolatedSettings : Act κ μ Settings := do
  let registry ← RegistryId.create
  let bus : BusId := ⟨← Act.freshIndex⟩
  return { Settings.standard with registry := some registry, bus := some bus, autoRefresh := false }

/-- A manager of its own. Whoever names a target system that is no identifier has made a mistake. -/
def isolatedManager (target : String) : Act κ μ Manager := do
  match ← Manager.create target "test" (← isolatedSettings) with
  | .ok manager => return manager
  | .error fault =>
    Run.panic (.text ("invalid fixture target system '" ++ target ++ "': " ++ fault.message))

/-- The action that makes a sphere, for a target system. -/
def sphereDescriptor (target : String) : Descriptor :=
  { Descriptor.named "CreateSphere" with
    target := some target
    description := "Create a polygon sphere"
    category := "geometry"
    tags := .ofList [("geometry", ())] }

/-- A sphere has a radius of one unless told otherwise. -/
def sphereSchema : Schema :=
  Schema.empty.declare
    ((Schema.Field.defaulted "radius" .number (.double .one)).describe "Sphere radius")

/-- What making a sphere hands back. -/
def makeSphere (input : Attributes) : Except Failure Output :=
  Output.ofValue (.obj
    [("radius", .ofOption .double ((input.get? "radius").bind Json.asDouble?)),
     ("name", .string "pSphere1")])

end Dispatch.Fixture
