import Dispatch.Loading.Manifest
import Dispatch.World

namespace Dispatch

variable {κ μ : Type}

namespace CatalogId

/-- The catalog as it is now. -/
def read (catalog : CatalogId) : Act κ μ (Catalog κ) := do return (← Run.state).catalog catalog

/-- Edits the catalog. -/
def modify (catalog : CatalogId) (f : Catalog κ → Catalog κ) : Act κ μ Unit :=
  Run.update fun world => world.setCatalog catalog (f (world.catalog catalog))

/-- A new catalog, which knows nothing. -/
def create : Act κ μ CatalogId := do return ⟨← Act.freshIndex⟩

/-- A later entry point of a package takes the place of the earlier one. -/
def addPackage (catalog : CatalogId) (name : String) (entryPoint : κ) : Act κ μ Unit := do
  Act.record .debug "Registered package entry point" [("package", .string name)]
  catalog.modify fun catalog => { catalog with packages := catalog.packages.insert name entryPoint }

/-- A later handler of a name takes the place of the earlier one. -/
def addHandler (catalog : CatalogId) (name : String) (action : Action κ) : Act κ μ Unit :=
  catalog.modify fun catalog => { catalog with handlers := catalog.handlers.insert name action }

end CatalogId

/-- The manifest at a path. -/
def Files.manifest (path : String) : FileEntry → Except LoadFault Manifest
  | .text content =>
    match Manifest.parse content with
    | .ok manifest => .ok manifest
    | .error fault => .error (.invalidManifest path fault)
  | .binary => .error (.unreadable path "stream did not contain valid UTF-8")
  | .directory => .error (.unreadable path "Is a directory (os error 21)")

namespace Catalog

/-- The action that a manifest entry declares. -/
def resolve (handlers : Table (Action κ)) (entry : ManifestEntry) :
    Act κ μ (Except DiscoveryFault (Action κ)) := do
  match handlers.get? entry.handler with
  | none => return .error (.unknownHandler entry.title entry.handler)
  | some base => return .ok (← Act.derive base entry.amend)

/-- The candidates of one manifest of a directory. -/
def candidates (handlers : Table (Action κ)) :
    Except LoadFault Manifest → Act κ μ (List (Except DiscoveryFault (Action κ)))
  | .ok manifest => Run.forEach (resolve handlers) manifest.entries
  | .error fault => return [.error (.notLoaded fault)]

/-- The first name that a manifest gives to its module. -/
def moduleName? (manifests : List (Except LoadFault Manifest)) : Option String :=
  manifests.findSome? fun
    | .ok manifest => manifest.name
    | .error _ => none

/-- The manifests at a path: one file, which has to be a manifest, or those of a directory. -/
def manifests (files : Files) (path : String) : Except LoadFault (List (Except LoadFault Manifest)) := do
  match files.find? path with
  | none => throw (.pathNotFound path)
  | some (place, .directory) =>
    return (files.manifestNames place).map fun name =>
      let file := Files.joined path name
      match files.entry? (place ++ [name]) with
      | some entry => Files.manifest file entry
      | none => .error (.pathNotFound file)
  | some (_, entry) => return [.ok (← Files.manifest path entry)]

/-- The module at a path; it is named by a manifest or else by the path. -/
def loadPath (catalog : Catalog κ) (path : String) : Act κ μ (Except LoadFault (Module κ)) := do
  match manifests (← Run.state).files path with
  | .error fault => return .error fault
  | .ok manifests =>
    let found ← Run.forEach (candidates catalog.handlers) manifests
    return .ok ⟨(moduleName? manifests).getD path, found.flatten⟩

/-- The actions that the package's entry point yields are the candidates. -/
def loadPackage (host : Host κ μ) (catalog : Catalog κ) (name : String) (dependencies : Dependencies)
    (scope : Scope) : Act κ μ (Except LoadFault (Module κ)) := do
  match catalog.packages.get? name with
  | none => return .error (.packageNotFound name)
  | some entryPoint =>
    return .ok (.ofActions name (← Run.foreign (host.enter entryPoint dependencies scope)))

end Catalog

/-- The module of a source. -/
def Loader.load (host : Host κ μ) (loader : Loader κ) (source : Source) (dependencies : Dependencies)
    (scope : Scope) : Act κ μ (Except LoadFault (Module κ)) := do
  Run.note (.loading source)
  match loader with
  | .custom code => Run.foreign (host.load code source dependencies scope)
  | .catalog id =>
    let catalog ← id.read
    match source with
    | .package name => catalog.loadPackage host name dependencies scope
    | .path location => catalog.loadPath location

end Dispatch
