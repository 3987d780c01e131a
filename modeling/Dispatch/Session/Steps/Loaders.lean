import Dispatch.Session.Naming
import Dispatch.Session.View

namespace Dispatch.Session

/-- Keeps a loader under an id. -/
def storeLoader (id : String) (loader : Loader Script) : SessionM Unit :=
  remember fun memory => { memory with loaders := memory.loaders.insert id loader }

/-- A candidate is a stored action, or a name with a reason against it. -/
def moduleCandidate (json : Json) : StepM (Except DiscoveryFault (Action Script)) := do
  match text? json "type" with
  | some _ => return .ok (← named json "type" Memory.actions)
  | none =>
    return .error (.invalidCandidate (← request (textOf json "name")) (← request (textOf json "reason")))

/-- A candidate, or why it is none. -/
def candidateAnswer : Except DiscoveryFault (Action Script) → Answer
  | .ok action => .ok (actionView action)
  | .error fault => .ofDiscoveryFault fault

/-- What a loader was asked for. -/
def sourceText (record : StandIn.LoadRecord) : Json :=
  .array [.string record.source.text, .ofString? record.scope, .strings record.dependencies]

/-- The content that a step writes, as bytes or as text. -/
def contentOf (step : Json) : Request FileEntry := do
  match (step.get? "bytes").bind Json.asArray? with
  | none => return .text (← textOf step "text")
  | some bytes =>
    let bytes := ByteArray.mk (bytes.filterMap fun byte => byte.asNat?.map Nat.toUInt8).toArray
    return (String.fromUTF8? bytes).elim .binary .text

/-- Files that could be changed take the place of the old ones. -/
def setFiles (files : Option Files) : StepM Json := do
  let files ← request (needed files)
  lift (Run.update fun world => { world with files })
  return .null

/-- The files as they are now. -/
def files : StepM Files := do return (← lift Run.state).files

/-- The path of a file that a step may change; it stays below the working directory. -/
def pathOf (step : Json) : StepM String := do
  let path ← request (textOf step "path")
  if Files.isPlain path then return path else throw .unusable

/-- Makes a catalog. -/
def catalogStep (step : Json) : StepM Json := do
  let id ← idOf step
  storeLoader id (.catalog (← lift CatalogId.create))
  return .null

/-- Gives a package of a catalog its entry point. -/
def packageStep (step : Json) : StepM Json := do
  let catalog ← catalogOf step
  lift (catalog.addPackage (← request (textOf step "package")) (.entryPoint step))
  return .null

/-- Gives a catalog a handler. -/
def handlerStep (step : Json) : StepM Json := do
  let catalog ← catalogOf step
  let handler ← request (textOf step "handler")
  let action ← named step "type" Memory.actions
  lift (catalog.addHandler handler action)
  return .null

/-- Tells which packages a catalog has. -/
def packagesStep (step : Json) : StepM Json := do
  let catalog : Catalog Script ← lift (← catalogOf step).read
  return .obj [("packages", .strings catalog.packages.keys), ("debug", .string catalog.inspect)]

/-- Makes a memory loader. -/
def memoryStep (step : Json) : StepM Json := do
  let id ← idOf step
  storeLoader id (.custom (.memoryLoader (← lift Act.freshIndex)))
  return .null

/-- Gives a memory loader a module. -/
def moduleStep (step : Json) : StepM Json := do
  let index ← memoryLoaderOf step
  let source ← sourceOf step
  let candidates ← (listOf step "candidates").mapM moduleCandidate
  let loaded : Module Script := ⟨← request (textOf step "name"), candidates⟩
  remember fun memory =>
    { memory with
      memoryLoaderAt := setAt index ((memory.memoryLoaderAt index).insert source loaded)
        memory.memoryLoaderAt }
  return .null

/-- Tells what a memory loader was asked for. -/
def loadsStep (step : Json) : StepM Json := do
  let loads := ((← memory).memoryLoaderAt (← memoryLoaderOf step)).loads
  return .obj [("count", .ofNat loads.length), ("loads", .array (loads.map sourceText))]

/-- Loads a module and shows its candidates. -/
def loadStep (host : SessionHost) (step : Json) : StepM Json := do
  let loader ← loaderOf step
  let dependencies ← request (dependenciesOf step "dependencies")
  let loaded ← settled .ofLoadFault
    (← lift (loader.load host (← sourceOf step) dependencies (scopeOf step)))
  return .obj
    [("module", .string loaded.name),
     ("candidates", .array (loaded.candidates.map fun candidate => (candidateAnswer candidate).toJson))]

/-- Writes a file. -/
def writeStep (step : Json) : StepM Json := do
  setFiles ((← files).write (← pathOf step) (← request (contentOf step)))

/-- Makes a directory. -/
def mkdirStep (step : Json) : StepM Json := do
  setFiles ((← files).makeDirectory (← pathOf step))

/-- Removes a file or a directory. -/
def removeStep (step : Json) : StepM Json := do
  setFiles ((← files).remove (← pathOf step))

/-- Steps on loaders and files, by name. -/
def loaderSteps (host : SessionHost) : Steps :=
  [("catalog", catalogStep),
   ("package", packageStep),
   ("handler", handlerStep),
   ("packages", packagesStep),
   ("memory", memoryStep),
   ("module", moduleStep),
   ("loads", loadsStep),
   ("load", loadStep host),
   ("write", writeStep),
   ("mkdir", mkdirStep),
   ("remove", removeStep)]

end Dispatch.Session
