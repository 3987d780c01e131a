import Dispatch.Proofs.Publishing
import Dispatch.Proofs.Run.Pairs
import Dispatch.Proofs.Timeless

namespace Dispatch

variable {κ μ ρ : Type}

/-- Worlds that are alike to whoever sees of the memory only a view of it. The clock and the log may differ. -/
structure World.Alike (view : μ → ρ) (first second : World κ μ) : Prop where
  memory : view first.memory = view second.memory
  fresh : first.fresh = second.fresh
  files : first.files = second.files
  registry : first.registry = second.registry
  bus : first.bus = second.bus
  catalog : first.catalog = second.catalog
  manager (id : ManagerId) : Dispatch.Alike (first.manager id) (second.manager id)
  globalRegistry : first.globalRegistry = second.globalRegistry
  shared : first.shared = second.shared

section alike
variable {view : μ → ρ} {first second third : World κ μ}

theorem World.alike_refl (world : World κ μ) : World.Alike view world world where
  memory := rfl
  fresh := rfl
  files := rfl
  registry := rfl
  bus := rfl
  catalog := rfl
  manager _ := Dispatch.alike_refl _
  globalRegistry := rfl
  shared := rfl

theorem World.Alike.symm (alike : World.Alike view first second) : World.Alike view second first where
  memory := alike.memory.symm
  fresh := alike.fresh.symm
  files := alike.files.symm
  registry := alike.registry.symm
  bus := alike.bus.symm
  catalog := alike.catalog.symm
  manager id := (alike.manager id).symm
  globalRegistry := alike.globalRegistry.symm
  shared := alike.shared.symm

theorem World.Alike.trans (alike : World.Alike view first second) (next : World.Alike view second third) :
    World.Alike view first third where
  memory := alike.memory.trans next.memory
  fresh := alike.fresh.trans next.fresh
  files := alike.files.trans next.files
  registry := alike.registry.trans next.registry
  bus := alike.bus.trans next.bus
  catalog := alike.catalog.trans next.catalog
  manager id := (alike.manager id).trans (next.manager id)
  globalRegistry := alike.globalRegistry.trans next.globalRegistry
  shared := alike.shared.trans next.shared

instance : Run.Lasting (World.Alike view : World κ μ → World κ μ → Prop) where
  stays := World.alike_refl
  goesOn := World.Alike.trans

/-- Times and records make no difference. -/
theorem World.Alike.clocked (alike : World.Alike view first second) (log other : List LogRecord)
    (readings more : Nat) :
    World.Alike view { first with log, readings } { second with log := other, readings := more } :=
  { alike with }

theorem World.Alike.numbered (alike : World.Alike view first second) (fresh : Nat) :
    World.Alike view { first with fresh } { second with fresh } :=
  { alike with fresh := rfl }

theorem World.Alike.setRegistry (alike : World.Alike view first second) (id : RegistryId) (registry : Registry κ) :
    World.Alike view (first.setRegistry id registry) (second.setRegistry id registry) :=
  { alike with registry := by simp only [World.setRegistry, alike.registry] }

theorem World.Alike.setManager (alike : World.Alike view first second) (id : ManagerId) {state other : ManagerState κ}
    (same : Dispatch.Alike state other) : World.Alike view (first.setManager id state) (second.setManager id other) :=
  { alike with
    manager := fun asked => by
      unfold World.setManager
      dsimp only
      split
      · exact same
      · exact alike.manager asked }

end alike

/-- The one step is taken on the blocking channel and the other on the cooperative one, and else they are the same. -/
inductive Step.Corresponds : Step κ → Step κ → Prop
  | loading (source : Source) : Corresponds (.loading source) (.loading source)
  | created (action : Action κ) {context other : Context} (alike : Alike context other) :
      Corresponds (.created action context) (.created action other)
  | prepared : Corresponds .prepared .prepared
  | validated (params : Attributes) : Corresponds (.validated params) (.validated params)
  | published (bus : BusId) {event other : Event} (alike : Alike event other) :
      Corresponds (.published bus .blocking event) (.published bus .cooperative other)
  | routed (links : Pipeline κ) : Corresponds (.routed links) (.routed links)
  | entered (link : Middleware κ) : Corresponds (.entered link) (.entered link)
  | before (code : κ) : Corresponds (.before code) (.before code)
  | after (code : κ) : Corresponds (.after code) (.after code)
  | executed (input : Attributes) : Corresponds (.executed .blocking input) (.executed .cooperative input)

/-- Steps of calls on the two channels; whom they notify does not count, as each channel has subscribers of its own. -/
def Step.acrossChannels : Correspondence (Step κ) where
  steps := Step.Corresponds
  hidden step := ∃ channel subscription event, step = .notified channel subscription event

/-- Middleware that is built in, or acts only before and after what it is put around. -/
def Middleware.ActsAround (host : Host κ μ) (link : Middleware κ) : Prop :=
  ∀ code, link = .custom code → ∀ channel, host.around? code channel = none

/-- Worlds that are alike, in which the manager's middleware acts only before and after what it is put around. -/
structure Manager.Matched (host : Host κ μ) (manager : Manager) (view : μ → ρ) (first second : World κ μ) : Prop where
  alike : World.Alike view first second
  around : ∀ link ∈ (first.manager manager.id).pipeline.getD [], link.ActsAround host

/-- What moves to worlds that are alike leaves worlds matched. -/
theorem Manager.Matched.follow {host : Host κ μ} {manager : Manager} {view : μ → ρ}
    {first second third last : World κ μ} (matched : manager.Matched host view first second)
    (begun : World.Alike view first third) (ended : World.Alike view second last) :
    manager.Matched host view third last where
  alike := begun.symm.trans (matched.alike.trans ended)
  around := by
    obtain ⟨_, _, pipeline, _⟩ := alike_managerState_iff.mp (begun.manager manager.id)
    rw [← pipeline]
    exact matched.around

/-- User code that does the same in worlds that correspond, on either channel and at whatever time. -/
structure Host.Impartial (host : Host κ μ) (view : μ → ρ) (worlds : World κ μ → World κ μ → Prop) : Prop where
  create (code : κ) : Run.Agree worlds Eq (host.create code) (host.create code)
  prepare : Run.Agree (Both worlds (Both Eq Alike)) Eq host.prepare host.prepare
  execute (input : Attributes) {context other : Context} (alike : Alike context other) :
    Run.Agree (Both worlds Eq) Alike (host.execute .blocking input context) (host.execute .cooperative input other)
  validate (code : κ) (schema : Schema) (params : Attributes) :
    Run.Agree worlds Eq (host.validate code schema params) (host.validate code schema params)
  before (code : κ) : Run.Agree (Both worlds Alike) Eq (host.before code) (host.before code)
  after (code : κ) {invocation other : Invocation κ} (alike : Alike invocation other) :
    Run.Agree (Both worlds Alike) Eq (host.after code invocation) (host.after code other)
  load (code : κ) (source : Source) (dependencies : Dependencies) (scope : Scope) :
    Run.Agree worlds Eq (host.load code source dependencies scope) (host.load code source dependencies scope)
  notify (code : κ) (channel : Channel) (event : Event) :
    Run.Moves (World.Alike view) (host.notify code channel event)

end Dispatch
