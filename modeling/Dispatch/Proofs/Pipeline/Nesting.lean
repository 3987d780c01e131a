import Dispatch.Proofs.Host
import Dispatch.Proofs.Pipeline
import Mathlib.Data.List.Forall2

namespace Dispatch

namespace Run
variable {ν σ α β : Type}

/-- Runs in turn, each with the value of the one before, all return, or one of them panics and is the last one. -/
theorem foldlM_course {run : β → α → Run ν σ β} {marks : α → List ν}
    (journal : ∀ value item state, (run value item state).journal = marks item) (items : List α) (start : β)
    (state : σ) :
    (∃ value last, items.foldlM run start state = ⟨.ok value, last, items.flatMap marks⟩) ∨
    ∃ first item later value middle panic, items = first ++ item :: later ∧
      first.foldlM run start state = ⟨.ok value, middle, first.flatMap marks⟩ ∧
      (run value item middle).result = .error panic ∧
      items.foldlM run start state =
        ⟨.error panic, (run value item middle).state, first.flatMap marks ++ marks item⟩ := by
  induction items generalizing start state with
  | nil => exact .inl ⟨start, state, rfl⟩
  | cons item rest ih =>
    cases ran : (run start item state).result with
    | error panic =>
      refine .inr ⟨[], item, rest, start, state, panic, rfl, rfl, ran, ?_⟩
      rw [List.foldlM_cons, bind_of_error ran, journal]
      rfl
    | ok next =>
      have onwards (rest : List α) : (item :: rest).foldlM run start state =
          ⟨(rest.foldlM run next (run start item state).state).result,
            (rest.foldlM run next (run start item state).state).state,
            marks item ++ (rest.foldlM run next (run start item state).state).journal⟩ := by
        rw [List.foldlM_cons, bind_of_ok ran, journal]
      rcases ih next (run start item state).state with
        ⟨value, last, passed⟩ | ⟨first, other, later, value, middle, panic, rfl, begun, panicked, stopped⟩
      · refine .inl ⟨value, last, ?_⟩
        rw [onwards, passed, List.flatMap_cons]
      · refine .inr ⟨item :: first, other, later, value, middle, panic, rfl, ?_, panicked, ?_⟩
        · rw [onwards, begun, List.flatMap_cons]
        · rw [onwards, stopped, List.flatMap_cons, List.append_assoc]

end Run

namespace Pipeline

variable {κ μ : Type} (host : Host κ μ)

/-- A link is entered and acts before the rest. -/
def enter (code : κ) : InvocationAct κ μ Unit := do
  Run.note (.entered (.custom code))
  Run.note (.before code)
  Run.foreign (host.before code)

/-- Links act before the rest, one after the other. -/
def befores (codes : List κ) : InvocationAct κ μ Unit := codes.foldlM (fun _ code => enter host code) ()

/-- A link acts after the rest, on the outcome beside the world. -/
def leave (invocation : Invocation κ) (code : κ) : Run (Step κ) (World κ μ × Outcome) Unit := do
  Run.note (.after code)
  Run.foreign (host.after code invocation)

/-- Links act after the rest, one after the other, each on the outcome that the one before it has left. -/
def afters (codes : List κ) (invocation : Invocation κ) : Run (Step κ) (World κ μ × Outcome) Unit :=
  codes.foldlM (fun _ code => leave host invocation code) ()

/-- A run on an outcome beside the world comes to the outcome that it leaves, and keeps the invocation. -/
def onOutcome (run : Invocation κ → Run (Step κ) (World κ μ × Outcome) Unit) (outcome : Outcome) :
    InvocationAct κ μ Outcome := fun (world, invocation) =>
  let ran := run invocation (world, outcome)
  ⟨ran.result.map fun _ => ran.state.2, (ran.state.1, invocation), ran.journal⟩

/-- The steps of links on the way in. -/
def openings (codes : List κ) : List (Step κ) := codes.flatMap fun code => [.entered (.custom code), .before code]

/-- The steps of links on the way out. -/
def closings (codes : List κ) : List (Step κ) := codes.flatMap fun code => [.after code]

/-- Two runs on an outcome, of which the second one works on what the first one leaves. -/
theorem onOutcome_bind (first second : Invocation κ → Run (Step κ) (World κ μ × Outcome) Unit) (outcome : Outcome) :
    (onOutcome first outcome >>= onOutcome second) =
      onOutcome (fun invocation => first invocation >>= fun _ => second invocation) outcome := by
  funext (world, invocation)
  cases ran : (first invocation (world, outcome)).result with
  | error panic =>
    have panicked : (onOutcome first outcome (world, invocation)).result = .error panic := by
      simp only [onOutcome, ran, Except.map]
    rw [Run.bind_of_error panicked]
    simp only [onOutcome, Run.bind_of_error ran, Except.map]
  | ok _ =>
    have returned : (onOutcome first outcome (world, invocation)).result =
        .ok (first invocation (world, outcome)).state.2 := by
      simp only [onOutcome, ran, Except.map]
    rw [Run.bind_of_ok returned]
    simp only [onOutcome, Run.bind_of_ok ran]

/-- A run on an outcome returns just when it comes to the outcome that it leaves. -/
theorem onOutcome_returns_iff {run : Invocation κ → Run (Step κ) (World κ μ × Outcome) Unit} {outcome left : Outcome}
    {state : World κ μ × Invocation κ} :
    (onOutcome run outcome state).result = .ok left ↔
      (run state.2 (state.1, outcome)).result = .ok () ∧ (run state.2 (state.1, outcome)).state.2 = left := by
  cases ran : (run state.2 (state.1, outcome)).result <;> simp [onOutcome, ran, Except.map]

/-- What user code makes of an outcome is what its hook for the way out leaves of it. -/
theorem edited_eq_onOutcome (code : κ) :
    Middleware.edited host code = onOutcome fun invocation => leave host invocation code := rfl

/-- The last link acts on the outcome that the others have left. -/
theorem afters_concat (codes : List κ) (code : κ) :
    afters host (codes ++ [code]) = fun invocation =>
      afters host codes invocation >>= fun _ => leave host invocation code := by
  funext invocation
  simp only [afters, List.foldlM_append, List.foldlM_cons, List.foldlM_nil, bind_pure]

/-- A link that acts only before and after the rest is put around it. -/
theorem process_custom {code : κ} {channel : Channel} (plain : host.around? code channel = none)
    (rest : Pipeline κ) : process host (.custom code :: rest) channel = (do
      enter host code
      onOutcome (fun invocation => leave host invocation code) (← process host rest channel)) := by
  rw [process]
  simp only [link, plain, Middleware.around, enter, bind_assoc, edited_eq_onOutcome]

/-- Links that act only before and after the rest act around the processing, on the way out in the opposite order. -/
theorem process_nests {codes : List κ} {channel : Channel}
    (plain : ∀ code ∈ codes, host.around? code channel = none) :
    process host (codes.map .custom) channel = (do
      befores host codes
      onOutcome (afters host codes.reverse) (← Invocation.process host channel)) := by
  induction codes with
  | nil =>
    exact (bind_pure _).symm
  | cons code rest ih =>
    rw [List.map_cons, process_custom host (plain code List.mem_cons_self),
      ih fun other member => plain other (List.mem_cons_of_mem code member)]
    simp only [befores, List.foldlM_cons, List.reverse_cons, afters_concat, bind_assoc, onOutcome_bind]

/-- Whatever its hook does, an invocation that is processed comes to an outcome. -/
theorem returns_process (channel : Channel) : Run.Returns (Invocation.process host channel) := by
  refine Invocation.invocation_silent.returns.bind fun current => ?_
  split
  · exact ((Act.record_silent _ _ _).bind fun _ => Run.silent_pure _).onFirst.returns
  · have returns (input : Attributes) : Run.Returns (Invocation.runHook host channel input) := fun _ => ⟨_, rfl⟩
    exact (returns _).bind fun returned => (Invocation.finish_silent returned).returns

/-- Courses of a run in which a link panics on the way in, or one panics on the way out, or all links act. -/
inductive Course (channel : Channel) (codes : List κ) (state : World κ μ × Invocation κ) :
    Ran (Step κ) (World κ μ × Invocation κ) Outcome → Prop
  | stopped {outer : List κ} {code : κ} {inner : List κ} {middle : World κ μ × Invocation κ} {panic : Panic}
      (split : codes = outer ++ code :: inner)
      (begun : befores host outer state = ⟨.ok (), middle, openings outer⟩)
      (panicked : (host.before code middle).result = .error panic) :
      Course channel codes state ⟨.error panic, (host.before code middle).state, openings (outer ++ [code])⟩
  | cut {outer : List κ} {code : κ} {inner : List κ} {inside : World κ μ × Invocation κ} {world : World κ μ}
      {invocation : Invocation κ} {own : Outcome} {journal : List (Step κ)} {middle : World κ μ × Outcome}
      {panic : Panic}
      (split : codes = outer ++ code :: inner)
      (begun : befores host codes state = ⟨.ok (), inside, openings codes⟩)
      (processed : Invocation.process host channel inside = ⟨.ok own, (world, invocation), journal⟩)
      (left : afters host inner.reverse invocation (world, own) = ⟨.ok (), middle, closings inner.reverse⟩)
      (panicked : (host.after code invocation middle).result = .error panic) :
      Course channel codes state
        ⟨.error panic, ((host.after code invocation middle).state.1, invocation),
          openings codes ++ journal ++ closings (inner.reverse ++ [code])⟩
  | passed {inside : World κ μ × Invocation κ} {world last : World κ μ} {invocation : Invocation κ}
      {own outcome : Outcome} {journal : List (Step κ)}
      (begun : befores host codes state = ⟨.ok (), inside, openings codes⟩)
      (processed : Invocation.process host channel inside = ⟨.ok own, (world, invocation), journal⟩)
      (left : afters host codes.reverse invocation (world, own) = ⟨.ok (), (last, outcome), closings codes.reverse⟩) :
      Course channel codes state
        ⟨.ok outcome, (last, invocation), openings codes ++ journal ++ closings codes.reverse⟩

/-- On the way in all links act, or one of them panics and is the last one. -/
theorem befores_course (codes : List κ) (state : World κ μ × Invocation κ) :
    (∃ inside, befores host codes state = ⟨.ok (), inside, openings codes⟩) ∨
    ∃ outer code inner middle panic, codes = outer ++ code :: inner ∧
      befores host outer state = ⟨.ok (), middle, openings outer⟩ ∧
      (host.before code middle).result = .error panic ∧
      befores host codes state = ⟨.error panic, (host.before code middle).state, openings (outer ++ [code])⟩ := by
  have journal (value : Unit) (code : κ) (state : World κ μ × Invocation κ) :
      (enter host code state).journal = [.entered (.custom code), .before code] := rfl
  rcases Run.foldlM_course journal codes () state with
    ⟨_, inside, passed⟩ | ⟨outer, code, inner, _, middle, panic, split, begun, panicked, stopped⟩
  · exact .inl ⟨inside, passed⟩
  · refine .inr ⟨outer, code, inner, middle, panic, split, begun, panicked, stopped.trans ?_⟩
    rw [openings, List.flatMap_append]
    rfl

/-- So it is on the way out. -/
theorem afters_course (codes : List κ) (invocation : Invocation κ) (state : World κ μ × Outcome) :
    (∃ last, afters host codes invocation state = ⟨.ok (), last, closings codes⟩) ∨
    ∃ inner code outer middle panic, codes = inner ++ code :: outer ∧
      afters host inner invocation state = ⟨.ok (), middle, closings inner⟩ ∧
      (host.after code invocation middle).result = .error panic ∧
      afters host codes invocation state =
        ⟨.error panic, (host.after code invocation middle).state, closings (inner ++ [code])⟩ := by
  have journal (value : Unit) (code : κ) (state : World κ μ × Outcome) :
      (leave host invocation code state).journal = [.after code] := rfl
  rcases Run.foldlM_course journal codes () state with
    ⟨_, last, passed⟩ | ⟨inner, code, outer, _, middle, panic, split, begun, panicked, stopped⟩
  · exact .inl ⟨last, passed⟩
  · refine .inr ⟨inner, code, outer, middle, panic, split, begun, panicked, stopped.trans ?_⟩
    rw [closings, List.flatMap_append]
    rfl

/-- Every run through links that act only before and after the rest takes one of these courses. -/
theorem process_course {codes : List κ} {channel : Channel} (plain : ∀ code ∈ codes, host.around? code channel = none)
    (state : World κ μ × Invocation κ) :
    Course host channel codes state (process host (codes.map .custom) channel state) := by
  rw [process_nests host plain]
  rcases befores_course host codes state with
    ⟨inside, begun⟩ | ⟨outer, code, inner, middle, panic, split, begun, panicked, stopped⟩
  · rw [Run.bind_apply_ok begun]
    obtain ⟨own, returned⟩ := returns_process host channel inside
    rcases processed : Invocation.process host channel inside with ⟨result, ⟨world, invocation⟩, journal⟩
    rw [processed] at returned
    obtain rfl : result = .ok own := returned
    rw [Run.bind_apply_ok processed]
    rcases afters_course host codes.reverse invocation (world, own) with
      ⟨⟨last, outcome⟩, left⟩ | ⟨inner, code, outer, middle, panic, split, left, panicked, cut⟩
    · simp only [onOutcome, left, Except.map, ← List.append_assoc]
      exact .passed begun processed left
    · have order : codes = outer.reverse ++ code :: inner.reverse := by
        rw [← List.reverse_reverse codes, split, List.reverse_append, List.reverse_cons, List.append_assoc]
        rfl
      have inwards := List.reverse_reverse inner
      rw [← inwards] at left cut
      simp only [onOutcome, cut, Except.map, ← List.append_assoc]
      exact .cut order begun processed left panicked
  · rw [Run.bind_apply_panic stopped]
    exact .stopped split begun panicked

/-- A link comes from each factory, in order. -/
theorem forall₂_of_forEach {α β : Type} {run : α → Act κ μ β} {items : List α} {values : List β} {world : World κ μ}
    (returned : (Run.forEach run items world).result = .ok values) :
    List.Forall₂ (fun item value => ∃ before, (run item before).result = .ok value) items values := by
  induction items generalizing values world with
  | nil =>
    cases returned
    exact .nil
  | cons item rest ih =>
    rw [Run.forEach_cons] at returned
    obtain ⟨value, built, later⟩ := Run.bind_returns_iff.mp returned
    obtain ⟨others, ran, same⟩ := Run.bind_returns_iff.mp later
    cases same
    exact .cons ⟨world, built⟩ (ih ran)

/-- Without factories no pipeline is built, and with factories one in which a link of each of them stands in order. -/
theorem build_factories {factories : List κ} {world : World κ μ} {built : Option (Pipeline κ)}
    (made : (build host factories world).result = .ok built) :
    (built = none ↔ factories = []) ∧
      List.Forall₂ (fun factory link => ∃ before, (host.build factory before).result = .ok link) factories
        (built.getD []) := by
  cases factories with
  | nil =>
    cases made
    exact ⟨⟨fun _ => rfl, fun _ => rfl⟩, .nil⟩
  | cons factory rest =>
    obtain ⟨links, ran, same⟩ := Run.bind_returns_iff.mp made
    cases same
    exact ⟨⟨nofun, nofun⟩, (forall₂_of_forEach ran).imp fun _ _ made => made⟩

/-- Links that factories build, if they act only before and after the rest, nest around the invocation's processing. -/
theorem built_nests {factories : List κ} {world : World κ μ} {built : Option (Pipeline κ)}
    (made : (build host factories world).result = .ok built) {codes : List κ}
    (links : built.getD [] = codes.map .custom) (channel : Channel)
    (plain : ∀ code ∈ codes, host.around? code channel = none) :
    (built = none ↔ factories = []) ∧
      List.Forall₂ (fun factory code => ∃ before, (host.build factory before).result = .ok (.custom code)) factories
        codes ∧
      process host (built.getD []) channel = (do
        befores host codes
        onOutcome (afters host codes.reverse) (← Invocation.process host channel)) ∧
      Run.Returns (Invocation.process host channel) ∧
      (∀ state, Course host channel codes state (process host (built.getD []) channel state)) ∧
      build host [] = (return none) ∧ process host [] channel = Invocation.process host channel := by
  obtain ⟨empty, each⟩ := build_factories host made
  rw [links, List.forall₂_map_right_iff] at each
  rw [links]
  exact ⟨empty, each, process_nests host plain, returns_process host channel, process_course host plain, rfl, rfl⟩

/-- Plain user code but for links, which only add a mark to the message of an outcome. -/
def marking : Host Unit Unit :=
  { Host.plain with
    build := fun code => return .custom code
    after := fun _ _ => Run.update fun (world, outcome) => (world, { outcome with message := outcome.message ++ "!" }) }

/-- Two links are built of two factories and nest around an invocation, whose message gets a mark of each. -/
theorem built_nests_of_two_marks :
    let world : World Unit Unit := World.start () fun _ => 0
    let invocation := Invocation.start (Action.echo "maya") () default
    let own := Invocation.process marking .blocking (world, invocation)
    let ran := process marking [.custom (), .custom ()] .blocking (world, invocation)
    (build marking [(), ()] world).result = .ok (some [.custom (), .custom ()]) ∧
      Course marking .blocking [(), ()] (world, invocation) ran ∧
      ran.journal = [.entered (.custom ()), .before (), .entered (.custom ()), .before (), .after (), .after ()] ∧
      ran.result.map (·.message) = own.result.map (·.message ++ "!" ++ "!") := by
  intro world invocation own ran
  have made : (build marking [(), ()] world).result = .ok (some [.custom (), .custom ()]) := rfl
  have links : (some [.custom (), .custom ()] : Option (Pipeline Unit)).getD [] = [(), ()].map .custom := rfl
  obtain ⟨_, _, _, _, course, _⟩ := built_nests marking made links .blocking fun _ _ => rfl
  exact ⟨made, course (world, invocation), rfl, rfl⟩

end Pipeline

end Dispatch
