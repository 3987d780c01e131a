import Dispatch.Event
import Dispatch.Manager.Basic
import Dispatch.Middleware.Pipeline
import Dispatch.Proofs.Outcome

namespace Dispatch

/-- Types whose values may hold times. -/
class Timeless (α : Type) where
  /-- The value without times. -/
  timeless : α → α

export Timeless (timeless)

/-- Times aside, two values are equal. -/
def Alike {α : Type} [Timeless α] (first second : α) : Prop := timeless first = timeless second

section alike
variable {α : Type} [Timeless α] {first second third : α}

theorem alike_refl (value : α) : Alike value value := Eq.refl (timeless value)

theorem Alike.symm (alike : Alike first second) : Alike second first := Eq.symm alike

theorem Alike.trans (alike : Alike first second) (next : Alike second third) : Alike first third :=
  Eq.trans alike next

end alike

namespace Json

/-- Whether a value is a time: a text under one name of two, or a number of seconds under another one. -/
def isTime (name : String) : Json → Bool
  | .string _ => name = "timestamp" ∨ name = "last_refresh"
  | .double _ | .null => name = Middleware.timeKey
  | _ => false

mutual

/-- A value without the times in it. -/
def withoutTimes : Json → Json
  | .array items => .array (itemsWithoutTimes items)
  | .object entries => .object (entriesWithoutTimes entries)
  | value => value

/-- The same of every item. -/
def itemsWithoutTimes : List Json → List Json
  | [] => []
  | item :: rest => item.withoutTimes :: itemsWithoutTimes rest

/-- The same of every entry; what is a time itself becomes null. -/
def entriesWithoutTimes : List (String × Json) → List (String × Json)
  | [] => []
  | (name, value) :: rest =>
    (name, if value.isTime name then .null else value.withoutTimes) :: entriesWithoutTimes rest

end

/-- What stands under a name, without times. -/
def under (name : String) (value : Json) : Json := if value.isTime name then .null else value.withoutTimes

theorem entriesWithoutTimes_eq (entries : List (String × Json)) :
    entriesWithoutTimes entries = entries.map fun entry => (entry.1, under entry.1 entry.2) := by
  induction entries with
  | nil => rfl
  | cons entry rest ih =>
    rw [entriesWithoutTimes, ih]
    rfl

instance : Timeless Json := ⟨withoutTimes⟩

/-- Under other names than those of times there are no times. -/
theorem under_of_ne {name : String} (ordinary : name ≠ "timestamp" ∧ name ≠ "last_refresh" ∧ name ≠ Middleware.timeKey)
    (value : Json) : under name value = timeless value := by
  have none : value.isTime name = false := by
    cases value <;> simp [isTime, ordinary]
  unfold under
  rw [none]
  rfl

/-- Under the names of times texts are times. -/
theorem under_of_text {name : String} (named : name = "timestamp" ∨ name = "last_refresh") (text : String) :
    under name (.string text) = .null := by
  simp [under, isTime, named]

end Json

section tables

/-- The values of a table without times. -/
instance : Timeless Attributes where
  timeless table :=
    ⟨table.entries.map fun entry => (entry.1, Json.under entry.1 entry.2),
      ascending_map (fun entry => Json.under entry.1 entry.2) table.ascending⟩

theorem get?_timeless (table : Attributes) (name : String) :
    (timeless table).get? name = (table.get? name).map (Json.under name) :=
  lookup?_map Json.under name table.entries

theorem timeless_insert (table : Attributes) (name : String) (value : Json) :
    timeless (table.insert name value) = (timeless table).insert name (Json.under name value) := by
  refine Table.ext_get? fun other => ?_
  rw [get?_timeless, Table.get?_insert, Table.get?_insert, get?_timeless]
  split
  · rename_i same
    rw [same]
    rfl
  · rfl

/-- Entries that are put into tables one after the other. -/
theorem timeless_foldl_insert (entries : List (String × Json)) (table : Attributes) :
    timeless (entries.foldl (fun table entry => table.insert entry.1 entry.2) table) =
      entries.foldl (fun table entry => table.insert entry.1 (Json.under entry.1 entry.2)) (timeless table) := by
  induction entries generalizing table with
  | nil => rfl
  | cons entry rest ih => rw [List.foldl_cons, List.foldl_cons, ih, timeless_insert]

variable {first second : Attributes}

theorem Alike.insert (alike : Alike first second) (name : String) {value other : Json}
    (same : Json.under name value = Json.under name other) :
    Alike (first.insert name value) (second.insert name other) := by
  unfold Alike at alike ⊢
  rw [timeless_insert, timeless_insert, alike, same]

theorem Alike.overlay (alike : Alike first second) (upper : Attributes) :
    Alike (first.overlay upper) (second.overlay upper) := by
  unfold Alike at alike ⊢
  unfold Table.overlay
  rw [timeless_foldl_insert, timeless_foldl_insert, alike]

/-- Tables that are alike hold values that are alike under every name that is not one of a time. -/
theorem Alike.get? (alike : Alike first second) {name : String}
    (ordinary : name ≠ "timestamp" ∧ name ≠ "last_refresh" ∧ name ≠ Middleware.timeKey) :
    (first.get? name).map timeless = (second.get? name).map timeless := by
  have under : Json.under name = (timeless : Json → Json) := funext (Json.under_of_ne ordinary)
  rw [← under, ← get?_timeless, ← get?_timeless, alike]

theorem timeless_ofTable (table : Attributes) : timeless (Json.ofTable table) = .ofTable (timeless table) := by
  change Json.object (Json.entriesWithoutTimes table.entries) = _
  rw [Json.entriesWithoutTimes_eq]
  rfl

theorem asObject?_timeless (value : Json) : (timeless value).asObject? = value.asObject?.map timeless := by
  cases value with
  | object entries =>
    change some (Table.ofList (Json.entriesWithoutTimes entries)) = some (timeless (Table.ofList entries))
    unfold Table.ofList
    rw [timeless_foldl_insert, Json.entriesWithoutTimes_eq, List.foldl_map]
    rfl
  | _ => rfl

end tables

section records
variable {α ε κ : Type}

instance [Timeless α] : Timeless (Option α) := ⟨Option.map timeless⟩

instance [Timeless α] : Timeless (Except ε α) := ⟨Except.map timeless⟩

instance : Timeless Context := ⟨fun context => { context with values := timeless context.values }⟩

instance : Timeless Outcome := ⟨fun outcome => { outcome with context := timeless outcome.context }⟩

instance : Timeless Output where
  timeless
    | .data values prompt => .data (timeless values) prompt
    | .complete outcome => .complete (timeless outcome)

instance : Timeless Event := ⟨fun event => { event with data := timeless event.data }⟩

instance : Timeless (Invocation κ) where
  timeless invocation :=
    { invocation with context := timeless invocation.context, output := timeless invocation.output }

/-- Of the time of the last refresh it is left that there is one. -/
instance : Timeless (ManagerState κ) where
  timeless state :=
    { state with context := timeless state.context, lastRefresh := state.lastRefresh.map fun _ => 0 }

theorem alike_context_iff {first second : Context} :
    Alike first second ↔ Alike first.values second.values ∧ first.dependencies = second.dependencies := by
  simp [Alike, timeless]

theorem alike_outcome_iff {first second : Outcome} :
    Alike first second ↔ first.success = second.success ∧ first.message = second.message ∧
      first.error = second.error ∧ first.prompt = second.prompt ∧ Alike first.context second.context := by
  simp [Alike, timeless]

theorem alike_event_iff {first second : Event} :
    Alike first second ↔ first.name = second.name ∧ Alike first.data second.data := by
  simp [Alike, timeless]

theorem alike_invocation_iff {first second : Invocation κ} :
    Alike first second ↔ first.action = second.action ∧ first.hook = second.hook ∧
      Alike first.context second.context ∧ first.input = second.input ∧ Alike first.output second.output ∧
      first.phase = second.phase ∧ first.prepared = second.prepared := by
  simp [Alike, timeless]

theorem alike_managerState_iff {first second : ManagerState κ} :
    Alike first second ↔ Alike first.context second.context ∧ first.factories = second.factories ∧
      first.pipeline = second.pipeline ∧
      first.lastRefresh.map (fun _ => 0) = second.lastRefresh.map fun _ => 0 := by
  simp [Alike, timeless]

/-- Of results that are alike both are the same error, or both are values that are alike. -/
theorem Alike.of_except [Timeless α] {first second : Except ε α} (alike : Alike first second) :
    (∃ error, first = .error error ∧ second = .error error) ∨
      ∃ value other, first = .ok value ∧ second = .ok other ∧ Alike value other := by
  have same : first.map timeless = second.map timeless := alike
  cases first <;> cases second
  · cases same
    exact .inl ⟨_, rfl, rfl⟩
  · cases same
  · cases same
  · exact .inr ⟨_, _, rfl, rfl, Except.ok.inj same⟩

/-- Options that are alike have both a value or none. -/
theorem Alike.orElse [Timeless α] {first second : Option α} (alike : Alike first second) {other another : Option α}
    (rest : Alike other another) : Alike (first.or other) (second.or another) := by
  have same : first.map timeless = second.map timeless := alike
  cases first <;> cases second
  · exact rest
  · cases same
  · cases same
  · exact alike

end records

namespace Outcome
variable {first second : Outcome}

theorem alike_fillMessage (alike : Alike first second) (message : String) :
    Alike (first.fillMessage message) (second.fillMessage message) := by
  obtain ⟨success, words, error, prompt, context⟩ := alike_outcome_iff.mp alike
  unfold fillMessage
  rw [words]
  split
  · exact alike_outcome_iff.mpr ⟨success, rfl, error, prompt, context⟩
  · exact alike

theorem alike_withValue (alike : Alike first second) (name : String) {value other : Json}
    (same : Json.under name value = Json.under name other) :
    Alike (first.withValue name value) (second.withValue name other) := by
  obtain ⟨success, words, error, prompt, context⟩ := alike_outcome_iff.mp alike
  exact alike_outcome_iff.mpr ⟨success, words, error, prompt, context.insert name same⟩

/-- Outcomes that are alike travel as objects that are alike. -/
theorem alike_toWire (alike : Alike first second) : Alike first.toWire second.toWire := by
  obtain ⟨success, message, error, prompt, context⟩ := alike_outcome_iff.mp alike
  have inner : Json.under "context" (.ofTable first.context) = Json.under "context" (.ofTable second.context) := by
    rw [Json.under_of_ne (by decide), Json.under_of_ne (by decide), timeless_ofTable, timeless_ofTable, context]
  unfold Alike
  rw [toWire_eq, toWire_eq, success, message, error, prompt]
  change Json.object (Json.entriesWithoutTimes _) = Json.object (Json.entriesWithoutTimes _)
  rw [Json.entriesWithoutTimes_eq, Json.entriesWithoutTimes_eq]
  simp only [List.map_cons, inner]

end Outcome

namespace Invocation

/-- Results of a hook that are alike are the same failure, or data that is alike, or outcomes that are alike. -/
theorem alike_returned {returned other : Except Failure Output} (alike : Alike returned other) :
    (∃ failure, returned = .error failure ∧ other = .error failure) ∨
      (∃ values others prompt, returned = .ok (.data values prompt) ∧ other = .ok (.data others prompt) ∧
        Alike values others) ∨
      ∃ outcome another, returned = .ok (.complete outcome) ∧ other = .ok (.complete another) ∧
        Alike outcome another := by
  rcases alike.of_except with ⟨failure, rfl, rfl⟩ | ⟨output, another, rfl, rfl, same⟩
  · exact .inl ⟨failure, rfl, rfl⟩
  · cases output with
    | data values prompt =>
      cases another with
      | data others asked =>
        obtain ⟨values_same, rfl⟩ := Output.data.inj same
        exact .inr (.inl ⟨values, others, prompt, rfl, rfl, values_same⟩)
      | complete outcome => cases same
    | complete outcome =>
      cases another with
      | data others asked => cases same
      | complete other => exact .inr (.inr ⟨outcome, other, rfl, rfl, Output.complete.inj same⟩)

/-- The same phase follows from them, and outputs and outcomes that are alike. -/
theorem alike_settle (name : String) {returned other : Except Failure Output} (alike : Alike returned other) :
    (settle name returned).1 = (settle name other).1 ∧ Alike (settle name returned).2.1 (settle name other).2.1 ∧
      Alike (settle name returned).2.2 (settle name other).2.2 := by
  rcases alike_returned alike with
    ⟨failure, rfl, rfl⟩ | ⟨values, others, prompt, rfl, rfl, same⟩ | ⟨outcome, another, rfl, rfl, same⟩
  · exact ⟨rfl, alike_refl _, alike_refl _⟩
  · exact ⟨rfl, congrArg some same, alike_outcome_iff.mpr ⟨rfl, rfl, rfl, rfl, same⟩⟩
  · have filled := Outcome.alike_fillMessage same ("Action " ++ name ++ " executed successfully")
    have success := (alike_outcome_iff.mp filled).1
    refine ⟨?_, alike_refl _, filled⟩
    simp only [settle, success]

end Invocation

namespace Middleware

/-- However long something took, the entry of it is alike. -/
theorem alike_withTime {found other : Option Json} (alike : found.map timeless = other.map timeless)
    (elapsed longer : Duration) :
    Alike (withTime found (secondsJson elapsed)) (withTime other (secondsJson longer)) := by
  have seconds (span : Duration) : Json.under timeKey (secondsJson span) = .null := by
    unfold secondsJson Json.ofOption
    split <;> rfl
  have object (value : Option Json) :
      timeless ((value.bind Json.asObject?).getD ∅) = ((value.map timeless).bind Json.asObject?).getD ∅ := by
    cases value with
    | none => rfl
    | some value =>
      change timeless (value.asObject?.getD ∅) = (timeless value).asObject?.getD ∅
      rw [asObject?_timeless]
      cases value.asObject? <;> rfl
  have tables : Alike ((found.bind Json.asObject?).getD ∅) ((other.bind Json.asObject?).getD ∅) := by
    unfold Alike
    rw [object, object, alike]
  unfold Alike withTime
  rw [timeless_ofTable, timeless_ofTable, tables.insert timeKey ((seconds elapsed).trans (seconds longer).symm)]

end Middleware

end Dispatch
