import Dispatch.Outcome
import Dispatch.Proofs.Json.Shape

namespace Dispatch

/-- A text with something else than blanks in it. -/
theorem Text.isAllBlank_eq_false_iff {s : String} :
    isAllBlank s = false ↔ ∃ c ∈ s.toList, isBlank c = false := by
  simp [isAllBlank]

namespace Outcome

/-- Failures and only failures carry an error, and it says something. -/
structure Sound (outcome : Outcome) : Prop where
  told : outcome.error.isSome = true ↔ outcome.success = false
  speaks : ∀ error, outcome.error = some error → ∃ c ∈ error.toList, Text.isBlank c = false

/-- The ways in which an outcome comes about. -/
inductive Origin : Outcome → Prop
  | succeeded (message : String) : Origin (succeeded message)
  | failed (message error : String) : Origin (failed message error)
  | ofReport (message : String) (report : Report) : Origin (ofReport message report)
  | ofWire {value : Json} {outcome : Outcome} (read : ofWire value = .ok outcome) : Origin outcome
  | ofText {text : String} {outcome : Outcome} (read : ofText text = .ok outcome) : Origin outcome

/-- What can be changed about an outcome. -/
inductive Edit where
  | withPrompt (prompt : String)
  | withContext (context : Attributes)
  | withValue (name : String) (value : Json)
  | editContext (f : Attributes → Attributes)
  | setMessage (message : String)
  | setPrompt (prompt : Option String)
  | markFailed (error : String)
  | markSucceeded
  | fillMessage (message : String)

/-- The outcome after one edit. -/
def edit (outcome : Outcome) : Edit → Outcome
  | .withPrompt prompt => outcome.withPrompt prompt
  | .withContext context => outcome.withContext context
  | .withValue name value => outcome.withValue name value
  | .editContext f => { outcome with context := f outcome.context }
  | .setMessage message => { outcome with message }
  | .setPrompt prompt => { outcome with prompt }
  | .markFailed error => outcome.markFailed error
  | .markSucceeded => outcome.markSucceeded
  | .fillMessage message => outcome.fillMessage message

/-- The outcome after edits in a row. -/
def edits (outcome : Outcome) (list : List Edit) : Outcome := list.foldl edit outcome

section sound

/-- Whatever detail and message there are, the error of a failure says something. -/
theorem detail_speaks (error message : String) : ∃ c ∈ (detail error message).toList, Text.isBlank c = false := by
  rw [← Text.isAllBlank_eq_false_iff]
  unfold detail
  split
  · rename_i spoken
    simpa using spoken
  · split
    · rename_i spoken
      simpa using spoken
    · decide

/-- An outcome is sound on account of its success and its error alone. -/
theorem Sound.of_same {first second : Outcome} (sound : first.Sound) (success : second.success = first.success)
    (error : second.error = first.error) : second.Sound := by
  refine ⟨?_, ?_⟩
  · rw [success, error]
    exact sound.told
  · rw [error]
    exact sound.speaks

/-- A success without an error is sound. -/
theorem sound_of_success {outcome : Outcome} (success : outcome.success = true) (error : outcome.error = none) :
    outcome.Sound := by
  refine ⟨?_, ?_⟩
  · simp [success, error]
  · simp [error]

/-- A failure with a detail is sound. -/
theorem sound_of_failure {outcome : Outcome} {error message : String} (failure : outcome.success = false)
    (detailed : outcome.error = some (detail error message)) : outcome.Sound := by
  refine ⟨?_, ?_⟩
  · simp [failure, detailed]
  · intro told same
    obtain rfl : detail error message = told := Option.some.inj (detailed.symm.trans same)
    exact detail_speaks error message

/-- Parts that go together are the parts of a sound outcome. -/
theorem sound_of_assemble {parts : members.Carrier} {outcome : Outcome} (assembled : assemble parts = .ok outcome) :
    outcome.Sound := by
  obtain ⟨success, message, error, prompt, context, ⟨⟩⟩ := parts
  unfold assemble at assembled
  dsimp only at assembled
  cases given : success.getD true <;> cases told : error.join <;> simp only [given, told] at assembled
  · cases assembled
  · rename_i words
    cases blank : Text.isAllBlank words <;> simp only [blank, Bool.false_eq_true, if_true, if_false] at assembled
    · cases assembled
      refine ⟨by simp, ?_⟩
      rintro _ ⟨⟩
      exact Text.isAllBlank_eq_false_iff.mp blank
    · cases assembled
  · cases assembled
    exact sound_of_success rfl rfl
  · cases assembled

/-- The parts of a sound outcome go together. -/
theorem Sound.assemble {outcome : Outcome} (sound : outcome.Sound) :
    assemble (some outcome.success, outcome.message, some outcome.error, some outcome.prompt,
      some (some outcome.context), ()) = .ok outcome := by
  obtain ⟨success, message, error, prompt, context⟩ := outcome
  obtain ⟨told, speaks⟩ := sound
  cases success <;> cases error
  · simp at told
  · rename_i words
    have blank : Text.isAllBlank words = false := Text.isAllBlank_eq_false_iff.mpr (speaks words rfl)
    simp [Outcome.assemble, blank]
  · rfl
  · simp at told

end sound

section wire

/-- The object in which an outcome travels has five members, in ascending order of their names. -/
theorem toWire_eq (outcome : Outcome) :
    outcome.toWire = .object
      [("context", .ofTable outcome.context), ("error", .ofString? outcome.error),
       ("message", .string outcome.message), ("prompt", .ofString? outcome.prompt),
       ("success", .bool outcome.success)] := by
  have context_error : "context" < "error" := by decide
  have error_message : "error" < "message" := by decide
  have error_prompt : "error" < "prompt" := by decide
  have message_prompt : "message" < "prompt" := by decide
  have message_success : "message" < "success" := by decide
  have prompt_success : "prompt" < "success" := by decide
  simp only [toWire, Json.obj, Json.ofTable, Table.ofList, Table.insert, Table.empty, List.foldl_cons, List.foldl_nil]
  rw [insertEntry, insertEntry_of_lt message_success, insertEntry_of_lt error_message, insertEntry_of_gt error_prompt,
    insertEntry_of_gt message_prompt, insertEntry_of_lt prompt_success, insertEntry_of_lt context_error]

/-- A reader finds every part of an outcome that travels as it was. -/
theorem ofJson_toWire (outcome : Outcome) :
    shape.ofJson outcome.toWire = .ok (some outcome.success, outcome.message, some outcome.error,
      some outcome.prompt, some (some outcome.context), ()) := by
  rw [toWire_eq, Json.Shape.ofJson]
  simp only [List.foldlM_cons, List.foldlM_nil, Json.Members.put, Json.Members.blank, Json.Shape.ofJson_bool,
    Json.Shape.ofJson_string, Json.Shape.ofJson_ofString?, Json.Shape.ofJson_ofTable]
  rfl

/-- What is read from a value was assembled. -/
theorem sound_of_ofWire {value : Json} {outcome : Outcome} (read : ofWire value = .ok outcome) : outcome.Sound := by
  unfold ofWire at read
  cases parts : shape.ofJson value with
  | error words => simp [parts, bind, Except.bind] at read
  | ok found =>
    simp only [parts, bind, Except.bind] at read
    cases assembled : assemble found with
    | error clash => simp [assembled] at read
    | ok made =>
      simp only [assembled] at read
      obtain rfl : made = outcome := Except.ok.inj read
      exact sound_of_assemble assembled

/-- So was what is read from a text. -/
theorem sound_of_ofText {text : String} {outcome : Outcome} (read : ofText text = .ok outcome) : outcome.Sound := by
  unfold ofText at read
  cases taken : shape.read Json.maxDepth text.toList with
  | error obstacle => simp [taken, Json.finish, bind, Except.bind] at read
  | ok found =>
    obtain ⟨parts, rest⟩ := found
    simp only [taken, bind, Except.bind] at read
    cases assembled : assemble parts with
    | error clash => simp [assembled, Json.finish, Json.dataBefore, Json.failBefore] at read
    | ok made =>
      simp only [assembled, Json.finish, pure, Except.pure] at read
      split at read
      · obtain rfl : made = outcome := Except.ok.inj read
        exact sound_of_assemble assembled
      · cases read

/-- An outcome that travels is read as it was just when it is sound. -/
theorem ofWire_toWire_iff {outcome : Outcome} : ofWire outcome.toWire = .ok outcome ↔ outcome.Sound := by
  refine ⟨sound_of_ofWire, fun sound => ?_⟩
  unfold ofWire
  rw [ofJson_toWire]
  simp only [bind, Except.bind, sound.assemble]

end wire

section made

/-- However an outcome comes about, it is sound. -/
theorem Origin.sound {outcome : Outcome} (origin : Origin outcome) : outcome.Sound := by
  cases origin with
  | succeeded message => exact sound_of_success rfl rfl
  | failed message error => exact sound_of_failure rfl rfl
  | ofReport message report => exact sound_of_failure rfl rfl
  | ofWire read => exact sound_of_ofWire read
  | ofText read => exact sound_of_ofText read

/-- An edit keeps an outcome sound. -/
theorem Sound.edit {outcome : Outcome} (sound : outcome.Sound) (edit : Edit) : (outcome.edit edit).Sound := by
  cases edit with
  | withPrompt prompt => exact sound.of_same rfl rfl
  | withContext context => exact sound.of_same rfl rfl
  | withValue name value => exact sound.of_same rfl rfl
  | editContext f => exact sound.of_same rfl rfl
  | setMessage message => exact sound.of_same rfl rfl
  | setPrompt prompt => exact sound.of_same rfl rfl
  | markFailed error => exact sound_of_failure rfl rfl
  | markSucceeded => exact sound_of_success rfl rfl
  | fillMessage message =>
    change (outcome.fillMessage message).Sound
    unfold fillMessage
    split
    · exact sound.of_same rfl rfl
    · exact sound

/-- So do edits in a row. -/
theorem Sound.edits {outcome : Outcome} (sound : outcome.Sound) (list : List Edit) : (outcome.edits list).Sound := by
  induction list generalizing outcome with
  | nil => exact sound
  | cons edit rest ih => exact ih (sound.edit edit)

/-- Failures and only failures carry an error, and an outcome that travels is read as what it was. -/
theorem read_back_of_origin {start : Outcome} (origin : Origin start) (list : List Edit) :
    let outcome := start.edits list
    (outcome.error.isSome = true ↔ outcome.success = false) ∧
      (∀ error, outcome.error = some error → ∃ c ∈ error.toList, Text.isBlank c = false) ∧
      (∃ entries, outcome.toWire = .object entries) ∧ ofWire outcome.toWire = .ok outcome := by
  intro outcome
  have sound : outcome.Sound := origin.sound.edits list
  exact ⟨sound.told, sound.speaks, ⟨_, outcome.toWire_eq⟩, ofWire_toWire_iff.mpr sound⟩

/-- A failure without any words, made a success with a blank message and a failure again, is read as it was. -/
theorem read_back_of_blank_failure :
    let outcome := (failed "" "").edits [.markSucceeded, .setMessage "\u2003", .markFailed "\u00a0", .setPrompt none]
    Origin (failed "" "") ∧ outcome.error = some "Unknown error" ∧ ofWire outcome.toWire = .ok outcome :=
  ⟨.failed "" "", by decide, (read_back_of_origin (.failed "" "") _).2.2.2⟩

end made

end Outcome

end Dispatch
