import Dispatch.Proofs.Json.Entries
import Dispatch.Proofs.Outcome

namespace Dispatch.Outcome

open Json

/-- The text of an outcome behind its opening brace. -/
def entriesText (outcome : Outcome) : List Char :=
  printString "success" ++ ':' :: ((Json.bool outcome.success).print ++
    (',' :: printString "message" ++ ':' :: ((Json.string outcome.message).print ++
    (',' :: printString "error" ++ ':' :: ((Json.ofString? outcome.error).print ++
    (',' :: printString "prompt" ++ ':' :: ((Json.ofString? outcome.prompt).print ++
    (',' :: printString "context" ++ ':' :: ((Json.ofTable outcome.context).print ++ ['\x7d'])))))))))

theorem toText_toList (outcome : Outcome) : outcome.toText.toList = '\x7b' :: outcome.entriesText := by
  unfold toText Json.text
  rw [String.toList_ofList, ← List.append_nil (print _), print_object_append]
  simp only [printMoreEntries_append]
  rfl

/-- A text that may be missing is read as it was printed. -/
theorem reads_ofString? (words : Option String) (depth : Nat) {rest : List Char} (closed : Closed rest) :
    Reads True ((Shape.orNull .string).read depth ((Json.ofString? words).print ++ rest)) words rest := by
  cases words with
  | none => exact reads_of_ok (reads_null .string depth rest)
  | some words =>
    exact reads_orNull (by decide) (by decide) (reads_of_ok (reads_string words depth closed))

/-- So is a table that may be missing, unless it nests too deep. -/
theorem reads_context {table : Attributes} (canonical : (Json.ofTable table).Canonical)
    (integers : (Json.ofTable table).IntegersOnly) (depth : Nat) {rest : List Char} (closed : Closed rest) :
    Reads ((Json.ofTable table).depth ≤ depth)
      ((Shape.orNull .attributes).read depth ((Json.ofTable table).print ++ rest)) (some table) rest :=
  reads_orNull (by decide) (by decide) (reads_attributes canonical integers depth closed)

/-- The entries of an outcome's text fill the slots of an outcome one after the other. -/
theorem reads_entriesText {outcome : Outcome} (canonical : (Json.ofTable outcome.context).Canonical)
    (integers : (Json.ofTable outcome.context).IntegersOnly) (fuel depth : Nat) :
    Reads ((Json.ofTable outcome.context).depth ≤ depth)
      (entryLoop (fun slots key cs => members.readEntry slots key depth cs) (fuel + 6) false members.blank
        outcome.entriesText)
      (some outcome.success, some outcome.message, some outcome.error, some outcome.prompt, some (some outcome.context),
        ()) [] := by
  have closed (cs : List Char) : Closed (',' :: cs) := fun _ same => .inl (Option.some.inj same).symm
  suffices parts : Reads (True ∧ True ∧ True ∧ True ∧ (Json.ofTable outcome.context).depth ≤ depth ∧ True)
      (entryLoop (fun slots key cs => members.readEntry slots key depth cs) (fuel + 6) false members.blank
        outcome.entriesText)
      (some outcome.success, some outcome.message, some outcome.error, some outcome.prompt, some (some outcome.context),
        ()) [] from parts.congr (by simp)
  refine entryLoop_begins (reads_member _ (reads_of_ok (reads_bool _ _ (closed _)))) ?_
  refine entryLoop_continues (reads_otherMember _ (by decide)
    (reads_member _ (reads_of_ok (reads_string _ _ (closed _))))) ?_
  refine entryLoop_continues (reads_otherMember _ (by decide) (reads_otherMember _ (by decide)
    (reads_member _ (reads_ofString? _ _ (closed _))))) ?_
  refine entryLoop_continues (reads_otherMember _ (by decide) (reads_otherMember _ (by decide)
    (reads_otherMember _ (by decide) (reads_member _ (reads_ofString? _ _ (closed _)))))) ?_
  refine entryLoop_continues (reads_otherMember _ (by decide) (reads_otherMember _ (by decide)
    (reads_otherMember _ (by decide) (reads_otherMember _ (by decide)
      (reads_member _ (reads_context canonical integers _ (closed_brace []))))))) ?_
  exact reads_of_ok (entryLoop_ends _ _ _ _)

/-- An outcome nests one level deeper than its context. -/
theorem depth_toWire (outcome : Outcome) : outcome.toWire.depth = (Json.ofTable outcome.context).depth + 1 := by
  have flat (words : Option String) : (Json.ofString? words).depth = 0 := by cases words <;> rfl
  rw [toWire_eq, Json.depth]
  simp only [Json.depthEntries, flat, Json.depth, Nat.max_zero, Nat.max_self]

/-- The text of a sound outcome fills the parts of this outcome, unless it nests too deep. -/
theorem reads_toText {outcome : Outcome} (canonical : (Json.ofTable outcome.context).Canonical)
    (integers : (Json.ofTable outcome.context).IntegersOnly) :
    Reads (outcome.toWire.depth ≤ maxDepth) (shape.read maxDepth outcome.toText.toList)
      (some outcome.success, outcome.message, some outcome.error, some outcome.prompt, some (some outcome.context), ())
      [] := by
  obtain ⟨fuel, enough⟩ : ∃ fuel, outcome.entriesText.length + 1 = fuel + 6 := by
    have opening : 6 ≤ (printString "success").length := by decide
    refine ⟨outcome.entriesText.length - 5, ?_⟩
    unfold entriesText
    rw [List.length_append]
    omega
  rw [toText_toList, depth_toWire]
  have reads := reads_record enough (reads_entriesText canonical integers fuel 126) rfl "WireResult"
  exact reads.congr Nat.add_le_add_iff_right

/-- What is read from a whole text is assembled. -/
theorem ofText_eq_of_read {text : String} {parts : members.Carrier} {outcome : Outcome}
    (read : shape.read maxDepth text.toList = .ok (parts, [])) (assembled : assemble parts = .ok outcome) :
    ofText text = .ok outcome := by
  unfold ofText
  rw [bind_of_ok read]
  simp only [assembled]
  rfl

/-- What the reader refuses is no outcome. -/
theorem ofText_eq_of_refused {text : String} {obstacle : Obstacle}
    (refused : shape.read maxDepth text.toList = .error obstacle) :
    ofText text = .error (obstacle.locate text.toList) := by
  unfold ofText
  rw [refused]
  rfl

/-- The text of an outcome is read as this outcome just when it nests no deeper than 127 levels. -/
theorem read_back_from_text {start : Outcome} (origin : Origin start) (list : List Edit)
    (canonical : (Json.ofTable (start.edits list).context).Canonical)
    (integers : (Json.ofTable (start.edits list).context).IntegersOnly) :
    let outcome := start.edits list
    (outcome.toWire.depth ≤ 127 → ofText outcome.toText = .ok outcome) ∧
      (127 < outcome.toWire.depth → ∃ error, ofText outcome.toText = .error error ∧
        error.fault = .malformed .tooDeep ∧ error.fault.code = "JSON_SYNTAX") ∧
      ofWire outcome.toWire = .ok outcome := by
  intro outcome
  have sound : outcome.Sound := origin.sound.edits list
  have reads := reads_toText canonical integers
  refine ⟨fun flat => ofText_eq_of_read (reads.fits flat) sound.assemble, fun deep => ?_, ofWire_toWire_iff.mpr sound⟩
  obtain ⟨left, refused⟩ := reads.refuses (Nat.not_le.mpr deep)
  exact ⟨_, ofText_eq_of_refused refused, rfl, rfl⟩

/-- An array of an array and so on, so many levels down. -/
def nested : Nat → Json
  | 0 => .array []
  | levels + 1 => .array [nested levels]

theorem depth_nested (levels : Nat) : (nested levels).depth = levels + 1 := by
  induction levels with
  | zero => rfl
  | succ levels ih => simp only [nested, Json.depth, Json.depthItems, ih, Nat.max_zero]

theorem canonical_nested (levels : Nat) : (nested levels).Canonical ∧ (nested levels).IntegersOnly := by
  induction levels with
  | zero => exact ⟨trivial, trivial⟩
  | succ levels ih => exact ⟨⟨ih.1, trivial⟩, ih.2, trivial⟩

/-- Quotes, backslashes, control characters and others beside the greatest, the least and a nested value. -/
def oddContext (levels : Nat) : Attributes where
  entries :=
    [("", .int 18446744073709551615), ("\x00\"\\\n", .int (-9223372036854775808)), ("\u2028é😀", nested levels)]
  ascending := by
    have first : "" < "\x00\"\\\n" := by decide
    have second : "\x00\"\\\n" < "\u2028é😀" := by decide
    have third : "" < "\u2028é😀" := by decide
    simp only [Ascending, List.pairwise_cons, List.forall_mem_cons, first, second, third, List.not_mem_nil,
      false_implies, implies_true, List.Pairwise.nil, and_self]

/-- The odd context is read back from text if 125 arrays lie in one another there, and refused if there is one more. -/
theorem read_back_from_text_of_oddContext :
    let outcome (levels : Nat) :=
      (failed "\t\"" "\u2028\\").edits [.withContext (oddContext levels), .setMessage "\x7f"]
    (outcome 125).toWire.depth = 128 ∧ ofText (outcome 124).toText = .ok (outcome 124) ∧
      (∃ error, ofText (outcome 125).toText = .error error ∧ error.fault.code = "JSON_SYNTAX") ∧
      ofWire (outcome 125).toWire = .ok (outcome 125) := by
  intro outcome
  have deep (levels : Nat) : (outcome levels).toWire.depth = levels + 3 := by
    rw [depth_toWire]
    change max _ (max _ (max (nested levels).depth _)) + 1 + 1 = _
    rw [depth_nested]
    rfl
  have known (levels : Nat) : (Json.ofTable (outcome levels).context).Canonical :=
    have greatest : intRange 18446744073709551615 = true := by decide
    have least : intRange (-9223372036854775808) = true := by decide
    ⟨(oddContext levels).ascending, greatest, least, (canonical_nested levels).1, trivial⟩
  have plain (levels : Nat) : (Json.ofTable (outcome levels).context).IntegersOnly :=
    ⟨trivial, trivial, (canonical_nested levels).2, trivial⟩
  have flat := read_back_from_text (.failed "\t\"" "\u2028\\") _ (known 124) (plain 124)
  have tooDeep := read_back_from_text (.failed "\t\"" "\u2028\\") _ (known 125) (plain 125)
  refine ⟨deep 125, flat.1 (Nat.le_of_eq (deep 124)), ?_, tooDeep.2.2⟩
  obtain ⟨error, refused, _, code⟩ := tooDeep.2.1 (Nat.lt_of_lt_of_eq (by decide) (deep 125).symm)
  exact ⟨error, refused, code⟩

end Dispatch.Outcome
