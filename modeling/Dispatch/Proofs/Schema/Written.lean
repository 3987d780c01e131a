import Dispatch.Proofs.Json.Record
import Dispatch.Proofs.Schema.Judgement
import Mathlib.Data.List.Nodup

namespace Dispatch

namespace Json

/-- Items that are written one by one are read one by one. -/
theorem mapM_of_written {ε α β γ : Type} {write : α → β} {read : β → Except ε γ} {came : α → γ}
    (each : ∀ item, read (write item) = .ok (came item)) (items : List α) :
    (items.map write).mapM read = .ok (items.map came) := by
  induction items with
  | nil => rfl
  | cons item rest ih =>
    rw [List.map_cons, List.mapM_cons, each, ih]
    rfl

namespace Shape

/-- Any value but null is there as it is. -/
theorem ofJson_orNull_any (value : Json) :
    (Shape.orNull .any).ofJson value = .ok (if value.isNull then none else some value) := by
  cases value <;> rfl

/-- Any values in a list are there as they are. -/
theorem ofJson_list_any (items : List Json) : (Shape.list .any).ofJson (.array items) = .ok items := by
  have read : (items.map id).mapM Shape.any.ofJson = .ok (items.map id) := mapM_of_written (fun _ => rfl) items
  rwa [List.map_id] at read

end Shape

end Json

namespace Schema

open Json

/-- The ways in which a field is made. -/
inductive Field.Made : Field → Prop
  | needed (name : String) (kind : Kind) : Made (.needed name kind)
  | defaulted (name : String) (kind : Kind) (default : Json) : Made (.defaulted name kind default)
  | describe {field : Field} (made : Made field) (description : String) : Made (field.describe description)
  | restrict {field : Field} (made : Made field) (choices : List Json) : Made (field.restrict choices)

/-- A schema is made by declaring one field after the other. -/
inductive Made : Schema → Prop
  | empty : Made .empty
  | declare {schema : Schema} {field : Field} (made : Made schema) (part : field.Made) : Made (schema.declare field)

/-- The field without its default if that is null. -/
def Field.withoutNull (field : Field) : Field :=
  { field with default := field.default.filter fun default => !default.isNull }

/-- The schema without defaults of null. -/
def withoutNulls (schema : Schema) : Schema := ⟨schema.fields.map Field.withoutNull⟩

/-- The field puts a null in, for want of a value. -/
structure Field.Blanks (field : Field) (params : Attributes) : Prop where
  default : field.default = some .null
  unsupplied : supplied? params field.name = none

section reading

/-- What stands under a name in the written form of a field. -/
theorem Field.get?_toJson (field : Field) (name : String) : field.toJson.get? name =
    if name = "enum_values" then field.choices.map .array
    else if name = "default" then field.default
    else if name = "description" then some (.string field.description)
    else if name = "required" then some (.bool field.required)
    else if name = "kind" then some (.string field.kind.name)
    else if name = "name" then some (.string field.name)
    else none := by
  change (Table.ofList _).get? name = _
  cases default : field.default <;> cases choices : field.choices <;> simp [Table.ofList, Table.get?_insert]
  all_goals grind

theorem Field.distinct_members : Field.members.Distinct := by
  simp [Members.Distinct, Members.knows]

theorem Kind.ofJson_name (kind : Kind) : Kind.shape.ofJson (.string kind.name) = .ok kind.name := by
  cases kind <;> rfl

/-- What a reader finds in the written form of a field. -/
def Field.parts (field : Field) : Field.members.Carrier :=
  (field.name, field.kind.name, field.required,
    field.default.map fun default => if default.isNull then none else some default,
    some field.description, field.choices.map some, ())

theorem Field.ofJson_toJson (field : Field) : Field.shape.ofJson field.toJson = .ok field.parts := by
  have found (name : String) := field.get?_toJson name
  change ∀ name, lookup? name (Table.ofList _).entries = _ at found
  have default : (Shape.orNull .any).Fills field.default
      (field.default.map fun default => if default.isNull then none else some default) := by
    cases field.default with
    | none => rfl
    | some default => exact ⟨_, Shape.ofJson_orNull_any default, rfl⟩
  have choices : (Shape.orNull (.list .any)).Fills (field.choices.map .array) (field.choices.map some) := by
    cases field.choices with
    | none => rfl
    | some choices =>
      refine ⟨some choices, ?_, rfl⟩
      rw [Shape.ofJson_orNull rfl, Shape.ofJson_list_any]
      rfl
  rw [Field.toJson, Json.obj, Json.ofTable, ofJson_object_iff (Table.ascending _) Field.distinct_members]
  simp only [Members.Holds, found]
  exact ⟨⟨_, Shape.ofJson_string _, rfl⟩, ⟨_, Kind.ofJson_name _, rfl⟩, ⟨_, Shape.ofJson_bool _, rfl⟩, default,
    ⟨_, Shape.ofJson_string _, rfl⟩, choices, trivial⟩

/-- From what is found, the field is put together again, without a default of null. -/
theorem Field.ofCarrier_parts (field : Field) : Field.ofCarrier field.parts = field.withoutNull := by
  obtain ⟨name, kind, required, default, description, choices⟩ := field
  have fallback : (default.map fun default => if default.isNull then none else some default).join =
      default.filter fun default => !default.isNull := by
    cases default with
    | none => rfl
    | some default => cases default <;> rfl
  have restriction : (choices.map some).join = choices := by cases choices <;> rfl
  simp only [Field.ofCarrier, Field.parts, Field.withoutNull, fallback, restriction, Kind.ofName?_name,
    Option.getD_some]

theorem distinct_members : members.Distinct := by
  simp [Members.Distinct, Members.knows]

/-- What is read of the written form is the schema without defaults of null. -/
theorem ofJson_toJson (schema : Schema) : ofJson schema.toJson = .ok schema.withoutNulls := by
  have fields : (Shape.list Field.shape).ofJson (.array (schema.fields.map Field.toJson)) =
      .ok (schema.fields.map Field.parts) :=
    mapM_of_written Field.ofJson_toJson schema.fields
  have read : shape.ofJson schema.toJson = .ok (schema.fields.map Field.parts, ()) := by
    have ascending : Ascending [("fields", Json.array (schema.fields.map Field.toJson))] := List.pairwise_singleton _ _
    exact (ofJson_object_iff ascending distinct_members).mpr ⟨⟨_, fields, rfl⟩, trivial⟩
  have together : ofCarrier (schema.fields.map Field.parts, ()) = schema.withoutNulls := by
    have each : Field.ofCarrier ∘ Field.parts = Field.withoutNull := funext Field.ofCarrier_parts
    rw [ofCarrier, List.map_map, each]
    rfl
  unfold ofJson
  rw [read, ← together]
  rfl

theorem Field.withoutNull_eq_iff {field : Field} : field.withoutNull = field ↔ field.default ≠ some .null := by
  obtain ⟨name, kind, required, default, description, choices⟩ := field
  cases default with
  | none => simp [withoutNull]
  | some default => cases default <;> simp [withoutNull, Json.isNull]

/-- A schema is as it is without defaults of null just when it has none. -/
theorem withoutNulls_eq_iff {schema : Schema} :
    schema.withoutNulls = schema ↔ ∀ field ∈ schema.fields, field.default ≠ some .null := by
  have fields : schema.fields.map Field.withoutNull = schema.fields.map id ↔
      ∀ field ∈ schema.fields, field.withoutNull = id field := List.map_inj_left
  simp only [List.map_id, id, Field.withoutNull_eq_iff] at fields
  rw [← fields]
  exact ⟨congrArg Schema.fields, congrArg Schema.mk⟩

end reading

section made

variable {field : Field} {schema : Schema}

/-- A field that has a default need not be given a value. -/
theorem Field.Made.not_required (made : field.Made) (fallback : field.default ≠ none) : field.required = false := by
  induction made with
  | needed name kind => exact absurd rfl fallback
  | defaulted name kind default => rfl
  | describe _ _ ih => exact ih fallback
  | restrict _ _ ih => exact ih fallback

theorem mem_declareIn {other : Field} {fields : List Field} (member : other ∈ declareIn field fields) :
    other = field ∨ other ∈ fields := by
  induction fields with
  | nil => exact .inl (List.mem_singleton.mp member)
  | cons first rest ih =>
    rw [declareIn] at member
    split at member
    · exact (List.mem_cons.mp member).imp_right (List.mem_cons_of_mem first)
    · rcases List.mem_cons.mp member with rfl | member
      · exact .inr List.mem_cons_self
      · exact (ih member).imp_right (List.mem_cons_of_mem first)

/-- A name that is declared keeps its place, and one that is not comes last. -/
theorem names_declare : (schema.declare field).names =
    if field.name ∈ schema.names then schema.names else schema.names ++ [field.name] := by
  obtain ⟨fields⟩ := schema
  change (declareIn field fields).map Field.name = if field.name ∈ fields.map Field.name then _ else _
  induction fields with
  | nil => rfl
  | cons first rest ih =>
    rw [declareIn]
    split
    · rename_i same
      simp [names, same]
    · rename_i other
      rw [List.map_cons, ih]
      by_cases known : field.name ∈ rest.map Field.name
      · simp [names, known]
      · simp [names, known, Ne.symm other]

/-- Declaring a field neither repeats a name nor takes a repetition away. -/
theorem nodup_names_declare : (schema.declare field).names.Nodup ↔ schema.names.Nodup := by
  rw [names_declare]
  split
  · exact Iff.rfl
  · rename_i fresh
    have apart : List.Disjoint schema.names [field.name] := List.disjoint_singleton.mpr fresh
    rw [List.nodup_append', and_iff_left apart, and_iff_left (List.nodup_singleton _)]

theorem Made.distinct (made : schema.Made) : schema.names.Nodup := by
  induction made with
  | empty => exact List.nodup_nil
  | declare _ _ ih => exact nodup_names_declare.mpr ih

theorem Made.part (made : schema.Made) (member : field ∈ schema.fields) : field.Made := by
  induction made with
  | empty => cases member
  | declare _ part ih =>
    rcases mem_declareIn member with rfl | member
    · exact part
    · exact ih member

end made

section validation

variable {field : Field} {params : Attributes}

/-- It is never a default of null that keeps a field from being offended. -/
theorem Field.offends_withoutNull (made : field.Made) {violation : Violation} :
    field.withoutNull.Offends params violation ↔ field.Offends params violation := by
  constructor
  · intro offends
    cases offends with
    | missing unsupplied _ needed =>
      have unsettled : field.default = none := by
        by_contra fallback
        cases (made.not_required fallback).symm.trans needed
      exact .missing unsupplied unsettled needed
    | mismatch given wrong => exact .mismatch given wrong
    | notAllowed given right restricted outside => exact .notAllowed given right restricted outside
  · intro offends
    cases offends with
    | missing unsupplied unsettled needed =>
      have unsettled : field.withoutNull.default = none := by rw [withoutNull, unsettled, Option.filter_none]
      exact .missing unsupplied unsettled needed
    | mismatch given wrong => exact .mismatch given wrong
    | notAllowed given right restricted outside => exact .notAllowed given right restricted outside

theorem Field.content_withoutNull (made : field.Made) : field.withoutNull.Content params ↔ field.Content params := by
  simp only [← not_offended_iff, Offended, offends_withoutNull made]

/-- Where a default of null would be put in there is nothing, and anything else is as before. -/
theorem Field.outcome?_withoutNull :
    (field.Blanks params → field.outcome? params = some .null ∧ field.withoutNull.outcome? params = none) ∧
      (¬field.Blanks params → field.withoutNull.outcome? params = field.outcome? params) := by
  constructor
  · rintro ⟨default, unsupplied⟩
    have absent : field.withoutNull.default = none := by
      rw [withoutNull, default]
      rfl
    have unsuppliedToo : supplied? params field.withoutNull.name = none := unsupplied
    rw [outcome?_of_unsupplied unsupplied, outcome?_of_unsupplied unsuppliedToo]
    exact ⟨default, absent⟩
  · intro settled
    cases given : supplied? params field.name with
    | some value =>
      have givenToo : supplied? params field.withoutNull.name = some value := given
      rw [outcome?_of_supplied given, outcome?_of_supplied givenToo]
      rfl
    | none =>
      have same : field.withoutNull = field := withoutNull_eq_iff.mpr fun default => settled ⟨default, given⟩
      rw [same]

theorem judgeFields_withoutNull {fields : List Field} (made : ∀ field ∈ fields, field.Made)
    (settled other : Attributes) :
    (judgeFields params (fields.map Field.withoutNull) settled).2 = (judgeFields params fields other).2 := by
  induction fields generalizing settled other with
  | nil => rfl
  | cons field rest ih =>
    have errors (violation : Violation) :
        field.withoutNull.judge params = .error violation ↔ field.judge params = .error violation := by
      rw [Field.judge_eq_error_iff, Field.judge_eq_error_iff,
        Field.offends_withoutNull (made field List.mem_cons_self)]
    have later := ih fun other member => made other (List.mem_cons_of_mem field member)
    cases judged : field.judge params with
    | error violation =>
      rw [List.map_cons, judgeFields, judgeFields, judged, (errors violation).mpr judged]
      exact congrArg (violation :: ·) (later _ _)
    | ok settlement =>
      cases judgedToo : field.withoutNull.judge params with
      | error violation => cases judged.symm.trans ((errors violation).mp judgedToo)
      | ok settlementToo =>
        rw [List.map_cons, judgeFields, judgeFields, judged, judgedToo]
        exact later _ _

variable {schema : Schema}

/-- Without defaults of null a schema refuses what it refuses anyway, for the same reasons. -/
theorem Made.validate_eq_error_iff (made : schema.Made) {violation : Violation} :
    schema.withoutNulls.validate params = .error violation ↔ schema.validate params = .error violation := by
  rw [Schema.validate_eq_error_iff, Schema.validate_eq_error_iff, withoutNulls,
    judgeFields_withoutNull (fun _ member => made.part member)]

theorem names_withoutNulls : schema.withoutNulls.names = schema.names := by
  rw [names, withoutNulls, List.map_map]
  rfl

/-- Without defaults of null a schema makes of parameters what it makes of them anyway, but for the nulls. -/
theorem Made.validate_withoutNulls (made : schema.Made) {out : Attributes} (accepted : schema.validate params = .ok out) :
    ∃ settled, schema.withoutNulls.validate params = .ok settled ∧
      (∀ field ∈ schema.fields, field.Blanks params →
        out.get? field.name = some .null ∧ settled.get? field.name = none) ∧
      ∀ name, (∀ field ∈ schema.fields, field.Blanks params → field.name ≠ name) →
        settled.get? name = out.get? name := by
  obtain ⟨declared, undeclared⟩ := (validate_eq_ok_iff made.distinct).mp accepted
  have content : ∀ field ∈ schema.withoutNulls.fields, field.Content params := by
    intro other memberToo
    obtain ⟨field, member, rfl⟩ := List.mem_map.mp memberToo
    exact (Field.content_withoutNull (made.part member)).mpr (declared field member).1
  obtain ⟨settled, acceptedToo⟩ := validate_accepts_iff.mpr content
  have names : schema.withoutNulls.names = schema.names := names_withoutNulls
  obtain ⟨declaredToo, undeclaredToo⟩ := (validate_eq_ok_iff (by rw [names]; exact made.distinct)).mp acceptedToo
  have ends (field : Field) (member : field ∈ schema.fields) :
      settled.get? field.name = field.withoutNull.outcome? params :=
    (declaredToo _ (List.mem_map_of_mem member)).2
  refine ⟨settled, acceptedToo, ?_, ?_⟩
  · intro field member blanks
    rw [(declared field member).2, ends field member]
    exact Field.outcome?_withoutNull.1 blanks
  · intro name settles
    by_cases known : name ∈ schema.names
    · obtain ⟨field, member, rfl⟩ := List.mem_map.mp known
      rw [(declared field member).2, ends field member]
      exact Field.outcome?_withoutNull.2 fun blanks => settles field member blanks rfl
    · rw [undeclared name known]
      exact undeclaredToo name (by rw [names]; exact known)

/-- A schema is read as it was written just when none of its defaults is null. -/
theorem read_back_of_made {schema : Schema} (made : schema.Made) :
    (ofJson schema.toJson = .ok schema ↔ ∀ field ∈ schema.fields, field.default ≠ some .null) ∧
    ∃ read, ofJson schema.toJson = .ok read ∧ read.names = schema.names ∧
      (∀ params violation, read.validate params = .error violation ↔ schema.validate params = .error violation) ∧
      ∀ params out, schema.validate params = .ok out → ∃ settled, read.validate params = .ok settled ∧
        (∀ field ∈ schema.fields, field.Blanks params →
          out.get? field.name = some .null ∧ settled.get? field.name = none) ∧
        ∀ name, (∀ field ∈ schema.fields, field.Blanks params → field.name ≠ name) →
          settled.get? name = out.get? name := by
  constructor
  · rw [ofJson_toJson, ← withoutNulls_eq_iff]
    exact ⟨Except.ok.inj, congrArg Except.ok⟩
  · exact ⟨schema.withoutNulls, ofJson_toJson schema, names_withoutNulls, fun _ _ => made.validate_eq_error_iff,
      fun _ _ => made.validate_withoutNulls⟩

/-- An axis that is declared twice, at last with values to choose from, is read as it was declared. -/
theorem read_back_of_made_axis :
    let axis := ((Field.defaulted "axis" .string (.string "y")).describe "up").restrict [.string "y", .string "z"]
    let schema := ((Schema.empty.declare (.needed "axis" .any)).declare (.needed "name" .string)).declare axis
    schema.Made ∧ schema.fields = [axis, .needed "name" .string] ∧ ofJson schema.toJson = .ok schema := by
  intro axis schema
  have made : schema.Made :=
    .declare (.declare (.declare .empty (.needed _ _)) (.needed _ _)) (.restrict (.describe (.defaulted _ _ _) _) _)
  have fields : schema.fields = [axis, .needed "name" .string] := rfl
  refine ⟨made, fields, (read_back_of_made made).1.mpr fun field member => ?_⟩
  rw [fields] at member
  rcases List.mem_cons.mp member with rfl | member
  · exact nofun
  · obtain rfl := List.mem_singleton.mp member
    exact nofun

/-- Where a default of null was put in, a schema that was read leaves nothing. -/
theorem not_always_read_back :
    (¬∀ schema, Made schema → ofJson schema.toJson = .ok schema) ∧
      ¬∀ schema read, Made schema → ofJson schema.toJson = .ok read →
        ∀ params, read.validate params = schema.validate params := by
  let schema := Schema.empty.declare (.defaulted "frame" .any .null)
  have made : schema.Made := .declare .empty (.defaulted _ _ _)
  have read : ofJson schema.toJson = .ok schema.withoutNulls := ofJson_toJson schema
  constructor
  · intro always
    have same : schema.withoutNulls = schema := Except.ok.inj (read.symm.trans (always schema made))
    exact withoutNulls_eq_iff.mp same _ List.mem_cons_self rfl
  · intro always
    have same := always schema schema.withoutNulls made read ∅
    have before : schema.validate ∅ = .ok (.ofList [("frame", .null)]) := rfl
    have after : schema.withoutNulls.validate ∅ = .ok ∅ := rfl
    have tables := Except.ok.inj (after.symm.trans (same.trans before))
    cases congrArg Table.entries tables

end validation

end Schema

end Dispatch
