import Dispatch.Proofs.Schema.Advertised
import Dispatch.Proofs.Schema.Written

namespace Dispatch

namespace Schema

/-- Declares fields one after the other. -/
def declareAll (schema : Schema) (fields : List Field) : Schema := fields.foldl declare schema

/-- All that is asked of a schema under a name is answered by the declaration that is found there. -/
structure Unanimous (schema : Schema) : Prop where
  property (title name : String) : ((schema.advertise title).get? "properties").bind (·.get? name) =
    ((schema.field? name).filter Field.isPublic).map Field.property
  required (title : String) : ∃ names, (schema.advertise title).get? "required" = some (.strings names) ∧
    names.Nodup ∧ ∀ name, name ∈ names ↔
      ∃ field, schema.field? name = some field ∧ field.isPublic = true ∧ field.required = true
  refused (params : Attributes) (violation : Violation) : schema.validate params = .error violation ↔
    ∃ violations,
      List.Forall₂ (fun name violation => ∃ field, schema.field? name = some field ∧ field.Offends params violation)
        (schema.names.filter fun name => (schema.field? name).any fun field => field.Offended params) violations ∧
      (violations = [violation] ∨ 2 ≤ violations.length ∧ violation = .several violations)
  accepted (params out : Attributes) : schema.validate params = .ok out ↔
    (∀ name field, schema.field? name = some field →
      ¬field.Offended params ∧ out.get? name = field.outcome? params) ∧
    ∀ name, schema.field? name = none → out.get? name = params.get? name

section declare
variable {schema : Schema} {field : Field} {name : String}

/-- The later declaration of a name is found. -/
theorem field?_declare :
    (schema.declare field).field? name = if field.name = name then some field else schema.field? name := by
  obtain ⟨fields⟩ := schema
  change (declareIn field fields).find? _ = if field.name = name then some field else fields.find? _
  induction fields with
  | nil => simp [declareIn]
  | cons first rest ih =>
    rw [declareIn]
    split
    · rename_i same
      by_cases here : field.name = name <;> simp [same, here]
    · rename_i other
      rw [List.find?_cons, List.find?_cons, ih]
      by_cases here : field.name = name
      · have elsewhere : first.name ≠ name := fun same => other (same.trans here.symm)
        simp [elsewhere, here]
      · simp [here]

end declare

section declareAll
variable {start : Schema}

theorem nodup_names_declareAll (later : List Field) : (start.declareAll later).names.Nodup ↔ start.names.Nodup := by
  induction later generalizing start with
  | nil => exact Iff.rfl
  | cons field rest ih => exact ih.trans nodup_names_declare

/-- Names come in the order in which they are declared first. -/
theorem names_declareAll (later : List Field) : (start.declareAll later).names =
    start.names ++ ((later.map Field.name).filter (· ∉ start.names)).eraseDups := by
  induction later generalizing start with
  | nil => simp [declareAll]
  | cons field rest ih =>
    have onwards : start.declareAll (field :: rest) = (start.declare field).declareAll rest := rfl
    rw [onwards, ih, names_declare, List.map_cons]
    by_cases known : field.name ∈ start.names
    · simp [known]
    · simp only [known, if_false, List.filter_cons, not_false_eq_true, decide_true, if_true, List.eraseDups_cons,
        List.append_assoc, List.singleton_append, List.filter_filter]
      have others : (fun name => decide ¬name ∈ start.names ++ [field.name]) =
          fun name => !name == field.name && decide ¬name ∈ start.names := by
        funext name
        by_cases same : name = field.name <;> simp [same]
      rw [others]

/-- Under each name the last declaration is found. -/
theorem field?_declareAll (later : List Field) (name : String) : (start.declareAll later).field? name =
    (later.reverse.find? fun field => field.name = name).or (start.field? name) := by
  induction later generalizing start with
  | nil => rfl
  | cons field rest ih =>
    have onwards : start.declareAll (field :: rest) = (start.declare field).declareAll rest := rfl
    rw [onwards, ih, field?_declare, List.reverse_cons, List.find?_append, Option.or_assoc, List.find?_singleton]
    by_cases here : field.name = name <;> simp [here]

end declareAll

section unanimous
variable {schema : Schema} (distinct : schema.names.Nodup)
include distinct

/-- What is found under a name is the one declaration of it. -/
theorem field?_eq_some_iff {name : String} {field : Field} :
    schema.field? name = some field ↔ field ∈ schema.fields ∧ field.name = name := by
  constructor
  · intro found
    exact ⟨List.mem_of_find?_eq_some found, by simpa using List.find?_some found⟩
  · rintro ⟨member, rfl⟩
    cases found : schema.field? field.name with
    | none => exact absurd (List.find?_eq_none.mp found field member) (by simp)
    | some other =>
      have same : other.name = field.name := by simpa using List.find?_some found
      rw [List.inj_on_of_nodup_map distinct (List.mem_of_find?_eq_some found) member same]

theorem field?_name {field : Field} (member : field ∈ schema.fields) : schema.field? field.name = some field :=
  (field?_eq_some_iff distinct).mpr ⟨member, rfl⟩

/-- The property under a name is the one of the declaration that is found there, unless that is not advertised. -/
theorem property_of_distinct (title name : String) :
    ((schema.advertise title).get? "properties").bind (·.get? name) =
      ((schema.field? name).filter Field.isPublic).map Field.property := by
  rw [advertise_properties, Option.bind_some, Json.get?_obj]
  refine Option.ext fun property => ?_
  rw [Table.get?_ofList_iff (nodup_properties distinct), List.mem_map]
  simp only [List.mem_filter, Option.map_eq_some_iff, Option.filter_eq_some_iff, field?_eq_some_iff distinct,
    Prod.mk.injEq]
  constructor
  · rintro ⟨field, ⟨member, shown⟩, rfl, rfl⟩
    exact ⟨field, ⟨⟨member, rfl⟩, shown⟩, rfl⟩
  · rintro ⟨field, ⟨⟨member, rfl⟩, shown⟩, rfl⟩
    exact ⟨field, ⟨member, shown⟩, rfl, rfl⟩

theorem required_of_distinct (title : String) : ∃ names,
    (schema.advertise title).get? "required" = some (.strings names) ∧ names.Nodup ∧ ∀ name, name ∈ names ↔
      ∃ field, schema.field? name = some field ∧ field.isPublic = true ∧ field.required = true := by
  refine ⟨_, advertise_required, ?_, fun name => ?_⟩
  · exact distinct.sublist ((List.filter_sublist.trans List.filter_sublist).map Field.name)
  · simp only [List.mem_map, List.mem_filter, field?_eq_some_iff distinct]
    constructor
    · rintro ⟨field, ⟨⟨member, shown⟩, required⟩, rfl⟩
      exact ⟨field, ⟨member, rfl⟩, shown, required⟩
    · rintro ⟨field, ⟨member, rfl⟩, shown, required⟩
      exact ⟨field, ⟨⟨member, shown⟩, required⟩, rfl⟩

/-- The declarations that are found under the names are all there are, in order. -/
theorem filter_names (p : Field → Bool) :
    schema.names.filter (fun name => (schema.field? name).any p) = (schema.fields.filter p).map Field.name := by
  have found : ∀ field ∈ schema.fields, (schema.field? field.name).any p = p field := by
    intro field member
    rw [field?_name distinct member, Option.any_some]
  rw [names, List.filter_map]
  exact congrArg _ (List.filter_congr found)

theorem refused_of_distinct (params : Attributes) (violation : Violation) :
    schema.validate params = .error violation ↔ ∃ violations,
      List.Forall₂ (fun name violation => ∃ field, schema.field? name = some field ∧ field.Offends params violation)
        (schema.names.filter fun name => (schema.field? name).any fun field => field.Offended params) violations ∧
      (violations = [violation] ∨ 2 ≤ violations.length ∧ violation = .several violations) := by
  rw [(validate_judges distinct).2.1 violation, filter_names distinct]
  refine exists_congr fun violations => and_congr_left fun _ => ?_
  rw [List.forall₂_map_left_iff]
  have found (field : Field) (member : field ∈ schema.fields.filter fun field => field.Offended params) :
      schema.field? field.name = some field :=
    field?_name distinct (List.mem_of_mem_filter member)
  constructor
  · intro each
    exact ((List.forall₂_and_left _ _).mpr ⟨found, each⟩).imp fun field _ ⟨here, offends⟩ => ⟨field, here, offends⟩
  · intro each
    refine ((List.forall₂_and_left _ _).mpr ⟨found, each⟩).imp ?_
    rintro field violation ⟨here, other, there, offends⟩
    cases here.symm.trans there
    exact offends

theorem accepted_of_distinct (params out : Attributes) : schema.validate params = .ok out ↔
    (∀ name field, schema.field? name = some field →
      ¬field.Offended params ∧ out.get? name = field.outcome? params) ∧
    ∀ name, schema.field? name = none → out.get? name = params.get? name := by
  have undeclared (name : String) : schema.field? name = none ↔ name ∉ schema.names := by
    simp [field?, names]
  simp only [validate_eq_ok_iff distinct, undeclared, field?_eq_some_iff distinct, Field.not_offended_iff]
  refine and_congr_left fun _ => ?_
  constructor
  · rintro settled name field ⟨member, rfl⟩
    exact settled field member
  · intro settled field member
    exact settled field.name field ⟨member, rfl⟩

end unanimous

/-- Declaring fields repeats no name, and under each name its last declaration counts. -/
theorem declared_once (start : Schema) (later : List Field) :
    let schema := start.declareAll later
    (schema.names.Nodup ↔ start.names.Nodup) ∧
      schema.names = start.names ++ ((later.map Field.name).filter (· ∉ start.names)).eraseDups ∧
      (∀ name, schema.field? name =
        (later.reverse.find? fun field => field.name = name).or (start.field? name)) ∧
      (start.names.Nodup → schema.Unanimous) := by
  intro schema
  have kept : schema.names.Nodup ↔ start.names.Nodup := nodup_names_declareAll later
  refine ⟨kept, names_declareAll later, field?_declareAll later, fun distinctBefore => ?_⟩
  have distinct : schema.names.Nodup := kept.mpr distinctBefore
  exact
    { property := property_of_distinct distinct
      required := required_of_distinct distinct
      refused := refused_of_distinct distinct
      accepted := accepted_of_distinct distinct }

/-- A size that is declared again, as a text, keeps its place before the unit. -/
theorem declared_once_size :
    let size := (Field.needed "size" .string).restrict [.string "big", .string "small"]
    let start : Schema := ⟨[.needed "size" .integer]⟩
    let schema := start.declareAll [.defaulted "unit" .string (.string "mm"), size]
    start.names.Nodup ∧ schema.Unanimous ∧ schema.names = ["size", "unit"] ∧ schema.field? "size" = some size ∧
      ((schema.advertise "Box").get? "properties").bind (·.get? "size") = some size.property ∧
      schema.validate (.ofList [("size", .int 1)]) = .error (.mismatch "size" "string" "integer") := by
  intro size start schema
  have distinct : start.names.Nodup := by decide
  obtain ⟨_, names, found, unanimous⟩ := declared_once start [.defaulted "unit" .string (.string "mm"), size]
  have agree : schema.Unanimous := unanimous distinct
  have later : schema.field? "size" = some size := found "size"
  refine ⟨distinct, agree, names, later, ?_, ?_⟩
  · have shown : size.isPublic = true := by decide
    rw [agree.property, later, Option.filter_some, if_pos shown, Option.map_some]
  · exact (agree.refused _ _).mpr ⟨_, .cons ⟨size, later, .mismatch rfl rfl⟩ .nil, .inl rfl⟩

/-- A schema that was read with a name declared twice answers by the first, by the second, or by both. -/
theorem not_always_declared_once :
    let first := Field.needed "size" .integer
    let second := Field.needed "size" .string
    let document := Json.obj [("fields", .array [first.toJson, second.toJson])]
    ∃ schema, ofJson document = .ok schema ∧ schema.names = ["size", "size"] ∧
      schema.field? "size" = some first ∧
      ((schema.advertise "Box").get? "properties").bind (·.get? "size") = some second.property ∧
      (schema.advertise "Box").get? "required" = some (.strings ["size", "size"]) ∧
      schema.validate (.ofList [("size", .int 1)]) = .error (.mismatch "size" "string" "integer") ∧
      schema.validate (.ofList [("size", .string "big")]) = .error (.mismatch "size" "integer" "string") ∧
      schema.validate ∅ = .error (.several [.missing "size", .missing "size"]) := by
  intro first second document
  have read : ofJson document = .ok (Schema.mk [first, second]).withoutNulls := ofJson_toJson ⟨[first, second]⟩
  have same : (Schema.mk [first, second]).withoutNulls = ⟨[first, second]⟩ := rfl
  have shown : (Schema.mk [first, second]).fields.filter Field.isPublic = [first, second] := by
    have each : first.isPublic = true ∧ second.isPublic = true := by decide
    simp [each]
  refine ⟨⟨[first, second]⟩, read.trans (congrArg Except.ok same), rfl, rfl, ?_, ?_, rfl, rfl, rfl⟩
  · rw [advertise_properties, shown]
    exact Table.get?_insert_self _ "size" second.property
  · rw [advertise_required, shown]
    rfl

end Schema

end Dispatch
