import Dispatch.Proofs.Schema.Validation
import Mathlib.Data.List.Nodup

namespace Dispatch

/-- Where no name stands twice a table of entries holds just these. -/
theorem Table.get?_ofList_iff {α : Type} {entries : List (String × α)} {name : String} {value : α}
    (distinct : (entries.map Prod.fst).Nodup) :
    (ofList entries).get? name = some value ↔ (name, value) ∈ entries := by
  constructor
  · exact mem_of_get?_ofList
  · intro member
    obtain ⟨other, found⟩ := exists_get?_ofList member
    have same := List.inj_on_of_nodup_map distinct member (mem_of_get?_ofList found) rfl
    rw [found, (Prod.mk.inj same).2]

namespace Json

theorem get?_obj (entries : List (String × Json)) (name : String) :
    (obj entries).get? name = (Table.ofList entries).get? name := rfl

/-- The value is of a type with this name; numbers may be integers, and any value is of any type. -/
def HasType (type : String) (value : Json) : Prop :=
  type = "any" ∨ type = value.typeName ∨ (type = "number" ∧ value.typeName = "integer")

/-- The value is of the type of a property, and one of its allowed values if there are any. -/
structure Fits (property value : Json) : Prop where
  type : ∃ type, property.get? "type" = some (.string type) ∧ HasType type value
  allowed (choices : Json) (restricted : property.get? "enum" = some choices) :
    ∃ items, choices = .array items ∧ ∃ item ∈ items, item.same value = true

/-- What a document requires is there, and whatever is there is a property and null or a value that fits it. -/
structure Follows (document : Json) (params : Attributes) : Prop where
  required (items : List Json) (listed : document.get? "required" = some (.array items)) (name : String)
    (member : .string name ∈ items) : ∃ value, params.get? name = some value ∧ value.isNull = false
  declared (name : String) (value : Json) (given : params.get? name = some value) :
    ∃ properties property, document.get? "properties" = some properties ∧ properties.get? name = some property ∧
      (value.isNull = false → Fits property value)

end Json

namespace Schema

open Json

section field
variable {field : Field} {value : Json}

/-- A kind accepts what is of the type that it is advertised under. -/
theorem Kind.accepts_of_hasType {kind : Kind} (there : value.isNull = false) (typed : HasType kind.advertised value) :
    kind.accepts value = true := by
  cases kind <;> cases value <;> simp_all [HasType, Kind.advertised, Kind.accepts, Json.typeName, Json.isNull]

theorem Field.property_type : field.property.get? "type" = some (.string field.kind.advertised) := by
  cases choices : field.choices <;> cases default : field.default <;>
    simp [Field.property, get?_obj, Table.ofList, Table.get?_insert, choices, default]

theorem Field.property_enum : field.property.get? "enum" = field.choices.map .array := by
  cases choices : field.choices <;> cases default : field.default <;>
    simp [Field.property, get?_obj, Table.ofList, Table.get?_insert, choices, default]

/-- A field admits what fits its property. -/
theorem Field.admits_of_fits (there : value.isNull = false) (fits : Fits field.property value) : field.Admits value := by
  obtain ⟨type, advertised, typed⟩ := fits.type
  rw [Field.property_type] at advertised
  cases advertised
  refine ⟨Kind.accepts_of_hasType there typed, fun choices restricted => ?_⟩
  obtain ⟨items, same, allowed⟩ := fits.allowed (.array choices) (by rw [Field.property_enum, restricted]; rfl)
  cases same
  exact allowed

/-- What is of the advertised type and among the allowed values fits the property. -/
theorem Field.fits_property (typed : HasType field.kind.advertised value)
    (allowed : ∀ choices, field.choices = some choices → ∃ choice ∈ choices, choice.same value = true) :
    Fits field.property value where
  type := ⟨_, Field.property_type, typed⟩
  allowed choices restricted := by
    rw [Field.property_enum] at restricted
    obtain ⟨items, some, same⟩ := Option.map_eq_some_iff.mp restricted
    exact ⟨items, same.symm, allowed items some⟩

/-- Where no values are prescribed the type decides. -/
theorem Field.fits_of_free (typed : HasType field.kind.advertised value) (free : field.choices = none) :
    Fits field.property value := by
  refine Field.fits_property typed fun choices restricted => ?_
  rw [free] at restricted
  cases restricted

end field

section schema
variable {schema : Schema} {title : String} {params : Attributes} {field : Field}

theorem advertise_properties : (schema.advertise title).get? "properties" =
    some (.obj ((schema.fields.filter Field.isPublic).map fun field => (field.name, field.property))) := by
  simp [advertise, get?_obj, Table.ofList, Table.get?_insert]

theorem advertise_required : (schema.advertise title).get? "required" =
    some (.strings (((schema.fields.filter Field.isPublic).filter (·.required)).map (·.name))) := by
  simp [advertise, get?_obj, Table.ofList]

/-- Each property is the one of a public field of this name. -/
theorem field_of_property {properties property : Json} {name : String}
    (listed : (schema.advertise title).get? "properties" = some properties)
    (found : properties.get? name = some property) :
    ∃ field ∈ schema.fields, field.isPublic = true ∧ field.name = name ∧ field.property = property := by
  rw [advertise_properties] at listed
  cases listed
  have member := Table.mem_of_get?_ofList (found : (Table.ofList _).get? name = some property)
  obtain ⟨field, declares, same⟩ := List.mem_map.mp member
  obtain ⟨declares, shown⟩ := List.mem_filter.mp declares
  cases same
  exact ⟨field, declares, shown, rfl, rfl⟩

/-- Where no name is declared twice none is advertised twice. -/
theorem nodup_properties (distinct : schema.names.Nodup) :
    (((schema.fields.filter Field.isPublic).map fun field => (field.name, field.property)).map Prod.fst).Nodup := by
  rw [List.map_map]
  exact distinct.sublist (List.filter_sublist.map Field.name)

/-- Under the name of each public field its property is found. -/
theorem property_of_field (distinct : schema.names.Nodup) (member : field ∈ schema.fields)
    (shown : field.isPublic = true) : ∃ properties,
    (schema.advertise title).get? "properties" = some properties ∧
      properties.get? field.name = some field.property := by
  refine ⟨_, advertise_properties, (Table.get?_ofList_iff (nodup_properties distinct)).mpr ?_⟩
  exact List.mem_map.mpr ⟨field, List.mem_filter.mpr ⟨member, shown⟩, rfl⟩

/-- What follows the advertised schema gives no value to a field that is left out of it. -/
theorem Field.unsupplied_of_follows (follows : Follows (schema.advertise title) params)
    (hidden : field.isPublic = false) : supplied? params field.name = none := by
  cases supplied : supplied? params field.name with
  | none => rfl
  | some value =>
    obtain ⟨properties, property, listed, found, _⟩ := follows.declared _ _ (supplied?_eq_some.mp supplied).1
    obtain ⟨other, _, shown, same, _⟩ := field_of_property listed found
    simp [Field.isPublic, same] at hidden shown
    exact absurd hidden shown

/-- A field that is advertised has nothing against what follows the advertised schema. -/
theorem Field.content_of_follows (distinct : schema.names.Nodup) (follows : Follows (schema.advertise title) params)
    (member : field ∈ schema.fields) (shown : field.isPublic = true) : field.Content params := by
  unfold Field.Content
  split
  · rename_i value supplied
    obtain ⟨given, there⟩ := supplied?_eq_some.mp supplied
    obtain ⟨properties, property, listed, found, fits⟩ := follows.declared _ _ given
    obtain ⟨other, declares, _, same, rfl⟩ := field_of_property listed found
    obtain rfl : other = field := List.inj_on_of_nodup_map distinct declares member same
    exact Field.admits_of_fits there (fits there)
  · rename_i missing
    intro _
    cases required : field.required with
    | false => rfl
    | true =>
      have listed : .string field.name ∈
          (((schema.fields.filter Field.isPublic).filter (·.required)).map (·.name)).map Json.string := by
        have advertised : field ∈ schema.fields.filter Field.isPublic := List.mem_filter.mpr ⟨member, shown⟩
        exact List.mem_map_of_mem (List.mem_map_of_mem (List.mem_filter.mpr ⟨advertised, required⟩))
      obtain ⟨value, given, there⟩ := follows.required _ advertise_required _ listed
      rw [supplied?_eq_some.mpr ⟨given, there⟩] at missing
      cases missing

/-- What follows the advertised schema is accepted just when required internal fields have defaults. -/
theorem advertise_sufficient (distinct : schema.names.Nodup) (follows : Follows (schema.advertise title) params) :
    (∃ out, schema.validate params = .ok out) ↔
      ∀ field ∈ schema.fields, field.isPublic = false → field.required = true → field.default.isSome = true := by
  rw [validate_accepts_iff]
  constructor
  · intro content field member hidden required
    have nothing := content field member
    unfold Field.Content at nothing
    rw [Field.unsupplied_of_follows follows hidden] at nothing
    cases fallback : field.default with
    | some default => rfl
    | none =>
      rw [nothing fallback] at required
      cases required
  · intro covered field member
    cases shown : field.isPublic with
    | true => exact Field.content_of_follows distinct follows member shown
    | false =>
      unfold Field.Content
      rw [Field.unsupplied_of_follows follows shown]
      intro uncovered
      cases required : field.required with
      | false => rfl
      | true =>
        have default := covered field member shown required
        rw [uncovered] at default
        cases default

/-- A name, a unit that is one of two, and a number, beside an internal field with a default. -/
theorem advertise_sufficient_name :
    let unit := (Field.needed "unit" .string).restrict [.string "cm", .string "mm"]
    let token := { Field.needed "_token" .string with default := some (.string "none") }
    let schema : Schema := ⟨[.needed "name" .string, unit, .needed "radius" .number, token]⟩
    let params : Attributes := .ofList [("name", .string "ball"), ("unit", .string "mm"), ("radius", .int 2)]
    Follows (schema.advertise "Ball") params ∧ token.isPublic = false ∧ token.required = true ∧
      ∃ out, schema.validate params = .ok out := by
  intro unit token schema params
  have distinct : schema.names.Nodup := by decide
  have hidden : token.isPublic = false := by decide
  have shown : schema.fields.filter Field.isPublic = [.needed "name" .string, unit, .needed "radius" .number] := by
    have each : (Field.needed "name" .string).isPublic = true ∧ unit.isPublic = true ∧
      (Field.needed "radius" .number).isPublic = true := by decide
    simp [schema, each, hidden]
  have follows : Follows (schema.advertise "Ball") params := by
    constructor
    · intro items listed name member
      rw [advertise_required, shown] at listed
      cases listed
      have among : Json.string name ∈ [.string "name", .string "unit", .string "radius"] := member
      simp only [List.mem_cons, List.not_mem_nil, or_false, Json.string.injEq] at among
      rcases among with rfl | rfl | rfl
      · exact ⟨.string "ball", rfl, rfl⟩
      · exact ⟨.string "mm", rfl, rfl⟩
      · exact ⟨.int 2, rfl, rfl⟩
    · intro name value given
      have among := Table.mem_of_get?_ofList given
      simp only [List.mem_cons, List.not_mem_nil, or_false, Prod.mk.injEq] at among
      have fits {field : Field} (same : field.name = name) (member : field ∈ schema.fields)
          (shown : field.isPublic = true) (fits : Fits field.property value) : ∃ properties property,
          (schema.advertise "Ball").get? "properties" = some properties ∧ properties.get? name = some property ∧
            (value.isNull = false → Fits property value) := by
        obtain ⟨properties, listed, found⟩ := property_of_field distinct member shown
        exact ⟨properties, _, listed, same ▸ found, fun _ => fits⟩
      rcases among with ⟨rfl, rfl⟩ | ⟨rfl, rfl⟩ | ⟨rfl, rfl⟩
      · exact fits rfl (.head _) (by decide) (Field.fits_of_free (.inr (.inl rfl)) rfl)
      · refine fits rfl (.tail _ (.head _)) (by decide) (Field.fits_property (.inr (.inl rfl)) ?_)
        rintro _ ⟨rfl⟩
        exact ⟨.string "mm", by simp, by decide⟩
      · exact fits rfl (.tail _ (.tail _ (.head _))) (by decide) (Field.fits_of_free (.inr (.inr ⟨rfl, rfl⟩)) rfl)
  refine ⟨follows, hidden, rfl, (advertise_sufficient distinct follows).mpr ?_⟩
  simp only [schema, List.forall_mem_cons, List.not_mem_nil, false_implies, implies_true, and_true]
  exact ⟨by decide, by decide, by decide, fun _ _ => rfl⟩

/-- A required internal field without a default is missing from parameters that give all that is advertised. -/
theorem advertise_not_always_sufficient :
    let schema : Schema := ⟨[.needed "_token" .string]⟩
    schema.names.Nodup ∧ Follows (schema.advertise "Box") ∅ ∧ schema.validate ∅ = .error (.missing "_token") := by
  intro schema
  refine ⟨by decide, ⟨?_, nofun⟩, rfl⟩
  intro items listed name member
  rw [advertise_required] at listed
  cases listed
  cases member

end schema

end Schema

end Dispatch
