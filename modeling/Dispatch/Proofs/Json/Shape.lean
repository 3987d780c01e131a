import Dispatch.Json.Shape

namespace Dispatch.Json.Shape

@[simp] theorem ofJson_string (text : String) : Shape.string.ofJson (.string text) = .ok text := by
  simp [Shape.ofJson, Json.asString?]

@[simp] theorem ofJson_bool (flag : Bool) : Shape.bool.ofJson (.bool flag) = .ok flag := by
  simp [Shape.ofJson, Json.asBool?]

@[simp] theorem ofJson_attributes (table : Attributes) : Shape.attributes.ofJson (.ofTable table) = .ok table := by
  simp [Shape.ofJson]

/-- What is there is read in its own shape. -/
theorem ofJson_orNull {shape : Shape} {value : Json} (there : value.isNull = false) :
    (Shape.orNull shape).ofJson value = some <$> shape.ofJson value := by
  simp [Shape.ofJson, there]

/-- A text that is missing is missing again. -/
@[simp] theorem ofJson_ofString? (text : Option String) :
    (Shape.orNull .string).ofJson (.ofString? text) = .ok text := by
  cases text with
  | none => simp [Shape.ofJson, Json.ofString?, Json.ofOption, Json.isNull]
  | some text =>
    change (Shape.orNull .string).ofJson (.string text) = .ok (some text)
    rw [ofJson_orNull rfl, ofJson_string]
    rfl

/-- A table that may be missing is there again. -/
@[simp] theorem ofJson_ofTable (table : Attributes) :
    (Shape.orNull .attributes).ofJson (.ofTable table) = .ok (some table) := by
  rw [ofJson_orNull rfl, ofJson_attributes]
  rfl

/-- Only flags are read as flags, and only texts as texts. -/
theorem ofJson_bool_iff {value : Json} {flag : Bool} : Shape.bool.ofJson value = .ok flag ↔ value = .bool flag := by
  cases value <;> simp [Shape.ofJson, Json.asBool?]

theorem ofJson_string_iff {value : Json} {words : String} :
    Shape.string.ofJson value = .ok words ↔ value = .string words := by
  cases value <;> simp [Shape.ofJson, Json.asString?]

/-- What may be missing is missing as null, or there. -/
theorem ofJson_orNull_iff {shape : Shape} {value : Json} {slot : Option shape.Carrier} :
    (Shape.orNull shape).ofJson value = .ok slot ↔
      (value = .null ∧ slot = none) ∨
        (value.isNull = false ∧ ∃ data, shape.ofJson value = .ok data ∧ slot = some data) := by
  cases null : value.isNull with
  | true =>
    cases value <;> cases null
    simp [Shape.ofJson, Json.isNull, eq_comm]
  | false =>
    have there : value ≠ .null := by
      rintro rfl
      cases null
    rw [ofJson_orNull null]
    cases shape.ofJson value <;> simp [there, Functor.map, Except.map, eq_comm]

/-- A table is read from an object whose names ascend. -/
theorem ofJson_attributes_iff {value : Json} (canonical : value.Canonical) {table : Attributes} :
    Shape.attributes.ofJson value = .ok table ↔ value = .object table.entries := by
  constructor
  · intro read
    cases value with
    | object entries =>
      have same : (⟨entries, canonical.1⟩ : Attributes) = table := by
        rw [← Except.ok.inj ((ofJson_attributes ⟨entries, canonical.1⟩).symm.trans read)]
      rw [← same]
    | null | bool | int | double | string | array => simp [Shape.ofJson, Json.asObject?] at read
  · rintro rfl
    exact ofJson_attributes table

end Dispatch.Json.Shape
