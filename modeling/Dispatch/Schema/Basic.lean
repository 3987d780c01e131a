import Dispatch.Json.Shape

namespace Dispatch

namespace Schema

/-- The kind of JSON that a field accepts. -/
inductive Kind where
  | any
  | boolean
  | integer
  | number
  | string
  | array
  | object
deriving DecidableEq, Inhabited

namespace Kind

/-- The name under which a kind is declared. -/
def name : Kind → String
  | .any => "any"
  | .boolean => "bool"
  | .integer => "integer"
  | .number => "float"
  | .string => "string"
  | .array => "array"
  | .object => "object"

/-- The name under which a kind is advertised. -/
def advertised : Kind → String
  | .any => "any"
  | .boolean => "boolean"
  | .integer => "integer"
  | .number => "number"
  | .string => "string"
  | .array => "array"
  | .object => "object"

/-- All kinds there are. -/
def all : List Kind := [.any, .boolean, .integer, .number, .string, .array, .object]

/-- The kind of a name. -/
def ofName? (name : String) : Option Kind := all.find? fun kind => kind.name = name

/-- A number field takes integers as well. -/
def accepts : Kind → Json → Bool
  | .any, _ => true
  | .boolean, .bool _ => true
  | .integer, .int _ => true
  | .number, .int _ => true
  | .number, .double _ => true
  | .string, .string _ => true
  | .array, .array _ => true
  | .object, .object _ => true
  | _, _ => false

/-- Every kind is found by its name. -/
theorem ofName?_name (kind : Kind) : ofName? kind.name = some kind := by
  cases kind <;> decide

end Kind

/-- One declared field. A default of null is a default. -/
structure Field where
  name : String
  kind : Kind
  required : Bool
  default : Option Json
  description : String
  choices : Option (List Json)

instance : Inhabited Field := ⟨⟨"", .any, false, none, "", none⟩⟩

/-- A field that callers have to give. -/
def Field.needed (name : String) (kind : Kind) : Field := ⟨name, kind, true, none, "", none⟩

/-- A field with a value of its own for callers that leave it out. -/
def Field.defaulted (name : String) (kind : Kind) (default : Json) : Field :=
  ⟨name, kind, false, some default, "", none⟩

/-- Says what the field is for. -/
def Field.describe (field : Field) (description : String) : Field := { field with description }

/-- Only these values are allowed. -/
def Field.restrict (field : Field) (choices : List Json) : Field := { field with choices := some choices }

end Schema

/-- Declared fields in order. A schema that was read may declare a name more than once. -/
structure Schema where
  fields : List Schema.Field

namespace Schema

instance : Inhabited Schema := ⟨⟨[]⟩⟩

/-- No field is declared. -/
def empty : Schema := ⟨[]⟩

/-- Puts a field in place of the first one of its name, or else at the end. -/
def declareIn (field : Field) : List Field → List Field
  | [] => [field]
  | first :: rest => if first.name = field.name then field :: rest else first :: declareIn field rest

/-- A name that is declared again keeps its place and takes the later declaration. -/
def declare (schema : Schema) (field : Field) : Schema := ⟨declareIn field schema.fields⟩

/-- The first declaration of a name. -/
def field? (schema : Schema) (name : String) : Option Field :=
  schema.fields.find? fun field => field.name = name

/-- The declared names in order. -/
def names (schema : Schema) : List String := schema.fields.map (·.name)

/-- Fields whose name starts with an underscore are not advertised. -/
def Field.isPublic (field : Field) : Bool := field.name.toList.head? ≠ some '_'

/-- The advertised property of a field. -/
def Field.property (field : Field) : Json :=
  .obj ([("type", .string field.kind.advertised), ("description", .string field.description)]
    ++ (field.choices.map fun choices => ("enum", .array choices)).toList
    ++ (field.default.map fun default => ("default", default)).toList)

/-- The JSON schema that callers see. -/
def advertise (schema : Schema) (title : String) : Json :=
  let fields := schema.fields.filter Field.isPublic
  .obj
    [("title", .string title),
     ("type", .string "object"),
     ("properties", .obj (fields.map fun field => (field.name, field.property))),
     ("required", .strings ((fields.filter (·.required)).map (·.name)))]

/-- The written form of a field; what is absent is left out. -/
def Field.toJson (field : Field) : Json :=
  .obj ([("name", .string field.name),
     ("kind", .string field.kind.name),
     ("required", .bool field.required),
     ("description", .string field.description)]
    ++ (field.default.map fun default => ("default", default)).toList
    ++ (field.choices.map fun choices => ("enum_values", .array choices)).toList)

/-- The written form. -/
def toJson (schema : Schema) : Json := .obj [("fields", .array (schema.fields.map Field.toJson))]

open Json (Shape Members)

/-- A kind is written as one of the names. -/
def Kind.shape : Shape := .choice (Kind.all.map Kind.name)

/-- In the written form a default of null is no default. -/
@[reducible] def Field.members : Members :=
  .member "name" .required .string <|
  .member "kind" .required Kind.shape <|
  .member "required" .required .bool <|
  .member "default" .optional (.orNull .any) <|
  .member "description" .optional .string <|
  .member "enum_values" .optional (.orNull (.list .any)) .none

/-- What a reader accepts as a field. -/
@[reducible] def Field.shape : Shape := .record "InputField" Field.members

/-- A field without a description has an empty one. -/
def Field.ofCarrier : Field.members.Carrier → Field
  | (name, kind, required, default, description, choices, ()) =>
    { name
      kind := (Kind.ofName? kind).getD .any
      required
      default := default.join
      description := description.getD ""
      choices := choices.join }

/-- The parts of the written form. -/
@[reducible] def members : Members := .member "fields" .required (.list Field.shape) .none

/-- What a reader accepts as a schema. -/
@[reducible] def shape : Shape := .record "InputSchema" members

/-- Fields are kept as they were written, in their order. -/
def ofCarrier : members.Carrier → Schema
  | (fields, ()) => ⟨fields.map Field.ofCarrier⟩

/-- Reads the written form. -/
def ofJson (value : Json) : Except String Schema := do return ofCarrier (← shape.ofJson value)

/-- Reads the written form of a kind. -/
def Kind.ofJson (value : Json) : Except String Kind := do
  let name ← Kind.shape.ofJson value
  return (Kind.ofName? name).getD .any

end Schema

end Dispatch
