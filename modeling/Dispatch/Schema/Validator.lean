import Dispatch.Schema.Basic
import Dispatch.Schema.Violation

namespace Dispatch

namespace Schema

/-- The text of the values that a field allows. -/
def choicesText (choices : List Json) : String := (Json.array choices).text

/-- A value that is given and not null. -/
def supplied? (params : Attributes) (name : String) : Option Json :=
  (params.get? name).filter fun value => !value.isNull

/-- What an accepted field does to the parameters. -/
inductive Settlement where
  | keep
  | set (value : Json)
  | drop

/-- Carries out what a field asks for. -/
def Settlement.apply (name : String) (params : Attributes) : Settlement → Attributes
  | .keep => params
  | .set value => params.insert name value
  | .drop => params.erase name

/-- An integer of a number field becomes the nearest double; any other value stays. -/
def Field.widen (field : Field) (value : Json) : Settlement :=
  match field.kind, value with
  | .number, .int n => (Double.ofInt? n).elim .keep fun d => .set (.double d)
  | _, _ => .keep

/-- Judges one field by the parameters as they were given. -/
def Field.judge (field : Field) (params : Attributes) : Except Violation Settlement :=
  match supplied? params field.name with
  | none =>
    match field.default with
    | some default => .ok (.set default)
    | none => if field.required then .error (.missing field.name) else .ok .drop
  | some value =>
    if !field.kind.accepts value then
      .error (.mismatch field.name field.kind.advertised value.typeName)
    else
      match field.choices with
      | some choices =>
        if choices.any fun choice => choice.same value then .ok (field.widen value)
        else .error (.notAllowed field.name (choicesText choices) value.text)
      | none => .ok (field.widen value)

/-- One field after the other: the parameters settled so far, and the violations found. -/
def judgeFields (params : Attributes) :
    List Field → Attributes → Attributes × List Violation
  | [], settled => (settled, [])
  | field :: rest, settled =>
    match field.judge params with
    | .ok settlement => judgeFields params rest (settlement.apply field.name settled)
    | .error violation =>
      let (settled, violations) := judgeFields params rest settled
      (settled, violation :: violations)

/-- The normalised parameters, or everything that is wrong with them. -/
def validate (schema : Schema) (params : Attributes) : Except Violation Attributes :=
  let (settled, violations) := judgeFields params schema.fields params
  match Violation.ofList violations with
  | some violation => .error violation
  | none => .ok settled

/-- Parameters are an object; null stands for an empty one. -/
def parameters (value : Json) : Except Violation Attributes :=
  match value with
  | .null => .ok ∅
  | value =>
    match value.asObject? with
    | some table => .ok table
    | none => .error (.notAnObject value.typeName)

end Schema

end Dispatch
