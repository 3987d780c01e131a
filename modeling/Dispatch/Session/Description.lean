import Dispatch.Action.Output
import Dispatch.Event
import Dispatch.Session.Reading

namespace Dispatch.Session

/-- An outcome as it travels. -/
def outcomeOf (json : Json) : Request Outcome := data (Outcome.ofWire json)

/-- Everything blocks unless it is asked not to. -/
def channelOf (json : Json) : Channel := if flagOf json "async" then .cooperative else .blocking

/-- Rules by their name or part by part. -/
def rulesOf (json : Json) : Request Identifier.Rules :=
  match json.get? "rules" with
  | some (.string "action_name") => .ok .action
  | some (.string "target_system") => .ok .targetSystem
  | some (.string "manager_name") => .ok .manager
  | some rules => do
    return { maxLength := ← natOf rules "max_length"
             allowDots := flagOf rules "allow_dots"
             allowColons := flagOf rules "allow_colons"
             refuseTraversal := flagOf rules "check_path_traversal"
             trims := flagOf rules "trim_whitespace" }
  | none => .error .unusable

/-- A field whose default says that it may be left out. -/
def fieldOf (json : Json) : Request Schema.Field := do
  let name ← textOf json "name"
  let kind ← data (Schema.Kind.ofJson (valueOf json "kind"))
  let required := flagOf json "required"
  let field : Schema.Field :=
    match json.get? "default" with
    | some default =>
      if required then { Schema.Field.needed name kind with default := some default }
      else .defaulted name kind default
    | none => { Schema.Field.needed name kind with required }
  let field := (text? json "description").elim field field.describe
  return ((json.get? "enum").bind Json.asArray?).elim field field.restrict

/-- A written schema, if there is one, and further fields. -/
def schemaOf (json : Json) : Request Schema := do
  let start ← (json.get? "schema").elim (.ok .empty) fun written => data (Schema.ofJson written)
  (listOf json "fields").foldlM (fun schema field => do return schema.declare (← fieldOf field)) start

/-- Reads a violation; violations may lie inside one another. -/
def violationWithin : Nat → Json → Request Violation
  | 0, _ => .error .unusable
  | depth + 1, json => do
    match ← textOf json "kind" with
    | "not_an_object" => return .notAnObject (← textOf json "found")
    | "missing_field" => return .missing (← textOf json "field")
    | "type_mismatch" =>
      return .mismatch (← textOf json "field") (← textOf json "expected") (← textOf json "found")
    | "not_allowed" =>
      return .notAllowed (← textOf json "field") (← textOf json "allowed") (← textOf json "found")
    | "custom" => return .custom (← textOf json "text")
    | "multiple" => return .several (← (listOf json "errors").mapM (violationWithin depth))
    | _ => throw .unusable

/-- A description holds no more violations inside one another than it has levels. -/
def violationOf (json : Json) : Request Violation := violationWithin (json.depth + 1) json

/-- A failure by its kind. -/
def failureOf (json : Json) : Request Failure := do
  match ← textOf json "kind" with
  | "msg" => return .failed (← textOf json "text")
  | "not_set_up" => return .notReady
  | "already_processed" => return .alreadyProcessed (← textOf json "name")
  | "not_implemented" => return .notImplemented (← textOf json "name")
  | "missing_dependency" => return .missingDependency (← textOf json "name")
  | "validation" => return .invalidInput (← violationOf (valueOf json "error"))
  | "panicked" => return .panicked (← textOf json "text")
  | "other" => return .other ⟨← textOf json "text", textsOf json "causes"⟩
  | _ => throw .unusable

/-- The first character of a text. -/
def characterOf (json : Json) (name : String) : Request Char := do
  needed (← textOf json name).toList.head?

/-- A fault of an identifier by its kind. -/
def identifierFaultOf (json : Json) : Request Identifier.Fault := do
  match ← textOf json "kind" with
  | "empty" => return .empty
  | "whitespace_only" => return .blank
  | "leading_trailing" => return .padded
  | "too_long" => return .tooLong (← natOf json "length") (← natOf json "max")
  | "invalid_char" => return .invalidCharacter (← characterOf json "char") (← textOf json "input")
  | "path_traversal" => return .traversal
  | _ => throw .unusable

/-- A rejection by its kind. -/
def rejectionOf (json : Json) : Request Rejection := do
  match ← textOf json "kind" with
  | "invalid_name" =>
    return .invalidName (← textOf json "name") (← identifierFaultOf (valueOf json "source"))
  | "invalid_target" =>
    return .invalidTarget (← textOf json "name") (← textOf json "target_system")
      (← identifierFaultOf (valueOf json "source"))
  | "missing_hook" => return .missingHook (← textOf json "name")
  | _ => throw .unusable

/-- A fault of loading by its kind. -/
def loadFaultOf (json : Json) : Request LoadFault := do
  match ← textOf json "kind" with
  | "package_not_found" => return .packageNotFound (← textOf json "name")
  | "path_not_found" => return .pathNotFound (← textOf json "path")
  | "io" => return .unreadable (← textOf json "path") (← textOf json "text")
  | _ => throw .unusable

/-- A fault of a candidate by its kind. -/
def discoveryFaultOf (json : Json) : Request DiscoveryFault := do
  match ← textOf json "kind" with
  | "unknown_handler" => return .unknownHandler (← textOf json "action") (← textOf json "handler")
  | "invalid_candidate" => return .invalidCandidate (← textOf json "name") (← textOf json "reason")
  | "registration" => return .rejected (← rejectionOf (valueOf json "error"))
  | "load" => return .notLoaded (← loadFaultOf (valueOf json "error"))
  | _ => throw .unusable

/-- A value under the name of its type. -/
def dependencyOf (json : Json) : Request Dependency := do
  match (← needed json.asObject?).entries with
  | [("string", .string value)] => return .string value
  | [("u32", .int value)] => if 0 ≤ value ∧ value < Int.pow 2 32 then return .word value.toNat else throw .unusable
  | [("i64", value)] => return .integer (← needed value.asInt?)
  | [("f64", value)] => return .double (← needed value.asDouble?)
  | [("bool", .bool value)] => return .bool value
  | [("json", value)] => return .json value
  | _ => throw .unusable

/-- Dependencies by their names. -/
def dependenciesOf (json : Json) (name : String) : Request Dependencies := do
  let entries ← (tableOf json name).entries.mapM fun entry => do
    return (entry.1, ← dependencyOf entry.2)
  return .ofList entries

/-- The value of a dependency of a type. -/
def typedValue? : String → Dependency → Option Json
  | "string", .string value => some (.string value)
  | "u32", .word value => some (.ofNat value)
  | "i64", .integer value => some (.int value)
  | "f64", .double value => some (.double value)
  | "bool", .bool value => some (.bool value)
  | "json", .json value => some value
  | _, _ => none

/-- A value as it is, and as a text if it is one. -/
def lookUp (values : Attributes) (key : String) : Json :=
  .obj [("any", (values.get? key).getD .null), ("str", .ofString? ((values.get? key).bind Json.asString?))]

/-- The values of some names. -/
def lookUps (values : Attributes) (keys : List String) : Json :=
  .obj (keys.map fun key => (key, lookUp values key))

/-- Parameters under their names and the types that they are asked for. -/
def gotten (values : Attributes) (wanted : List Json) : Attributes :=
  .ofList (wanted.filterMap fun pair =>
    match pair with
    | .array [.string type, .string key] =>
      let value := values.get? key
      let found : Json :=
        match type with
        | "any" => value.getD .null
        | "str" => .ofString? (value.bind Json.asString?)
        | "f64" => .ofOption .double (value.bind Json.asDouble?)
        | "i64" => .ofOption .int (value.bind Json.asInt?)
        | "bool" => .ofOption .bool (value.bind Json.asBool?)
        | _ => .null
      some (type ++ ":" ++ key, found)
    | _ => none)

/-- Data with its prompt, or a complete outcome. -/
def outputJson : Output → Json
  | .data values prompt => .obj [("data", .ofTable values), ("prompt", .ofString? prompt)]
  | .complete outcome => .obj [("complete", outcome.toWire)]

mutual

/-- The code of a violation, or the codes of several; these may again be several. -/
def codesJson : Violation → Json
  | .several violations => .array (codesItems violations)
  | violation => .string violation.code

/-- The codes of each violation. -/
def codesItems : List Violation → List Json
  | [] => []
  | violation :: rest => codesJson violation :: codesItems rest

end

/-- Settings with what a description adds to them. -/
def settingsWith (settings : Settings) (json : Json) : Settings :=
  let settings := settings.addSearchPaths (textsOf json "search_path" ++ textsOf json "search_paths")
  let settings := ((json.get? "auto_refresh").bind Json.asBool?).elim settings fun autoRefresh =>
    { settings with autoRefresh }
  let settings := ((json.get? "refresh_interval_ms").bind Json.asNat?).elim settings fun millis =>
    { settings with refreshInterval := .ofMillis millis }
  let settings := ((json.get? "scope_fallback").bind Json.asBool?).elim settings fun scopeFallback =>
    { settings with scopeFallback }
  let settings := (tableOf json "context").entries.foldl (fun settings entry =>
    settings.setContext entry.1 entry.2) settings
  (tableOf json "dependencies").entries.foldl (fun settings entry =>
    settings.inject entry.1 (entry.2.asString?.elim (.json entry.2) .string)) settings

end Dispatch.Session
