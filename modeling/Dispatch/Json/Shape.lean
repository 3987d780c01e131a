import Dispatch.Json.Reader
import Dispatch.Json.Printer

namespace Dispatch

namespace Json

/-- When a member may be left out: never, in an object, or in an array too. -/
inductive Presence where
  | required
  | nullable
  | optional
deriving DecidableEq

mutual

/-- What a reader accepts. -/
inductive Shape where
  | any
  | bool
  | string
  | double
  | word
  | attributes
  | choice (names : List String)
  | orNull (shape : Shape)
  | list (shape : Shape)
  | record (name : String) (members : Members)

/-- The members of a record, in order. -/
inductive Members where
  | none
  | member (name : String) (presence : Presence) (shape : Shape) (rest : Members)

end

mutual

/-- The data of a value of this shape. -/
@[reducible] def Shape.Carrier : Shape → Type
  | .any => Json
  | .bool => Bool
  | .string => String
  | .double => Double
  | .word => Nat
  | .attributes => Attributes
  | .choice _ => String
  | .orNull shape => Option shape.Carrier
  | .list shape => List shape.Carrier
  | .record _ members => members.Carrier

/-- A member that may be left out is an option. -/
@[reducible] def Members.Carrier : Members → Type
  | .none => Unit
  | .member _ .required shape rest => shape.Carrier × rest.Carrier
  | .member _ _ shape rest => Option shape.Carrier × rest.Carrier

end

/-- The members of a record while it is read: each is there or not yet. -/
@[reducible] def Members.Slots : Members → Type
  | .none => Unit
  | .member _ _ shape rest => Option shape.Carrier × rest.Slots

/-- No member has come yet. -/
def Members.blank : (members : Members) → members.Slots
  | .none => ()
  | .member _ _ _ rest => (Option.none, rest.blank)

/-- How many members there are. -/
def Members.count : Members → Nat
  | .none => 0
  | .member _ _ _ rest => rest.count + 1

/-- What was found, in the words of a type error. -/
def foundText : Json → String
  | .null => "null"
  | .bool true => "boolean `true`"
  | .bool false => "boolean `false`"
  | .int n => "integer `" ++ String.ofList (printInt n) ++ "`"
  | .double d => "floating point `" ++ d.text doubleLayout ++ "`"
  | .string s => "string " ++ Text.quoted s
  | .array _ => "sequence"
  | .object _ => "map"

/-- The complaint about a value of another type. -/
def invalidType (value : Json) (expected : String) : String :=
  "invalid type: " ++ foundText value ++ ", expected " ++ expected

/-- The complaint about a value of the right type. -/
def invalidValue (found expected : String) : String :=
  "invalid value: " ++ found ++ ", expected " ++ expected

/-- The complaint about a member that never came. -/
def missingField (name : String) : String := "missing field `" ++ name ++ "`"

/-- The complaint about a member that came twice. -/
def duplicateField (name : String) : String := "duplicate field `" ++ name ++ "`"

/-- The complaint about a name that is none of the choices. -/
def unknownVariant (name : String) (names : List String) : String :=
  "unknown variant `" ++ name ++ "`, expected one of " ++
    ", ".intercalate (names.map fun name => "`" ++ name ++ "`")

/-- The record and its size, for an array of the wrong length. -/
def sizedRecord (name : String) (count : Nat) : String :=
  "struct " ++ name ++ " with " ++ Nat.repr count ++ if count = 1 then " element" else " elements"

/-- The complaint about an array with too few or too many items. -/
def invalidLength (found : Nat) (expected : String) : String :=
  "invalid length " ++ Nat.repr found ++ ", expected " ++ expected

/-- What a shape expects, in the words of a type error. -/
def Shape.expected : Shape → String
  | .any => "any valid JSON value"
  | .bool => "a boolean"
  | .string => "a string"
  | .double => "f64"
  | .word => "u32"
  | .attributes => "a map"
  | .choice _ => "string or map"
  | .orNull shape => shape.expected
  | .list _ => "a sequence"
  | .record name _ => "struct " ++ name

/-- A choice is given by its name, alone or as the only name of an object whose value is null. -/
def readChoice (names : List String) : Json → Except String String
  | .string name => if name ∈ names then .ok name else .error (unknownVariant name names)
  | .object [(name, value)] =>
    if name ∈ names then
      if value.isNull then .ok name else .error (invalidType value "unit")
    else .error (unknownVariant name names)
  | .object _ => .error (invalidValue "map" "map with a single key")
  | value => .error (invalidType value "string or map")

/-- A whole number of 32 bits. -/
def readWord32 (value : Json) : Except String Nat :=
  match value with
  | .int n =>
    if 0 ≤ n ∧ n < Int.pow 2 32 then .ok n.toNat else .error (invalidValue (foundText value) "u32")
  | _ => .error (invalidType value "u32")

/-- Members that never came are left out, or missed. -/
def Members.complete : (members : Members) → members.Slots → Except String members.Carrier
  | .none, () => .ok ()
  | .member name .required _ rest, (slot, slots) =>
    match slot with
    | some value => do return (value, ← rest.complete slots)
    | Option.none => .error (missingField name)
  | .member _ .nullable _ rest, (slot, slots) => do return (slot, ← rest.complete slots)
  | .member _ .optional _ rest, (slot, slots) => do return (slot, ← rest.complete slots)

/-- Whether a member of this name is there already. -/
def Members.filled : (members : Members) → members.Slots → String → Bool
  | .none, (), _ => false
  | .member name _ _ rest, (slot, slots), key => if key = name then slot.isSome else rest.filled slots key

/-- Whether a record has a member of this name. -/
def Members.knows : Members → String → Bool
  | .none, _ => false
  | .member name _ _ rest, key => key = name || rest.knows key

/-- The members that an array ran out of; one that must be there is reported with its place. -/
def Members.absent (record : String) (total place : Nat) :
    (members : Members) → Except String members.Carrier
  | .none => .ok ()
  | .member _ .required _ _ => .error (invalidLength place (sizedRecord record total))
  | .member _ .nullable _ _ => .error (invalidLength place (sizedRecord record total))
  | .member _ .optional _ rest => do return (Option.none, ← rest.absent record total (place + 1))

mutual

/-- Reads data of a shape from a value; the error says what does not fit. -/
def Shape.ofJson : (shape : Shape) → Json → Except String shape.Carrier
  | .any, value => .ok value
  | .bool, value =>
    match value.asBool? with
    | some b => .ok b
    | Option.none => .error (invalidType value "a boolean")
  | .string, value =>
    match value.asString? with
    | some s => .ok s
    | Option.none => .error (invalidType value "a string")
  | .double, value =>
    match value.asDouble? with
    | some d => .ok d
    | Option.none => .error (invalidType value "f64")
  | .word, value => readWord32 value
  | .attributes, value =>
    match value.asObject? with
    | some table => .ok table
    | Option.none => .error (invalidType value "a map")
  | .choice names, value => readChoice names value
  | .orNull shape, value =>
    if value.isNull then .ok Option.none else do return some (← shape.ofJson value)
  | .list shape, value =>
    match value.asArray? with
    | some items => items.mapM shape.ofJson
    | Option.none => .error (invalidType value "a sequence")
  | .record name members, value =>
    match value with
    | .object entries => do
      members.complete (← entries.foldlM (fun slots entry => members.put slots entry.1 entry.2) members.blank)
    | .array items => do
      let (data, rest) ← members.ofItems name members.count 0 items
      if rest.isEmpty then return data
      else throw (invalidLength items.length "fewer elements in array")
    | value => .error (invalidType value ("struct " ++ name))

/-- Reads one entry of an object into its slot. -/
def Members.put : (members : Members) → members.Slots → String → Json → Except String members.Slots
  | .none, (), _, _ => .ok ()
  | .member name _ shape rest, (slot, slots), key, value =>
    if key = name then do return (some (← shape.ofJson value), slots)
    else do return (slot, ← rest.put slots key value)

/-- Reads the members from the items of an array, and gives back the items left over. -/
def Members.ofItems (record : String) (total place : Nat) :
    (members : Members) → List Json → Except String (members.Carrier × List Json)
  | .none, items => .ok ((), items)
  | .member name presence shape rest, [] => do
    return (← (Members.member name presence shape rest).absent record total place, [])
  | .member _ .required shape rest, item :: items => do
    let value ← shape.ofJson item
    let (data, items) ← rest.ofItems record total (place + 1) items
    return ((value, data), items)
  | .member _ .nullable shape rest, item :: items => do
    let value ← shape.ofJson item
    let (data, items) ← rest.ofItems record total (place + 1) items
    return ((some value, data), items)
  | .member _ .optional shape rest, item :: items => do
    let value ← shape.ofJson item
    let (data, items) ← rest.ofItems record total (place + 1) items
    return ((some value, data), items)

end

/-- Data that does not fit, in the text in front of these characters. -/
def dataBefore {α : Type} (message : String) (cs : List Char) : Reading α := failBefore (.data message) cs

/-- Data from the text in front of these characters, if it fits. -/
def fitted {α : Type} (cs : List Char) : Except String α → Reading α
  | .ok value => .ok value
  | .error message => dataBefore message cs

/-- A value that opens a bracket where none is expected is refused before it is read. -/
def refuseOpen (expected : String) (cs : List Char) : Reading Unit :=
  match skipSpace cs with
  | '[' :: rest => dataBefore (invalidType (.array []) expected) ('[' :: rest)
  | '\x7b' :: rest => dataBefore (invalidType (.object []) expected) ('\x7b' :: rest)
  | _ => .ok ()

/-- A scalar in text; anything that opens a bracket does not fit. -/
def readScalar (shape : Shape) (cs : List Char) : Reading (Taken shape.Carrier) := do
  refuseOpen shape.expected cs
  let (value, rest) ← read 0 cs
  return (← fitted rest (shape.ofJson value), rest)

/-- A value that cannot be what is expected; it is read all the same, and may be malformed. -/
def refuse {α : Type} (expected : String) (cs : List Char) : Reading α := do
  refuseOpen expected cs
  let (value, rest) ← read 0 cs
  dataBefore (invalidType value expected) rest

/-- The next item of an array, if there is one: what follows the separator. -/
def nextItem (started : Bool) (cs : List Char) : Reading (Option (List Char)) := do
  let (c, rest) ← nextChar .list cs
  if c = ']' then return none
  else if !started then return some (c :: rest)
  else if c = ',' then return some (← Care.full.itemAfterComma rest)
  else failAt (.malformed .expectedListEnd) (c :: rest)

/-- The end of an array whose members are all read. -/
def readClose (cs : List Char) : Reading (List Char) := do
  let (c, rest) ← nextChar .list cs
  if c = ']' then return rest
  else if c = ',' then
    match skipSpace rest with
    | ']' :: more => failAt (.malformed .trailingComma) (']' :: more)
    | more => failAt (.malformed .trailingCharacters) more
  else failAt (.malformed .trailingCharacters) (c :: rest)

/-- Behind the bracket that closes here, if one does: a record that does not fit is left before it is refused. -/
def leave (bracket : Char) (cs : List Char) : List Char :=
  match skipSpace cs with
  | [] => []
  | c :: rest => if c = bracket then rest else c :: rest

/-- The items of an array, each read in the same way. -/
def listLoop {α : Type} (item : List Char → Reading (Taken α)) (fuel : Nat) (started : Bool)
    (cs : List Char) : Reading (Taken (List α)) :=
  match fuel with
  | 0 => endsEarly .list
  | fuel + 1 => do
    match ← nextItem started cs with
    | none => return ([], leave ']' cs)
    | some rest =>
      let (value, rest) ← item rest
      let (values, rest) ← listLoop item fuel true rest
      return (value :: values, rest)

/-- The entries of an object, each handled by name. -/
def entryLoop {σ : Type} (entry : σ → String → List Char → Reading (Taken σ)) (fuel : Nat)
    (started : Bool) (state : σ) (cs : List Char) : Reading (Taken σ) :=
  match fuel with
  | 0 => endsEarly .object
  | fuel + 1 => do
    let (c, rest) ← nextChar .object cs
    if c = '\x7d' then return (state, rest)
    else do
      let rest ←
        if !started then openName c rest
        else if c = ',' then Care.full.nameAfterComma rest
        else failAt (.malformed .expectedObjectEnd) (c :: rest)
      let (name, rest) ← readString rest
      let (state, rest) ← entry state name rest
      entryLoop entry fuel true state rest

mutual

/-- Reads data of a shape from text that may nest this deep. -/
def Shape.read : (shape : Shape) → (depth : Nat) → List Char → Reading (Taken shape.Carrier)
  | .any, depth, cs => Json.read depth cs
  | .bool, _, cs => readScalar .bool cs
  | .string, _, cs => readScalar .string cs
  | .double, _, cs => readScalar .double cs
  | .word, _, cs => readScalar .word cs
  | .choice names, _, cs => readScalar (.choice names) cs
  | .attributes, depth, cs => do
    match skipSpace cs with
    | '\x7b' :: rest =>
      let (value, rest) ← Json.read depth ('\x7b' :: rest)
      return (← fitted rest (Shape.attributes.ofJson value), rest)
    | cs => refuse "a map" cs
  | .orNull shape, depth, cs => do
    match skipSpace cs with
    | 'n' :: rest => return (none, ← readWord ['u', 'l', 'l'] rest)
    | _ =>
      let (value, rest) ← shape.read depth cs
      return (some value, rest)
  | .list shape, depth, cs =>
    match skipSpace cs with
    | '[' :: rest =>
      match depth with
      | 0 => failAt (.malformed .tooDeep) ('[' :: rest)
      | depth + 1 => listLoop (fun cs => shape.read depth cs) (rest.length + 1) false rest
    | cs => refuse "a sequence" cs
  | .record name members, depth, cs => do
    match skipSpace cs with
    | '[' :: rest =>
      match depth with
      | 0 => failAt (.malformed .tooDeep) ('[' :: rest)
      | depth + 1 => do
        let (data, rest) ← members.readItems name members.count 0 depth rest
        return (data, ← readClose rest)
    | '\x7b' :: rest =>
      match depth with
      | 0 => failAt (.malformed .tooDeep) ('\x7b' :: rest)
      | depth + 1 => do
        let (slots, rest) ←
          entryLoop (fun slots key cs => members.readEntry slots key depth cs) (rest.length + 1) false
            members.blank rest
        return (← fitted rest (members.complete slots), rest)
    | cs => refuse ("struct " ++ name) cs

/-- Reads one entry of an object after its name; a member given twice is refused before its value. -/
def Members.readEntry : (members : Members) → members.Slots → String → (depth : Nat) → List Char →
    Reading (Taken members.Slots)
  | .none, (), _, _, cs => do return ((), ← skip (← readColon cs))
  | .member name _ shape rest, (slot, slots), key, depth, cs =>
    if key = name then
      if slot.isSome then dataBefore (duplicateField name) (leave '\x7d' cs)
      else do
        let (value, cs) ← shape.read depth (← readColon cs)
        return ((some value, slots), cs)
    else do
      let (slots, cs) ← rest.readEntry slots key depth cs
      return ((slot, slots), cs)

/-- Reads the members from the items of an array in text. -/
def Members.readItems (record : String) (total place : Nat) :
    (members : Members) → (depth : Nat) → List Char → Reading (Taken members.Carrier)
  | .none, _, cs => .ok ((), cs)
  | .member name .required shape rest, depth, cs => do
    match ← nextItem (0 < place) cs with
    | none =>
      let absent := (Members.member name .required shape rest).absent record total place
      return (← fitted (leave ']' cs) absent, cs)
    | some cs =>
      let (value, cs) ← shape.read depth cs
      let (data, cs) ← rest.readItems record total (place + 1) depth cs
      return ((value, data), cs)
  | .member name .nullable shape rest, depth, cs => do
    match ← nextItem (0 < place) cs with
    | none =>
      let absent := (Members.member name .nullable shape rest).absent record total place
      return (← fitted (leave ']' cs) absent, cs)
    | some cs =>
      let (value, cs) ← shape.read depth cs
      let (data, cs) ← rest.readItems record total (place + 1) depth cs
      return ((some value, data), cs)
  | .member name .optional shape rest, depth, cs => do
    match ← nextItem (0 < place) cs with
    | none =>
      let absent := (Members.member name .optional shape rest).absent record total place
      return (← fitted (leave ']' cs) absent, cs)
    | some cs =>
      let (value, cs) ← shape.read depth cs
      let (data, cs) ← rest.readItems record total (place + 1) depth cs
      return ((some value, data), cs)

end

/-- Reads data of a shape from a whole text. -/
def Shape.parse (shape : Shape) (s : String) : Except TextError shape.Carrier :=
  finish s.toList (shape.read maxDepth s.toList)

end Json

end Dispatch
