import Dispatch.Number.Double
import Dispatch.Table

namespace Dispatch

/-- A value, with the entries of an object as they stand. -/
inductive Json where
  | null
  | bool (value : Bool)
  | int (value : Int)
  | double (value : Double)
  | string (value : String)
  | array (items : List Json)
  | object (entries : List (String × Json))

/-- The values shared by a call: its parameters, its context, its result's context. -/
abbrev Attributes := Table Json

namespace Json

instance : Inhabited Json := ⟨.null⟩

/-- Integers that fit into 64 bits, with or without a sign. -/
def intRange (n : Int) : Bool := -(Int.pow 2 63) ≤ n && n < Int.pow 2 64

mutual

/-- Names ascend in every object, and every integer fits into 64 bits. -/
def Canonical : Json → Prop
  | .int n => intRange n = true
  | .array items => CanonicalItems items
  | .object entries => Ascending entries ∧ CanonicalEntries entries
  | _ => True

/-- The same of every item. -/
def CanonicalItems : List Json → Prop
  | [] => True
  | item :: rest => item.Canonical ∧ CanonicalItems rest

/-- The same of every entry. -/
def CanonicalEntries : List (String × Json) → Prop
  | [] => True
  | (_, item) :: rest => item.Canonical ∧ CanonicalEntries rest

end

mutual

/-- How many arrays and objects lie inside one another, the value's own included. -/
def depth : Json → Nat
  | .array items => depthItems items + 1
  | .object entries => depthEntries entries + 1
  | _ => 0

/-- The depth of the deepest item. -/
def depthItems : List Json → Nat
  | [] => 0
  | item :: rest => max item.depth (depthItems rest)

/-- The depth of the deepest entry. -/
def depthEntries : List (String × Json) → Nat
  | [] => 0
  | (_, item) :: rest => max item.depth (depthEntries rest)

end

mutual

/-- Equality of values; doubles compare by value, and an integer never equals a double. -/
def same : Json → Json → Bool
  | .null, .null => true
  | .bool a, .bool b => a = b
  | .int a, .int b => a = b
  | .double a, .double b => a.same b
  | .string a, .string b => a = b
  | .array a, .array b => sameItems a b
  | .object a, .object b => sameEntries a b
  | _, _ => false

/-- The same number of items, equal one by one. -/
def sameItems : List Json → List Json → Bool
  | [], [] => true
  | a :: as, b :: bs => a.same b && sameItems as bs
  | _, _ => false

/-- The same names in the same order, with equal values. -/
def sameEntries : List (String × Json) → List (String × Json) → Bool
  | [], [] => true
  | (name, a) :: as, (name', b) :: bs => name = name' && a.same b && sameEntries as bs
  | _, _ => false

end

mutual

/-- No double occurs anywhere in the value. -/
def IntegersOnly : Json → Prop
  | .double _ => False
  | .array items => IntegersOnlyItems items
  | .object entries => IntegersOnlyEntries entries
  | _ => True

/-- No double occurs in any item. -/
def IntegersOnlyItems : List Json → Prop
  | [] => True
  | item :: rest => item.IntegersOnly ∧ IntegersOnlyItems rest

/-- No double occurs in any entry. -/
def IntegersOnlyEntries : List (String × Json) → Prop
  | [] => True
  | (_, item) :: rest => item.IntegersOnly ∧ IntegersOnlyEntries rest

end

/-- The object of a table. -/
def ofTable (table : Attributes) : Json := .object table.entries

/-- An object of these entries; the last entry of a name counts. -/
def obj (entries : List (String × Json)) : Json := ofTable (Table.ofList entries)

/-- A count as an integer. -/
def ofNat (n : Nat) : Json := .int n

/-- An array of texts. -/
def strings (texts : List String) : Json := .array (texts.map .string)

/-- Absence is null. -/
def ofOption {α : Type} (f : α → Json) : Option α → Json
  | none => .null
  | some value => f value

/-- A text, or null for want of one. -/
def ofString? : Option String → Json := ofOption .string

/-- The kind of the value in the words of a type mismatch. -/
def typeName : Json → String
  | .null => "null"
  | .bool _ => "boolean"
  | .int _ => "integer"
  | .double _ => "number"
  | .string _ => "string"
  | .array _ => "array"
  | .object _ => "object"

/-- Whether the value is null. -/
def isNull : Json → Bool
  | .null => true
  | _ => false

/-- The text, if the value is one. -/
def asString? : Json → Option String
  | .string value => some value
  | _ => none

/-- The truth value, if the value is one. -/
def asBool? : Json → Option Bool
  | .bool value => some value
  | _ => none

/-- Any number, an integer to the nearest double. -/
def asDouble? : Json → Option Double
  | .double value => some value
  | .int n => Double.ofInt? n
  | _ => none

/-- Integers of 64 bits with a sign. -/
def asInt? : Json → Option Int
  | .int n => if n < Int.pow 2 63 then some n else none
  | _ => none

/-- Integers from zero up. -/
def asNat? : Json → Option Nat
  | .int n => if 0 ≤ n then some n.toNat else none
  | _ => none

/-- The items, if the value is an array. -/
def asArray? : Json → Option (List Json)
  | .array items => some items
  | _ => none

/-- The entries as a table, if the value is an object; the last entry of a name counts. -/
def asObject? : Json → Option Attributes
  | .object entries => some (Table.ofList entries)
  | _ => none

/-- The value of a name in an object. -/
def get? (value : Json) (name : String) : Option Json :=
  match value with
  | .object entries => lookup? name entries
  | _ => none

end Json

/-- The entries of a table make the same table again. -/
theorem Table.ofList_entries {α : Type} (table : Table α) : Table.ofList table.entries = table := by
  refine Table.ext_get? fun name => ?_
  have found := Table.get?_foldl_insert table.ascending Table.empty name
  rwa [Table.get?_empty, Option.or_none] at found

/-- The object of a table has this table. -/
@[simp] theorem Json.asObject?_ofTable (table : Attributes) :
    (Json.ofTable table).asObject? = some table := by
  simp [Json.ofTable, Json.asObject?, Table.ofList_entries]

end Dispatch
