import Dispatch.Session.Answer

namespace Dispatch.Session

/-- A part of a request, or the answer to its absence. -/
abbrev Request := Except Answer

/-- What is missing is answered like this. -/
def orElse {α : Type} (answer : Answer) : Option α → Request α
  | some value => .ok value
  | none => .error answer

/-- What has to be there. -/
def needed {α : Type} : Option α → Request α := orElse .unusable

/-- A text, if it is there. -/
def text? (json : Json) (name : String) : Option String := (json.get? name).bind Json.asString?

/-- A text that has to be there. -/
def textOf (json : Json) (name : String) : Request String := needed (text? json name)

/-- A flag is down unless it is up. -/
def flagOf (json : Json) (name : String) : Bool := ((json.get? name).bind Json.asBool?).getD false

/-- A list is empty unless it is there. -/
def listOf (json : Json) (name : String) : List Json := ((json.get? name).bind Json.asArray?).getD []

/-- The texts of a list; other items are passed over. -/
def textsOf (json : Json) (name : String) : List String := (listOf json name).filterMap Json.asString?

/-- A table is empty unless it is there. -/
def tableOf (json : Json) (name : String) : Attributes := ((json.get? name).bind Json.asObject?).getD ∅

/-- A count that has to be there. -/
def natOf (json : Json) (name : String) : Request Nat := needed ((json.get? name).bind Json.asNat?)

/-- A value is null unless it is there. -/
def valueOf (json : Json) (name : String) : Json := (json.get? name).getD .null

/-- Data that does not fit is answered as such. -/
def data {α : Type} : Except String α → Request α
  | .ok value => .ok value
  | .error message => .error (.ofData message)

end Dispatch.Session
