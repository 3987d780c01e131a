import Dispatch.Json.Printer

namespace Dispatch

/-- A call that blocks and a call that yields reach different subscribers. -/
inductive Channel where
  | blocking
  | cooperative
deriving DecidableEq, Inhabited

/-- What is published: a name, and values that go with it. -/
structure Event where
  name : String
  data : Attributes
deriving Inhabited

namespace Event

/-- What a reader of logs sees. -/
def inspect (event : Event) : String :=
  "Event(name=" ++ event.name ++ ", data=" ++ (Json.ofTable event.data).text ++ ")"

/-- Published before an action is executed. -/
def beforeExecute (action : String) : String := "action.before_execute." ++ action

/-- Published after an action was executed. -/
def afterExecute (action : String) : String := "action.after_execute." ++ action

/-- Published for a call that could not be carried out. -/
def callError (action : String) : String := "action.error." ++ action

/-- Published before a refresh. -/
def beforeRefresh : String := "action_manager.before_refresh"

/-- Published after a refresh. -/
def afterRefresh : String := "action_manager.after_refresh"

/-- Published before a source is discovered on demand. -/
def beforeDiscover : String := "action_manager.before_discover"

/-- Published after a source was discovered on demand. -/
def afterDiscover : String := "action_manager.after_discover"

end Event

end Dispatch
