import Dispatch.Identifier
import Dispatch.Report
import Dispatch.Run
import Dispatch.Schema.Violation

namespace Dispatch

/-- A failure raised on the way to an action's output. -/
inductive Failure where
  | failed (text : String)
  | notReady
  | alreadyProcessed (name : String)
  | notImplemented (name : String)
  | missingDependency (name : String)
  | invalidInput (violation : Violation)
  | panicked (words : String)
  | other (report : Report)

namespace Failure

instance : Inhabited Failure := ⟨.notReady⟩

/-- The code that callers branch on; failures without a kind of their own share one. -/
def code : Failure → String
  | .failed _ => "EXECUTION_FAILED"
  | .notReady => "NOT_SET_UP"
  | .alreadyProcessed _ => "ALREADY_PROCESSED"
  | .notImplemented _ => "NOT_IMPLEMENTED"
  | .missingDependency _ => "MISSING_DEPENDENCY"
  | .invalidInput _ => "VALIDATION_ERROR"
  | .panicked _ => "PANICKED"
  | .other _ => "EXECUTION_FAILED"

/-- Who processed an action before its input was validated is told what to do. -/
def report : Failure → Report
  | .failed text => .plain text
  | .notReady => .plain "action input has not been validated, call setup() before process()"
  | .alreadyProcessed name => .plain ("action '" ++ name ++ "' has already been processed")
  | .notImplemented name => .plain ("action '" ++ name ++ "' does not implement an execution hook")
  | .missingDependency name => .plain ("missing dependency '" ++ name ++ "'")
  | .invalidInput violation => ⟨"invalid input: " ++ violation.message, [violation.message]⟩
  | .panicked words => .plain ("action panicked: " ++ words)
  | .other report => report

/-- The failure in its own words. -/
def message (failure : Failure) : String := failure.report.message

/-- A panic of user code counts as a failure with the panic's words. -/
def ofPanic (panic : Panic) : Failure := .panicked panic.words

end Failure

/-- A violation has nothing behind it. -/
def Violation.report (violation : Violation) : Report := .plain violation.message

/-- Why an action is refused. -/
inductive Rejection where
  | invalidName (name : String) (fault : Identifier.Fault)
  | invalidTarget (name target : String) (fault : Identifier.Fault)
  | missingHook (name : String)
deriving DecidableEq

namespace Rejection

/-- The code that callers branch on. -/
def code : Rejection → String
  | .invalidName .. => "INVALID_ACTION_NAME"
  | .invalidTarget .. => "INVALID_TARGET_SYSTEM"
  | .missingHook _ => "MISSING_EXECUTE_HOOK"

/-- A refused identifier stands behind its rejection. -/
def report : Rejection → Report
  | .invalidName name fault =>
    ⟨"invalid action name '" ++ name ++ "': " ++ fault.message, [fault.message]⟩
  | .invalidTarget name target fault =>
    ⟨"invalid target system '" ++ target ++ "' on action '" ++ name ++ "': " ++ fault.message,
      [fault.message]⟩
  | .missingHook name => .plain ("action '" ++ name ++ "' cannot be instantiated: no execution hook")

/-- The rejection in its own words. -/
def message (rejection : Rejection) : String := rejection.report.message

end Rejection

end Dispatch
