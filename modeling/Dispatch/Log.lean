import Dispatch.Json.Basic

namespace Dispatch

/-- How severe a record is, from the most severe on. -/
inductive Severity where
  | error
  | warn
  | info
  | debug
deriving DecidableEq, Inhabited

namespace Severity

/-- The severity as readers of logs write it. -/
def name : Severity → String
  | .error => "ERROR"
  | .warn => "WARN"
  | .info => "INFO"
  | .debug => "DEBUG"

/-- Low for what is severe. -/
def rank : Severity → Nat
  | .error => 0
  | .warn => 1
  | .info => 2
  | .debug => 3

/-- All severities there are. -/
def all : List Severity := [.error, .warn, .info, .debug]

/-- The severity of a name. -/
def ofName? (name : String) : Option Severity := all.find? fun severity => severity.name = name

end Severity

/-- A message, with what it is about in named fields. -/
structure LogRecord where
  severity : Severity
  message : String
  fields : List (String × Json)
deriving Inhabited

namespace LogRecord

/-- The fields, with severity and message among them. -/
def toJson (record : LogRecord) : Json :=
  .obj (record.fields ++ [("level", .string record.severity.name), ("message", .string record.message)])

/-- Whether a record is as severe as asked for, or more. -/
def isAtLeast (record : LogRecord) (severity : Severity) : Bool := record.severity.rank ≤ severity.rank

end LogRecord

end Dispatch
