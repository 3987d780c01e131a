import Dispatch.Action.Basic
import Dispatch.Json.Reader

namespace Dispatch

/-- Where a module is loaded from. -/
inductive Source where
  | path (location : String)
  | package (name : String)
deriving DecidableEq, Inhabited

namespace Source

/-- The source as people write it. -/
def text : Source → String
  | .path location => location
  | .package name => name

/-- What actions remember as their source; packages are not remembered. -/
def origin? : Source → Option String
  | .path location => some location
  | .package _ => none

end Source

/-- Why a module cannot be loaded. -/
inductive LoadFault where
  | packageNotFound (name : String)
  | pathNotFound (path : String)
  | unreadable (path reason : String)
  | invalidManifest (path : String) (error : TextError)

namespace LoadFault

/-- The code that callers branch on. -/
def code : LoadFault → String
  | .packageNotFound _ => "PACKAGE_NOT_FOUND"
  | .pathNotFound _ => "PATH_NOT_FOUND"
  | .unreadable .. => "IO_ERROR"
  | .invalidManifest .. => "INVALID_MANIFEST"

/-- What is wrong with the manifest at a path. -/
def manifestWords (path words : String) : String := "invalid manifest '" ++ path ++ "': " ++ words

/-- What went wrong while reading stands behind the fault. -/
def report : LoadFault → Report
  | .packageNotFound name => .plain ("package '" ++ name ++ "' not found")
  | .pathNotFound path => .plain ("path '" ++ path ++ "' does not exist")
  | .unreadable path reason => ⟨"failed to read '" ++ path ++ "': " ++ reason, [reason]⟩
  | .invalidManifest path error => ⟨manifestWords path error.message, [error.message]⟩

/-- The fault in its own words. -/
def message (fault : LoadFault) : String := fault.report.message

/-- The fault without the details of a manifest's text. -/
def summary : LoadFault → String
  | .invalidManifest path error => manifestWords path error.fault.summary
  | fault => fault.message

end LoadFault

/-- Why a candidate of a module is passed over. -/
inductive DiscoveryFault where
  | unknownHandler (action handler : String)
  | invalidCandidate (name reason : String)
  | rejected (rejection : Rejection)
  | notLoaded (fault : LoadFault)

namespace DiscoveryFault

/-- A fault that comes from elsewhere keeps its code. -/
def code : DiscoveryFault → String
  | .unknownHandler .. => "UNKNOWN_HANDLER"
  | .invalidCandidate .. => "INVALID_CANDIDATE"
  | .rejected rejection => rejection.code
  | .notLoaded fault => fault.code

/-- A fault that comes from elsewhere is reported as it is. -/
def report : DiscoveryFault → Report
  | .unknownHandler action handler =>
    .plain ("unknown handler '" ++ handler ++ "' for action '" ++ action ++ "'")
  | .invalidCandidate name reason => .plain ("invalid action candidate '" ++ name ++ "': " ++ reason)
  | .rejected rejection => rejection.report
  | .notLoaded fault => fault.report

/-- The fault in its own words. -/
def message (fault : DiscoveryFault) : String := fault.report.message

/-- The fault without the details of a manifest's text. -/
def summary : DiscoveryFault → String
  | .notLoaded fault => fault.summary
  | fault => fault.message

end DiscoveryFault

/-- A loaded module: its name and its candidates in order. -/
structure Module (κ : Type) where
  name : String
  candidates : List (Except DiscoveryFault (Action κ))

/-- A module of actions that need no further check to be candidates. -/
def Module.ofActions {κ : Type} (name : String) (actions : List (Action κ)) : Module κ :=
  ⟨name, actions.map .ok⟩

end Dispatch
