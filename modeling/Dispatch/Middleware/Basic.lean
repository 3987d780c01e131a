import Dispatch.Duration

namespace Dispatch

/-- A link that logs, a link that takes the time, or user code in `κ`. -/
inductive Middleware (κ : Type) where
  | logging
  | performance (threshold : Duration)
  | custom (code : κ)
deriving Inhabited

/-- Links, the outermost first. -/
abbrev Pipeline (κ : Type) := List (Middleware κ)

namespace Middleware

/-- What the time is taken against if nothing else is asked for. -/
def defaultThreshold : Duration := .ofSeconds 1

/-- The name of a link that bears none of its own. -/
def anonymous : String := "middleware"

/-- Under this name the time taken stands in an outcome's context. -/
def performanceKey : String := "performance"

/-- Under this name the seconds stand in the entry of the time taken. -/
def timeKey : String := "execution_time"

end Middleware

end Dispatch
