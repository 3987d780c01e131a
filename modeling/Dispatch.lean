import Dispatch.Proofs.Bus.Edits
import Dispatch.Proofs.Bus.Reachable
import Dispatch.Proofs.Call.Candour
import Dispatch.Proofs.Call.Course
import Dispatch.Proofs.Call.Escape
import Dispatch.Proofs.Call.Frame
import Dispatch.Proofs.Call.Passage
import Dispatch.Proofs.Call.Refreshing
import Dispatch.Proofs.Channels.Call
import Dispatch.Proofs.Channels.Processing
import Dispatch.Proofs.Channels.Refresh
import Dispatch.Proofs.Channels.Worlds
import Dispatch.Proofs.Files
import Dispatch.Proofs.Host
import Dispatch.Proofs.Identifier
import Dispatch.Proofs.Identifier.Grammar
import Dispatch.Proofs.Invocation.Life
import Dispatch.Proofs.Json.Shape
import Dispatch.Proofs.Manager.Availability
import Dispatch.Proofs.Manager.Context
import Dispatch.Proofs.Manager.Isolation
import Dispatch.Proofs.Manager.Middleware
import Dispatch.Proofs.Manager.Protocol
import Dispatch.Proofs.Manager.Sharing
import Dispatch.Proofs.Number.Double
import Dispatch.Proofs.Outcome
import Dispatch.Proofs.Outcome.Text
import Dispatch.Proofs.Outcome.Wire
import Dispatch.Proofs.Pipeline
import Dispatch.Proofs.Pipeline.Nesting
import Dispatch.Proofs.Pipeline.Observers
import Dispatch.Proofs.Registry.Directory
import Dispatch.Proofs.Registry.Latest
import Dispatch.Proofs.Registry.Rediscovery
import Dispatch.Proofs.Registry.Stranding
import Dispatch.Proofs.Registry.Views
import Dispatch.Proofs.Schema.Advertised
import Dispatch.Proofs.Schema.Declared
import Dispatch.Proofs.Schema.Validation
import Dispatch.Proofs.Schema.Written
import Dispatch.Proofs.Steps
import Dispatch.Session.Running
