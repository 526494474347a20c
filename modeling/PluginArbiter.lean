import PluginArbiter.Text.Blank
import PluginArbiter.Text.AsciiCase
import PluginArbiter.Document.Basic
import PluginArbiter.Plugin.Mime
import PluginArbiter.Plugin.Descriptor
import PluginArbiter.Url.Encoding
import PluginArbiter.Url.Punycode
import PluginArbiter.Url.Basic
import PluginArbiter.Policy
import PluginArbiter.Availability
import PluginArbiter.CrashHistory
import PluginArbiter.Guests
import PluginArbiter.Handlers
import PluginArbiter.Config.Location
import PluginArbiter.LogLevel
import PluginArbiter.Token
import PluginArbiter.Bootstrap
import PluginArbiter.Dispatch.Run
import PluginArbiter.Proofs.Dispatch.Matching
import PluginArbiter.Proofs.Dispatch.Moves
import PluginArbiter.Proofs.Dispatch.Course
import PluginArbiter.Proofs.Dispatch.Conservation
import PluginArbiter.Proofs.Dispatch.TokenReuse
import PluginArbiter.Proofs.Catalog.Line
import PluginArbiter.Proofs.Dispatch.Rest
import PluginArbiter.Proofs.Policy.Specification
import PluginArbiter.Proofs.Dispatch.Settling
import PluginArbiter.Engine.Run
import PluginArbiter.Proofs.CrashHistory.Retention
import PluginArbiter.Proofs.Dispatch.Genuine
import PluginArbiter.Proofs.Engine.Frame
import PluginArbiter.Proofs.Engine.Journal
import PluginArbiter.Proofs.Engine.Delivery
import PluginArbiter.Catalog.Kept
import PluginArbiter.Proofs.Catalog.Kept
import PluginArbiter.Proofs.Dispatch.Callers
import PluginArbiter.Proofs.Dispatch.Outline
import PluginArbiter.Proofs.Dispatch.Rejection
import PluginArbiter.Proofs.Policy.Selection
import PluginArbiter.Proofs.Dispatch.Shutdown
import PluginArbiter.Proofs.Dispatch.Receiver
import PluginArbiter.Proofs.Dispatch.Rounds
import PluginArbiter.Dispatch.Command
import PluginArbiter.Proofs.Dispatch.Backing
import PluginArbiter.Proofs.Dispatch.Independence
import PluginArbiter.Proofs.Dispatch.Turns
import PluginArbiter.Proofs.Policy.Restriction
import PluginArbiter.Proofs.Config.Soundness
import PluginArbiter.Proofs.Engine.WellFormed
import PluginArbiter.Proofs.Document.Variation
import PluginArbiter.Proofs.Document.Portrayal
import PluginArbiter.Proofs.Document.Reading
import PluginArbiter.Proofs.Yaml.Cursor
import PluginArbiter.Proofs.Yaml.Plain
import PluginArbiter.Proofs.Yaml.Quoted
import PluginArbiter.Proofs.Yaml.BlockText
import PluginArbiter.Proofs.Yaml.Scalar
import PluginArbiter.Proofs.Yaml.Node
import PluginArbiter.Proofs.Yaml.Written
import PluginArbiter.Proofs.Yaml.Layout
import PluginArbiter.Proofs.Yaml.RoundTrip
import PluginArbiter.Proofs.Config.RoundTrip
import PluginArbiter.Inquiry
import PluginArbiter.Proofs.CrashHistory.Reordering
import PluginArbiter.Proofs.Url.Extension
import PluginArbiter.Proofs.Candidates.Reference
import PluginArbiter.Proofs.Catalog.Transparency
import PluginArbiter.Proofs.Engine.Caching
import PluginArbiter.Proofs.Policy.Installation
import PluginArbiter.Proofs.Engine.Influence
import PluginArbiter.Proofs.Dispatch.Outcome
import PluginArbiter.Proofs.Dispatch.Frames
import PluginArbiter.Proofs.Url.Address
import PluginArbiter.Proofs.Url.HostText
import PluginArbiter.Proofs.Availability.Blocking
import PluginArbiter.Proofs.Plugin.Patterns
import PluginArbiter.Proofs.Handlers.Lookup
import PluginArbiter.Proofs.Config.FirstDefect
import PluginArbiter.Proofs.Engine.Equipment
import PluginArbiter.Proofs.CrashHistory.Representation
