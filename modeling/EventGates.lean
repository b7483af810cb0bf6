import EventGates.Contention
import EventGates.Demo.Relay
import EventGates.Demo.RemotePair
import EventGates.Script.Steps
import EventGates.Host
import EventGates.Remote.Endpoints
import EventGates.Remote.Url
import EventGates.Fabric.Basic
import EventGates.Table
import EventGates.Gate.Basic
import EventGates.Config
import EventGates.Gate.Error
import EventGates.Wire.Catalogue
import EventGates.Wire.ContentType
import EventGates.Wire.Envelope
import EventGates.Json.Skipper
import EventGates.Json.Reader
import EventGates.Json.Fault
import EventGates.Json.Printer
import EventGates.Json.Value
import EventGates.Json.Binary64.Shortest
import EventGates.Text.Blank
import EventGates.Text.Numeral
import EventGates.Text.Percent
import EventGates.Text.Quoted
import EventGates.Text.Span
import EventGates.Proofs.Dispatch.Accounting
import EventGates.Proofs.Dispatch.Chronicle
import EventGates.Proofs.Dispatch.Courses
import EventGates.Proofs.Dispatch.Custody
import EventGates.Proofs.Dispatch.Desk
import EventGates.Proofs.Dispatch.History
import EventGates.Proofs.Dispatch.Moves
import EventGates.Proofs.Dispatch.Order
import EventGates.Proofs.Dispatch.Projection
import EventGates.Proofs.Fabric.Gates
import EventGates.Proofs.Gate.Handshake
import EventGates.Proofs.Gate.Queue
import EventGates.Proofs.Host.Courses
import EventGates.Proofs.Links.Symmetry
import EventGates.Proofs.Links.Traffic
import EventGates.Proofs.Registry.Arrival
import EventGates.Proofs.Registry.Staging
import EventGates.Proofs.Script.Courses
import EventGates.Proofs.Script.Coverage
import EventGates.Proofs.Table.Keys
import EventGates.Proofs.Json.Numerals
import EventGates.Proofs.Json.Strings
import EventGates.Proofs.Json.ReadBack
import EventGates.Proofs.Wire.Names
import EventGates.Proofs.Event.Decoding
import EventGates.Proofs.Wire.RoundTrip
import EventGates.Proofs.Remote.Identity
import EventGates.Proofs.Dispatch.Duties
import EventGates.Proofs.Host.Service
import EventGates.Proofs.Host.Serving
import EventGates.Proofs.Links.Graph
import EventGates.Proofs.Links.Network
import EventGates.Proofs.Links.Refinement
import EventGates.Proofs.Dispatch.Calm
import EventGates.Proofs.Dispatch.Growth
import EventGates.Proofs.Dispatch.Outcries
import EventGates.Proofs.Dispatch.Panics
import EventGates.Proofs.Dispatch.Polling
import EventGates.Proofs.Dispatch.Interruption
import EventGates.Proofs.Dispatch.Locality
import EventGates.Proofs.Dispatch.Restart
import EventGates.Proofs.Fabric.Records
import EventGates.Proofs.Remote.Verdicts
import EventGates.Proofs.Remote.Posting
import EventGates.Proofs.Dispatch.Occasions
import EventGates.Proofs.Dispatch.Log
import EventGates.Proofs.Dispatch.Reports
import EventGates.Proofs.Dispatch.Conduct
import EventGates.Proofs.Dispatch.Schedules
import EventGates.Proofs.Dispatch.Commutation
import EventGates.Proofs.Fabric.Producers
import EventGates.Proofs.Remote.Withdrawal
import EventGates.Proofs.Wire.Distinction
import EventGates.Proofs.Host.Company
import EventGates.Proofs.Host.Shutdown
import EventGates.Proofs.Fabric.FanOut
import EventGates.Proofs.Dispatch.Registers
import EventGates.Proofs.Json.Grammar
import EventGates.Proofs.Json.NumeralTokens
import EventGates.Proofs.Json.Tokens
import EventGates.Proofs.Json.Lists
import EventGates.Proofs.Json.PassedTokens
import EventGates.Proofs.Json.Values
import EventGates.Proofs.Wire.Acceptance
import EventGates.Proofs.Text.Bytes
import EventGates.Proofs.Json.Nesting
import EventGates.Proofs.Event.Rebuilding
import EventGates.Proofs.Wire.Catalogue
import EventGates.Proofs.Wire.Forwarding
import EventGates.Proofs.Remote.Directory
import EventGates.Proofs.Remote.Paths
import EventGates.Proofs.Host.Creation
import EventGates.Proofs.Host.Stuck
import EventGates.Proofs.Links.Trails
import EventGates.Proofs.Links.Clearing
import EventGates.Proofs.Text.Blanks
import EventGates.Proofs.Text.Numerals
import EventGates.Proofs.Config.Overrides
import EventGates.Proofs.Host.Capacities
