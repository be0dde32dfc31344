import Gateway.Application
import Gateway.Channel.Connection
import Gateway.Channel.Frame
import Gateway.Channel.Pair
import Gateway.Channels
import Gateway.Channels.Close
import Gateway.Channels.Pairing
import Gateway.Config
import Gateway.Config.Address
import Gateway.Counters
import Gateway.Decimal.Shortest
import Gateway.Digest.Sha256
import Gateway.Directory
import Gateway.Dispatch
import Gateway.Handler
import Gateway.Handler.Pipeline
import Gateway.Handler.Pool
import Gateway.Hub
import Gateway.Hub.Caller
import Gateway.Hub.Sessions
import Gateway.Hub.Sockets
import Gateway.Identity
import Gateway.Json.Access
import Gateway.Json.Basic
import Gateway.Json.Number
import Gateway.Json.Printer
import Gateway.Json.Record
import Gateway.Json.Token
import Gateway.Json.Tree
import Gateway.Key
import Gateway.Lobby
import Gateway.Message.Body
import Gateway.Message.Codec
import Gateway.Message.Descriptor
import Gateway.Message.Envelope
import Gateway.Message.Response
import Gateway.Pad.Exchange
import Gateway.Pad.Service
import Gateway.Pad.Store
import Gateway.Pad.Transform
import Gateway.Proofs.Channels.Cascade
import Gateway.Proofs.Channels.Closing
import Gateway.Proofs.Channels.Custody
import Gateway.Proofs.Channels.Fixture
import Gateway.Proofs.Channels.Internal
import Gateway.Proofs.Channels.Liveness
import Gateway.Proofs.Channels.Move
import Gateway.Proofs.Channels.Queue
import Gateway.Proofs.Channels.Seating
import Gateway.Proofs.Channels.Twin
import Gateway.Proofs.Directory
import Gateway.Proofs.Directory.Arrival
import Gateway.Proofs.Directory.Departure
import Gateway.Proofs.Directory.Lease
import Gateway.Proofs.Directory.Reception
import Gateway.Proofs.Directory.Tenancy
import Gateway.Proofs.Directory.Visits
import Gateway.Proofs.Dispatch
import Gateway.Proofs.Dispatch.Account
import Gateway.Proofs.Dispatch.Discretion
import Gateway.Proofs.Hub.Call
import Gateway.Proofs.Hub.Confidentiality
import Gateway.Proofs.Hub.Correspondence
import Gateway.Proofs.Hub.Custody
import Gateway.Proofs.Hub.Delivery
import Gateway.Proofs.Hub.Descriptions
import Gateway.Proofs.Hub.Desks
import Gateway.Proofs.Hub.Identities
import Gateway.Proofs.Hub.Impersonation
import Gateway.Proofs.Hub.Lifetime
import Gateway.Proofs.Hub.Masking
import Gateway.Proofs.Hub.Release
import Gateway.Proofs.Hub.Run
import Gateway.Proofs.Hub.Tenancy
import Gateway.Proofs.Hub.Traces
import Gateway.Proofs.Hub.Transparency
import Gateway.Proofs.Hub.Visits
import Gateway.Proofs.Hub.Web
import Gateway.Proofs.Json.Form
import Gateway.Proofs.Json.Grammar
import Gateway.Proofs.Json.Reading
import Gateway.Proofs.Message.Answer
import Gateway.Proofs.Message.Normal
import Gateway.Proofs.Message.Template
import Gateway.Proofs.Message.Verdict
import Gateway.Proofs.Pad
import Gateway.Proofs.Pad.Activation
import Gateway.Proofs.Pad.Agreement
import Gateway.Proofs.Pad.Exchange
import Gateway.Proofs.Pad.Issuing
import Gateway.Proofs.Pad.Request
import Gateway.Proofs.Registry
import Gateway.Proofs.Registry.Lapse
import Gateway.Proofs.Registry.Notices
import Gateway.Proofs.Registry.Run
import Gateway.Proofs.Registry.TimedMap
import Gateway.Proofs.Server.Dialogue
import Gateway.Proofs.Server.Endings
import Gateway.Proofs.Server.Ledger
import Gateway.Proofs.Server.Replies
import Gateway.Registry
import Gateway.Registry.Sweeper
import Gateway.Server
import Gateway.Server.Client
import Gateway.Server.Session
import Gateway.Server.Settle
import Gateway.Table
import Gateway.Text.Base64
import Gateway.Text.Blank
import Gateway.Text.Hex
import Gateway.Text.Utf8
