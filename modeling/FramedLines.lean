import FramedLines.Bytes
import FramedLines.Bytes.Lemmas
import FramedLines.Cbor
import FramedLines.Cbor.Item
import FramedLines.Cbor.Item.Reader
import FramedLines.Cbor.Item.Writer
import FramedLines.Connection
import FramedLines.Description
import FramedLines.Dialogue
import FramedLines.Dialogue.Calls
import FramedLines.Duplex
import FramedLines.Duration
import FramedLines.Endpoint
import FramedLines.Errno
import FramedLines.Fault
import FramedLines.Host
import FramedLines.Host.Files
import FramedLines.Host.Inet
import FramedLines.Host.Inet.Reader
import FramedLines.Host.Path
import FramedLines.Hub
import FramedLines.IoError
import FramedLines.Json
import FramedLines.Json.Parser
import FramedLines.Json.Printer
import FramedLines.Json.Token
import FramedLines.Line
import FramedLines.Line.Sending
import FramedLines.Link
import FramedLines.Manager
import FramedLines.Message
import FramedLines.Message.Exchange
import FramedLines.Message.Typed
import FramedLines.Message.Wire
import FramedLines.Net
import FramedLines.Options
import FramedLines.Options.Json
import FramedLines.Pipe
import FramedLines.Poller
import FramedLines.Postcard
import FramedLines.Postcard.Codec
import FramedLines.Postcard.Varint
import FramedLines.Proofs.Abandonment
import FramedLines.Proofs.Acceptance
import FramedLines.Proofs.Agreement
import FramedLines.Proofs.Appending
import FramedLines.Proofs.Backlog
import FramedLines.Proofs.Bookkeeping
import FramedLines.Proofs.Boundary
import FramedLines.Proofs.Calls
import FramedLines.Proofs.Carriage
import FramedLines.Proofs.Cbor
import FramedLines.Proofs.Clearing
import FramedLines.Proofs.Closing
import FramedLines.Proofs.Codec
import FramedLines.Proofs.Conduct
import FramedLines.Proofs.Configurations
import FramedLines.Proofs.Conservation
import FramedLines.Proofs.Course
import FramedLines.Proofs.Crossing
import FramedLines.Proofs.Cutting
import FramedLines.Proofs.Decoding
import FramedLines.Proofs.Dials
import FramedLines.Proofs.Dictionary
import FramedLines.Proofs.Dispatch
import FramedLines.Proofs.Duplex
import FramedLines.Proofs.Endpoints
import FramedLines.Proofs.Files
import FramedLines.Proofs.Floats
import FramedLines.Proofs.Forms
import FramedLines.Proofs.Growth
import FramedLines.Proofs.Halves
import FramedLines.Proofs.HangUps
import FramedLines.Proofs.History
import FramedLines.Proofs.Hosts
import FramedLines.Proofs.Items
import FramedLines.Proofs.Keeping
import FramedLines.Proofs.Layout
import FramedLines.Proofs.Leaving
import FramedLines.Proofs.Likeness
import FramedLines.Proofs.Lines
import FramedLines.Proofs.Listening
import FramedLines.Proofs.Lists
import FramedLines.Proofs.Owners
import FramedLines.Proofs.Parcels
import FramedLines.Proofs.Parting
import FramedLines.Proofs.Paths
import FramedLines.Proofs.Pipes
import FramedLines.Proofs.Postcard
import FramedLines.Proofs.Races
import FramedLines.Proofs.Readiness
import FramedLines.Proofs.Realignment
import FramedLines.Proofs.Reception
import FramedLines.Proofs.Registry
import FramedLines.Proofs.Replay
import FramedLines.Proofs.Requests
import FramedLines.Proofs.Rivals
import FramedLines.Proofs.Rosters
import FramedLines.Proofs.Rounding
import FramedLines.Proofs.Schemes
import FramedLines.Proofs.Script
import FramedLines.Proofs.Section
import FramedLines.Proofs.Sendings
import FramedLines.Proofs.Separation
import FramedLines.Proofs.Sessions
import FramedLines.Proofs.Settings
import FramedLines.Proofs.Sockets
import FramedLines.Proofs.Spellings
import FramedLines.Proofs.Succession
import FramedLines.Proofs.Supply
import FramedLines.Proofs.Tokens
import FramedLines.Proofs.Traffic
import FramedLines.Proofs.Turns
import FramedLines.Proofs.Utf8
import FramedLines.Proofs.Watches
import FramedLines.Proofs.Wire
import FramedLines.Proofs.Wording
import FramedLines.Readiness
import FramedLines.Script
import FramedLines.Session
import FramedLines.Session.Job
import FramedLines.Session.Schedule
import FramedLines.SocketPair
import FramedLines.Text.Cut
import FramedLines.Text.Quoted
import FramedLines.Text.Unseen
import FramedLines.Text.Utf8
import FramedLines.Value
import FramedLines.Value.Dictionary
import FramedLines.Value.FloatFormat
import FramedLines.Proofs.Accessors
import FramedLines.Proofs.Capacity
