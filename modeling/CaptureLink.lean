import CaptureLink.Connection
import CaptureLink.Frame.Abort
import CaptureLink.Ticker
import CaptureLink.Server
import CaptureLink.CommandLine
import CaptureLink.Main
import CaptureLink.Proofs.Number.Rounding
import CaptureLink.Proofs.Number.Shortest
import CaptureLink.Proofs.Json.Numeral
import CaptureLink.Proofs.Json.Token
import CaptureLink.Proofs.Json.Layout
import CaptureLink.Proofs.Json.Record
import CaptureLink.Proofs.Json.Settle
import CaptureLink.Proofs.Json.Size
import CaptureLink.Proofs.Envelope.Json
import CaptureLink.Proofs.Envelope.Size
import CaptureLink.Proofs.Envelope.Text
import CaptureLink.Proofs.Varint
import CaptureLink.Proofs.Varint.Denotation
import CaptureLink.Proofs.Varint.Coding
import CaptureLink.Proofs.Crc32
import CaptureLink.Proofs.Crc32.Detection
import CaptureLink.Proofs.Frame.RoundTrip
import CaptureLink.Proofs.Frame.Stability
import CaptureLink.Proofs.Frame.Corruption
import CaptureLink.Proofs.Frame.Limit
import CaptureLink.Proofs.Frame.Range
import CaptureLink.Proofs.Frame.Chunking
import CaptureLink.Proofs.Frame.Stream
import CaptureLink.Proofs.Frame.Alignment
import CaptureLink.Proofs.Frame.Agreement
import CaptureLink.Proofs.Frame.Parcel
import CaptureLink.Proofs.Frame.Reader
import CaptureLink.Proofs.Base64
import CaptureLink.Proofs.Text.Blank
import CaptureLink.Proofs.Text.Digit
import CaptureLink.Proofs.Frame.Text
import CaptureLink.Proofs.CommandLine.RoundTrip
import CaptureLink.Proofs.AckTable.History
import CaptureLink.Proofs.AckTable.Fate
import CaptureLink.Proofs.AckTable.Renaming
import CaptureLink.Proofs.AckTable.Order
import CaptureLink.Proofs.Session.Refusal
import CaptureLink.Proofs.Session.Atomicity
import CaptureLink.Proofs.Envelope.Body
import CaptureLink.Proofs.Envelope.Readers
import CaptureLink.Proofs.Envelope.Finite
import CaptureLink.Proofs.Session.Steps
import CaptureLink.Proofs.Session.Reply
import CaptureLink.Proofs.Session.Log
import CaptureLink.Proofs.Session.Following
import CaptureLink.Proofs.Session.History
import CaptureLink.Proofs.Session.Answer
import CaptureLink.Proofs.Session.ReplySize
import CaptureLink.Proofs.Session.Naming
import CaptureLink.Proofs.Session.Operation
import CaptureLink.Proofs.Session.Counting
import CaptureLink.Proofs.Session.Handshake
import CaptureLink.Proofs.Session.Likeness
import CaptureLink.Proofs.Session.Consistency
import CaptureLink.Proofs.Session.Finite
import CaptureLink.Proofs.Session.Volley
import CaptureLink.Proofs.Session.Schedule
import CaptureLink.Proofs.Session.Pending
import CaptureLink.Proofs.Session.Settlement
import CaptureLink.Proofs.Session.Trace
import CaptureLink.Proofs.Session.Lifecycle
import CaptureLink.Proofs.Config.Layering
import CaptureLink.Proofs.Config.Merging
import CaptureLink.Proofs.Net.Address
import CaptureLink.Proofs.Config.Listening
import CaptureLink.Proofs.Toml.Text
import CaptureLink.Proofs.Toml.Layout
import CaptureLink.Proofs.Toml.Value
import CaptureLink.Proofs.Toml.Lines
import CaptureLink.Proofs.Toml.Tables
import CaptureLink.Proofs.Config.RoundTrip
import CaptureLink.Proofs.Connection.Response
import CaptureLink.Proofs.Connection.Stream
import CaptureLink.Proofs.Connection.Dialogue
import CaptureLink.Proofs.Connection.Naming
import CaptureLink.Proofs.Connection.Noise
import CaptureLink.Proofs.Connection.Alignment
import CaptureLink.Proofs.Connection.Transports
import CaptureLink.Proofs.Connection.Lifecycle
import CaptureLink.Proofs.Connection.Schedule
import CaptureLink.Proofs.Connection.Pending
import CaptureLink.Proofs.Session.Fate
import CaptureLink.Proofs.Session.Restart
import CaptureLink.Proofs.Session.Translation
