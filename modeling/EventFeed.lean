import EventFeed.Bus.Basic
import EventFeed.Bus.Channel
import EventFeed.Bus.Run
import EventFeed.Client.Basic
import EventFeed.Endpoint
import EventFeed.Envelope.Basic
import EventFeed.Envelope.Reader
import EventFeed.Environment.Basic
import EventFeed.Environment.Dotenv
import EventFeed.Error
import EventFeed.Event
import EventFeed.Files.Path
import EventFeed.Files.Tree
import EventFeed.Gateway.Connection
import EventFeed.Gateway.Emit
import EventFeed.Gateway.Health
import EventFeed.Gateway.Respond
import EventFeed.Gateway.Run
import EventFeed.Gateway.Upgrade
import EventFeed.Http.Basic
import EventFeed.Http.MediaType
import EventFeed.Http.Percent
import EventFeed.Http.Status
import EventFeed.Json.Basic
import EventFeed.Json.Fault
import EventFeed.Json.Printer
import EventFeed.Json.Reader.Basic
import EventFeed.Json.Reader.Number
import EventFeed.Json.Reader.Record
import EventFeed.Json.Reader.Skip
import EventFeed.Json.Reader.String
import EventFeed.Json.Reader.Value
import EventFeed.Listener.Basic
import EventFeed.Listener.Log
import EventFeed.Listener.Paragraphs
import EventFeed.Listener.Region
import EventFeed.Main
import EventFeed.Namespace
import EventFeed.Net.Ip
import EventFeed.Net.Network
import EventFeed.Net.SocketAddress
import EventFeed.Net.Uri
import EventFeed.Number.Binary64
import EventFeed.Number.Shortest
import EventFeed.Program.Basic
import EventFeed.Program.Report
import EventFeed.Proofs.Bus.Books
import EventFeed.Proofs.Bus.Closing
import EventFeed.Proofs.Bus.Counts
import EventFeed.Proofs.Bus.Delivery
import EventFeed.Proofs.Bus.Independence
import EventFeed.Proofs.Bus.Lag
import EventFeed.Proofs.Bus.Reception
import EventFeed.Proofs.Bus.Service
import EventFeed.Proofs.Bus.Walk
import EventFeed.Proofs.Client.Listening
import EventFeed.Proofs.Client.Reading
import EventFeed.Proofs.Client.Relistening
import EventFeed.Proofs.Envelope.Content
import EventFeed.Proofs.Envelope.Messages
import EventFeed.Proofs.Envelope.NormalForm
import EventFeed.Proofs.Envelope.RoundTrip
import EventFeed.Proofs.Feed.Acceptance
import EventFeed.Proofs.Feed.EndToEnd
import EventFeed.Proofs.Feed.Presentation
import EventFeed.Proofs.Files.Places
import EventFeed.Proofs.Gateway.Access
import EventFeed.Proofs.Gateway.Content
import EventFeed.Proofs.Gateway.Decision
import EventFeed.Proofs.Gateway.Delivery
import EventFeed.Proofs.Gateway.Emission
import EventFeed.Proofs.Gateway.Isolation
import EventFeed.Proofs.Gateway.Paths
import EventFeed.Proofs.Gateway.Replies
import EventFeed.Proofs.Gateway.Requests
import EventFeed.Proofs.Gateway.Service
import EventFeed.Proofs.Http.Percent
import EventFeed.Proofs.Json.Content
import EventFeed.Proofs.Json.Depth
import EventFeed.Proofs.Json.Digits
import EventFeed.Proofs.Json.Entries
import EventFeed.Proofs.Json.Floats
import EventFeed.Proofs.Json.Grammar
import EventFeed.Proofs.Json.Lexemes
import EventFeed.Proofs.Json.Numbers
import EventFeed.Proofs.Json.Ordered
import EventFeed.Proofs.Json.Record
import EventFeed.Proofs.Json.Reread
import EventFeed.Proofs.Json.RoundTrip
import EventFeed.Proofs.Json.Rules
import EventFeed.Proofs.Json.Skipping
import EventFeed.Proofs.Json.Spelling
import EventFeed.Proofs.Json.Text
import EventFeed.Proofs.Json.Written
import EventFeed.Proofs.Listener.FileRegions
import EventFeed.Proofs.Listener.Rendering
import EventFeed.Proofs.Number.Rounding
import EventFeed.Proofs.Number.Shortest
import EventFeed.Proofs.Text.Trim
import EventFeed.Proofs.Text.Utf8
import EventFeed.Proofs.Time.Instant
import EventFeed.Proofs.Time.RoundTrip
import EventFeed.Settings
import EventFeed.System.OsError
import EventFeed.Text.Alphanumeric
import EventFeed.Text.Blank
import EventFeed.Text.Extending
import EventFeed.Text.Invisible
import EventFeed.Text.Numeral
import EventFeed.Text.Quoted
import EventFeed.Text.Utf8
import EventFeed.Time.Date
import EventFeed.Time.Reader
import EventFeed.Time.Timestamp
import EventFeed.Uuid
import EventFeed.Proofs.Net.Ipv6
import EventFeed.Proofs.Endpoint.Normalisation
import EventFeed.Proofs.Endpoint.Url
import EventFeed.Proofs.Namespace.Readers
import EventFeed.Proofs.Listener.Staging
import EventFeed.Proofs.Settings.Loading
import EventFeed.Proofs.Settings.Capacity
import EventFeed.Proofs.Settings.Fields
import EventFeed.Proofs.Settings.LogPath
import EventFeed.Proofs.Listener.Rows
import EventFeed.Proofs.Feed.Names
import EventFeed.Proofs.Program.Output
