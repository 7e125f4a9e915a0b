import TelemetryGateway.Argument
import TelemetryGateway.Backend.Cache
import TelemetryGateway.Backend.Client
import TelemetryGateway.Backend.Uuid
import TelemetryGateway.Console.Command
import TelemetryGateway.Console.Options
import TelemetryGateway.Console.Session
import TelemetryGateway.Console.Table
import TelemetryGateway.Fault
import TelemetryGateway.Filter.Basic
import TelemetryGateway.Filter.Choice
import TelemetryGateway.Http.Message
import TelemetryGateway.Http.Status
import TelemetryGateway.Http.Wire
import TelemetryGateway.Json.Basic
import TelemetryGateway.Json.Numeral
import TelemetryGateway.Json.Printer
import TelemetryGateway.Json.Reader
import TelemetryGateway.Json.Record
import TelemetryGateway.Json.Token
import TelemetryGateway.Main
import TelemetryGateway.Number.Binary64
import TelemetryGateway.Number.Shortest
import TelemetryGateway.Page
import TelemetryGateway.Query.Basic
import TelemetryGateway.Query.Build
import TelemetryGateway.Query.Finish
import TelemetryGateway.Query.Wire
import TelemetryGateway.Server.Basic
import TelemetryGateway.Server.Credential
import TelemetryGateway.Settings
import TelemetryGateway.Summary
import TelemetryGateway.Text.Blank
import TelemetryGateway.Text.Case
import TelemetryGateway.Text.CaseTable
import TelemetryGateway.Text.HiddenTable
import TelemetryGateway.Text.Integer
import TelemetryGateway.Text.Quoted
import TelemetryGateway.Time.Calendar
import TelemetryGateway.Time.Duration
import TelemetryGateway.Time.Unit
import TelemetryGateway.Time.Window
import TelemetryGateway.Tool.Basic
import TelemetryGateway.Tool.Choice
import TelemetryGateway.Tool.Plan
import TelemetryGateway.Proofs.Outcome
import TelemetryGateway.Proofs.Json.Members
import TelemetryGateway.Proofs.Json.Order
import TelemetryGateway.Proofs.Json.Reading
import TelemetryGateway.Proofs.Json.Fate
import TelemetryGateway.Proofs.Time.Tokens
import TelemetryGateway.Proofs.Time.Resolution
import TelemetryGateway.Proofs.Time.Ranges
import TelemetryGateway.Proofs.Filter.Term
import TelemetryGateway.Proofs.Filter.Formula
import TelemetryGateway.Proofs.Filter.Reading
import TelemetryGateway.Proofs.Filter.Meaning
import TelemetryGateway.Proofs.Filter.Precedence
import TelemetryGateway.Proofs.Filter.Emptiness
import TelemetryGateway.Proofs.Filter.Arguments
import TelemetryGateway.Proofs.Summary.Compiling
import TelemetryGateway.Proofs.Summary.Ordering
import TelemetryGateway.Proofs.Summary.Grouping
import TelemetryGateway.Proofs.Query.Finishing
import TelemetryGateway.Proofs.Query.Building
import TelemetryGateway.Proofs.Query.Blaming
import TelemetryGateway.Proofs.Query.Rearranging
import TelemetryGateway.Proofs.Query.RoundTrip
import TelemetryGateway.Proofs.Query.ReadBack
import TelemetryGateway.Proofs.Query.Written
import TelemetryGateway.Proofs.Query.Stored
import TelemetryGateway.Proofs.Query.Forwarding
import TelemetryGateway.Proofs.Page.Walk
import TelemetryGateway.Proofs.Page.Slice
import TelemetryGateway.Proofs.Tool.Sending
import TelemetryGateway.Proofs.Tool.Searching
import TelemetryGateway.Proofs.Tool.Paging
import TelemetryGateway.Proofs.Tool.SentQueries
import TelemetryGateway.Proofs.Tool.NextPage
import TelemetryGateway.Proofs.Tool.Progress
import TelemetryGateway.Proofs.Tool.Forwarding
import TelemetryGateway.Proofs.Tool.Reporting
import TelemetryGateway.Proofs.Tool.Tracing
import TelemetryGateway.Proofs.Tool.Measuring
import TelemetryGateway.Proofs.Tool.Grouping
import TelemetryGateway.Proofs.Tool.Paths
import TelemetryGateway.Proofs.Tool.Respelling
import TelemetryGateway.Proofs.Backend.Sharing
import TelemetryGateway.Proofs.Server.Isolation
import TelemetryGateway.Proofs.Server.Presenting
import TelemetryGateway.Proofs.Console.Calling
import TelemetryGateway.Proofs.Console.Pairs
import TelemetryGateway.Proofs.Console.Aligning
