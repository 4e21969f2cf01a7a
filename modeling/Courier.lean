import Courier.Binary64.Basic
import Courier.Binary64.Shortest
import Courier.Breaker.Basic
import Courier.Breaker.Clock
import Courier.Breaker.Counts
import Courier.Breaker.Session
import Courier.Broker.Method
import Courier.Broker.Session
import Courier.Collaborator.Basic
import Courier.Collaborator.Call
import Courier.Collaborator.Exchange
import Courier.Disposition
import Courier.Envelope
import Courier.Failure
import Courier.Gateway
import Courier.Health
import Courier.Job
import Courier.Json.Document
import Courier.Json.Printer
import Courier.Json.Reader
import Courier.Json.Record
import Courier.Json.Token
import Courier.Json.Value
import Courier.Lookup
import Courier.Main
import Courier.Notice
import Courier.Notification
import Courier.Profile
import Courier.Proofs.Absence
import Courier.Proofs.Breaker.Accounts
import Courier.Proofs.Breaker.Balance
import Courier.Proofs.Breaker.Beginning
import Courier.Proofs.Breaker.Chronicle
import Courier.Proofs.Breaker.Clock
import Courier.Proofs.Breaker.Cooldown
import Courier.Proofs.Breaker.Looking
import Courier.Proofs.Breaker.Operations
import Courier.Proofs.Breaker.Reasons
import Courier.Proofs.Breaker.Reports
import Courier.Proofs.Breaker.Showing
import Courier.Proofs.Breaker.Tallies
import Courier.Proofs.Breaker.Threshold
import Courier.Proofs.Breaker.Trials
import Courier.Proofs.Depot.Apart
import Courier.Proofs.Depot.Basic
import Courier.Proofs.Depot.Dealings
import Courier.Proofs.Depot.Delivery
import Courier.Proofs.Depot.Erasure
import Courier.Proofs.Depot.Ledger
import Courier.Proofs.Depot.Loss
import Courier.Proofs.Depot.Meaning
import Courier.Proofs.Depot.Record
import Courier.Proofs.Depot.Redelivery
import Courier.Proofs.Depot.Release
import Courier.Proofs.Depot.Replay
import Courier.Proofs.Depot.Reporting
import Courier.Proofs.Envelope
import Courier.Proofs.Envelope.RoundTrip
import Courier.Proofs.Job
import Courier.Proofs.Json.Covering
import Courier.Proofs.Json.Documents
import Courier.Proofs.Json.Parts
import Courier.Proofs.Json.Ranges
import Courier.Proofs.Json.Tokens
import Courier.Proofs.Json.Values
import Courier.Proofs.Lookup
import Courier.Proofs.Retry.Attempts
import Courier.Proofs.Retry.Limit
import Courier.Proofs.Run.Clock
import Courier.Proofs.Run.Course
import Courier.Proofs.Run.Lifecycle
import Courier.Proofs.Run.Relay
import Courier.Proofs.Run.Staged
import Courier.Proofs.Run.Trail
import Courier.Proofs.Run.Waiting
import Courier.Proofs.Settings
import Courier.Proofs.Settings.Order
import Courier.Proofs.Slot
import Courier.Proofs.Template.Agreement
import Courier.Proofs.Template.Comments
import Courier.Proofs.Template.Joining
import Courier.Proofs.Template.Reference
import Courier.Proofs.Template.Writing
import Courier.Proofs.Text.Utf8
import Courier.Proofs.Url.Path
import Courier.Proofs.Url.Percent
import Courier.Retry
import Courier.Run.Basic
import Courier.Run.Clock
import Courier.Run.Rehearsal
import Courier.Service.Basic
import Courier.Service.Life
import Courier.Service.Startup
import Courier.Settings.Basic
import Courier.Settings.Number
import Courier.Settings.Text
import Courier.Slot
import Courier.Status
import Courier.Store.Address
import Courier.Store.Client
import Courier.Store.Server
import Courier.Template.Basic
import Courier.Template.Parser
import Courier.Template.Render
import Courier.Text.Blank
import Courier.Text.ByteOrder
import Courier.Text.Digits
import Courier.Text.Entries
import Courier.Text.Letter
import Courier.Text.Pieces
import Courier.Text.SmallLetter
import Courier.Text.Utf8
import Courier.Time.Calendar
import Courier.Time.Reading
import Courier.Time.Stamp
import Courier.Url.Basic
import Courier.Url.Domain
import Courier.Url.Host
import Courier.Url.Parser
import Courier.Url.Path
import Courier.Url.Percent
import Courier.Url.Punycode
