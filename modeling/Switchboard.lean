import Switchboard.Bus.Acknowledgment
import Switchboard.Bus.Config
import Switchboard.Bus.Describe
import Switchboard.Bus.Error
import Switchboard.Bus.Family
import Switchboard.Bus.Filter
import Switchboard.Bus.Forwarder
import Switchboard.Bus.Journal
import Switchboard.Bus.MessageStore
import Switchboard.Bus.Posting
import Switchboard.Bus.Registry
import Switchboard.Bus.State
import Switchboard.Bus.Targets
import Switchboard.Envelope
import Switchboard.Exchange.Perform
import Switchboard.Exchange.Station
import Switchboard.Handle
import Switchboard.Json
import Switchboard.Json.Form
import Switchboard.Json.Printer
import Switchboard.Json.Reader
import Switchboard.Json.Token
import Switchboard.Lifecycle
import Switchboard.Message
import Switchboard.Panic
import Switchboard.Records.CacheSession
import Switchboard.Records.Columns
import Switchboard.Records.Declaration
import Switchboard.Records.Describe
import Switchboard.Records.Error
import Switchboard.Records.Listing
import Switchboard.Records.Outline
import Switchboard.Records.Predicate
import Switchboard.Records.Query
import Switchboard.Records.Record
import Switchboard.Records.Repository
import Switchboard.Records.Specification
import Switchboard.Records.SpecificationCache
import Switchboard.Records.Store
import Switchboard.Records.StoreSession
import Switchboard.Records.Value
import Switchboard.Text.Blank
import Switchboard.Text.Described
import Switchboard.Text.Digits
import Switchboard.Text.Hidden
import Switchboard.Text.Quoted
import Switchboard.Text.Search
import Switchboard.Timestamp
import Switchboard.Trace
import Switchboard.Uuid
import Switchboard.Proofs.Registry.Listing
import Switchboard.Proofs.Registry.Operations
import Switchboard.Proofs.Registry.Roster
import Switchboard.Proofs.Records.History
import Switchboard.Proofs.Posting.Acknowledgments
import Switchboard.Proofs.Posting.Reentry
import Switchboard.Proofs.Posting.Settlement
import Switchboard.Proofs.Posting.Single
import Switchboard.Proofs.Posting.Invocations
import Switchboard.Proofs.Records.Ledger
import Switchboard.Proofs.Posting.AuditLog
import Switchboard.Proofs.Posting.Splitting
import Switchboard.Proofs.Registry.Requests
import Switchboard.Proofs.Registry.Registration
import Switchboard.Proofs.Records.Ordering
import Switchboard.Proofs.Records.Reordering
import Switchboard.Proofs.Forwarding.Subscriptions
import Switchboard.Proofs.Forwarding.Outlet
import Switchboard.Proofs.Forwarding.Relay
import Switchboard.Proofs.Forwarding.EndToEnd
import Switchboard.Proofs.Forwarding.Pruning
import Switchboard.Proofs.Forwarding.Breakdown
import Switchboard.Proofs.Records.Lookup
import Switchboard.Proofs.Records.Activity
import Switchboard.Proofs.Posting.Routing
import Switchboard.Proofs.Posting.Poisoning
import Switchboard.Proofs.Posting.EventLog
import Switchboard.Proofs.Records.Meaning
import Switchboard.Proofs.Records.Selection
import Switchboard.Proofs.Records.Validation
import Switchboard.Proofs.Records.Naming
import Switchboard.Proofs.Records.Caching
import Switchboard.Proofs.Records.Conformance
import Switchboard.Proofs.Records.Writing
import Switchboard.Proofs.Records.Relevance
import Switchboard.Proofs.Records.Comparison
import Switchboard.Proofs.Records.Pagination
import Switchboard.Proofs.Records.SnapshotForm
import Switchboard.Proofs.Forms.Calendar
import Switchboard.Proofs.Forms.Digits
import Switchboard.Proofs.Forms.TextBytes
import Switchboard.Proofs.Forms.UuidText
import Switchboard.Proofs.Forms.TimestampText
import Switchboard.Proofs.Forms.Lossless
import Switchboard.Proofs.Forms.Records
import Switchboard.Proofs.Forms.Overrides
import Switchboard.Proofs.Records.Sorting
import Switchboard.Proofs.Records.Versions
