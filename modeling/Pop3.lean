import Pop3.Rust.Str
import Pop3.Rust.Utf8
import Pop3.Rust.Action
import Pop3.Rust.Simulation
import Pop3.Framing
import Pop3.Error
import Pop3.Types
import Pop3.Response
import Pop3.Network
import Pop3.Transport
import Pop3.Client
import Pop3.Call
import Pop3.Parsed
import Pop3.Programs
import Pop3.Builder
import Pop3.Reconnect
import Pop3.View
import Pop3.Connection.Weather
import Pop3.Connection.Invariants
import Pop3.Connection.Reading
import Pop3.Connection.Writing
import Pop3.Connection.Traces
import Pop3.Connection.Loss
import Pop3.Body
import Pop3.Segments
import Pop3.Forgery
import Pop3.Dialogue
import Pop3.Answers
import Pop3.Conversation
import Pop3.Operations
import Pop3.Batches
import Pop3.Mailbox.Model
import Pop3.Mailbox.Server
import Pop3.Mailbox.Parsing
import Pop3.Mailbox.Refinement
import Pop3.Attribution.Discipline
import Pop3.Attribution.Silence
import Pop3.Attribution.LateReplies
import Pop3.Attribution.Runs
import Pop3.Connection.Readiness
import Pop3.Stls
import Pop3.Authentication
import Pop3.Octets.Backlog
import Pop3.Octets.Calls
import Pop3.Truncation.Reading
import Pop3.Truncation.Cutting
import Pop3.Truncation.Calls
import Pop3.Connection.Handing
import Pop3.Encryption
import Pop3.Manager
import Pop3.Connecting
import Pop3.Injection.Hearing
import Pop3.Injection.Calls
import Pop3.Connection.Arrival
import Pop3.Probe.Reply
import Pop3.Probe.Login
import Pop3.Recycling
import Pop3.Agreement.Modes
import Pop3.Faults.Stopping
import Pop3.Faults.Batches
import Pop3.Sync.Sessions
import Pop3.Reconnecting.Transience
import Pop3.Rust.Fields
import Pop3.Rust.Slices
import Pop3.Parsing.Listings
import Pop3.Parsing.Status
import Pop3.Stuffing
import Pop3.Conforming
import Pop3.Reconnecting.Callback
import Pop3.Reconnecting.Refusals
import Pop3.Reconnecting.Lockout
import Pop3.Reconnecting.Credentials
import Pop3.Blame
import Pop3.Pruning
import Pop3.Reconnecting.Received
import Pop3.Pool.Exclusivity
import Pop3.Reconnecting.Moments
import Pop3.Deletions.Carrying
import Pop3.Deletions.Ledger
import Pop3.Rust.Failure
import Pop3.Session.Lifecycle
import Pop3.Session.Closing
import Pop3.Rust.Twins
import Pop3.Segmentation
import Pop3.Session.Protocol
import Pop3.Mailbox.Account
import Pop3.Session.Streams
import Pop3.Mailbox.Visiting
import Pop3.Reconnecting.Accounts
import Pop3.Reconnecting.Economy
import Pop3.Mailbox.Committing
import Pop3.Rust.Promise
import Pop3.Values
import Pop3.Pool.Provenance
import Pop3.Mime
import Pop3.Sync.Reconnecting
import Pop3.Injection.Reacting
import Pop3.Pool.Commands
import Pop3.Pool.Accounts
