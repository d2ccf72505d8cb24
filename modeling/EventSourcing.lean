import EventSourcing.Account.Books
import EventSourcing.Account.Command
import EventSourcing.Account.Event
import EventSourcing.Account.Form
import EventSourcing.Account.Rules
import EventSourcing.Account.Service
import EventSourcing.Account.Summary
import EventSourcing.Account.Types
import EventSourcing.CommandBus
import EventSourcing.Crowd
import EventSourcing.Decimal.Layout
import EventSourcing.Decimal.Shortest
import EventSourcing.Decoders
import EventSourcing.Demo
import EventSourcing.Dispatcher
import EventSourcing.Entity
import EventSourcing.Envelope
import EventSourcing.Error
import EventSourcing.Host
import EventSourcing.Instant
import EventSourcing.Interleaved
import EventSourcing.Json.Basic
import EventSourcing.Json.Form
import EventSourcing.Json.Mismatch
import EventSourcing.Json.Printer
import EventSourcing.Json.Reader
import EventSourcing.LockTable
import EventSourcing.Logging
import EventSourcing.Logging.Directive
import EventSourcing.Logging.Filter
import EventSourcing.Main
import EventSourcing.Metadata
import EventSourcing.Payload
import EventSourcing.Pool
import EventSourcing.Rehearsal.Desk
import EventSourcing.Rehearsal.Numbering
import EventSourcing.Rehearsal.Probe
import EventSourcing.Rehearsal.Script
import EventSourcing.Rehearsal.Subscribers
import EventSourcing.Rehearsal.Twin
import EventSourcing.Rehearsal.World
import EventSourcing.Routine
import EventSourcing.Saga
import EventSourcing.Sequential
import EventSourcing.Store.CommandLog
import EventSourcing.Store.Interface
import EventSourcing.Store.Journal
import EventSourcing.Store.Outage
import EventSourcing.Store.SnapshotTable
import EventSourcing.StoredCommand
import EventSourcing.Text.Alphanumeric
import EventSourcing.Text.Blank
import EventSourcing.Text.Bytes
import EventSourcing.Text.CharSet
import EventSourcing.Text.Hidden
import EventSourcing.Text.Marks
import EventSourcing.Text.Pattern
import EventSourcing.Text.Pattern.Atom
import EventSourcing.Text.Pattern.Bracket
import EventSourcing.Text.Pattern.Mode
import EventSourcing.Text.Pattern.Reader
import EventSourcing.Text.Quoted
import EventSourcing.Text.Reader
import EventSourcing.Trace
import EventSourcing.Trace.Form
import EventSourcing.Uuid
import EventSourcing.View
import EventSourcing.Wiring
import EventSourcing.Word
import EventSourcing.Proofs.Fields
import EventSourcing.Proofs.Delivery
import EventSourcing.Proofs.Publishing
import EventSourcing.Proofs.Branches
import EventSourcing.Proofs.Account.History
import EventSourcing.Proofs.Compensation
import EventSourcing.Proofs.Account.Ledger
import EventSourcing.Proofs.Projection
import EventSourcing.Proofs.Account.Folio
import EventSourcing.Proofs.Account.Bookkeeping
import EventSourcing.Proofs.Account.CatchingUp
import EventSourcing.Proofs.Account.Agreement
import EventSourcing.Proofs.Tickets
import EventSourcing.Proofs.Turns
import EventSourcing.Proofs.Errands
import EventSourcing.Proofs.Exclusive
import EventSourcing.Proofs.Calls
import EventSourcing.Proofs.Interplay
import EventSourcing.Proofs.Pools
import EventSourcing.Proofs.Account.Refusals
import EventSourcing.Proofs.Account.Archive
import EventSourcing.Proofs.Account.Page
import EventSourcing.Proofs.Account.Working
import EventSourcing.Proofs.Account.Callers
import EventSourcing.Proofs.Tables
import EventSourcing.Proofs.Account.Tidiness
import EventSourcing.Proofs.Account.Balances
import EventSourcing.Proofs.Account.LifeCycle
import EventSourcing.Proofs.Account.Recovery
import EventSourcing.Proofs.Drawing
import EventSourcing.Proofs.Account.Narration
import EventSourcing.Proofs.Replays
import EventSourcing.Proofs.Account.Independence
import EventSourcing.Proofs.Matching
import EventSourcing.Proofs.Rehearsals
import EventSourcing.Proofs.Atomicity
import EventSourcing.Proofs.Contention
import EventSourcing.Proofs.Account.RuleBook
import EventSourcing.Proofs.ReadModels
import EventSourcing.Proofs.SideBySide
import EventSourcing.Proofs.Crowds
import EventSourcing.Proofs.FanOuts
import EventSourcing.Proofs.Failures
import EventSourcing.Proofs.Causes
import EventSourcing.Proofs.Crews
import EventSourcing.Proofs.AtMostOnce
import EventSourcing.Proofs.FreshIds
import EventSourcing.Proofs.Assembly
import EventSourcing.Proofs.Republishing
import EventSourcing.Proofs.Account.Payloads
import EventSourcing.Proofs.Account.Decoding
import EventSourcing.Proofs.RoundTrips
import EventSourcing.Proofs.Acceptance
