import RecordSearch.Engine.Basic
import RecordSearch.Predicate.Handle
import RecordSearch.Proofs.Clause.Offence
import RecordSearch.Proofs.Clause.Range
import RecordSearch.Proofs.Engine.Paging
import RecordSearch.Proofs.Engine.Runs
import RecordSearch.Proofs.Index.Agreement
import RecordSearch.Proofs.Query.RoundTrip
import RecordSearch.Proofs.Schema.Flattening
import RecordSearch.Retry.Backoff
import RecordSearch.Storage.Memory
import RecordSearch.Storage.Probe
import RecordSearch.Storage.Server
import RecordSearch.Proofs.Predicate.Typed
import RecordSearch.Proofs.Engine.Convergence
import RecordSearch.Proofs.Engine.Accounting
import RecordSearch.Proofs.Engine.Policy
import RecordSearch.Proofs.Engine.Namespace
import RecordSearch.Proofs.Engine.Terminals
import RecordSearch.Proofs.Clause.Negation
import RecordSearch.Proofs.Engine.Creation
import RecordSearch.Proofs.Engine.Exchange
import RecordSearch.Proofs.Storage.Separation
import RecordSearch.Proofs.Engine.Selection
import RecordSearch.Proofs.Query.Reply
import RecordSearch.Proofs.Storage.Ordering
import RecordSearch.Proofs.Storage.Consistency
import RecordSearch.Proofs.Engine.Protocol
import RecordSearch.Proofs.Retry.Attempts
import RecordSearch.Proofs.Clause.Literal
import RecordSearch.Proofs.Index.Persistence
import RecordSearch.Proofs.Predicate.Deferral
import RecordSearch.Proofs.Schema.Outline
import RecordSearch.Proofs.Storage.Contents
import RecordSearch.Proofs.Storage.MissingIndex
