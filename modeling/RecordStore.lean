import RecordStore.Declaration
import RecordStore.Pattern
import RecordStore.Session
import RecordStore.Value.Reader
import RecordStore.Proofs.NameMap
import RecordStore.Proofs.Value.Order
import RecordStore.Proofs.Value.Sameness
import RecordStore.Proofs.Plan.Binding
import RecordStore.Proofs.Selection.Meaning
import RecordStore.Proofs.Store.Collection
import RecordStore.Proofs.Store.Reachable
import RecordStore.Proofs.Store.Identity
import RecordStore.Proofs.Id
import RecordStore.Proofs.Record.Adoption
import RecordStore.Proofs.Record.Saving
import RecordStore.Proofs.Store.Stored
import RecordStore.Proofs.Record.Copies
import RecordStore.Proofs.Query.Layout
import RecordStore.Proofs.Query.Recovery
import RecordStore.Proofs.Store.Uniqueness
import RecordStore.Proofs.Store.Effect
import RecordStore.Proofs.Store.Journal
import RecordStore.Proofs.Record.Lifecycle
import RecordStore.Proofs.Record.FailedSave
import RecordStore.Proofs.Record.Sending
import RecordStore.Proofs.Record.Tracking
import RecordStore.Proofs.Record.Remnants
import RecordStore.Proofs.Record.Assignment
import RecordStore.Proofs.Record.Identity
import RecordStore.Proofs.Record.ReadBack
import RecordStore.Proofs.Store.Endpoints
import RecordStore.Proofs.Name.Grammar
import RecordStore.Proofs.Name.Spelling
import RecordStore.Proofs.Plan.Acceptance
import RecordStore.Proofs.Query.Parameters
import RecordStore.Proofs.Query.Values
import RecordStore.Proofs.Record.Wrapping
import RecordStore.Proofs.Session.Isolation
import RecordStore.Proofs.Selection.Indiscernible
import RecordStore.Proofs.Selection.Arrangement
import RecordStore.Proofs.Selection.Paging
import RecordStore.Proofs.Selection.Opposition
import RecordStore.Proofs.Selection.Definiteness
import RecordStore.Proofs.Schema.Reference
import RecordStore.Proofs.Record.Serialization
import RecordStore.Proofs.Record.Refreshing
import RecordStore.Proofs.Index.Matching
import RecordStore.Proofs.Store.IndexCreation
import RecordStore.Proofs.Schema.IndexApplication
import RecordStore.Proofs.Declaration.Reading
import RecordStore.Proofs.Declaration.Validity
import RecordStore.Proofs.Declaration.DefaultName
