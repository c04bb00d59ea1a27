import FlowRegistry.Config.Factory
import FlowRegistry.Config.Settings
import FlowRegistry.Coordinator.Buckets
import FlowRegistry.Coordinator.Bundles
import FlowRegistry.Coordinator.Flows
import FlowRegistry.Coordinator.Purge
import FlowRegistry.Coordinator.Rules
import FlowRegistry.Coordinator.Snapshots
import FlowRegistry.Decimal.Double
import FlowRegistry.Decimal.Shortest
import FlowRegistry.Digest.Sha256
import FlowRegistry.Error
import FlowRegistry.Format.Codec
import FlowRegistry.Format.Current
import FlowRegistry.Format.Graph
import FlowRegistry.Format.Header
import FlowRegistry.Format.Legacy
import FlowRegistry.Format.TextCodec
import FlowRegistry.Ident.Uuid
import FlowRegistry.Json.Fault
import FlowRegistry.Json.Lexeme
import FlowRegistry.Json.Read
import FlowRegistry.Json.Shape
import FlowRegistry.Json.Shape.Text
import FlowRegistry.Json.Shape.Value
import FlowRegistry.Json.Value
import FlowRegistry.Json.Write
import FlowRegistry.Model.Catalog
import FlowRegistry.Model.Flow
import FlowRegistry.Model.Revision
import FlowRegistry.Model.Wire
import FlowRegistry.Proofs.Run
import FlowRegistry.Proofs.LockTable
import FlowRegistry.Proofs.Slot
import FlowRegistry.Proofs.Requests
import FlowRegistry.Proofs.Schedule
import FlowRegistry.Proofs.Exclusion
import FlowRegistry.Proofs.MutexTable
import FlowRegistry.Proofs.MutexOrder
import FlowRegistry.Proofs.MutexView
import FlowRegistry.Proofs.Serial
import FlowRegistry.Proofs.Linear
import FlowRegistry.Proofs.Effects
import FlowRegistry.Proofs.History
import FlowRegistry.Proofs.Stores
import FlowRegistry.Proofs.Frames
import FlowRegistry.Proofs.Rollback
import FlowRegistry.Proofs.Atomicity
import FlowRegistry.Proofs.Keys
import FlowRegistry.Proofs.Steady
import FlowRegistry.Proofs.Entities
import FlowRegistry.Proofs.Runs
import FlowRegistry.Proofs.Correspondence
import FlowRegistry.Revision.Manager
import FlowRegistry.Revision.Locks
import FlowRegistry.Revision.EntityMutexes
import FlowRegistry.Revision.Race
import FlowRegistry.Revision.Race.Queue
import FlowRegistry.Revision.Race.Rounds
import FlowRegistry.Revision.Task
import FlowRegistry.Store.Catalog
import FlowRegistry.Store.Content
import FlowRegistry.Store.Paths
import FlowRegistry.Store.Revisions
import FlowRegistry.Text.Blank
import FlowRegistry.Text.Case
import FlowRegistry.Text.CaseContext
import FlowRegistry.Text.CaseMapping
import FlowRegistry.Text.Hex
import FlowRegistry.Text.Printable
import FlowRegistry.Text.Quoted
import FlowRegistry.Text.Ranges
import FlowRegistry.Text.Utf8
import FlowRegistry.Time.Instant
import FlowRegistry.Time.Rfc3339
import FlowRegistry.World.Faults
import FlowRegistry.World.State
import FlowRegistry.Proofs.Retry
import FlowRegistry.Proofs.Faulted
import FlowRegistry.Proofs.Triples
import FlowRegistry.Proofs.Integrity
import FlowRegistry.Proofs.Names
import FlowRegistry.Proofs.Encodings
import FlowRegistry.Proofs.Lexemes
import FlowRegistry.Proofs.ReadBack
import FlowRegistry.Proofs.SnapshotFormats
import FlowRegistry.Proofs.LegacyFormat
import FlowRegistry.Proofs.Guards
import FlowRegistry.Proofs.Upgrades
import FlowRegistry.Proofs.Namesakes
import FlowRegistry.Proofs.KeyValue
import FlowRegistry.Proofs.FaultedRuns
import FlowRegistry.Proofs.BundleSteps
import FlowRegistry.Proofs.Versions
import FlowRegistry.Proofs.SnapshotWrites
import FlowRegistry.Proofs.FlowSteps
import FlowRegistry.Proofs.Snapshots
import FlowRegistry.Proofs.CodecTables
import FlowRegistry.Proofs.ChildRetries
import FlowRegistry.Proofs.RunRelations
import FlowRegistry.Proofs.BucketPurge
import FlowRegistry.Proofs.BucketDelete
import FlowRegistry.Proofs.Headers
import FlowRegistry.Proofs.Graphs
import FlowRegistry.Proofs.WireValues
import FlowRegistry.Proofs.ContentPaths
import FlowRegistry.Proofs.VersionOrder
