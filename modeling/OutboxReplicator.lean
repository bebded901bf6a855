import OutboxReplicator.Number.Binary64
import OutboxReplicator.Number.WordDecimal
import OutboxReplicator.Number.Shortest
import OutboxReplicator.Json.Value
import OutboxReplicator.Json.Writer
import OutboxReplicator.Json.Reader
import OutboxReplicator.Json.RoundTrip
import OutboxReplicator.Text.Integer
import OutboxReplicator.Text.Blank
import OutboxReplicator.Text.Printable
import OutboxReplicator.Text.Utf8
import OutboxReplicator.Uuid
import OutboxReplicator.Time.Calendar
import OutboxReplicator.Time.Instant
import OutboxReplicator.Time.Text
import OutboxReplicator.Time.Reader
import OutboxReplicator.Json.Decode
import OutboxReplicator.Domain.Status
import OutboxReplicator.Domain.Ids
import OutboxReplicator.Domain.Entity
import OutboxReplicator.Domain.ScreenDefinition
import OutboxReplicator.Domain.ScreenPilot
import OutboxReplicator.Failure
import OutboxReplicator.Outbox.Tags
import OutboxReplicator.Replica.Change
import OutboxReplicator.Outbox.Record
import OutboxReplicator.Outbox.Table
import OutboxReplicator.Replica.Tables
import OutboxReplicator.Replica.Apply
import OutboxReplicator.Processor.Options
import OutboxReplicator.Stores
import OutboxReplicator.Processor.Cycle
import OutboxReplicator.Processor.Loop
import OutboxReplicator.Config
import OutboxReplicator.Http.Query
import OutboxReplicator.Http.Target
import OutboxReplicator.Http.Router
import OutboxReplicator.Proofs.Outbox.RowUpdate
import OutboxReplicator.Proofs.Outbox.Writer
import OutboxReplicator.Proofs.Processor.Steps
import OutboxReplicator.Proofs.Outbox.Lifecycle
import OutboxReplicator.Proofs.Replica.ApplyTable
import OutboxReplicator.Proofs.Time.CalendarOrder
import OutboxReplicator.Proofs.Time.StoredOrder
import OutboxReplicator.Proofs.Processor.Drain
import OutboxReplicator.Proofs.Processor.OrderedCycle
import OutboxReplicator.Proofs.Processor.KeyFifo
import OutboxReplicator.Proofs.Processor.Retries
import OutboxReplicator.Proofs.Outbox.Publish
import OutboxReplicator.Proofs.Replica.Replay
import OutboxReplicator.Proofs.Time.CalendarInverse
import OutboxReplicator.Proofs.Time.TextRoundTrip
import OutboxReplicator.Proofs.Ids.UuidText
import OutboxReplicator.Proofs.Replica.PayloadRoundTrip
import OutboxReplicator.Proofs.Time.TextOrder
import OutboxReplicator.Proofs.Outbox.Guards
import OutboxReplicator.Proofs.Outbox.ReadOrder
import OutboxReplicator.Proofs.Processor.Dispatch
import OutboxReplicator.Proofs.Processor.Quiescence
import OutboxReplicator.Proofs.Processor.Housekeeping
import OutboxReplicator.Proofs.Outbox.Readable
import OutboxReplicator.Proofs.Outbox.Stats
import OutboxReplicator.Proofs.Processor.MalformedRecord
import OutboxReplicator.Proofs.Json.RecordGrammar
import OutboxReplicator.Proofs.Replica.PayloadGrammar
import OutboxReplicator.Proofs.Text.IntegerText
import OutboxReplicator.Proofs.Config.Options
import OutboxReplicator.Proofs.Time.StoredComparisons
import OutboxReplicator.Proofs.Time.MillisText
import OutboxReplicator.Proofs.Json.IntegerRoundTrip
import OutboxReplicator.Proofs.Ids.UuidForms
import OutboxReplicator.Proofs.Ids.IdentifierText
import OutboxReplicator.Processor.Task
import OutboxReplicator.Proofs.Processor.TaskRuns
import OutboxReplicator.Proofs.Processor.Shutdown
