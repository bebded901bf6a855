import OutboxReplicator.Processor.Options
import OutboxReplicator.Text.Integer
/-!
# Configuration from the environment

The replicator is configured by environment variables, named after the fields in any
case.  Variables are read in the order given; each known one is parsed at once, and
the first fault ends reading: a field given twice, or a value that does not parse.
Unknown variables are skipped.  Then the first required field not given, in field
order, is reported.

Booleans are exactly `true` or `false`; numbers are read as integers of the field's
type.  The processor options follow from the configuration: the batch size is at least
1, the retry count at least 0, and the retry delay is given in minutes.  Turning the
minutes into seconds overflows 64 bits for 307445734561825861 minutes and more.
-/

namespace OutboxReplicator

/-- The replicator's configuration. -/
structure ReplicatorConfig where
  /-- The primary database. -/
  databaseUrl : String
  /-- The secondary database. -/
  secondaryDatabaseUrl : String
  /-- Whether the processor runs. -/
  outboxEnabled : Bool
  /-- Seconds between cycles. -/
  outboxPollingIntervalSeconds : Nat
  /-- Records per cycle. -/
  outboxBatchSize : Nat
  /-- Failures before a record is not retried. -/
  outboxMaxRetryCount : Int
  /-- Minutes before a failed record is retried. -/
  outboxRetryDelayMinutes : Nat
  /-- Seconds a claim holds. -/
  outboxClaimTimeoutSeconds : Nat
  /-- The HTTP port. -/
  replicatorPort : Nat
  deriving Repr

/-- Why the environment gives no configuration. -/
inductive ConfigError where
  /-- A required field has no variable. -/
  | missing (field : String)
  /-- Two variables name one field. -/
  | duplicate (field : String)
  /-- A boolean variable is neither `true` nor `false`. -/
  | notBoolean (value source : String)
  /-- A numeric variable does not parse. -/
  | notNumber (cause : IntegerError) (value source : String)
  deriving Repr

namespace ConfigError

/-- The text of the error. -/
def message : ConfigError → String
  | .missing f => "missing value for field " ++ f
  | .duplicate f => "duplicate field " ++ "`" ++ f ++ "`"
  | .notBoolean v n =>
    "provided string was not " ++ "`true` or `false`" ++ " while parsing value '" ++ v ++
      "' provided by " ++ n
  | .notNumber e v n => e.message ++ " while parsing value '" ++ v ++ "' provided by " ++ n

end ConfigError

namespace ReplicatorConfig

/-- The fields read so far. -/
structure Slots where
  /-- The value of `DATABASE_URL`, once read. -/
  databaseUrl : Option String := none
  /-- The value of `SECONDARY_DATABASE_URL`, once read. -/
  secondaryDatabaseUrl : Option String := none
  /-- The value of `OUTBOX_ENABLED`, once read. -/
  outboxEnabled : Option Bool := none
  /-- The value of `OUTBOX_POLLING_INTERVAL_SECONDS`, once read. -/
  outboxPollingIntervalSeconds : Option Nat := none
  /-- The value of `OUTBOX_BATCH_SIZE`, once read. -/
  outboxBatchSize : Option Nat := none
  /-- The value of `OUTBOX_MAX_RETRY_COUNT`, once read. -/
  outboxMaxRetryCount : Option Int := none
  /-- The value of `OUTBOX_RETRY_DELAY_MINUTES`, once read. -/
  outboxRetryDelayMinutes : Option Nat := none
  /-- The value of `OUTBOX_CLAIM_TIMEOUT_SECONDS`, once read. -/
  outboxClaimTimeoutSeconds : Option Nat := none
  /-- The value of `REPLICATOR_PORT`, once read. -/
  replicatorPort : Option Nat := none

/-- A boolean variable. -/
def readBool (name value : String) : Except ConfigError Bool :=
  if value == "true" then .ok true
  else if value == "false" then .ok false
  else .error (.notBoolean value name)

/-- A numeric variable of a range. -/
def readNumber (r : IntegerRange) (name value : String) : Except ConfigError Int :=
  match r.read value with
  | .ok n => .ok n
  | .error e => .error (.notNumber e value name)

/-- Read one variable into the slots; its lower-case name picks the field. -/
def put (s : Slots) (var : String × String) : Except ConfigError Slots :=
  let (name, value) := var
  match name.toLower with
  | "database_url" => do
    if s.databaseUrl.isSome then throw (.duplicate "database_url")
    pure { s with databaseUrl := some value }
  | "secondary_database_url" => do
    if s.secondaryDatabaseUrl.isSome then throw (.duplicate "secondary_database_url")
    pure { s with secondaryDatabaseUrl := some value }
  | "outbox_enabled" => do
    if s.outboxEnabled.isSome then throw (.duplicate "outbox_enabled")
    pure { s with outboxEnabled := some (← readBool name value) }
  | "outbox_polling_interval_seconds" => do
    if s.outboxPollingIntervalSeconds.isSome then
      throw (.duplicate "outbox_polling_interval_seconds")
    pure { s with outboxPollingIntervalSeconds := some (← readNumber .u64 name value).toNat }
  | "outbox_batch_size" => do
    if s.outboxBatchSize.isSome then throw (.duplicate "outbox_batch_size")
    pure { s with outboxBatchSize := some (← readNumber .u64 name value).toNat }
  | "outbox_max_retry_count" => do
    if s.outboxMaxRetryCount.isSome then throw (.duplicate "outbox_max_retry_count")
    pure { s with outboxMaxRetryCount := some (← readNumber .i32 name value) }
  | "outbox_retry_delay_minutes" => do
    if s.outboxRetryDelayMinutes.isSome then throw (.duplicate "outbox_retry_delay_minutes")
    pure { s with outboxRetryDelayMinutes := some (← readNumber .u64 name value).toNat }
  | "outbox_claim_timeout_seconds" => do
    if s.outboxClaimTimeoutSeconds.isSome then throw (.duplicate "outbox_claim_timeout_seconds")
    pure { s with outboxClaimTimeoutSeconds := some (← readNumber .u64 name value).toNat }
  | "replicator_port" => do
    if s.replicatorPort.isSome then throw (.duplicate "replicator_port")
    pure { s with replicatorPort := some (← readNumber .u16 name value).toNat }
  | _ => pure s

/-- The configuration of a list of variables. -/
def ofVars (vars : List (String × String)) : Except ConfigError ReplicatorConfig := do
  let s ← vars.foldlM put {}
  let some databaseUrl := s.databaseUrl | throw (.missing "database_url")
  let some secondaryDatabaseUrl := s.secondaryDatabaseUrl
    | throw (.missing "secondary_database_url")
  pure { databaseUrl, secondaryDatabaseUrl,
         outboxEnabled := s.outboxEnabled.getD true,
         outboxPollingIntervalSeconds := s.outboxPollingIntervalSeconds.getD 5,
         outboxBatchSize := s.outboxBatchSize.getD 100,
         outboxMaxRetryCount := s.outboxMaxRetryCount.getD 5,
         outboxRetryDelayMinutes := s.outboxRetryDelayMinutes.getD 1,
         outboxClaimTimeoutSeconds := s.outboxClaimTimeoutSeconds.getD 300,
         replicatorPort := s.replicatorPort.getD 3120 }

/-- The configuration as JSON. -/
def toJson (c : ReplicatorConfig) : Json :=
  Json.object
    [("database_url", .string c.databaseUrl),
     ("secondary_database_url", .string c.secondaryDatabaseUrl),
     ("outbox_enabled", .bool c.outboxEnabled),
     ("outbox_polling_interval_seconds", Json.nat c.outboxPollingIntervalSeconds),
     ("outbox_batch_size", Json.nat c.outboxBatchSize),
     ("outbox_max_retry_count", Json.int c.outboxMaxRetryCount),
     ("outbox_retry_delay_minutes", Json.nat c.outboxRetryDelayMinutes),
     ("outbox_claim_timeout_seconds", Json.nat c.outboxClaimTimeoutSeconds),
     ("replicator_port", Json.nat c.replicatorPort)]

/-- The processor options; the overflow of the retry delay in seconds is an abort with
its message. -/
def options (c : ReplicatorConfig) : Except String OutboxOptions :=
  let delay := c.outboxRetryDelayMinutes * 60
  if Nat.pow 2 64 ≤ delay then .error "attempt to multiply with overflow"
  else .ok { enabled := c.outboxEnabled,
             pollingInterval := Span.ofSeconds c.outboxPollingIntervalSeconds,
             batchSize := max c.outboxBatchSize 1,
             maxRetryCount := max c.outboxMaxRetryCount 0,
             retryDelay := Span.ofSeconds delay,
             claimTimeout := Span.ofSeconds c.outboxClaimTimeoutSeconds }

end ReplicatorConfig

end OutboxReplicator
