/-
  Db/Commit.lean --- the transactions that record one observation.

  `commit_sample_and_checkpoint`, `commit_gap_and_checkpoint` and
  `initialize_checkpoint_if_absent` of `db/traffic_v4.rs`.  Each is a function
  from the database to either an error, in which case the transaction rolled
  back, or the flag it returns and the committed database.

  Left out: the lock of the connection, and `created_at_ms` of the inserted row.  Whether the
  caller learns how a commit ended is for `Poller/Engine.lean`.
-/
import RouterView.Db.Types
import RouterView.Foundation.Text

set_option autoImplicit false

namespace RouterView.Db

open RouterView.Foundation

/-! ## Argument checks -/

/-- `validate_sample`. -/
def validateSample (sample : TrafficSampleInput) : DatabaseResult Unit :=
  ensure
    (¬ (sample.endedAtMs ≤ sample.startedAtMs
      ∨ sample.durationMs ≠ satSub sample.endedAtMs sample.startedAtMs
      ∨ sample.downloadBytes < 0
      ∨ sample.uploadBytes < 0
      ∨ sample.downloadBps.isFinite = false
      ∨ sample.uploadBps.isFinite = false
      ∨ sample.downloadBps.isNegative = true
      ∨ sample.uploadBps.isNegative = true
      ∨ isBlank sample.source = true))
    (.invalidCommand
      "traffic sample contains an invalid range, counter delta, rate, or source")

/-- `validate_checkpoint`. -/
def validateCheckpoint (checkpoint : CounterCheckpointInput) : DatabaseResult Unit :=
  ensure (isDecimal checkpoint.rxCounter = true ∧ isDecimal checkpoint.txCounter = true)
    (.invalidCommand "counter checkpoints must be unsigned decimal strings")

/-- `validate_gap`. -/
def validateGap (gap : TrafficGapInput) : DatabaseResult Unit :=
  ensure (¬ (gap.endedAtMs ≤ gap.startedAtMs ∨ isBlank gap.reason = true))
    (.invalidCommand "traffic gap requires an increasing time range and a reason")

/-! ## Lookups -/

namespace TrafficDb

/-- The stored sample with the key of `sample`: same interface, end and source. -/
def existingSample (db : TrafficDb) (sample : TrafficSampleInput) : Option TrafficSample :=
  db.trafficSamples.rows.find? (fun s =>
    s.on sample.routerId sample.interfaceId &&
      decide (s.endedAtMs = sample.endedAtMs ∧ s.source = sample.source))

/-- The stored gap with the key of `gap`: same interface, span and reason. -/
def existingGap (db : TrafficDb) (gap : TrafficGapInput) : Option TrafficGap :=
  db.trafficGaps.rows.find? (fun g =>
    decide (g.routerId = gap.routerId ∧ g.interfaceId = gap.interfaceId
      ∧ g.startedAtMs = gap.startedAtMs ∧ g.endedAtMs = gap.endedAtMs
      ∧ g.reason = gap.reason))

end TrafficDb

/-- `checkpoint_matches`. -/
def checkpointMatches (current : CounterCheckpoint) (candidate : CounterCheckpointInput) : Bool :=
  decide (current = candidate)

/-- The stored sample repeats the submitted data. -/
def sampleMatches (existing : TrafficSample) (sample : TrafficSampleInput) : Bool :=
  decide (existing.startedAtMs = sample.startedAtMs
    ∧ existing.durationMs = sample.durationMs
    ∧ existing.downloadBytes = sample.downloadBytes
    ∧ existing.uploadBytes = sample.uploadBytes
    ∧ F64.eq existing.downloadBps sample.downloadBps = true
    ∧ F64.eq existing.uploadBps sample.uploadBps = true
    ∧ existing.quality = sample.quality)

/-- A stored checkpoint that is older than the candidate, or as old and
different, contradicts a record that is already stored. -/
def checkpointConflicts (current : CounterCheckpoint) (candidate : CounterCheckpointInput) : Bool :=
  decide (current.observedAtMs < candidate.observedAtMs
    ∨ (current.observedAtMs = candidate.observedAtMs
      ∧ checkpointMatches current candidate = false))

/-! ## Writes -/

namespace TrafficDb

/-- Insert a sample row. -/
def insertSample (db : TrafficDb) (sample : TrafficSampleInput) : TrafficDb :=
  { db with trafficSamples := db.trafficSamples.insert (fun id => { sample with id := id }) }

/-- Insert a gap row. -/
def insertGap (db : TrafficDb) (gap : TrafficGapInput) : TrafficDb :=
  { db with trafficGaps := db.trafficGaps.insert (fun id => { gap with id := id }) }

/-- Write a checkpoint under its key, replacing the stored one. -/
def putCheckpoint (db : TrafficDb) (checkpoint : CounterCheckpointInput) : TrafficDb :=
  { db with
    counterCheckpoints := checkpoint :: db.counterCheckpoints.filter (fun c =>
      !decide (c.routerId = checkpoint.routerId ∧ c.interfaceId = checkpoint.interfaceId)) }

/-- The upsert that only advances: the number of rows changed and the result. -/
def advanceCheckpoint (db : TrafficDb) (checkpoint : CounterCheckpointInput) : Nat × TrafficDb :=
  match db.checkpointFor checkpoint.routerId checkpoint.interfaceId with
  | none => (1, db.putCheckpoint checkpoint)
  | some current =>
      if current.observedAtMs < checkpoint.observedAtMs then (1, db.putCheckpoint checkpoint)
      else (0, db)

end TrafficDb

/-! ## Transactions -/

/-- `commit_sample_and_checkpoint`. -/
def commitSampleAndCheckpoint (sample : TrafficSampleInput)
    (checkpoint : CounterCheckpointInput) (db : TrafficDb) :
    DatabaseResult (Bool × TrafficDb) := do
  validateSample sample
  validateCheckpoint checkpoint
  ensure (sample.routerId = checkpoint.routerId
      ∧ sample.interfaceId = checkpoint.interfaceId
      ∧ sample.endedAtMs = checkpoint.observedAtMs)
    (.invalidCommand
      "sample and checkpoint must refer to the same router interface and observation")
  ensure (db.ownsInterface sample.routerId sample.interfaceId = true)
    (.invalidCommand "interface does not belong to the specified router")
  match db.existingSample sample with
  | some existing =>
      ensure (sampleMatches existing sample = true)
        (.verification "duplicate traffic sample key contains different data")
      let current ← okOr (db.checkpointFor checkpoint.routerId checkpoint.interfaceId)
        (.verification "duplicate traffic sample exists without a counter checkpoint")
      ensure (checkpointConflicts current checkpoint = false)
        (.verification "duplicate traffic sample conflicts with its counter checkpoint")
      .ok (false, db)
  | none =>
      ensure ((db.checkpointFor checkpoint.routerId checkpoint.interfaceId).all
          (fun current => decide (current.observedAtMs < checkpoint.observedAtMs)) = true)
        (.verification "counter checkpoint must advance strictly with a new sample")
      let (updates, db') := (db.insertSample sample).advanceCheckpoint checkpoint
      ensure (updates = 1)
        (.verification "counter checkpoint did not advance with the inserted sample")
      .ok (true, db')

/-- `commit_gap_and_checkpoint`. -/
def commitGapAndCheckpoint (gap : TrafficGapInput)
    (checkpoint : CounterCheckpointInput) (db : TrafficDb) :
    DatabaseResult (Bool × TrafficDb) := do
  validateGap gap
  validateCheckpoint checkpoint
  ensure (gap.interfaceId = some checkpoint.interfaceId
      ∧ gap.routerId = checkpoint.routerId
      ∧ gap.endedAtMs = checkpoint.observedAtMs)
    (.invalidCommand
      "gap and checkpoint must refer to the same router interface and observation")
  db.ensureInterfaceOwner gap.routerId gap.interfaceId
  match db.existingGap gap with
  | some existing =>
      ensure (existing.details.getD "" = gap.details.getD "")
        (.verification "duplicate traffic gap key contains different details")
      let current ← okOr (db.checkpointFor checkpoint.routerId checkpoint.interfaceId)
        (.verification "traffic gap exists without its counter checkpoint")
      ensure (checkpointConflicts current checkpoint = false)
        (.verification "traffic gap conflicts with its counter checkpoint")
      .ok (false, db)
  | none =>
      ensure ((db.checkpointFor checkpoint.routerId checkpoint.interfaceId).all
          (fun current => decide (current.observedAtMs < checkpoint.observedAtMs)) = true)
        (.verification "counter checkpoint must advance strictly with a new traffic gap")
      let (updates, db') := (db.insertGap gap).advanceCheckpoint checkpoint
      ensure (updates = 1)
        (.verification "counter checkpoint did not advance with the inserted traffic gap")
      .ok (true, db')

/-- `initialize_checkpoint_if_absent`. -/
def initializeCheckpointIfAbsent (checkpoint : CounterCheckpointInput) (db : TrafficDb) :
    DatabaseResult (Bool × TrafficDb) := do
  validateCheckpoint checkpoint
  db.ensureInterfaceOwner checkpoint.routerId (some checkpoint.interfaceId)
  match db.checkpointFor checkpoint.routerId checkpoint.interfaceId with
  | some _ => .ok (false, db)
  | none => .ok (true, db.putCheckpoint checkpoint)

end RouterView.Db
