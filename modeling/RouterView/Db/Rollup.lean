/-
  Db/Rollup.lean --- the rollup of raw samples into buckets.

  `rollup_exact_samples_batch` of `db/traffic_v4.rs`.  A bounded batch of
  samples, oldest first, is cut at the bucket boundaries and at the cutoff; the
  cuts are accumulated in an ordered map and written to the rollup rows; a
  sample that was used up is deleted and one that was not keeps its remainder.
  The segment budget bounds the inner loop, so it is the recursion measure.  A
  transaction either returns the database it leaves or rolls back.

  Scope: one call, on one state of the tables.  How often it is called, and with which
  cutoff, is for the poll engine (`Poller/PollTick.lean`).  Left out: the average rates of
  a rollup row, which no modelled statement reads, and `created_at_ms`.
-/
import Mathlib.Data.Prod.Lex
import Mathlib.Data.List.Sort
import RouterView.Foundation.OrdMap
import RouterView.Db.Accumulator

set_option autoImplicit false

namespace RouterView.Db

open RouterView.Foundation

/-! ## Buckets -/

/-- A bucket of the ordered map: router, interface and bucket start. -/
abbrev BucketKey : Type := Int ×ₗ Int ×ₗ Int

/-- The key of a bucket. -/
def bucketKey (routerId interfaceId bucketStartMs : Int) : BucketKey :=
  toLex (routerId, toLex (interfaceId, bucketStartMs))

/-- The router of a bucket. -/
def BucketKey.routerId (key : BucketKey) : Int := (ofLex key).1

/-- The interface of a bucket. -/
def BucketKey.interfaceId (key : BucketKey) : Int := (ofLex (ofLex key).2).1

/-- The start of a bucket. -/
def BucketKey.startMs (key : BucketKey) : Int := (ofLex (ofLex key).2).2

/-- What the batch put into a bucket, from where and up to where. -/
structure RollupBucket where
  accumulator : TrafficBucketAccumulator
  batchStartMs : Int
  accumulatedEndMs : Int
  deriving DecidableEq, Repr

/-- The entry of a bucket that a segment opens. -/
def RollupBucket.opened (segmentStart : Int) : RollupBucket :=
  ⟨.zero, segmentStart, segmentStart⟩

/-- Add one segment of a sample to a bucket; the bytes stay exact only when the
sample lies in the bucket whole. -/
def RollupBucket.addSegment (bucket : RollupBucket) (exact : Bool)
    (downloadBytes uploadBytes segmentDuration segmentEnd : Int) : RollupBucket where
  accumulator :=
    if exact then
      { bucket.accumulator with
        exactDownloadBytes := bucket.accumulator.exactDownloadBytes + downloadBytes
        exactUploadBytes := bucket.accumulator.exactUploadBytes + uploadBytes
        exactDurationMs := satAdd bucket.accumulator.exactDurationMs segmentDuration
        sampleCount := satAdd bucket.accumulator.sampleCount 1 }
    else
      { bucket.accumulator with
        estimatedDownloadBytes := bucket.accumulator.estimatedDownloadBytes + downloadBytes
        estimatedUploadBytes := bucket.accumulator.estimatedUploadBytes + uploadBytes
        estimatedDurationMs := satAdd bucket.accumulator.estimatedDurationMs segmentDuration
        sampleCount := satAdd bucket.accumulator.sampleCount 1 }
  batchStartMs := bucket.batchStartMs
  accumulatedEndMs := segmentEnd

/-- `RawTrafficRemainder`. -/
structure RawTrafficRemainder where
  id : Int
  startedAtMs : Int
  endedAtMs : Int
  downloadBytes : Int
  uploadBytes : Int
  deriving DecidableEq, Repr

/-! ## The batch -/

/-- `ROLLUP_SAMPLE_BATCH_SQL`: the order of the batch. -/
def TrafficSample.rollupLe (s t : TrafficSample) : Prop :=
  s.startedAtMs < t.startedAtMs ∨ (s.startedAtMs = t.startedAtMs ∧ s.id ≤ t.id)

instance : DecidableRel TrafficSample.rollupLe :=
  fun _ _ => inferInstanceAs (Decidable (_ ∨ _))

/-- `ROLLUP_SAMPLE_BATCH_SQL`: the oldest samples that start before the cutoff. -/
def TrafficDb.rollupSampleBatch (db : TrafficDb) (rollupEndMs : Int) (batchSize : Nat) :
    List TrafficSample :=
  ((db.trafficSamples.rows.filter (fun s => decide (s.startedAtMs < rollupEndMs))).insertionSort
    TrafficSample.rollupLe).take batchSize

/-- `validate_raw_sample_for_rollup`; the quality column holds no third value. -/
def validateRawSampleForRollup (sample : TrafficSample) : DatabaseResult Unit :=
  ensure (¬ (sample.endedAtMs ≤ sample.startedAtMs
      ∨ sample.durationMs ≠ satSub sample.endedAtMs sample.startedAtMs
      ∨ sample.downloadBytes < 0
      ∨ sample.uploadBytes < 0))
    (.verification "raw traffic sample is invalid during rollup")

/-- The state of the loop over the batch. -/
structure RollupProgress where
  buckets : OrdMap BucketKey RollupBucket
  fullyConsumed : List Int
  remainders : List RawTrafficRemainder
  remainingSegments : Nat

/-- The sample is cut by a bucket boundary or by the cutoff. -/
def splitSample (bucketSizeMs plannedConsumedEnd : Int) (sample : TrafficSample) : Bool :=
  decide (sample.startedAtMs / bucketSizeMs ≠ (plannedConsumedEnd - 1) / bucketSizeMs
    ∨ plannedConsumedEnd ≠ sample.endedAtMs)

/-- The body of the inner loop: cut the segment that starts at `segmentStart` off
the sample.  Returns where it ends, and the buckets.  The start of the bucket is an
unchecked product, which wraps around below `i64::MIN`. -/
def cutSegment (bucketSizeMs plannedConsumedEnd : Int) (sample : TrafficSample)
    (segmentStart : Int) (buckets : OrdMap BucketKey RollupBucket) :
    DatabaseResult (Int × OrdMap BucketKey RollupBucket) := do
  let bucketStart := wrapI64 (bucketFloor bucketSizeMs segmentStart)
  let bucketEnd := satAdd bucketStart bucketSizeMs
  let segmentEnd := min plannedConsumedEnd bucketEnd
  let downloadBytes ← proportionalSlice sample.downloadBytes sample.durationMs
    (satSub segmentStart sample.startedAtMs) (satSub segmentEnd sample.startedAtMs)
  let uploadBytes ← proportionalSlice sample.uploadBytes sample.durationMs
    (satSub segmentStart sample.startedAtMs) (satSub segmentEnd sample.startedAtMs)
  let segmentDuration := satSub segmentEnd segmentStart
  let key := bucketKey sample.routerId sample.interfaceId bucketStart
  let opened := RollupBucket.opened segmentStart
  ensure (¬ segmentStart < ((buckets.get? key).getD opened).accumulatedEndMs)
    (.verification "raw traffic samples overlap during rollup")
  let exact := decide (sample.quality = .exact) &&
    !splitSample bucketSizeMs plannedConsumedEnd sample
  return (segmentEnd, buckets.alter key opened (fun bucket =>
    bucket.addSegment exact downloadBytes uploadBytes segmentDuration segmentEnd))

/-- The inner loop: cut segments off the sample until the planned end or until
the budget is spent.  Returns the budget left, where it stopped, and the buckets. -/
def consumeSegments (bucketSizeMs plannedConsumedEnd : Int) (sample : TrafficSample) :
    Nat → Int → OrdMap BucketKey RollupBucket →
      DatabaseResult (Nat × Int × OrdMap BucketKey RollupBucket)
  | 0, segmentStart, buckets => .ok (0, segmentStart, buckets)
  | remaining + 1, segmentStart, buckets =>
      if segmentStart < plannedConsumedEnd then do
        let (segmentEnd, buckets') ← cutSegment bucketSizeMs plannedConsumedEnd sample
          segmentStart buckets
        consumeSegments bucketSizeMs plannedConsumedEnd sample remaining segmentEnd buckets'
      else .ok (remaining + 1, segmentStart, buckets)

/-- What is left of a sample that was consumed up to `consumedEnd`. -/
def remainderOf (sample : TrafficSample) (consumedEnd : Int) :
    DatabaseResult RawTrafficRemainder := do
  let consumedDownload ← proportionalSlice sample.downloadBytes sample.durationMs 0
    (satSub consumedEnd sample.startedAtMs)
  let consumedUpload ← proportionalSlice sample.uploadBytes sample.durationMs 0
    (satSub consumedEnd sample.startedAtMs)
  return {
    id := sample.id
    startedAtMs := consumedEnd
    endedAtMs := sample.endedAtMs
    downloadBytes := sample.downloadBytes - consumedDownload
    uploadBytes := sample.uploadBytes - consumedUpload }

/-- The body of the outer loop. -/
def consumeSample (beforeMs bucketSizeMs : Int) (sample : TrafficSample)
    (progress : RollupProgress) : DatabaseResult RollupProgress := do
  validateRawSampleForRollup sample
  let plannedConsumedEnd := min sample.endedAtMs beforeMs
  if plannedConsumedEnd ≤ sample.startedAtMs then return progress
  else
    let (remaining, consumedEnd, buckets) ← consumeSegments bucketSizeMs plannedConsumedEnd
      sample progress.remainingSegments sample.startedAtMs progress.buckets
    if consumedEnd = sample.endedAtMs then
      return { progress with
        buckets := buckets
        remainingSegments := remaining
        fullyConsumed := progress.fullyConsumed ++ [sample.id] }
    else
      let remainder ← remainderOf sample consumedEnd
      return { progress with
        buckets := buckets
        remainingSegments := remaining
        remainders := progress.remainders ++ [remainder] }

/-- The outer loop: stops when the batch or the budget is exhausted. -/
def consumeSamples (beforeMs bucketSizeMs : Int) :
    List TrafficSample → RollupProgress → DatabaseResult RollupProgress
  | [], progress => .ok progress
  | sample :: rest, progress =>
      if progress.remainingSegments = 0 then .ok progress
      else do
        let progress' ← consumeSample beforeMs bucketSizeMs sample progress
        consumeSamples beforeMs bucketSizeMs rest progress'

/-! ## The writes -/

/-- The row that a bucket submits. -/
def rollupRow (bucketSizeMs : Int) (key : BucketKey) (bucket : RollupBucket) (id : Int) :
    TrafficRollup where
  id := id
  routerId := key.routerId
  interfaceId := key.interfaceId
  bucketStartMs := key.startMs
  bucketEndMs := bucket.accumulatedEndMs
  bucketSizeMs := bucketSizeMs
  exactDownloadBytes := bucket.accumulator.exactDownloadBytes
  exactUploadBytes := bucket.accumulator.exactUploadBytes
  estimatedDownloadBytes := bucket.accumulator.estimatedDownloadBytes
  estimatedUploadBytes := bucket.accumulator.estimatedUploadBytes
  exactDurationMs := bucket.accumulator.exactDurationMs
  estimatedDurationMs := bucket.accumulator.estimatedDurationMs
  sampleCount := bucket.accumulator.sampleCount
  source := "raw-rollup"

/-- The two rows have the same unique key. -/
def TrafficRollup.conflicts (excluded stored : TrafficRollup) : Bool :=
  decide (stored.routerId = excluded.routerId ∧ stored.interfaceId = excluded.interfaceId
    ∧ stored.bucketSizeMs = excluded.bucketSizeMs
    ∧ stored.bucketStartMs = excluded.bucketStartMs ∧ stored.source = excluded.source)

/-- The condition of the conflict clause: the coverage fits the bucket, the
batch starts where the stored coverage ended or later, and no sum overflows. -/
def TrafficRollup.mergeable (excluded : TrafficRollup) (batchStartMs : Int)
    (stored : TrafficRollup) : Bool :=
  decide (stored.exactDurationMs + stored.estimatedDurationMs
        + excluded.exactDurationMs + excluded.estimatedDurationMs ≤ excluded.bucketSizeMs
    ∧ batchStartMs ≥ stored.bucketEndMs
    ∧ stored.exactDownloadBytes ≤ i64Max - excluded.exactDownloadBytes
    ∧ stored.exactUploadBytes ≤ i64Max - excluded.exactUploadBytes
    ∧ stored.estimatedDownloadBytes ≤ i64Max - excluded.estimatedDownloadBytes
    ∧ stored.estimatedUploadBytes ≤ i64Max - excluded.estimatedUploadBytes
    ∧ stored.sampleCount ≤ i64Max - excluded.sampleCount)

/-- The update of the conflict clause. -/
def TrafficRollup.merge (excluded stored : TrafficRollup) : TrafficRollup :=
  { stored with
    exactDownloadBytes := stored.exactDownloadBytes + excluded.exactDownloadBytes
    exactUploadBytes := stored.exactUploadBytes + excluded.exactUploadBytes
    estimatedDownloadBytes := stored.estimatedDownloadBytes + excluded.estimatedDownloadBytes
    estimatedUploadBytes := stored.estimatedUploadBytes + excluded.estimatedUploadBytes
    exactDurationMs := stored.exactDurationMs + excluded.exactDurationMs
    estimatedDurationMs := stored.estimatedDurationMs + excluded.estimatedDurationMs
    sampleCount := stored.sampleCount + excluded.sampleCount
    bucketEndMs := max stored.bucketEndMs excluded.bucketEndMs }

/-- The upsert of a rollup row, with the number of rows it changed. -/
def upsertRollup (row : Int → TrafficRollup) (batchStartMs : Int)
    (rollups : Table TrafficRollup) : Nat × Table TrafficRollup :=
  let excluded := row 0
  if rollups.rows.any (fun stored => excluded.conflicts stored) then
    rollups.useKey.updateWhere
      (fun stored => excluded.conflicts stored && excluded.mergeable batchStartMs stored)
      (fun stored => excluded.merge stored)
  else (1, rollups.insert row)

/-- Write one bucket. -/
def writeBucket (bucketSizeMs : Int) (entry : BucketKey × RollupBucket)
    (rollups : Table TrafficRollup) : DatabaseResult (Table TrafficRollup) := do
  let accumulator := entry.2.accumulator
  ensure (IsI64 accumulator.exactDownloadBytes)
    (.verification "rollup download byte total overflowed SQLite")
  ensure (IsI64 accumulator.exactUploadBytes)
    (.verification "rollup upload byte total overflowed SQLite")
  ensure (IsI64 accumulator.estimatedDownloadBytes)
    (.verification "estimated rollup download byte total overflowed SQLite")
  ensure (IsI64 accumulator.estimatedUploadBytes)
    (.verification "estimated rollup upload byte total overflowed SQLite")
  let coveredDuration := satAdd accumulator.exactDurationMs accumulator.estimatedDurationMs
  ensure (¬ (coveredDuration ≤ 0 ∨ coveredDuration > bucketSizeMs))
    (.verification "rollup bucket contains invalid or overlapping sample coverage")
  let (changed, rollups') := upsertRollup (rollupRow bucketSizeMs entry.1 entry.2)
    entry.2.batchStartMs rollups
  ensure (changed = 1)
    (.verification "rollup bucket update violates coverage ordering or integer limits")
  return rollups'

/-- The rate of `bytes` over `durationMs`. -/
def remainderBps (bytes durationMs : Int) : F64 := .finite ((bytes : Rat) * 8000 / durationMs)

/-- A sample cut down to its remainder. -/
def RawTrafficRemainder.applyTo (remainder : RawTrafficRemainder) (sample : TrafficSample) :
    TrafficSample :=
  let durationMs := satSub remainder.endedAtMs remainder.startedAtMs
  { sample with
    startedAtMs := remainder.startedAtMs
    durationMs := durationMs
    downloadBytes := remainder.downloadBytes
    uploadBytes := remainder.uploadBytes
    downloadBps := remainderBps remainder.downloadBytes durationMs
    uploadBps := remainderBps remainder.uploadBytes durationMs
    quality := .estimated }

/-- Write one remainder. -/
def writeRemainder (remainder : RawTrafficRemainder) (samples : Table TrafficSample) :
    DatabaseResult (Table TrafficSample) := do
  ensure (IsI64 remainder.downloadBytes)
    (.verification "raw download remainder overflowed SQLite")
  ensure (IsI64 remainder.uploadBytes)
    (.verification "raw upload remainder overflowed SQLite")
  let (changed, samples') := samples.updateWhere (fun s => decide (s.id = remainder.id))
    remainder.applyTo
  ensure (changed = 1)
    (.verification "raw traffic remainder disappeared during rollup")
  return samples'

/-- Delete one consumed sample. -/
def deleteConsumed (id : Int) (samples : Table TrafficSample) :
    DatabaseResult (Table TrafficSample) := do
  let (changed, samples') := samples.deleteWhere (fun s => decide (s.id = id))
  ensure (changed = 1)
    (.verification "raw traffic sample disappeared during rollup")
  return samples'

/-- Run a fallible write for every element, in order. -/
def writeAll {α β : Type} (write : α → β → DatabaseResult β) :
    List α → β → DatabaseResult β
  | [], b => .ok b
  | a :: rest, b => do
      let b' ← write a b
      writeAll write rest b'

/-- `rollup_exact_samples_batch`: the number of deleted samples and the result. -/
def rollupExactSamplesBatch (beforeMs bucketSizeMs : Int) (batchSize : Nat)
    (db : TrafficDb) : DatabaseResult (Nat × TrafficDb) := do
  ensure (¬ bucketSizeMs ≤ 0) (.invalidCommand "rollup bucket size must be positive")
  ensure (batchSize * 2 < 2 ^ 64)
    (.invalidCommand "rollup segment budget exceeds process limits")
  ensure (IsI64 batchSize) (.invalidCommand "rollup batch size exceeds SQLite limits")
  ensure (¬ batchSize = 0) (.invalidCommand "rollup batch size must be positive")
  let samples := db.rollupSampleBatch beforeMs batchSize
  let progress ← consumeSamples beforeMs bucketSizeMs samples
    ⟨OrdMap.empty, [], [], batchSize * 2⟩
  let rollups ← writeAll (writeBucket bucketSizeMs) progress.buckets.entries db.trafficRollups
  let remained ← writeAll writeRemainder progress.remainders db.trafficSamples
  let kept ← writeAll deleteConsumed progress.fullyConsumed remained
  return (progress.fullyConsumed.length,
    { db with trafficSamples := kept, trafficRollups := rollups })

end RouterView.Db
