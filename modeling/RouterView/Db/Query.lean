/-
  Db/Query.lean --- the traffic query.

  `query_traffic_v4` of `db/traffic_v4.rs` and what it calls: the validation of
  the request, the bounded summaries of the two sources, the two-way merge of
  samples and rollups, the fold into totals and point buckets, and the result.
  The connection, its read transaction and the cancellation of a query are left
  out: without a control handle they only run the function below on a snapshot.

  Scope: one query on one state of the tables.  Who may ask, how long a query may take and
  how many run at once is decided by the endpoint (`Api/Traffic.lean`); the answer to a
  query that is cancelled half-way is not a result of this function.
-/
import Mathlib.Data.Prod.Lex
import Mathlib.Data.List.Sort
import RouterView.Foundation.OrdMap
import RouterView.Db.Contribution
import RouterView.Db.Accumulator

set_option autoImplicit false

namespace RouterView.Db

open RouterView.Foundation

/-! ## Requests and results -/

/-- `TrafficQuery`. -/
structure TrafficQuery where
  routerId : Int
  interfaceId : Int
  fromMs : Int
  toMs : Int
  maxPoints : Nat
  deriving DecidableEq, Repr

/-- `TrafficBucket`: one returned point. -/
structure TrafficBucket where
  startedAtMs : Int
  endedAtMs : Int
  downloadBps : F64
  uploadBps : F64
  exactDownloadBytes : String
  exactUploadBytes : String
  estimatedDownloadBytes : String
  estimatedUploadBytes : String
  exactDurationMs : Int
  estimatedDurationMs : Int
  sampleCount : Int
  deriving DecidableEq, Repr

/-- `TrafficTotals`. -/
structure TrafficTotals where
  downloadBytes : String
  uploadBytes : String
  exactDownloadBytes : String
  exactUploadBytes : String
  estimatedDownloadBytes : String
  estimatedUploadBytes : String
  deriving DecidableEq, Repr

/-- `TrafficCoverage`. -/
structure TrafficCoverage where
  requestedDurationMs : Int
  exactDurationMs : Int
  estimatedDurationMs : Int
  coveredDurationMs : Int
  completeness : F64
  gapCount : Nat
  deriving DecidableEq, Repr

/-- `TrafficQueryResult`. -/
structure TrafficQueryResult where
  bucketSizeMs : Int
  points : List TrafficBucket
  totals : TrafficTotals
  coverage : TrafficCoverage
  deriving DecidableEq, Repr

/-- `MAX_TRAFFIC_SOURCE_ROWS`. -/
def maxTrafficSourceRows : Nat := 1000000

/-- `validate_traffic_query`. -/
def validateTrafficQuery (query : TrafficQuery) (sourceRowBudget : Nat) : DatabaseResult Unit :=
  ensure (¬ (query.toMs ≤ query.fromMs ∨ query.maxPoints = 0 ∨ query.maxPoints > 50000
      ∨ sourceRowBudget = 0))
    (.invalidCommand "traffic query requires an increasing range, 1..=50000 max_points, and a positive source-row budget")

/-! ## Sources -/

/-- The samples of the interface that intersect the range. -/
def TrafficDb.sampleSources (db : TrafficDb) (query : TrafficQuery) : List TrafficSample :=
  (db.samplesOn query.routerId query.interfaceId).filter
    (fun s => decide (s.endedAtMs > query.fromMs ∧ s.startedAtMs < query.toMs))

/-- The rollups of the interface that intersect the range. -/
def TrafficDb.rollupSources (db : TrafficDb) (query : TrafficQuery) : List TrafficRollup :=
  (db.rollupsOn query.routerId query.interfaceId).filter
    (fun r => decide (r.bucketEndMs > query.fromMs ∧ r.bucketStartMs < query.toMs))

/-- `TrafficSourceSummary`. -/
structure TrafficSourceSummary where
  rowCount : Nat
  maxDurationMs : Int
  deriving DecidableEq, Repr

/-- `usize::saturating_add(1)`. -/
def saturatingSucc (n : Nat) : Nat := min (n + 1) 18446744073709551615

/-- `bounded_source_summary`, on the durations of the rows that the statement
selects.  A difference that leaves the integers becomes a REAL in SQLite, and
reading the maximum as an integer fails. -/
def boundedSourceSummary (durations : List Int) (limit : Nat) :
    DatabaseResult TrafficSourceSummary := do
  ensure (IsI64 limit)
    (.invalidCommand "traffic source-row budget cannot be represented")
  let maxDurationMs := (durations.take limit).max?.getD 1
  ensure (IsI64 maxDurationMs) .sqlite
  return ⟨(durations.take limit).length, maxDurationMs⟩

/-- `bounded_sample_summary`. -/
def boundedSampleSummary (db : TrafficDb) (query : TrafficQuery) (limit : Nat) :
    DatabaseResult TrafficSourceSummary :=
  boundedSourceSummary ((db.sampleSources query).map (fun s => s.endedAtMs - s.startedAtMs)) limit

/-- `bounded_rollup_summary`. -/
def boundedRollupSummary (db : TrafficDb) (query : TrafficQuery) (limit : Nat) :
    DatabaseResult TrafficSourceSummary :=
  boundedSourceSummary ((db.rollupSources query).map (fun r => r.bucketEndMs - r.bucketStartMs))
    limit

/-- `plan_traffic_sources`. -/
def planTrafficSources (db : TrafficDb) (query : TrafficQuery) (sourceRowBudget : Nat) :
    DatabaseResult Int := do
  let samples ← boundedSampleSummary db query (saturatingSucc sourceRowBudget)
  ensure (¬ samples.rowCount > sourceRowBudget) (.trafficQueryTooLarge sourceRowBudget)
  let remaining := sourceRowBudget - samples.rowCount
  let rollups ← boundedRollupSummary db query (saturatingSucc remaining)
  ensure (¬ rollups.rowCount > remaining) (.trafficQueryTooLarge sourceRowBudget)
  return max (max samples.maxDurationMs rollups.maxDurationMs) 1

/-! ## Accumulation -/

/-- `TrafficBucketAccumulator::add_segment`: a contribution that lies in the
segment whole keeps its quality, a cut one is allocated in proportion and counts
as estimated. -/
def TrafficBucketAccumulator.addSegment (acc : TrafficBucketAccumulator)
    (contribution : TrafficContribution) (segmentStart segmentEnd : Int) :
    DatabaseResult TrafficBucketAccumulator := do
  let sourceDuration := contribution.durationMs
  let relativeStart := satSub segmentStart contribution.startedAtMs
  let relativeEnd := satSub segmentEnd contribution.startedAtMs
  if segmentStart = contribution.startedAtMs ∧ segmentEnd = contribution.endedAtMs then
    return {
      exactDownloadBytes := acc.exactDownloadBytes + contribution.exactDownloadBytes
      exactUploadBytes := acc.exactUploadBytes + contribution.exactUploadBytes
      estimatedDownloadBytes := acc.estimatedDownloadBytes + contribution.estimatedDownloadBytes
      estimatedUploadBytes := acc.estimatedUploadBytes + contribution.estimatedUploadBytes
      exactDurationMs := satAdd acc.exactDurationMs contribution.exactDurationMs
      estimatedDurationMs := satAdd acc.estimatedDurationMs contribution.estimatedDurationMs
      sampleCount := satAdd acc.sampleCount contribution.sampleCount }
  else
    let downloadBytes ← proportionalSlice
      (contribution.exactDownloadBytes + contribution.estimatedDownloadBytes)
      sourceDuration relativeStart relativeEnd
    let uploadBytes ← proportionalSlice
      (contribution.exactUploadBytes + contribution.estimatedUploadBytes)
      sourceDuration relativeStart relativeEnd
    let allocatedDuration ← proportionalSlice contribution.coveredDurationMs
      sourceDuration relativeStart relativeEnd
    let coveredDuration ← okOr (toI64? allocatedDuration)
      (.verification "traffic duration allocation overflowed")
    return { acc with
      estimatedDownloadBytes := acc.estimatedDownloadBytes + downloadBytes
      estimatedUploadBytes := acc.estimatedUploadBytes + uploadBytes
      estimatedDurationMs := satAdd acc.estimatedDurationMs
        (min coveredDuration (satSub segmentEnd segmentStart))
      sampleCount := satAdd acc.sampleCount contribution.sampleCount }

/-- The start of the point bucket that holds an instant of the range. -/
def pointBucketStart (query : TrafficQuery) (bucketSizeMs segmentStart : Int) : Int :=
  satAdd query.fromMs
    (satMul ((satSub segmentStart query.fromMs).tdiv bucketSizeMs) bucketSizeMs)

/-- The end of a point bucket. -/
def pointBucketEnd (query : TrafficQuery) (bucketSizeMs bucketStart : Int) : Int :=
  min (satAdd bucketStart bucketSizeMs) query.toMs

/-- The loop of `accumulate_traffic_contribution` over the point buckets.  Every
pass moves `segmentStart` by at least one or fails, so as many passes as there
are milliseconds left are never too few. -/
def addSegments (query : TrafficQuery) (bucketSizeMs : Int) (contribution : TrafficContribution)
    (clippedEnd : Int) :
    Nat → Int → OrdMap Int TrafficBucketAccumulator →
      DatabaseResult (OrdMap Int TrafficBucketAccumulator)
  | 0, _, buckets => .ok buckets
  | left + 1, segmentStart, buckets =>
      if segmentStart < clippedEnd then do
        let bucketStart := pointBucketStart query bucketSizeMs segmentStart
        let segmentEnd := min clippedEnd (pointBucketEnd query bucketSizeMs bucketStart)
        ensure (¬ segmentEnd ≤ segmentStart)
          (.verification "traffic bucket boundaries did not advance")
        let bucket ← ((buckets.get? bucketStart).getD .zero).addSegment contribution
          segmentStart segmentEnd
        addSegments query bucketSizeMs contribution clippedEnd left segmentEnd
          (buckets.alter bucketStart .zero (fun _ => bucket))
      else .ok buckets

/-- The state of the fold over the contributions. -/
structure FoldState where
  previousEnd : Option Int
  buckets : OrdMap Int TrafficBucketAccumulator
  totals : TrafficBucketAccumulator

/-- The state before the first contribution. -/
def FoldState.initial : FoldState := ⟨none, OrdMap.empty, .zero⟩

/-- `validate_traffic_contribution`. -/
def validateTrafficContribution (contribution : TrafficContribution) (previousEnd : Option Int) :
    DatabaseResult Unit := do
  ensure contribution.Valid
    (.verification "stored traffic contribution has invalid bytes, duration, or sample count")
  ensure (previousEnd.all (fun stop => !decide (contribution.startedAtMs < stop)) = true)
    (.verification "stored traffic contributions overlap for one interface")

/-- `accumulate_traffic_contribution`. -/
def accumulateTrafficContribution (query : TrafficQuery) (bucketSizeMs : Int)
    (contribution : TrafficContribution) (buckets : OrdMap Int TrafficBucketAccumulator)
    (totals : TrafficBucketAccumulator) :
    DatabaseResult (OrdMap Int TrafficBucketAccumulator × TrafficBucketAccumulator) := do
  let clippedStart := max contribution.startedAtMs query.fromMs
  let clippedEnd := min contribution.endedAtMs query.toMs
  let totals' ← totals.addSegment contribution clippedStart clippedEnd
  let buckets' ← addSegments query bucketSizeMs contribution clippedEnd
    (clippedEnd - clippedStart).toNat clippedStart buckets
  return (buckets', totals')

/-- One pass of the merge loop, after the row budget was checked. -/
def foldTrafficContribution (query : TrafficQuery) (bucketSizeMs : Int)
    (contribution : TrafficContribution) (state : FoldState) : DatabaseResult FoldState := do
  validateTrafficContribution contribution state.previousEnd
  let (buckets, totals) ← accumulateTrafficContribution query bucketSizeMs contribution
    state.buckets state.totals
  return ⟨some contribution.endedAtMs, buckets, totals⟩

/-! ## The merge of the two sources -/

/-- `TrafficContribution::order_key`. -/
def TrafficContribution.orderKey (c : TrafficContribution) : Int ×ₗ Int :=
  toLex (c.endedAtMs, c.startedAtMs)

/-- The row key of the sample statement. -/
def TrafficSample.queryKey (s : TrafficSample) : Int ×ₗ Int ×ₗ Int :=
  toLex (s.endedAtMs, toLex (s.startedAtMs, s.id))

/-- The row key of the rollup statement. -/
def TrafficRollup.queryKey (r : TrafficRollup) : Int ×ₗ Int ×ₗ Int :=
  toLex (r.bucketEndMs, toLex (r.bucketStartMs, r.id))

/-- The rows of the sample statement, in its order. -/
def TrafficDb.sampleContributions (db : TrafficDb) (query : TrafficQuery) :
    List TrafficContribution :=
  ((db.sampleSources query).insertionSort (fun s t => s.queryKey ≤ t.queryKey)).map .ofSample

/-- The rows of the rollup statement, in its order. -/
def TrafficDb.rollupContributions (db : TrafficDb) (query : TrafficQuery) :
    List TrafficContribution :=
  ((db.rollupSources query).insertionSort (fun r t => r.queryKey ≤ t.queryKey)).map .ofRollup

/-- The next contribution of the two streams: a sample goes first on a tie. -/
def nextContribution :
    List TrafficContribution → List TrafficContribution →
      Option (TrafficContribution × List TrafficContribution × List TrafficContribution)
  | [], [] => none
  | sample :: samples, [] => some (sample, samples, [])
  | [], rollup :: rollups => some (rollup, [], rollups)
  | sample :: samples, rollup :: rollups =>
      if sample.orderKey ≤ rollup.orderKey then some (sample, samples, rollup :: rollups)
      else some (rollup, sample :: samples, rollups)

/-- The merge loop of `fold_traffic_contributions`, on the rows that the budget
still allows. -/
def foldMerged (query : TrafficQuery) (bucketSizeMs : Int) (sourceRowBudget : Nat) :
    Nat → List TrafficContribution → List TrafficContribution → FoldState →
      DatabaseResult FoldState
  | 0, samples, rollups, state =>
      match nextContribution samples rollups with
      | none => .ok state
      | some _ => .error (.trafficQueryTooLarge sourceRowBudget)
  | allowed + 1, samples, rollups, state =>
      match nextContribution samples rollups with
      | none => .ok state
      | some (contribution, samples', rollups') => do
          let state' ← foldTrafficContribution query bucketSizeMs contribution state
          foldMerged query bucketSizeMs sourceRowBudget allowed samples' rollups' state'

/-- `fold_traffic_contributions`. -/
def foldTrafficContributions (db : TrafficDb) (query : TrafficQuery) (bucketSizeMs : Int)
    (sourceRowBudget : Nat) : DatabaseResult FoldState :=
  foldMerged query bucketSizeMs sourceRowBudget sourceRowBudget (db.sampleContributions query)
    (db.rollupContributions query) .initial

/-! ## The result -/

/-- The rate of `bytes` over `durationMs`. -/
def pointBps (bytes durationMs : Int) : F64 := .finite ((bytes : Rat) * 8000 / durationMs)

/-- The point of a bucket. -/
def trafficBucket (query : TrafficQuery) (bucketSizeMs : Int)
    (entry : Int × TrafficBucketAccumulator) : TrafficBucket :=
  let bucket := entry.2
  let duration := max (satAdd bucket.exactDurationMs bucket.estimatedDurationMs) 1
  { startedAtMs := entry.1
    endedAtMs := pointBucketEnd query bucketSizeMs entry.1
    downloadBps := pointBps (bucket.exactDownloadBytes + bucket.estimatedDownloadBytes) duration
    uploadBps := pointBps (bucket.exactUploadBytes + bucket.estimatedUploadBytes) duration
    exactDownloadBytes := toString bucket.exactDownloadBytes
    exactUploadBytes := toString bucket.exactUploadBytes
    estimatedDownloadBytes := toString bucket.estimatedDownloadBytes
    estimatedUploadBytes := toString bucket.estimatedUploadBytes
    exactDurationMs := bucket.exactDurationMs
    estimatedDurationMs := bucket.estimatedDurationMs
    sampleCount := bucket.sampleCount }

/-- The totals of a result. -/
def trafficTotals (totals : TrafficBucketAccumulator) : TrafficTotals where
  downloadBytes := toString (totals.exactDownloadBytes + totals.estimatedDownloadBytes)
  uploadBytes := toString (totals.exactUploadBytes + totals.estimatedUploadBytes)
  exactDownloadBytes := toString totals.exactDownloadBytes
  exactUploadBytes := toString totals.exactUploadBytes
  estimatedDownloadBytes := toString totals.estimatedDownloadBytes
  estimatedUploadBytes := toString totals.estimatedUploadBytes

/-- `(covered as f64 / range as f64).clamp(0.0, 1.0)`. -/
def completenessOf (coveredDuration range : Int) : F64 :=
  .finite (max 0 (min 1 ((coveredDuration : Rat) / range)))

/-- `build_traffic_query_result`. -/
def buildTrafficQueryResult (query : TrafficQuery) (bucketSizeMs : Int)
    (buckets : OrdMap Int TrafficBucketAccumulator) (totals : TrafficBucketAccumulator)
    (gapCount : Nat) : DatabaseResult TrafficQueryResult := do
  let range := satSub query.toMs query.fromMs
  let coveredDuration := satAdd totals.exactDurationMs totals.estimatedDurationMs
  ensure (¬ coveredDuration > range)
    (.verification s!"traffic coverage {coveredDuration}ms exceeds requested range {range}ms")
  return {
    bucketSizeMs := bucketSizeMs
    points := buckets.entries.map (trafficBucket query bucketSizeMs)
    totals := trafficTotals totals
    coverage := {
      requestedDurationMs := range
      exactDurationMs := totals.exactDurationMs
      estimatedDurationMs := totals.estimatedDurationMs
      coveredDurationMs := coveredDuration
      completeness := completenessOf coveredDuration range
      gapCount := gapCount } }

/-- The number of gaps that the range meets: those of the interface and those of
the whole router. -/
def TrafficDb.gapCount (db : TrafficDb) (query : TrafficQuery) : Nat :=
  db.trafficGaps.rows.countP (fun g =>
    decide (g.routerId = query.routerId
      ∧ (g.interfaceId = none ∨ g.interfaceId = some query.interfaceId)
      ∧ g.endedAtMs > query.fromMs ∧ g.startedAtMs < query.toMs))

/-- The smallest bucket size that keeps the number of points within the limit. -/
def minimumBucketSizeMs (query : TrafficQuery) : Int :=
  max ((satAdd (satSub query.toMs query.fromMs) ((query.maxPoints : Int) - 1)).tdiv
    query.maxPoints) 1

/-- `query_traffic_v4_on_connection`. -/
def queryTrafficV4OnConnection (db : TrafficDb) (query : TrafficQuery) (sourceRowBudget : Nat) :
    DatabaseResult TrafficQueryResult := do
  db.ensureInterfaceOwner query.routerId (some query.interfaceId)
  let sourceResolutionMs ← planTrafficSources db query sourceRowBudget
  let bucketSizeMs := max (minimumBucketSizeMs query) sourceResolutionMs
  let state ← foldTrafficContributions db query bucketSizeMs sourceRowBudget
  ensure (¬ state.buckets.entries.length > query.maxPoints)
    (.verification s!"traffic query produced {state.buckets.entries.length} points for a {query.maxPoints}-point limit")
  buildTrafficQueryResult query bucketSizeMs state.buckets state.totals (db.gapCount query)

/-- `query_traffic_v4_with_options`, without a control handle. -/
def queryTrafficV4WithOptions (db : TrafficDb) (query : TrafficQuery) (sourceRowBudget : Nat) :
    DatabaseResult TrafficQueryResult := do
  validateTrafficQuery query sourceRowBudget
  queryTrafficV4OnConnection db query sourceRowBudget

/-- `query_traffic_v4`. -/
def queryTrafficV4 (db : TrafficDb) (query : TrafficQuery) : DatabaseResult TrafficQueryResult :=
  queryTrafficV4WithOptions db query maxTrafficSourceRows

end RouterView.Db
