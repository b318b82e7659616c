/-
  Poller/Engine.lean --- one counter observation of one interface.

  `persist_counter_observation` of `poller/engine.rs`: the choice of the
  baseline, the classification of the interval as an exact sample or a gap, and
  the transaction that records it.  The monotonic clock is a number of
  nanoseconds.  A storage call either commits, or fails without effect, or
  commits and loses its acknowledgement; which of the three happens is an
  argument, so that a run can quantify over it.

  Scope: one interface that is registered already, and counters that have been read; both
  are the tick's (`Poller/ExactTraffic.lean`).  Left out: the log lines.
-/
import RouterView.Db.Commit
import RouterView.Poller.Transform

set_option autoImplicit false

namespace RouterView.Poller

open RouterView.Foundation
open RouterView.Db

/-! ## Data -/

/-- `EXACT_TRAFFIC_SOURCE`. -/
def exactTrafficSource : String := "routeros-counter"

/-- `CounterBaseline`. -/
structure CounterBaseline where
  rxCounter : UInt64
  txCounter : UInt64
  observedAtMs : Int
  monotonic : Nat
  uptimeSeconds : Option UInt64
  bootEpochSeconds : Option Int
  rebootMarker : Option String
  memberSignature : Option String
  deriving DecidableEq, Repr

/-- `CounterObservation`. -/
structure CounterObservation where
  routerId : Int
  interfaceId : Int
  rxCounter : UInt64
  txCounter : UInt64
  observedAtMs : Int
  monotonic : Nat
  uptimeSeconds : Option UInt64
  memberSignature : Option String
  forcedGap : Option (String × String)
  deriving DecidableEq, Repr

/-- `CounterPersistenceOutcome`. -/
inductive CounterPersistenceOutcome where
  | initialized
  | exactSample
  | gap
  deriving DecidableEq, Repr

/-- The map of in-memory baselines by interface. -/
abbrev Baselines : Type := Int → Option CounterBaseline

namespace Baselines

/-- `HashMap::new`. -/
def empty : Baselines := fun _ => none

/-- `HashMap::insert`. -/
def insert (baselines : Baselines) (interfaceId : Int) (baseline : CounterBaseline) :
    Baselines :=
  fun id => if id = interfaceId then some baseline else baselines id

/-- `HashMap::remove`. -/
def remove (baselines : Baselines) (interfaceId : Int) : Baselines :=
  fun id => if id = interfaceId then none else baselines id

/-- `HashMap::retain` on the keys. -/
def retain (baselines : Baselines) (keep : Int → Bool) : Baselines :=
  fun id => if keep id then baselines id else none

@[simp] theorem insert_self (baselines : Baselines) (interfaceId : Int)
    (baseline : CounterBaseline) :
    baselines.insert interfaceId baseline interfaceId = some baseline := by
  simp [insert]

theorem insert_ne (baselines : Baselines) {interfaceId id : Int}
    (baseline : CounterBaseline) (h : id ≠ interfaceId) :
    baselines.insert interfaceId baseline id = baselines id := by
  simp [insert, h]

end Baselines

/-! ## Clocks -/

/-- `estimated_boot_epoch`. -/
def estimatedBootEpoch (observedAtMs : Int) (uptimeSeconds : Option UInt64) : Option Int :=
  uptimeSeconds.map (fun uptime =>
    satSub (observedAtMs / 1000) ((toI64? (uptime.toNat : Int)).getD i64Max))

/-- `boot_marker`. -/
def bootMarker (observedAtMs : Int) (uptimeSeconds : Option UInt64) : Option String :=
  (estimatedBootEpoch observedAtMs uptimeSeconds).map
    (fun bootEpoch => "boot-epoch:" ++ toString bootEpoch)

/-- `sampling_clocks_are_consistent`; the tolerance stays far below the top of
the range, so its saturating addition is an addition. -/
def samplingClocksAreConsistent (wallElapsedMs : Int) (monotonicElapsed : Nat) : Bool :=
  if wallElapsedMs ≤ 0 ∨ monotonicElapsed = 0 then false
  else
    let monotonicMs := (toI64? ((monotonicElapsed / 1000000 : Nat) : Int)).getD i64Max
    decide ((wallElapsedMs - monotonicMs).natAbs ≤ 250 + monotonicMs.natAbs / 100)

/-- `Duration::as_secs_f64`. -/
def asSecsF64 (elapsed : Nat) : F64 := .finite ((elapsed : Rat) / 1000000000)

/-! ## Classification of an interval -/

/-- `baseline_from_observation`. -/
def baselineFromObservation (observation : CounterObservation)
    (rebootMarker : Option String) : CounterBaseline where
  rxCounter := observation.rxCounter
  txCounter := observation.txCounter
  observedAtMs := observation.observedAtMs
  monotonic := observation.monotonic
  uptimeSeconds := observation.uptimeSeconds
  bootEpochSeconds := estimatedBootEpoch observation.observedAtMs observation.uptimeSeconds
  rebootMarker := rebootMarker
  memberSignature := observation.memberSignature

/-- The checkpoint that an observation submits. -/
def checkpointOf (observation : CounterObservation) (marker : Option String) :
    CounterCheckpointInput where
  routerId := observation.routerId
  interfaceId := observation.interfaceId
  rxCounter := toString observation.rxCounter
  txCounter := toString observation.txCounter
  observedAtMs := observation.observedAtMs
  rebootMarker := marker

/-- The boot marker of the observation itself. -/
def currentMarker (observation : CounterObservation) : Option String :=
  bootMarker observation.observedAtMs observation.uptimeSeconds

/-- The two boot epochs are more than five seconds apart. -/
def bootEpochMoved (previous current : Option Int) : Bool :=
  match previous, current with
  | some previous, some current => decide (5 < (previous - current).natAbs)
  | _, _ => false

/-- The router restarted between the baseline and the observation. -/
def rebooted (previous : CounterBaseline) (observation : CounterObservation) : Bool :=
  uptimeDecreased previous.uptimeSeconds observation.uptimeSeconds ||
    bootEpochMoved previous.bootEpochSeconds
      (estimatedBootEpoch observation.observedAtMs observation.uptimeSeconds)

/-- The boot marker that the observation hands on: a boot keeps its first one. -/
def nextMarker (previous : CounterBaseline) (observation : CounterObservation) :
    Option String :=
  if rebooted previous observation then currentMarker observation
  else previous.rebootMarker.or (currentMarker observation)

/-- `saturating_duration_since`: zero when the clock went back. -/
def monotonicElapsed (previous : CounterBaseline) (observation : CounterObservation) : Nat :=
  observation.monotonic - previous.monotonic

/-- The elapsed wall-clock milliseconds. -/
def wallElapsedMs (previous : CounterBaseline) (observation : CounterObservation) : Int :=
  satSub observation.observedAtMs previous.observedAtMs

/-- The rate of one of the two counters over the interval. -/
def intervalRate (previous : CounterBaseline) (observation : CounterObservation)
    (previousCounter currentCounter : UInt64) : CounterRate :=
  calculateCounterRate (some previousCounter) currentCounter previous.uptimeSeconds
    observation.uptimeSeconds (some (asSecsF64 (monotonicElapsed previous observation)))

/-- The rate of the received bytes. -/
def rxRate (previous : CounterBaseline) (observation : CounterObservation) : CounterRate :=
  intervalRate previous observation previous.rxCounter observation.rxCounter

/-- The rate of the sent bytes. -/
def txRate (previous : CounterBaseline) (observation : CounterObservation) : CounterRate :=
  intervalRate previous observation previous.txCounter observation.txCounter

/-- The two deltas and the two speeds of the interval. -/
structure ExactDeltas where
  downloadBytes : Int
  uploadBytes : Int
  downloadBps : F64
  uploadBps : F64
  deriving DecidableEq, Repr

/-- The deltas, when both counters have one that fits a column. -/
def exactDeltas (rx tx : CounterRate) : Option ExactDeltas := do
  let rxDelta ← rx.deltaBytes
  let txDelta ← tx.deltaBytes
  let rxBps ← rx.bitsPerSecond
  let txBps ← tx.bitsPerSecond
  let downloadBytes ← toI64? (rxDelta.toNat : Int)
  let uploadBytes ← toI64? (txDelta.toNat : Int)
  return ⟨downloadBytes, uploadBytes, rxBps, txBps⟩

/-- The interval was watched without interruption: same members, no forced gap,
no restart, both uptimes known and both clocks in agreement. -/
def watched (previous : CounterBaseline) (observation : CounterObservation) : Bool :=
  decide (previous.memberSignature = observation.memberSignature) &&
    observation.forcedGap.isNone &&
    !rebooted previous observation &&
    (previous.uptimeSeconds.isSome && observation.uptimeSeconds.isSome) &&
    samplingClocksAreConsistent (wallElapsedMs previous observation)
      (monotonicElapsed previous observation)

/-- The reason and the details of the gap, in the order in which they are tried. -/
def gapReason (previous : CounterBaseline) (observation : CounterObservation) :
    String × String :=
  if previous.memberSignature ≠ observation.memberSignature then
    ("wan_membership_changed", "aggregate WAN interface membership changed")
  else
    match observation.forcedGap with
    | some forcedGap => forcedGap
    | none =>
        if ¬ (previous.uptimeSeconds.isSome && observation.uptimeSeconds.isSome) then
          ("uptime_unavailable", "router uptime was unavailable for reboot detection")
        else if rebooted previous observation then
          ("router_rebooted", "router uptime decreased between samples")
        else if ¬ samplingClocksAreConsistent (wallElapsedMs previous observation)
            (monotonicElapsed previous observation) then
          ("clock_discontinuity", "wall-clock and monotonic sample intervals diverged")
        else if (rxRate previous observation).transition = .reset
            ∨ (txRate previous observation).transition = .reset then
          ("counter_reset", "one or more interface counters decreased")
        else if (rxRate previous observation).transition = .invalidElapsed
            ∨ (txRate previous observation).transition = .invalidElapsed then
          ("invalid_elapsed", "counter sample elapsed time was invalid")
        else
          ("counter_discontinuity",
            "counter delta could not be represented as an exact SQLite integer")

/-- The exact sample between a baseline and an observation. -/
def exactSample (previous : CounterBaseline) (observation : CounterObservation)
    (deltas : ExactDeltas) : TrafficSampleInput where
  routerId := observation.routerId
  interfaceId := observation.interfaceId
  startedAtMs := previous.observedAtMs
  endedAtMs := observation.observedAtMs
  durationMs := wallElapsedMs previous observation
  downloadBytes := deltas.downloadBytes
  uploadBytes := deltas.uploadBytes
  downloadBps := deltas.downloadBps
  uploadBps := deltas.uploadBps
  quality := .exact
  source := exactTrafficSource

/-- The gap between a baseline and an observation. -/
def intervalGap (previous : CounterBaseline) (observation : CounterObservation) :
    TrafficGapInput where
  routerId := observation.routerId
  interfaceId := some observation.interfaceId
  startedAtMs := previous.observedAtMs
  endedAtMs := observation.observedAtMs
  reason := (gapReason previous observation).1
  details := some (gapReason previous observation).2

/-- The gap between a stored checkpoint and the first observation of a process. -/
def restartGap (existing : CounterCheckpoint) (observation : CounterObservation) :
    TrafficGapInput where
  routerId := observation.routerId
  interfaceId := some observation.interfaceId
  startedAtMs := existing.observedAtMs
  endedAtMs := observation.observedAtMs
  reason := "poller_discontinuity"
  details := some "counter baseline was unavailable in the current process"

/-- What the interval between a baseline and an observation is recorded as. -/
inductive IntervalRecord where
  | sample (deltas : ExactDeltas)
  | gap
  deriving DecidableEq, Repr

/-- The classification of the interval. -/
def classifyInterval (previous : CounterBaseline) (observation : CounterObservation) :
    IntervalRecord :=
  if watched previous observation then
    match exactDeltas (rxRate previous observation) (txRate previous observation) with
    | some deltas => .sample deltas
    | none => .gap
  else .gap

/-! ## Storage -/

/-- What becomes of one storage call. -/
inductive StorageOutcome where
  | committed
  | failed
  | acknowledgementLost
  deriving DecidableEq, Repr

/-- A transaction under an outcome: what the caller sees and what is durable. -/
def StorageOutcome.run {α : Type} (outcome : StorageOutcome)
    (transaction : TrafficDb → DatabaseResult (α × TrafficDb)) (db : TrafficDb) :
    DatabaseResult α × TrafficDb :=
  match outcome with
  | .failed => (.error .sqlite, db)
  | .committed =>
      match transaction db with
      | .ok (a, db') => (.ok a, db')
      | .error e => (.error e, db)
  | .acknowledgementLost =>
      match transaction db with
      | .ok (_, db') => (.error .sqlite, db')
      | .error e => (.error e, db)

/-- The outcomes of the storage calls of one observation, in their order: the
initialisation of the checkpoint, its reload, and the final commit. -/
structure StorageOutcomes where
  initialization : StorageOutcome
  readFails : Bool
  commit : StorageOutcome
  deriving DecidableEq, Repr

/-- No call fails and no acknowledgement is lost. -/
def StorageOutcomes.allCommitted : StorageOutcomes := ⟨.committed, false, .committed⟩

/-- Every call that takes effect is acknowledged. -/
def StorageOutcomes.Acknowledged (outcomes : StorageOutcomes) : Prop :=
  outcomes.initialization ≠ .acknowledgementLost ∧ outcomes.commit ≠ .acknowledgementLost

instance (outcomes : StorageOutcomes) : Decidable outcomes.Acknowledged :=
  inferInstanceAs (Decidable (_ ∧ _))

/-! ## The observation -/

/-- The database and the baselines of the running process. -/
structure PollerState where
  db : TrafficDb
  baselines : Baselines

/-- Run the transaction that records the observation; the baseline advances only
when the caller sees it succeed. -/
def recordObservation {α : Type} (outcome : StorageOutcome)
    (transaction : TrafficDb → DatabaseResult (α × TrafficDb))
    (observation : CounterObservation) (marker : Option String)
    (result : CounterPersistenceOutcome) (s : PollerState) :
    DatabaseResult CounterPersistenceOutcome × PollerState :=
  match outcome.run transaction s.db with
  | (.error e, db) => (.error e, { s with db := db })
  | (.ok _, db) =>
      (.ok result,
        { db := db,
          baselines := s.baselines.insert observation.interfaceId
            (baselineFromObservation observation marker) })

/-- The message of a sample that is not newer than what it follows. -/
def staleMessage (observedAtMs : Int) (what : String) (latest : Int) : String :=
  "counter sample timestamp " ++ toString observedAtMs ++ " does not advance " ++ what ++
    " " ++ toString latest

/-- The stored checkpoint is the observation itself. -/
def reobserves (existing : CounterCheckpoint) (observation : CounterObservation) : Bool :=
  decide (observation.observedAtMs = existing.observedAtMs
    ∧ existing.rxCounter = toString observation.rxCounter
    ∧ existing.txCounter = toString observation.txCounter
    ∧ existing.rebootMarker = currentMarker observation)

/-- `persist_counter_observation` once a stored checkpoint made the
initialisation a no-op. -/
def resumeFromCheckpoint (outcomes : StorageOutcomes) (observation : CounterObservation)
    (s : PollerState) : DatabaseResult CounterPersistenceOutcome × PollerState :=
  if outcomes.readFails then (.error .sqlite, s)
  else
    match s.db.checkpointFor observation.routerId observation.interfaceId with
    | none =>
        (.error (.verification
          "counter checkpoint disappeared after initialization conflict"), s)
    | some existing =>
        if reobserves existing observation then
          (.ok .initialized,
            { s with
              baselines := s.baselines.insert observation.interfaceId
                (baselineFromObservation observation (currentMarker observation)) })
        else if observation.observedAtMs ≤ existing.observedAtMs then
          (.error (.verification
            (staleMessage observation.observedAtMs "checkpoint" existing.observedAtMs)), s)
        else
          recordObservation outcomes.commit
            (commitGapAndCheckpoint (restartGap existing observation)
              (checkpointOf observation (currentMarker observation)))
            observation (currentMarker observation) .gap s

/-- `persist_counter_observation` without a baseline. -/
def persistFirstObservation (outcomes : StorageOutcomes) (observation : CounterObservation)
    (s : PollerState) : DatabaseResult CounterPersistenceOutcome × PollerState :=
  match outcomes.initialization.run
      (initializeCheckpointIfAbsent (checkpointOf observation (currentMarker observation)))
      s.db with
  | (.error e, db) => (.error e, { s with db := db })
  | (.ok true, db) =>
      (.ok .initialized,
        { db := db,
          baselines := s.baselines.insert observation.interfaceId
            (baselineFromObservation observation (currentMarker observation)) })
  | (.ok false, db) => resumeFromCheckpoint outcomes observation { s with db := db }

/-- `persist_counter_observation` against a baseline. -/
def persistNextObservation (outcomes : StorageOutcomes) (previous : CounterBaseline)
    (observation : CounterObservation) (s : PollerState) :
    DatabaseResult CounterPersistenceOutcome × PollerState :=
  if observation.observedAtMs ≤ previous.observedAtMs then
    (.error (.verification
      (staleMessage observation.observedAtMs "baseline" previous.observedAtMs)), s)
  else
    let marker := nextMarker previous observation
    match classifyInterval previous observation with
    | .sample deltas =>
        recordObservation outcomes.commit
          (commitSampleAndCheckpoint (exactSample previous observation deltas)
            (checkpointOf observation marker))
          observation marker .exactSample s
    | .gap =>
        recordObservation outcomes.commit
          (commitGapAndCheckpoint (intervalGap previous observation)
            (checkpointOf observation marker))
          observation marker .gap s

/-- `persist_counter_observation`. -/
def persistCounterObservation (outcomes : StorageOutcomes) (observation : CounterObservation)
    (s : PollerState) : DatabaseResult CounterPersistenceOutcome × PollerState :=
  match s.baselines observation.interfaceId with
  | none => persistFirstObservation outcomes observation s
  | some previous => persistNextObservation outcomes previous observation s

end RouterView.Poller
