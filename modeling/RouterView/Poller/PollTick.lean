/-
  Poller/PollTick.lean --- a tick of the poll engine.

  `poll_tick` of `poller/engine.rs` with `fetch_and_transform`,
  `switch_router_scope` and `monthly_usage_gb_v4`, as far as they touch the
  traffic tables and the readiness: the router of an answer is resolved, its
  counters are recorded, the usage of the month is queried, and every sixtieth
  snapshot the old samples are rolled up and old history is deleted.  The
  snapshot itself, the live histories and the broadcasts are left out.

  Scope: what a tick does to the traffic tables, in its order, and which of its calls are
  reported.  The live points of the dashboard are in `Ws/LiveHistory.lean`, the connection
  and the loop around the ticks in `Poller/Supervision.lean`, the probes in
  `Poller/Probes.lean`.  The time that a tick takes is left out: its instants come with
  the answer.
-/
import RouterView.Config.Merged
import RouterView.Db.Query
import RouterView.Db.Retention
import RouterView.Db.Rollup
import RouterView.Db.Routers
import RouterView.Foundation.Instants
import RouterView.Foundation.Run
import RouterView.Poller.ExactTraffic

set_option autoImplicit false

namespace RouterView.Poller

open RouterView.Config
open RouterView.Foundation
open RouterView.Db

/-! ## Maintenance -/

/-- `ROLLUP_SAMPLE_BATCH_SIZE`. -/
def rollupSampleBatchSize : Nat := 10000

/-- `RETENTION_DELETE_BATCH_SIZE`. -/
def retentionDeleteBatchSize : Nat := 10000

/-- `rollup_exact_samples`. -/
def rollupExactSamples (beforeMs bucketSizeMs : Int) (db : TrafficDb) :
    DatabaseResult (Nat × TrafficDb) :=
  rollupExactSamplesBatch beforeMs bucketSizeMs rollupSampleBatchSize db

/-- `prune_exact_history`. -/
def pruneExactHistory (beforeMs : Int) (db : TrafficDb) : DatabaseResult (Nat × TrafficDb) :=
  pruneExactHistoryBatch beforeMs retentionDeleteBatchSize db

/-- The number of snapshots between two maintenance runs. -/
def maintenancePeriod : Nat := 60

/-- The size of the buckets that the maintenance fills. -/
def maintenanceBucketMs : Int := 60000

/-- The instant that lies a number of days back. -/
def daysBefore (nowMs : Int) (days : UInt64) : Int :=
  satSub nowMs (satMul (wrapI64 days.toNat) 86400000)

/-! ## The usage of the month -/

/-- `DateTime::<Utc>::MIN_UTC`, in milliseconds. -/
def minUtcMs : Int := -8334601228800000

/-- `DateTime::<Utc>::MAX_UTC`, in milliseconds. -/
def maxUtcMs : Int := 8210266876799999

/-- `str::parse::<f64>` on a text of digits. -/
def parseDigitsF64 (s : String) : Option F64 := (parseUnsigned s).map (fun n => .finite n)

/-- The division by `1_000_000_000.0`. -/
def gigabytes : F64 → F64
  | .finite bytes => .finite (bytes / 1000000000)
  | x => x

/-- The query for the current month. -/
def monthQuery (routerId aggregateInterfaceId nowMs : Int) : TrafficQuery where
  routerId := routerId
  interfaceId := aggregateInterfaceId
  fromMs := monthStartMs nowMs
  toMs := nowMs
  maxPoints := 1

/-- `monthly_usage_gb_v4`. -/
def monthlyUsageGbV4 (db : TrafficDb) (routerId aggregateInterfaceId nowMs : Int) :
    DatabaseResult F64 := do
  ensure (minUtcMs ≤ nowMs ∧ nowMs ≤ maxUtcMs)
    (.verification "counter sample contains an invalid Unix timestamp")
  if nowMs ≤ monthStartMs nowMs then return .finite 0
  else
    let result ← queryTrafficV4 db (monthQuery routerId aggregateInterfaceId nowMs)
    let download ← okOr (parseDigitsF64 result.totals.downloadBytes)
      (.verification "invalid monthly download total")
    let upload ← okOr (parseDigitsF64 result.totals.uploadBytes)
      (.verification "invalid monthly upload total")
    return gigabytes (download.add upload)

/-! ## Reports -/

/-- What a tick reports about the storage. -/
inductive StorageError where
  | routerIdentity (error : DatabaseError)
  | persistence (error : DatabaseError)
  | exactTraffic (error : ExactTrafficError)
  | monthlyQuery (error : DatabaseError)
  | rollup (error : DatabaseError)
  | retention (error : DatabaseError)
  deriving DecidableEq, Repr

/-- The text of a report, given those of the database errors. -/
def StorageError.text (display : DatabaseError → String) : StorageError → String
  | .routerIdentity error => s!"router identity persistence failed: {display error}"
  | .persistence error => s!"traffic persistence failed: {display error}"
  | .exactTraffic error => error.text display
  | .monthlyQuery error => s!"monthly traffic query failed: {display error}"
  | .rollup error => s!"traffic rollup failed: {display error}"
  | .retention error => s!"traffic retention failed: {display error}"

/-- The report of a call that may fail. -/
def reported {α : Type} (report : DatabaseError → StorageError) : DatabaseResult α →
    List StorageError
  | .ok _ => []
  | .error error => [report error]

/-- The readiness after a tick that had a connection. -/
inductive TickReadiness where
  | ready
  | storageFailure (errors : List StorageError)
  | pollFailure
  deriving DecidableEq, Repr

/-- `mark_ready` or `mark_storage_failure`. -/
def readinessOf (errors : List StorageError) : TickReadiness :=
  if errors.isEmpty then .ready else .storageFailure errors

/-! ## The engine -/

/-- An answer of the router, with the outcomes of what the tick does with it.  The
sample time was read from the system clock as a `DateTime<Utc>`. -/
structure Poll where
  internalUuid : String
  hardwareIdentity : Option String
  data : RouterData
  wanNames : List String
  resolution : StorageOutcome
  storage : TickOutcomes
  queryFails : Bool
  transforms : Bool
  maintenanceMs : Int
  rollup : StorageOutcome
  retention : StorageOutcome
  dated : minUtcMs ≤ data.counterSampleTime.unixMs ∧ data.counterSampleTime.unixMs ≤ maxUtcMs

/-- `sampled_at_ms`. -/
def Poll.sampledAtMs (poll : Poll) : Int := poll.data.counterSampleTime.unixMs

/-- The fields of `PollEngine` that the traffic accounting uses, with the database. -/
structure PollEngine where
  poller : PollerState
  activeRouterId : Option Int
  pollCount : Nat
  maintenanceErrors : List StorageError

namespace PollEngine

/-- `PollEngine::new`. -/
def new (db : TrafficDb) : PollEngine := ⟨⟨db, Baselines.empty⟩, none, 0, []⟩

/-- `switch_router_scope`. -/
def switchRouterScope (routerId : Int) (e : PollEngine) : PollEngine :=
  if e.activeRouterId = some routerId then e
  else
    { e with
      poller := { e.poller with baselines := Baselines.empty }
      activeRouterId := some routerId }

/-- The branch of `fetch_and_transform` for a router that could not be resolved. -/
def leaveRouterScope (e : PollEngine) : PollEngine :=
  match e.activeRouterId with
  | none => e
  | some _ =>
      { e with
        poller := { e.poller with baselines := Baselines.empty }
        activeRouterId := none }

/-- The call that resolves the router of an answer. -/
def routerCall (config : MergedConfig) (poll : Poll) : RouterCall where
  internalUuid := poll.internalUuid
  hardwareIdentity := poll.hardwareIdentity
  fallbackTarget := config.routerHost
  observedAtMs := poll.sampledAtMs

/-- What recording an answer left: the reports, and the router and the aggregate
interface, when the counters were recorded. -/
structure StoredPoll where
  errors : List StorageError
  aggregate : Option (Int × Int)
  deriving DecidableEq, Repr

/-- `fetch_and_transform`, up to the usage of the month. -/
def storePoll (config : MergedConfig) (poll : Poll) (e : PollEngine) :
    StoredPoll × PollEngine :=
  match poll.resolution.run (resolveRouter (routerCall config poll)) e.poller.db with
  | (.error error, db) =>
      (⟨[.routerIdentity error], none⟩,
        leaveRouterScope { e with poller := { e.poller with db := db } })
  | (.ok router, db) =>
      let entered := switchRouterScope router.id { e with poller := { e.poller with db := db } }
      match persistExactTraffic poll.storage router.id poll.data poll.wanNames entered.poller with
      | (.error error, poller) =>
          (⟨[.persistence error], none⟩, { entered with poller := poller })
      | (.ok result, poller) =>
          (⟨result.errors.map .exactTraffic, some (router.id, result.aggregateInterfaceId)⟩,
            { entered with poller := poller })

/-- The query of a tick; the storage engine may fail to read. -/
def monthlyUsage (poll : Poll) (routerId aggregateInterfaceId : Int) (db : TrafficDb) :
    DatabaseResult F64 :=
  if poll.queryFails then .error .sqlite
  else monthlyUsageGbV4 db routerId aggregateInterfaceId poll.sampledAtMs

/-- The fields of `PollSnapshot` that the accounting fills. -/
structure PollSnapshot where
  monthlyUsageGb : F64
  storageErrors : List StorageError
  deriving DecidableEq, Repr

/-- `fetch_and_transform`: no snapshot when the transformation fails. -/
def fetchAndTransform (config : MergedConfig) (poll : Poll) (e : PollEngine) :
    Option PollSnapshot × PollEngine :=
  let (stored, e') := storePoll config poll e
  let usage := stored.aggregate.map
    (fun aggregate => monthlyUsage poll aggregate.1 aggregate.2 e'.poller.db)
  let snapshot : PollSnapshot :=
    { monthlyUsageGb := ((usage.bind Except.toOption).getD (.finite 0))
      storageErrors := stored.errors ++ usage.elim [] (reported .monthlyQuery) }
  (if poll.transforms then some snapshot else none, e')

/-- The rollup and the deletion of old history. -/
def maintain (config : MergedConfig) (poll : Poll) (e : PollEngine) : PollEngine :=
  let (rolled, rolledDb) := poll.rollup.run
    (rollupExactSamples (daysBefore poll.maintenanceMs config.dbRawRetentionDays)
      maintenanceBucketMs) e.poller.db
  let (pruned, prunedDb) := poll.retention.run
    (pruneExactHistory (daysBefore poll.maintenanceMs config.dbTotalRetentionDays)) rolledDb
  { e with
    poller := { e.poller with db := prunedDb }
    maintenanceErrors := reported .rollup rolled ++ reported .retention pruned }

/-- Count a snapshot, and maintain the tables when it is time. -/
def countSnapshot (config : MergedConfig) (poll : Poll) (e : PollEngine) : PollEngine :=
  let counted := { e with pollCount := e.pollCount + 1 }
  if counted.pollCount % maintenancePeriod = 0 then maintain config poll counted else counted

/-- `poll_tick`, with a connection. -/
def pollTick (config : MergedConfig) (poll : Poll) (e : PollEngine) :
    TickReadiness × PollEngine :=
  match fetchAndTransform config poll e with
  | (none, e') => (.pollFailure, e')
  | (some snapshot, e') =>
      let counted := countSnapshot config poll e'
      (readinessOf (snapshot.storageErrors ++ counted.maintenanceErrors), counted)

/-! ## Runs -/

/-- What happens to the engine: an answer of the router, a tick without a connection or
without an answer, or a restart of the process. -/
inductive Event where
  | poll (poll : Poll)
  | missed
  | restart

variable (connects : String → Bool)

/-- One event.  There is a client, and so an answer, only for a host that
`RouterOsClient` accepts. -/
def step (config : MergedConfig) (e : PollEngine) : Event → PollEngine
  | .poll poll => if connects config.routerHost then (pollTick config poll e).2 else e
  | .missed => e
  | .restart => new e.poller.db

/-- The sample time of an event. -/
def Event.sampledAtMs : Event → Option Int
  | .poll answer => some answer.sampledAtMs
  | .missed => none
  | .restart => none

/-- The sample times of a run. -/
def sampleTimes (events : List Event) : List Int := events.filterMap Event.sampledAtMs

/-- The engine after a run on a new database. -/
def after (config : MergedConfig) (events : List Event) : PollEngine :=
  run (step connects config) (new TrafficDb.empty) events

end PollEngine

/-! ## A deployment -/

/-- A deployment whose router is at the host. -/
def deployedAt (host : String) : MergedConfig where
  revision := 0
  routerType := .routerOs
  routerHost := host
  routerPort := 443
  routerScheme := "https"
  routerUsername := "admin"
  routerPassword := "secret"
  acceptInvalidCerts := false
  pollIntervalSecs := 5
  probeIntervalSecs := 30
  serverPort := 8080
  dbRawRetentionDays := 7
  dbTotalRetentionDays := 90
  theme := "system"
  latencyGoodMs := 50
  latencyPoorMs := 150
  routerManagementCidrs := []
  allowInsecureRouterHttp := false

end RouterView.Poller
