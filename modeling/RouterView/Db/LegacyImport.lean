/-
  Db/LegacyImport.lean --- the import of the legacy traffic tables.

  The data part of `migrate_v4_exact_traffic` of `db/schema.rs`.  A legacy point
  carries a rate and no duration: it becomes an estimated sample that reaches
  back to the previous point of its interface, at most a minute.  A legacy
  minute becomes an estimated rollup unless an imported sample meets it.  The
  identifiers of the interfaces follow the order of the wan names' first use.

  The bytes of a row are computed from its rate in double precision, with the
  rounding of every operation, as SQLite computes them.  Left out: the averages
  that a rollup keeps beside its bytes, which nothing modelled reads, and
  `created_at_ms`.
-/
import Mathlib.Data.List.Sort
import Mathlib.Data.List.Dedup
import RouterView.Db.Rollup
import RouterView.Db.Contribution

set_option autoImplicit false

namespace RouterView.Db

open RouterView.Foundation

/-! ## Legacy rows -/

/-- A row of `traffic_points`. -/
structure LegacyPoint where
  ts : Int
  downloadBps : F64
  uploadBps : F64
  wanName : Option String
  deriving DecidableEq, Repr

/-- A row of `traffic_1m`. -/
structure LegacyMinute where
  bucket : Int
  downloadAvg : F64
  uploadAvg : F64
  wanName : Option String
  deriving DecidableEq, Repr

/-- The legacy tables. -/
structure LegacyTraffic where
  points : List LegacyPoint
  minutes : List LegacyMinute
  deriving DecidableEq, Repr

/-- `COALESCE(wan_name, '')`. -/
def wanOrEmpty (wanName : Option String) : String := wanName.getD ""

/-- The interface key of a legacy wan name. -/
def legacyInterfaceKey (wanName : String) : String :=
  if wanName = "" then "__aggregate__" else "legacy:" ++ wanName

/-! ## Numbers -/

/-- `CAST(MAX(0, x) AS INTEGER)`, which saturates; a column holds no `NaN`. -/
def castNonnegative : F64 → Int
  | .nan => 0
  | .inf true => 0
  | .inf false => i64Max
  | .finite x => clampI64 (max 0 x.floor)

/-- `CAST(MAX(0, ROUND(rate * ms / 8000.0)) AS INTEGER)`. -/
def legacyPointBytes (rate : F64) (ms : Int) : Int :=
  castNonnegative ((rate.mul (.finite ms)).div (.finite 8000)).roundSql

/-- `CAST(MAX(0, ROUND(rate * 60.0 / 8.0)) AS INTEGER)`. -/
def legacyMinuteBytes (rate : F64) : Int :=
  castNonnegative ((rate.mul (.finite 60)).div (.finite 8)).roundSql

/-- `MAX(0, rate)`. -/
def nonnegativeRate (rate : F64) : F64 :=
  if rate.isNegative then .finite 0 else rate

theorem castNonnegative_nonneg (x : F64) : 0 ≤ castNonnegative x := by
  unfold castNonnegative
  split
  · exact le_refl _
  · exact le_refl _
  · simp [i64Max]
  · exact clampI64_nonneg (le_max_left _ _)

/-- The product is rounded before the quotient: 1.4 bit/s is less than that, and still
fills 10.5 bytes in a minute. -/
example : legacyPointBytes (.ofRat (7 / 5)) 60000 = 11 := by decide +kernel

example : legacyMinuteBytes (.ofRat (4 / 12)) = 3 := by decide +kernel

/-! ## Import -/

/-- The order of the window: by interface, then by time. -/
def LegacyPoint.windowLe (p r : LegacyPoint) : Prop :=
  wanOrEmpty p.wanName < wanOrEmpty r.wanName ∨
    (wanOrEmpty p.wanName = wanOrEmpty r.wanName ∧ p.ts ≤ r.ts)

instance : DecidableRel LegacyPoint.windowLe :=
  fun _ _ => inferInstanceAs (Decidable (_ ∨ _))

/-- `LAG(ts)` over points in the order of the window. -/
def withPreviousTs : Option LegacyPoint → List LegacyPoint → List (LegacyPoint × Option Int)
  | _, [] => []
  | previous, point :: rest =>
      let lag := match previous with
        | some p => if wanOrEmpty p.wanName = wanOrEmpty point.wanName then some p.ts else none
        | none => none
      (point, lag) :: withPreviousTs (some point) rest

/-- `measured_ms`. -/
def measuredMs (ts : Int) (previousTs : Option Int) : Int :=
  min 60000 (max 1 (ts - previousTs.getD (ts - 5000)))

/-- The interface of a legacy row. -/
def TrafficDb.legacyInterface (db : TrafficDb) (routerId : Int) (wanName : Option String) :
    Option RouterInterfaceRecord :=
  db.routerInterfaces.rows.find? (fun i =>
    decide (i.routerId = routerId ∧ i.interfaceKey = legacyInterfaceKey (wanOrEmpty wanName)))

/-- The sample of a legacy point. -/
def legacySample (routerId interfaceId : Int) (point : LegacyPoint) (previousTs : Option Int) :
    TrafficSampleInput :=
  let measured := measuredMs point.ts previousTs
  { routerId := routerId
    interfaceId := interfaceId
    startedAtMs := point.ts - measured
    endedAtMs := point.ts
    durationMs := measured
    downloadBytes := legacyPointBytes point.downloadBps measured
    uploadBytes := legacyPointBytes point.uploadBps measured
    downloadBps := nonnegativeRate point.downloadBps
    uploadBps := nonnegativeRate point.uploadBps
    quality := .estimated
    source := "legacy-traffic_points" }

/-- Import one point, unless its key is stored already. -/
def importPoint (routerId : Int) (db : TrafficDb) (point : LegacyPoint × Option Int) :
    TrafficDb :=
  match db.legacyInterface routerId point.1.wanName with
  | none => db
  | some i =>
      let sample := legacySample routerId i.id point.1 point.2
      if db.trafficSamples.rows.any (fun s => s.on routerId i.id
          && decide (s.endedAtMs = sample.endedAtMs ∧ s.source = sample.source)) then
        { db with trafficSamples := db.trafficSamples.useKey }
      else
        { db with trafficSamples := db.trafficSamples.insert (fun id => { sample with id := id }) }

/-- The rollup of a legacy minute. -/
def legacyRollup (routerId interfaceId : Int) (minute : LegacyMinute) (id : Int) :
    TrafficRollup where
  id := id
  routerId := routerId
  interfaceId := interfaceId
  bucketStartMs := minute.bucket
  bucketEndMs := minute.bucket + 60000
  bucketSizeMs := 60000
  exactDownloadBytes := 0
  exactUploadBytes := 0
  estimatedDownloadBytes := legacyMinuteBytes minute.downloadAvg
  estimatedUploadBytes := legacyMinuteBytes minute.uploadAvg
  exactDurationMs := 0
  estimatedDurationMs := 60000
  sampleCount := 1
  source := "legacy-traffic_1m"

/-- No imported sample of the interface meets the minute. -/
def eligibleMinute (db : TrafficDb) (routerId interfaceId : Int) (minute : LegacyMinute) : Bool :=
  !db.trafficSamples.rows.any (fun s => s.on routerId interfaceId &&
    decide (s.source = "legacy-traffic_points" ∧ s.endedAtMs > minute.bucket
      ∧ s.startedAtMs < minute.bucket + 60000))

/-- Import one minute, unless it is not eligible or its key is stored already. -/
def importMinute (routerId : Int) (db : TrafficDb) (minute : LegacyMinute) : TrafficDb :=
  match db.legacyInterface routerId minute.wanName with
  | none => db
  | some i =>
      if eligibleMinute db routerId i.id minute then
        if db.trafficRollups.rows.any (fun r => (legacyRollup routerId i.id minute 0).conflicts r)
        then { db with trafficRollups := db.trafficRollups.useKey }
        else
          { db with
            trafficRollups := db.trafficRollups.insert (legacyRollup routerId i.id minute) }
      else db

/-- The router that owns the legacy rows, registered on first use. -/
def registerLegacyRouter (nowMs : Int) (db : TrafficDb) : TrafficDb :=
  if db.routers.rows.any (fun r => decide (r.internalUuid = "routerview-legacy-unidentified"))
  then { db with routers := db.routers.useKey }
  else
    { db with
      routers := db.routers.insert (fun id =>
        { id := id, internalUuid := "routerview-legacy-unidentified",
          hardwareIdentity := none, fallbackTarget := "legacy://unidentified",
          identitySource := "legacy", firstSeenAtMs := nowMs, lastSeenAtMs := nowMs }) }

/-- The interface of a legacy wan name, registered on first use. -/
def registerLegacyInterface (nowMs routerId : Int) (db : TrafficDb) (wanName : String) :
    TrafficDb :=
  if db.routerInterfaces.rows.any (fun i =>
      decide (i.routerId = routerId ∧ i.interfaceKey = legacyInterfaceKey wanName)) then
    { db with routerInterfaces := db.routerInterfaces.useKey }
  else
    { db with
      routerInterfaces := db.routerInterfaces.insert (fun id =>
        { id := id, routerId := routerId, interfaceKey := legacyInterfaceKey wanName,
          name := if wanName = "" then "Aggregate" else wanName,
          kind := if wanName = "" then "aggregate" else "wan",
          hardwareId := none, firstSeenAtMs := nowMs, lastSeenAtMs := nowMs }) }

/-- The number of legacy minutes that should have been imported. -/
def expectedRollups (db : TrafficDb) (routerId : Int) (minutes : List LegacyMinute) : Nat :=
  minutes.countP (fun minute =>
    match db.legacyInterface routerId minute.wanName with
    | none => false
    | some i => eligibleMinute db routerId i.id minute)

/-- The import of the legacy tables. -/
def importLegacyTraffic (nowMs : Int) (legacy : LegacyTraffic) (db : TrafficDb) :
    DatabaseResult TrafficDb := do
  if legacy.points = [] ∧ legacy.minutes = [] then return db
  else
    let registered := registerLegacyRouter nowMs db
    let router ← okOr (registered.routers.rows.find? (fun r =>
      decide (r.internalUuid = "routerview-legacy-unidentified"))) .sqlite
    let wanNames := (legacy.points.map (fun p => wanOrEmpty p.wanName) ++
      legacy.minutes.map (fun m => wanOrEmpty m.wanName)).dedup
    let prepared := wanNames.foldl (registerLegacyInterface nowMs router.id) registered
    let points := withPreviousTs none (legacy.points.insertionSort LegacyPoint.windowLe)
    let pointed := points.foldl (importPoint router.id) prepared
    let imported := legacy.minutes.foldl (importMinute router.id) pointed
    let importedPoints := imported.trafficSamples.rows.countP
      (fun s => decide (s.source = "legacy-traffic_points"))
    let importedRollups := imported.trafficRollups.rows.countP
      (fun r => decide (r.source = "legacy-traffic_1m"))
    let expected := expectedRollups imported router.id legacy.minutes
    ensure (importedPoints = legacy.points.length ∧ importedRollups = expected)
      (.verification ("legacy import count mismatch: expected points=" ++
        toString legacy.points.length ++ ", eligible rollups=" ++ toString expected ++
        "; imported points=" ++ toString importedPoints ++ ", rollups=" ++
        toString importedRollups))
    return imported

end RouterView.Db
