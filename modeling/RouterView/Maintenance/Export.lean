/-
  Maintenance/Export.lean --- the export in the legacy format.

  `export_legacy` of `db/maintenance.rs`: a new database with the two legacy rate
  tables, a table of quality labels and the plain tables.  A rate row is kept
  here as the stored row that it was selected from; its columns are functions of
  that row (`rateRow`, and `qualityRow` for its label), so an exported rate can be
  traced to what it was computed from.

  Rates are computed in double precision, from bytes that are converted first.  A
  live row counts as imported from a legacy row when it is the row that the import
  makes of it, bytes included.

  Left out: the check of the free space, the temporary file and its renaming, the
  check of the finished file, and the manifest.
-/
import RouterView.Foundation.KeyedTable
import RouterView.Foundation.Text
import RouterView.Db.LegacyImport
import RouterView.Maintenance.Restore

set_option autoImplicit false

namespace RouterView.Maintenance

open RouterView.Foundation
open RouterView.Db (LegacyPoint LegacyMinute LegacyTraffic TrafficSample TrafficRollup TrafficDb
  RouterInterfaceRecord wanOrEmpty)

/-! ## The source database -/

/-- A row of `config`. -/
structure ConfigRow where
  key : String
  value : String
  deriving DecidableEq, Repr

/-- A row of `device_overrides`. -/
structure DeviceOverrideRow where
  mac : String
  customName : Option String
  customType : Option String
  updatedAt : Int
  deriving DecidableEq, Repr

/-- A row of `probe_targets`. -/
structure ProbeTargetRow where
  id : Int
  name : String
  host : String
  category : String
  sortOrder : Int
  deriving DecidableEq, Repr

/-- The tables that the export reads. -/
structure SourceDb where
  userVersion : Int
  legacy : LegacyTraffic
  traffic : TrafficDb
  config : List ConfigRow
  deviceOverrides : List DeviceOverrideRow
  probeTargets : List ProbeTargetRow
  deriving DecidableEq, Repr

/-- `pragma_foreign_key_check` over the traffic tables: one violation for each
reference to a missing row. -/
def foreignKeyViolations (db : TrafficDb) : Nat :=
  let noRouter : Int → Bool := fun id => db.routers.rows.all (fun r => decide (r.id ≠ id))
  let noInterface : Int → Bool :=
    fun id => db.routerInterfaces.rows.all (fun i => decide (i.id ≠ id))
  db.routerInterfaces.rows.countP (fun i => noRouter i.routerId) +
    db.trafficSamples.rows.countP (fun s => noRouter s.routerId) +
    db.trafficSamples.rows.countP (fun s => noInterface s.interfaceId) +
    db.trafficRollups.rows.countP (fun r => noRouter r.routerId) +
    db.trafficRollups.rows.countP (fun r => noInterface r.interfaceId) +
    db.counterCheckpoints.countP (fun c => noRouter c.routerId) +
    db.counterCheckpoints.countP (fun c => noInterface c.interfaceId) +
    db.trafficGaps.rows.countP (fun g => noRouter g.routerId) +
    db.trafficGaps.rows.countP (fun g => g.interfaceId.any noInterface)

/-- `check_database`, for a file that the storage engine finds intact: the
`user_version` of the report. -/
def checkDatabase (source : SourceDb) : Except DatabaseError Int := do
  ensure (foreignKeyViolations source.traffic = 0)
    (.integrity (toString (foreignKeyViolations source.traffic) ++ " foreign-key violations"))
  return source.userVersion

/-! ## Rate rows -/

/-- `table_name`. -/
inductive RateTable where
  | trafficPoints
  | traffic1m
  deriving DecidableEq, Repr

/-- The text of `table_name`. -/
def RateTable.text : RateTable → String
  | .trafficPoints => "traffic_points"
  | .traffic1m => "traffic_1m"

/-- `quality`, constrained to these three values. -/
inductive RateQuality where
  | exact
  | estimated
  | mixed
  deriving DecidableEq, Repr

/-- The primary key of a label; the rate tables use its last two columns. -/
structure RateKey where
  tableName : RateTable
  timestampMs : Int
  wanName : String
  deriving DecidableEq, Repr

/-- What a rate row is selected from.  A sample or a rollup comes joined with its
interface. -/
inductive StoredRow where
  | point (point : LegacyPoint)
  | minute (minute : LegacyMinute)
  | sample (sample : TrafficSample) (interface : RouterInterfaceRecord)
  | rollup (rollup : TrafficRollup) (interface : RouterInterfaceRecord)
  deriving DecidableEq, Repr

/-- `CASE WHEN interface.kind = 'aggregate' THEN '' ELSE interface.name END`. -/
def legacyWanName (interface : RouterInterfaceRecord) : String :=
  if interface.kind = "aggregate" then "" else interface.name

namespace StoredRow

/-- The key that the row maps to. -/
def key : StoredRow → RateKey
  | point p => ⟨.trafficPoints, p.ts, wanOrEmpty p.wanName⟩
  | minute m => ⟨.traffic1m, m.bucket, wanOrEmpty m.wanName⟩
  | sample s i => ⟨.trafficPoints, s.endedAtMs, legacyWanName i⟩
  | rollup r i => ⟨.traffic1m, r.bucketStartMs, legacyWanName i⟩

/-- `bytes * 8000.0 / duration`. -/
def bitsPerSecond (bytes duration : Int) : F64 :=
  ((F64.ofRat bytes).mul (.finite 8000)).div (F64.ofRat duration)

/-- The download rate column. -/
def download : StoredRow → F64
  | point p => p.downloadBps
  | minute m => m.downloadAvg
  | sample s _ => bitsPerSecond s.downloadBytes s.durationMs
  | rollup r _ => bitsPerSecond (r.exactDownloadBytes + r.estimatedDownloadBytes)
      (max 1 (r.exactDurationMs + r.estimatedDurationMs))

/-- The upload rate column. -/
def upload : StoredRow → F64
  | point p => p.uploadBps
  | minute m => m.uploadAvg
  | sample s _ => bitsPerSecond s.uploadBytes s.durationMs
  | rollup r _ => bitsPerSecond (r.exactUploadBytes + r.estimatedUploadBytes)
      (max 1 (r.exactDurationMs + r.estimatedDurationMs))

/-- The quality of the row, which its label carries. -/
def quality : StoredRow → RateQuality
  | point _ => .estimated
  | minute _ => .estimated
  | sample s _ => if s.quality = .exact then .exact else .estimated
  | rollup r _ =>
      if r.exactDurationMs > 0 ∧ r.estimatedDurationMs > 0 then .mixed
      else if r.exactDurationMs > 0 then .exact
      else .estimated

/-- The source column of the label. -/
def source : StoredRow → String
  | point _ => "legacy-rate-history"
  | minute _ => "legacy-rate-history"
  | sample s _ => s.source
  | rollup r _ => r.source

end StoredRow

/-- A row of `traffic_points` or `traffic_1m` as written. -/
structure RateRow where
  timestampMs : Int
  download : F64
  upload : F64
  wanName : String
  deriving DecidableEq, Repr

/-- The columns of a rate row. -/
def StoredRow.rateRow (row : StoredRow) : RateRow :=
  ⟨row.key.timestampMs, row.download, row.upload, row.key.wanName⟩

/-- A row of `routerview_traffic_quality` as written. -/
structure QualityRow where
  tableName : String
  timestampMs : Int
  wanName : String
  quality : RateQuality
  source : String
  deriving DecidableEq, Repr

/-- The columns of a label. -/
def StoredRow.qualityRow (row : StoredRow) : QualityRow :=
  ⟨row.key.tableName.text, row.key.timestampMs, row.key.wanName, row.quality, row.source⟩

/-- `JOIN router_interfaces AS interface ON interface.id = interface_id`. -/
def joinInterface (db : TrafficDb) (interfaceId : Int) : Option RouterInterfaceRecord :=
  db.routerInterfaces.rows.find? (fun i => decide (i.id = interfaceId))

namespace SourceDb

/-- The rows of `traffic_points`. -/
def pointRows (source : SourceDb) : List StoredRow := source.legacy.points.map .point

/-- The rows of `traffic_1m`. -/
def minuteRows (source : SourceDb) : List StoredRow := source.legacy.minutes.map .minute

/-- The samples with their interfaces, in the order of their identifiers. -/
def sampleRows (source : SourceDb) : List StoredRow :=
  source.traffic.trafficSamples.rows.filterMap
    (fun s => (joinInterface source.traffic s.interfaceId).map (.sample s))

/-- The rollups of a minute with their interfaces, in the order of their
identifiers. -/
def rollupRows (source : SourceDb) : List StoredRow :=
  (source.traffic.trafficRollups.rows.filter (fun r => decide (r.bucketSizeMs = 60000))).filterMap
    (fun r => (joinInterface source.traffic r.interfaceId).map (.rollup r))

end SourceDb

/-! ## The export -/

/-- The text occurs in the key, letters of either case. -/
def keyContains (text : String) (row : ConfigRow) : Bool :=
  decide (text.toList <:+: (toAsciiLowercase row.key).toList)

/-- The condition of the copied configuration rows. -/
def exportsConfig (row : ConfigRow) : Bool :=
  !keyContains "password" row && !keyContains "secret" row && !keyContains "token" row

/-- The exported database. -/
structure LegacyExport where
  trafficPoints : KeyedTable StoredRow.key
  traffic1m : KeyedTable StoredRow.key
  quality : KeyedTable StoredRow.key
  config : List ConfigRow
  deviceOverrides : List DeviceOverrideRow
  probeTargets : List ProbeTargetRow
  metadata : List (String × String)

namespace LegacyExport

/-- The rows of `traffic_points`. -/
def pointTable (e : LegacyExport) : List RateRow := e.trafficPoints.rows.map StoredRow.rateRow

/-- The rows of `traffic_1m`. -/
def minuteTable (e : LegacyExport) : List RateRow := e.traffic1m.rows.map StoredRow.rateRow

/-- The rows of `routerview_traffic_quality`. -/
def qualityTable (e : LegacyExport) : List QualityRow := e.quality.rows.map StoredRow.qualityRow

end LegacyExport

/-- The label is that of the rate row. -/
structure QualityRow.Labels (label : QualityRow) (table : RateTable) (rate : RateRow) : Prop where
  tableName : label.tableName = table.text
  timestampMs : label.timestampMs = rate.timestampMs
  wanName : label.wanName = rate.wanName

/-- The error of a primary key that is taken. -/
def uniqueFailed (columns : String) : DatabaseError :=
  .sqlite .other ("UNIQUE constraint failed: " ++ columns)

/-- A statement that may fail on a key. -/
def orFailed {α : Type} (columns : String) : Option α → Except DatabaseError α
  | some a => .ok a
  | none => .error (uniqueFailed columns)

theorem orFailed_eq_ok {α : Type} {columns : String} {x : Option α} {a : α} :
    orFailed columns x = .ok a ↔ x = some a := by
  cases x with
  | none => simp [orFailed]
  | some b => simp [orFailed]

/-- The statements of the transaction. -/
def exportTables (source : SourceDb) (sourceVersion : Int) :
    Except DatabaseError LegacyExport := do
  let points ← orFailed "traffic_points.ts, traffic_points.wan_name"
    (KeyedTable.empty.insertAll source.pointRows)
  let minutes ← orFailed "traffic_1m.bucket, traffic_1m.wan_name"
    (KeyedTable.empty.insertAll source.minuteRows)
  let labels ← orFailed "routerview_traffic_quality.table_name, timestamp_ms, wan_name"
    (KeyedTable.empty.insertAll (source.pointRows ++ source.minuteRows))
  return {
    trafficPoints := points.insertAllOrIgnore source.sampleRows
    traffic1m := minutes.insertAllOrIgnore source.rollupRows
    quality := (labels.insertAllOrReplace source.sampleRows).insertAllOrReplace source.rollupRows
    config := source.config.filter exportsConfig
    deviceOverrides := source.deviceOverrides
    probeTargets := source.probeTargets
    metadata := [("format", "routerview-legacy-v2"),
      ("traffic_notice",
        "Legacy rate rows are estimated unless routerview_traffic_quality says exact."),
      ("source_user_version", toString sourceVersion)] }

/-- `export_legacy`. -/
def exportLegacy (destination : String) (destinationExists : Bool) (source : SourceDb) :
    Except DatabaseError LegacyExport := do
  let sourceVersion ← checkDatabase source
  ensure (destinationExists = false)
    (.invalidCommand ("export destination already exists: " ++ destination))
  exportTables source sourceVersion

/-! ## Fidelity -/

/-- The stored row was imported from the legacy row. -/
def ImportedFrom : StoredRow → StoredRow → Prop
  | .point p, .sample s _ =>
      ∃ previousTs, s.toTrafficSampleInput =
        Db.legacySample s.routerId s.interfaceId p previousTs
  | .minute m, .rollup r _ => r = Db.legacyRollup r.routerId r.interfaceId m r.id
  | _, _ => False

/-- The rate row in the table under the row's key stands for the row. -/
def Appears (table : KeyedTable StoredRow.key) (row : StoredRow) : Prop :=
  ∃ written, table.get? row.key = some written ∧
    KeyedTable.StandsFor ImportedFrom written row

/-- Every rate row has a label, and every label of a rate row has the quality of what
the rate was computed from; and every sample and every rollup of a minute appears. -/
structure LegacyExport.Faithful (source : SourceDb) (e : LegacyExport) : Prop where
  labelledPoints : ∀ rate ∈ e.pointTable, ∃ label ∈ e.qualityTable,
    label.Labels .trafficPoints rate
  labelledMinutes : ∀ rate ∈ e.minuteTable, ∃ label ∈ e.qualityTable,
    label.Labels .traffic1m rate
  quality : ∀ row ∈ e.trafficPoints.rows ++ e.traffic1m.rows, ∀ label ∈ e.qualityTable,
    label.Labels row.key.tableName row.rateRow → label.quality = row.quality
  samples : ∀ s ∈ source.traffic.trafficSamples.rows,
    ∃ i, joinInterface source.traffic s.interfaceId = some i ∧
      Appears e.trafficPoints (.sample s i)
  rollups : ∀ r ∈ source.traffic.trafficRollups.rows, r.bucketSizeMs = 60000 →
    ∃ i, joinInterface source.traffic r.interfaceId = some i ∧
      Appears e.traffic1m (.rollup r i)

end RouterView.Maintenance
