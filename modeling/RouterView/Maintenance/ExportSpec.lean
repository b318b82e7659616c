/-
  Maintenance/ExportSpec.lean --- when the legacy export is faithful.

  The rate tables are filled with `OR IGNORE` and the labels with `OR REPLACE`,
  so a rate comes from the first row of its key and its label from the last.
  The two agree, and no row is lost, exactly when a key is shared only by a
  legacy row and the rows that were imported from it.
-/
import RouterView.Maintenance.Export

set_option autoImplicit false

namespace RouterView.Maintenance

open RouterView.Foundation
open RouterView.Db (LegacyPoint LegacyMinute LegacyTraffic TrafficSample TrafficRollup TrafficDb
  RouterRecord RouterInterfaceRecord)
open RouterView.Foundation.KeyedTable (firstOf lastOf firstOf_append lastOf_append
  firstOf_eq_none lastOf_eq_none mem_of_firstOf mem_of_get? firstOf_of_mem lastOf_of_mem
  Kept Apart StandsFor kept_iff_apart)

/-! ## Imported rows -/

theorem ImportedFrom.quality_eq (row other : StoredRow) (h : ImportedFrom row other) :
    row.quality = other.quality := by
  cases row with
  | point p =>
      cases other with
      | sample s i =>
          obtain ⟨previousTs, hs⟩ := h
          have hquality : s.quality = .estimated := by rw [hs]; rfl
          simp [StoredRow.quality, hquality]
      | point _ => exact h.elim
      | minute _ => exact h.elim
      | rollup _ _ => exact h.elim
  | minute m =>
      cases other with
      | rollup r i =>
          have hexact : r.exactDurationMs = 0 := by rw [h]; rfl
          simp [StoredRow.quality, hexact]
      | point _ => exact h.elim
      | minute _ => exact h.elim
      | sample _ _ => exact h.elim
  | sample _ _ => exact h.elim
  | rollup _ _ => exact h.elim

/-! ## Legacy rows and live rows -/

/-- The row is a row of a legacy table. -/
def StoredRow.isLegacy : StoredRow → Bool
  | .point _ => true
  | .minute _ => true
  | .sample _ _ => false
  | .rollup _ _ => false

theorem ImportedFrom.isLegacy {row other : StoredRow} (h : ImportedFrom row other) :
    row.isLegacy = true := by
  cases row with
  | point _ => rfl
  | minute _ => rfl
  | sample _ _ => exact h.elim
  | rollup _ _ => exact h.elim

namespace SourceDb

variable {source : SourceDb} {row : StoredRow}

theorem mem_pointRows (h : row ∈ source.pointRows) :
    row.isLegacy = true ∧ row.key.tableName = .trafficPoints := by
  obtain ⟨p, -, rfl⟩ := List.mem_map.mp h
  exact ⟨rfl, rfl⟩

theorem mem_minuteRows (h : row ∈ source.minuteRows) :
    row.isLegacy = true ∧ row.key.tableName = .traffic1m := by
  obtain ⟨m, -, rfl⟩ := List.mem_map.mp h
  exact ⟨rfl, rfl⟩

theorem mem_sampleRows_iff : row ∈ source.sampleRows ↔
    ∃ s ∈ source.traffic.trafficSamples.rows, ∃ i,
      joinInterface source.traffic s.interfaceId = some i ∧ row = .sample s i := by
  simp only [sampleRows, List.mem_filterMap, Option.map_eq_some_iff]
  constructor
  · rintro ⟨s, hs, i, hi, rfl⟩
    exact ⟨s, hs, i, hi, rfl⟩
  · rintro ⟨s, hs, i, hi, rfl⟩
    exact ⟨s, hs, i, hi, rfl⟩

theorem mem_rollupRows_iff : row ∈ source.rollupRows ↔
    ∃ r ∈ source.traffic.trafficRollups.rows, r.bucketSizeMs = 60000 ∧ ∃ i,
      joinInterface source.traffic r.interfaceId = some i ∧ row = .rollup r i := by
  simp only [rollupRows, List.mem_filterMap, List.mem_filter, decide_eq_true_eq,
    Option.map_eq_some_iff]
  constructor
  · rintro ⟨r, ⟨hr, hsize⟩, i, hi, rfl⟩
    exact ⟨r, hr, hsize, i, hi, rfl⟩
  · rintro ⟨r, hr, hsize, i, hi, rfl⟩
    exact ⟨r, ⟨hr, hsize⟩, i, hi, rfl⟩

theorem mem_sampleRows (h : row ∈ source.sampleRows) :
    row.isLegacy = false ∧ row.key.tableName = .trafficPoints := by
  obtain ⟨s, -, i, -, rfl⟩ := mem_sampleRows_iff.mp h
  exact ⟨rfl, rfl⟩

theorem mem_rollupRows (h : row ∈ source.rollupRows) :
    row.isLegacy = false ∧ row.key.tableName = .traffic1m := by
  obtain ⟨r, -, -, i, -, rfl⟩ := mem_rollupRows_iff.mp h
  exact ⟨rfl, rfl⟩

/-- A key of one rate table is not the key of a row of the other. -/
theorem lastOf_minuteRows_of_points {k : RateKey} (hk : k.tableName = .trafficPoints) :
    lastOf StoredRow.key k source.minuteRows = none ∧
      lastOf StoredRow.key k source.rollupRows = none := by
  refine ⟨lastOf_eq_none.mpr ?_, lastOf_eq_none.mpr ?_⟩
  · rintro row hrow rfl
    rw [(mem_minuteRows hrow).2] at hk
    cases hk
  · rintro row hrow rfl
    rw [(mem_rollupRows hrow).2] at hk
    cases hk

theorem lastOf_pointRows_of_minutes {k : RateKey} (hk : k.tableName = .traffic1m) :
    lastOf StoredRow.key k source.pointRows = none ∧
      lastOf StoredRow.key k source.sampleRows = none := by
  refine ⟨lastOf_eq_none.mpr ?_, lastOf_eq_none.mpr ?_⟩
  · rintro row hrow rfl
    rw [(mem_pointRows hrow).2] at hk
    cases hk
  · rintro row hrow rfl
    rw [(mem_sampleRows hrow).2] at hk
    cases hk

end SourceDb

/-! ## What a checked database promises -/

theorem joinInterface_of_checked {db : TrafficDb} {interfaceId : Int}
    (h : db.routerInterfaces.rows.all (fun i => decide (i.id ≠ interfaceId)) = false) :
    ∃ i, joinInterface db interfaceId = some i := by
  cases hjoin : joinInterface db interfaceId with
  | some i => exact ⟨i, rfl⟩
  | none =>
      have hall : db.routerInterfaces.rows.all (fun i => decide (i.id ≠ interfaceId)) = true := by
        rw [List.all_eq_true]
        intro i hi
        have hnone := List.find?_eq_none.mp hjoin i hi
        simpa using hnone
      rw [hall] at h
      cases h

theorem joins_sample {db : TrafficDb} (h : foreignKeyViolations db = 0) {s : TrafficSample}
    (hs : s ∈ db.trafficSamples.rows) : ∃ i, joinInterface db s.interfaceId = some i := by
  have hzero : db.trafficSamples.rows.countP
      (fun s => db.routerInterfaces.rows.all (fun i => decide (i.id ≠ s.interfaceId))) = 0 := by
    simp only [foreignKeyViolations] at h
    omega
  exact joinInterface_of_checked (by simpa using List.countP_eq_zero.mp hzero s hs)

theorem joins_rollup {db : TrafficDb} (h : foreignKeyViolations db = 0) {r : TrafficRollup}
    (hr : r ∈ db.trafficRollups.rows) : ∃ i, joinInterface db r.interfaceId = some i := by
  have hzero : db.trafficRollups.rows.countP
      (fun r => db.routerInterfaces.rows.all (fun i => decide (i.id ≠ r.interfaceId))) = 0 := by
    simp only [foreignKeyViolations] at h
    omega
  exact joinInterface_of_checked (by simpa using List.countP_eq_zero.mp hzero r hr)

/-! ## What an export holds -/

/-- A rate table holds the first row of each key and the label table the last one. -/
structure Exported (source : SourceDb) (e : LegacyExport) : Prop where
  checked : foreignKeyViolations source.traffic = 0
  pointKeys : (source.pointRows.map StoredRow.key).Nodup
  minuteKeys : (source.minuteRows.map StoredRow.key).Nodup
  trafficPoints : ∀ k,
    e.trafficPoints.get? k = firstOf StoredRow.key k (source.pointRows ++ source.sampleRows)
  traffic1m : ∀ k,
    e.traffic1m.get? k = firstOf StoredRow.key k (source.minuteRows ++ source.rollupRows)
  quality : ∀ k, e.quality.get? k = lastOf StoredRow.key k
    ((source.pointRows ++ source.minuteRows) ++ source.sampleRows ++ source.rollupRows)

/-- A batch inserted into the empty table. -/
theorem insertAll_empty {batch : List StoredRow} {t : KeyedTable StoredRow.key}
    (h : KeyedTable.empty.insertAll batch = some t) : t.rows = batch := by
  rw [KeyedTable.rows_insertAll h]
  rfl

theorem exportLegacy_ok {destination : String} {destinationExists : Bool} {source : SourceDb}
    {e : LegacyExport} (h : exportLegacy destination destinationExists source = .ok e) :
    Exported source e := by
  unfold exportLegacy checkDatabase exportTables at h
  simp only [bind_eq_ok_iff, ensure_eq_ok_iff, pure_eq_ok, Except.ok.injEq,
    orFailed_eq_ok] at h
  obtain ⟨_, ⟨_, hchecked, -⟩, _, -, points, hpoints, minutes, hminutes, labels, hlabels,
    rfl⟩ := h
  have hpointRows := insertAll_empty hpoints
  have hminuteRows := insertAll_empty hminutes
  have hlabelRows := insertAll_empty hlabels
  refine ⟨hchecked, ?_, ?_, ?_, ?_, ?_⟩
  · rw [← hpointRows]
    exact points.unique
  · rw [← hminuteRows]
    exact minutes.unique
  · intro k
    rw [KeyedTable.get?_insertAllOrIgnore, KeyedTable.get?_eq_firstOf, hpointRows, firstOf_append]
  · intro k
    rw [KeyedTable.get?_insertAllOrIgnore, KeyedTable.get?_eq_firstOf, hminuteRows, firstOf_append]
  · intro k
    have hlast : labels.get? k =
        lastOf StoredRow.key k (source.pointRows ++ source.minuteRows) := by
      rw [← hlabelRows]
      cases hfind : labels.get? k with
      | none => exact (lastOf_eq_none.mpr (firstOf_eq_none.mp hfind)).symm
      | some row =>
          have hmem := mem_of_get? hfind
          rw [← hmem.2]
          exact (lastOf_of_mem labels.unique hmem.1).symm
    simp only [KeyedTable.get?_insertAllOrReplace, hlast, lastOf_append]

/-- The export fails only on a damaged source, a taken destination or a legacy key that
occurs twice. -/
theorem exportLegacy_succeeds {destination : String} {source : SourceDb}
    (hchecked : foreignKeyViolations source.traffic = 0)
    (hpoints : (source.pointRows.map StoredRow.key).Nodup)
    (hminutes : (source.minuteRows.map StoredRow.key).Nodup) :
    ∃ e, exportLegacy destination false source = .ok e := by
  have hlabels : ((source.pointRows ++ source.minuteRows).map StoredRow.key).Nodup := by
    rw [List.map_append, List.nodup_append]
    refine ⟨hpoints, hminutes, ?_⟩
    intro k hk k' hk' heq
    obtain ⟨row, hrow, rfl⟩ := List.mem_map.mp hk
    obtain ⟨row', hrow', rfl⟩ := List.mem_map.mp hk'
    have htable := (SourceDb.mem_minuteRows hrow').2
    rw [← heq, (SourceDb.mem_pointRows hrow).2] at htable
    cases htable
  have hfresh : ∀ batch : List StoredRow, (batch.map StoredRow.key).Nodup →
      ∃ t : KeyedTable StoredRow.key, KeyedTable.empty.insertAll batch = some t :=
    fun batch hbatch => Option.isSome_iff_exists.mp (KeyedTable.insertAll_isSome hbatch)
  obtain ⟨points, hpointTable⟩ := hfresh _ hpoints
  obtain ⟨minutes, hminuteTable⟩ := hfresh _ hminutes
  obtain ⟨labels, hlabelTable⟩ := hfresh _ hlabels
  unfold exportLegacy checkDatabase exportTables
  simp only [bind_eq_ok_iff, ensure_eq_ok_iff, pure_eq_ok, Except.ok.injEq, orFailed_eq_ok]
  exact ⟨_, source.userVersion, ⟨(), hchecked, rfl⟩, (), trivial, points, hpointTable, minutes,
    hminuteTable, labels, hlabelTable, rfl⟩

/-! ## Rows as written -/

theorem RateTable.text_injective {a b : RateTable} (h : a.text = b.text) : a = b := by
  cases a <;> cases b <;> first | rfl | exact absurd h (by decide)

/-- A label is that of a rate row exactly if the rows have one key. -/
theorem StoredRow.labels_iff {label row : StoredRow} :
    label.qualityRow.Labels row.key.tableName row.rateRow ↔ label.key = row.key := by
  constructor
  · rintro ⟨htable, htime, hname⟩
    have htable' := RateTable.text_injective htable
    cases hlabel : label.key
    cases hrow : row.key
    simp only [StoredRow.qualityRow, StoredRow.rateRow, hlabel, hrow] at htable' htime hname
    rw [htable', htime, hname]
  · intro hkey
    refine ⟨?_, ?_, ?_⟩ <;> simp only [StoredRow.qualityRow, StoredRow.rateRow, hkey]

/-- The label table has a label for the row, of its quality. -/
def LegacyExport.Labelled (e : LegacyExport) (row : StoredRow) : Prop :=
  ∃ label, e.quality.get? row.key = some label ∧ label.quality = row.quality

namespace LegacyExport.Labelled

variable {e : LegacyExport} {row : StoredRow}

theorem exists_label (h : e.Labelled row) :
    ∃ label ∈ e.qualityTable, label.Labels row.key.tableName row.rateRow := by
  obtain ⟨label, hget, _⟩ := h
  obtain ⟨hmem, hkey⟩ := mem_of_get? hget
  exact ⟨label.qualityRow, List.mem_map_of_mem hmem, StoredRow.labels_iff.mpr hkey⟩

theorem quality_eq (h : e.Labelled row) {label : QualityRow} (hlabel : label ∈ e.qualityTable)
    (hlabels : label.Labels row.key.tableName row.rateRow) : label.quality = row.quality := by
  obtain ⟨stored, hstored, rfl⟩ := List.mem_map.mp hlabel
  obtain ⟨other, hget, hquality⟩ := h
  rw [← StoredRow.labels_iff.mp hlabels, KeyedTable.get?_of_mem hstored, Option.some.injEq]
    at hget
  rw [← hquality, ← hget]
  rfl

end LegacyExport.Labelled

/-! ## Labels and rates -/

namespace Exported

variable {source : SourceDb} {e : LegacyExport}

/-- The label of a point is that of the last row of its key. -/
theorem quality_of_points (h : Exported source e) {k : RateKey}
    (hk : k.tableName = .trafficPoints) :
    e.quality.get? k = lastOf StoredRow.key k (source.pointRows ++ source.sampleRows) := by
  obtain ⟨hminutes, hrollups⟩ := source.lastOf_minuteRows_of_points hk
  rw [h.quality, lastOf_append, hrollups, Option.none_or, lastOf_append, lastOf_append,
    hminutes, Option.none_or, lastOf_append]

/-- The label of a minute is that of the last row of its key. -/
theorem quality_of_minutes (h : Exported source e) {k : RateKey}
    (hk : k.tableName = .traffic1m) :
    e.quality.get? k = lastOf StoredRow.key k (source.minuteRows ++ source.rollupRows) := by
  obtain ⟨hpoints, hsamples⟩ := source.lastOf_pointRows_of_minutes hk
  rw [h.quality, lastOf_append, lastOf_append, hsamples, Option.none_or, lastOf_append,
    hpoints, Option.or_none, lastOf_append]

theorem kept_points_iff (h : Exported source e) :
    (∀ s ∈ source.traffic.trafficSamples.rows,
      ∃ i, joinInterface source.traffic s.interfaceId = some i ∧
        Appears e.trafficPoints (.sample s i)) ↔
    Kept StoredRow.key ImportedFrom source.pointRows source.sampleRows := by
  constructor
  · intro hsamples row hrow
    obtain ⟨s, hs, i, hi, rfl⟩ := SourceDb.mem_sampleRows_iff.mp hrow
    obtain ⟨j, hj, written, hwritten, hstands⟩ := hsamples s hs
    have hij : i = j := Option.some.inj (hi.symm.trans hj)
    subst hij
    exact ⟨written, (h.trafficPoints _).symm.trans hwritten, hstands⟩
  · intro hkept s hs
    obtain ⟨i, hi⟩ := joins_sample h.checked hs
    obtain ⟨first, hfirst, hstands⟩ :=
      hkept (.sample s i) (SourceDb.mem_sampleRows_iff.mpr ⟨s, hs, i, hi, rfl⟩)
    exact ⟨i, hi, first, (h.trafficPoints _).trans hfirst, hstands⟩

theorem kept_minutes_iff (h : Exported source e) :
    (∀ r ∈ source.traffic.trafficRollups.rows, r.bucketSizeMs = 60000 →
      ∃ i, joinInterface source.traffic r.interfaceId = some i ∧
        Appears e.traffic1m (.rollup r i)) ↔
    Kept StoredRow.key ImportedFrom source.minuteRows source.rollupRows := by
  constructor
  · intro hrollups row hrow
    obtain ⟨r, hr, hsize, i, hi, rfl⟩ := SourceDb.mem_rollupRows_iff.mp hrow
    obtain ⟨j, hj, written, hwritten, hstands⟩ := hrollups r hr hsize
    have hij : i = j := Option.some.inj (hi.symm.trans hj)
    subst hij
    exact ⟨written, (h.traffic1m _).symm.trans hwritten, hstands⟩
  · intro hkept r hr hsize
    obtain ⟨i, hi⟩ := joins_rollup h.checked hr
    obtain ⟨first, hfirst, hstands⟩ :=
      hkept (.rollup r i) (SourceDb.mem_rollupRows_iff.mpr ⟨r, hr, hsize, i, hi, rfl⟩)
    exact ⟨i, hi, first, (h.traffic1m _).trans hfirst, hstands⟩

theorem tableName_of_mem_points (h : Exported source e) {row : StoredRow}
    (hrow : row ∈ e.trafficPoints.rows) : row.key.tableName = .trafficPoints := by
  have hget := KeyedTable.get?_of_mem hrow
  rw [h.trafficPoints] at hget
  rcases List.mem_append.mp (mem_of_firstOf hget).1 with hmem | hmem
  · exact (SourceDb.mem_pointRows hmem).2
  · exact (SourceDb.mem_sampleRows hmem).2

theorem tableName_of_mem_minutes (h : Exported source e) {row : StoredRow}
    (hrow : row ∈ e.traffic1m.rows) : row.key.tableName = .traffic1m := by
  have hget := KeyedTable.get?_of_mem hrow
  rw [h.traffic1m] at hget
  rcases List.mem_append.mp (mem_of_firstOf hget).1 with hmem | hmem
  · exact (SourceDb.mem_minuteRows hmem).2
  · exact (SourceDb.mem_rollupRows hmem).2

/-- When no live row is lost, every rate row has a label of its quality. -/
theorem labelled (h : Exported source e)
    (hpoints : Kept StoredRow.key ImportedFrom source.pointRows source.sampleRows)
    (hminutes : Kept StoredRow.key ImportedFrom source.minuteRows source.rollupRows) :
    ∀ row ∈ e.trafficPoints.rows ++ e.traffic1m.rows, e.Labelled row := by
  intro row hrow
  unfold LegacyExport.Labelled
  rcases List.mem_append.mp hrow with hrow | hrow
  · have hget := KeyedTable.get?_of_mem hrow
    rw [h.trafficPoints] at hget
    rw [h.quality_of_points (h.tableName_of_mem_points hrow)]
    exact hpoints.agrees h.pointKeys ImportedFrom.quality_eq hget
  · have hget := KeyedTable.get?_of_mem hrow
    rw [h.traffic1m] at hget
    rw [h.quality_of_minutes (h.tableName_of_mem_minutes hrow)]
    exact hminutes.agrees h.minuteKeys ImportedFrom.quality_eq hget

/-- The same of the tables as written. -/
theorem faithful (h : Exported source e)
    (hlabelled : ∀ row ∈ e.trafficPoints.rows ++ e.traffic1m.rows, e.Labelled row)
    (hpoints : Kept StoredRow.key ImportedFrom source.pointRows source.sampleRows)
    (hminutes : Kept StoredRow.key ImportedFrom source.minuteRows source.rollupRows) :
    e.Faithful source where
  labelledPoints := by
    intro rate hrate
    obtain ⟨row, hrow, rfl⟩ := List.mem_map.mp hrate
    rw [← h.tableName_of_mem_points hrow]
    exact (hlabelled row (List.mem_append_left _ hrow)).exists_label
  labelledMinutes := by
    intro rate hrate
    obtain ⟨row, hrow, rfl⟩ := List.mem_map.mp hrate
    rw [← h.tableName_of_mem_minutes hrow]
    exact (hlabelled row (List.mem_append_right _ hrow)).exists_label
  quality := fun row hrow _ hlabel hlabels => (hlabelled row hrow).quality_eq hlabel hlabels
  samples := h.kept_points_iff.mpr hpoints
  rollups := h.kept_minutes_iff.mpr hminutes

end Exported

/-! ## Exactly when -/

/-- Two rows share a time and a name only when they are a legacy row and rows imported
from it. -/
structure SourceDb.RatesApart (source : SourceDb) : Prop where
  points : Apart StoredRow.key ImportedFrom source.pointRows source.sampleRows
  minutes : Apart StoredRow.key ImportedFrom source.minuteRows source.rollupRows

theorem faithful_iff_of_exported {source : SourceDb} {e : LegacyExport}
    (h : Exported source e) : e.Faithful source ↔ source.RatesApart := by
  have hlegacy : ∀ row other : StoredRow, row.isLegacy = true → other.isLegacy = false →
      row ≠ other := by
    rintro row other hrow hother rfl
    rw [hrow] at hother
    cases hother
  have hpoints : Kept StoredRow.key ImportedFrom source.pointRows source.sampleRows ↔
      Apart StoredRow.key ImportedFrom source.pointRows source.sampleRows :=
    kept_iff_apart h.pointKeys
      (fun row hrow hmem => hlegacy row row (SourceDb.mem_pointRows hrow).1
        (SourceDb.mem_sampleRows hmem).1 rfl)
      (fun row other himport hmem => hlegacy row row himport.isLegacy
        (SourceDb.mem_sampleRows hmem).1 rfl)
  have hminutes : Kept StoredRow.key ImportedFrom source.minuteRows source.rollupRows ↔
      Apart StoredRow.key ImportedFrom source.minuteRows source.rollupRows :=
    kept_iff_apart h.minuteKeys
      (fun row hrow hmem => hlegacy row row (SourceDb.mem_minuteRows hrow).1
        (SourceDb.mem_rollupRows hmem).1 rfl)
      (fun row other himport hmem => hlegacy row row himport.isLegacy
        (SourceDb.mem_rollupRows hmem).1 rfl)
  constructor
  · intro hfaithful
    exact ⟨hpoints.mp (h.kept_points_iff.mp hfaithful.samples),
      hminutes.mp (h.kept_minutes_iff.mp hfaithful.rollups)⟩
  · intro hapart
    have hkeptPoints := hpoints.mpr hapart.points
    have hkeptMinutes := hminutes.mpr hapart.minutes
    exact h.faithful (h.labelled hkeptPoints hkeptMinutes) hkeptPoints hkeptMinutes

/-- The only router of the databases below. -/
def onlyRouter : RouterRecord where
  id := 1
  internalUuid := "router"
  hardwareIdentity := none
  fallbackTarget := "router.lan"
  identitySource := "fallback"
  firstSeenAtMs := 60000
  lastSeenAtMs := 130000

/-- The only interface of the databases below. -/
def aggregateInterface : RouterInterfaceRecord where
  id := 1
  routerId := 1
  interfaceKey := "__aggregate__"
  name := "Aggregate"
  kind := "aggregate"
  hardwareId := none
  firstSeenAtMs := 60000
  lastSeenAtMs := 130000

/-- A database of one router. -/
def sourceWith (legacy : LegacyTraffic) (samples : List TrafficSample)
    (rollups : List TrafficRollup) : SourceDb where
  userVersion := 7
  legacy := legacy
  traffic :=
    { TrafficDb.empty with
      routers := ⟨[onlyRouter], 1⟩
      routerInterfaces := ⟨[aggregateInterface], 1⟩
      trafficSamples := ⟨samples, 2⟩
      trafficRollups := ⟨rollups, 1⟩ }
  config := [⟨"poll_interval_secs", "5"⟩, ⟨"routeros_password", "hunter2"⟩]
  deviceOverrides := []
  probeTargets := []

/-- The last legacy point. -/
def lastPoint : LegacyPoint := ⟨65000, .finite 8000, .finite 0, some ""⟩

/-- The sample imported from the last legacy point. -/
def lastPointSample : TrafficSample := { Db.legacySample 1 1 lastPoint none with id := 1 }

/-- A sample measured after the upgrade. -/
def measuredSample : TrafficSample where
  id := 2
  routerId := 1
  interfaceId := 1
  startedAtMs := 70000
  endedAtMs := 75000
  durationMs := 5000
  downloadBytes := 10000
  uploadBytes := 0
  downloadBps := .finite 16000
  uploadBps := .finite 0
  quality := .exact
  source := "routeros-counter"

/-- The database of the first minutes after the upgrade. -/
def measuredSource : SourceDb :=
  sourceWith ⟨[lastPoint], []⟩ [lastPointSample, measuredSample] []

theorem measuredSource_ratesApart : measuredSource.RatesApart := by
  refine ⟨⟨?_, ?_⟩, ⟨?_, ?_⟩⟩
  · intro row hrow other hother hkey
    obtain rfl : row = .point lastPoint := List.mem_singleton.mp hrow
    obtain ⟨s, hs, i, -, rfl⟩ := SourceDb.mem_sampleRows_iff.mp hother
    rcases List.mem_pair.mp hs with rfl | rfl
    · exact ⟨none, rfl⟩
    · cases hkey
  · intro row hrow other hother hkey hfree
    have hnodup : (measuredSource.sampleRows.map StoredRow.key).Nodup := by decide +kernel
    exact List.inj_on_of_nodup_map hnodup hrow hother hkey
  · intro row hrow
    cases hrow
  · intro row hrow
    cases hrow

/-- The rollup of the minute in which the program was upgraded. -/
def upgradedRollup : TrafficRollup where
  id := 1
  routerId := 1
  interfaceId := 1
  bucketStartMs := 60000
  bucketEndMs := 120000
  bucketSizeMs := 60000
  exactDownloadBytes := 10000
  exactUploadBytes := 0
  estimatedDownloadBytes := 5000
  estimatedUploadBytes := 0
  exactDurationMs := 5000
  estimatedDurationMs := 5000
  sampleCount := 2
  source := "raw-rollup"

/-- The legacy row of that minute. -/
def upgradedMinute : LegacyMinute := ⟨60000, .finite 8000, .finite 0, some ""⟩

/-- The database after the rollup of that minute. -/
def upgradedSource : SourceDb := sourceWith ⟨[lastPoint], [upgradedMinute]⟩ [] [upgradedRollup]

end RouterView.Maintenance
