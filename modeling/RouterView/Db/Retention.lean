/-
  Db/Retention.lean --- the deletion of old history.

  `prune_exact_history` of `db/traffic_v4.rs`: one bounded batch of each history
  table, oldest rows first.  The checkpoints stay.
-/
import Mathlib.Data.List.Sort
import RouterView.Db.Types

set_option autoImplicit false

namespace RouterView.Db

open RouterView.Foundation

/-- The order of a batch: by end, then by identifier. -/
def retentionLe {α : Type} (endMs id : α → Int) (a b : α) : Prop :=
  endMs a < endMs b ∨ (endMs a = endMs b ∧ id a ≤ id b)

instance {α : Type} (endMs id : α → Int) : DecidableRel (retentionLe endMs id) :=
  fun _ _ => inferInstanceAs (Decidable (_ ∨ _))

/-- The identifiers of a batch: `PRUNE_TRAFFIC_SAMPLES_BATCH_SQL` and its siblings. -/
def retentionBatch {α : Type} (endMs id : α → Int) (beforeMs : Int) (batchSize : Nat)
    (t : Table α) : List Int :=
  (((t.rows.filter (fun r => decide (endMs r ≤ beforeMs))).insertionSort
    (retentionLe endMs id)).take batchSize).map id

/-- Delete one batch of a table, with the number of deleted rows. -/
def pruneTable {α : Type} (endMs id : α → Int) (beforeMs : Int) (batchSize : Nat)
    (t : Table α) : Nat × Table α :=
  t.deleteWhere (fun r => decide (id r ∈ retentionBatch endMs id beforeMs batchSize t))

/-- `prune_exact_history_batch`: the number of deleted rows and the result. -/
def pruneExactHistoryBatch (beforeMs : Int) (batchSize : Nat) (db : TrafficDb) :
    DatabaseResult (Nat × TrafficDb) := do
  ensure (IsI64 batchSize) (.invalidCommand "retention batch size exceeds SQLite limits")
  ensure (¬ batchSize = 0) (.invalidCommand "retention batch size must be positive")
  let (samples, trafficSamples) := pruneTable (fun s => s.endedAtMs) (fun s => s.id) beforeMs
    batchSize db.trafficSamples
  let (rollups, trafficRollups) := pruneTable (fun r => r.bucketEndMs) (fun r => r.id) beforeMs
    batchSize db.trafficRollups
  let (gaps, trafficGaps) := pruneTable (fun g => g.endedAtMs) (fun g => g.id) beforeMs
    batchSize db.trafficGaps
  return (min (samples + rollups + gaps) (2 ^ 64 - 1),
    { db with
      trafficSamples := trafficSamples
      trafficRollups := trafficRollups
      trafficGaps := trafficGaps })

/-- A successful deletion keeps some rows of each table, and everything else. -/
structure Pruned (db db' : TrafficDb) : Prop where
  samples : ∃ keep, db'.trafficSamples = (db.trafficSamples.deleteWhere keep).2
  rollups : ∃ keep, db'.trafficRollups = (db.trafficRollups.deleteWhere keep).2
  gaps : ∃ keep, db'.trafficGaps = (db.trafficGaps.deleteWhere keep).2
  frame : db' = { db with
    trafficSamples := db'.trafficSamples
    trafficRollups := db'.trafficRollups
    trafficGaps := db'.trafficGaps }

theorem pruneExactHistoryBatch_ok {beforeMs : Int} {batchSize n : Nat} {db db' : TrafficDb}
    (h : pruneExactHistoryBatch beforeMs batchSize db = .ok (n, db')) : Pruned db db' := by
  unfold pruneExactHistoryBatch at h
  obtain ⟨_, h⟩ := ensure_bind_eq_ok_iff.mp h
  obtain ⟨_, h⟩ := ensure_bind_eq_ok_iff.mp h
  simp only [pruneTable, pure_eq_ok, Except.ok.injEq, Prod.mk.injEq] at h
  rw [← h.2]
  exact ⟨⟨_, rfl⟩, ⟨_, rfl⟩, ⟨_, rfl⟩, rfl⟩

theorem Pruned.sample_mem {db db' : TrafficDb} (h : Pruned db db') {s : TrafficSample}
    (hs : s ∈ db'.trafficSamples.rows) : s ∈ db.trafficSamples.rows := by
  obtain ⟨keep, hsamples⟩ := h.samples
  rw [hsamples] at hs
  exact List.mem_of_mem_filter hs

theorem Pruned.rollup_mem {db db' : TrafficDb} (h : Pruned db db') {r : TrafficRollup}
    (hr : r ∈ db'.trafficRollups.rows) : r ∈ db.trafficRollups.rows := by
  obtain ⟨keep, hrollups⟩ := h.rollups
  rw [hrollups] at hr
  exact List.mem_of_mem_filter hr

/-- Without a row before the cutoff there is nothing to delete. -/
theorem pruneTable_of_none {α : Type} {endMs id : α → Int} {beforeMs : Int} {batchSize : Nat}
    {t : Table α} (hyoung : ∀ r ∈ t.rows, beforeMs < endMs r) :
    pruneTable endMs id beforeMs batchSize t = (0, t) := by
  have hfilter : t.rows.filter (fun r => decide (endMs r ≤ beforeMs)) = [] :=
    List.filter_eq_nil_iff.mpr (fun r hr hbefore =>
      absurd (of_decide_eq_true hbefore) (not_le.mpr (hyoung r hr)))
  unfold pruneTable retentionBatch
  rw [hfilter]
  simp [Table.deleteWhere]

theorem pruneExactHistoryBatch_of_none {beforeMs : Int} {batchSize : Nat} {db : TrafficDb}
    (hbatch : IsI64 batchSize) (hpositive : ¬ batchSize = 0)
    (hsamples : ∀ x ∈ db.trafficSamples.rows, beforeMs < x.endedAtMs)
    (hrollups : ∀ r ∈ db.trafficRollups.rows, beforeMs < r.bucketEndMs)
    (hgaps : ∀ g ∈ db.trafficGaps.rows, beforeMs < g.endedAtMs) :
    pruneExactHistoryBatch beforeMs batchSize db = .ok (0, db) := by
  unfold pruneExactHistoryBatch
  rw [ensure_of hbatch, ok_bind, ensure_of hpositive, ok_bind]
  simp only [pruneTable_of_none hsamples, pruneTable_of_none hrollups, pruneTable_of_none hgaps]
  rfl

end RouterView.Db
