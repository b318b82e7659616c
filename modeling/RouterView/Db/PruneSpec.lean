/-
  Db/PruneSpec.lean --- what one batch of the retention deletes.

  Of each history table a batch deletes rows that ended at or before the
  cutoff, the oldest first and no more than the batch size; a statement that
  fails takes the others back with it; and as many batches as it takes leave no
  such row.
-/
import RouterView.Foundation.Run
import RouterView.Db.Store
import RouterView.Db.Retention

set_option autoImplicit false

namespace RouterView.Db

open RouterView.Foundation

/-! ## One table -/

instance {α : Type} (endMs id : α → Int) : Std.Total (retentionLe endMs id) where
  total a b := by
    simp only [retentionLe]
    omega

instance {α : Type} (endMs id : α → Int) : IsTrans α (retentionLe endMs id) where
  trans a b c := by
    simp only [retentionLe]
    omega

/-- The number of rows that ended at or before the cutoff. -/
def expiredIn {α : Type} (endMs : α → Int) (beforeMs : Int) (t : Table α) : Nat :=
  t.rows.countP (fun r => decide (endMs r ≤ beforeMs))

/-- A batch of deletions: `removed` rows are gone from the table, all of them expired and none
younger than an expired row that is kept. -/
structure OldestRemoved {α : Type} (endMs id : α → Int) (beforeMs : Int) (batchSize : Nat)
    (t : Table α) (removed : Nat) (t' : Table α) : Prop where
  kept : t'.rows.Sublist t.rows
  sequence : t'.sequence = t.sequence
  expired : ∀ r ∈ t.rows, r ∉ t'.rows → endMs r ≤ beforeMs
  oldest : ∀ r ∈ t.rows, r ∉ t'.rows → ∀ k ∈ t'.rows, endMs k ≤ beforeMs →
    retentionLe endMs id r k
  removed_add : removed + t'.rows.length = t.rows.length
  removed_eq : removed = min batchSize (expiredIn endMs beforeMs t)
  left : expiredIn endMs beforeMs t' + removed = expiredIn endMs beforeMs t

section

variable {α : Type} {endMs id : α → Int} {beforeMs : Int} {batchSize : Nat} {t : Table α}

/-- The rows of a batch, oldest first. -/
def retentionRows (endMs id : α → Int) (beforeMs : Int) (batchSize : Nat) (t : Table α) : List α :=
  ((t.rows.filter (fun r => decide (endMs r ≤ beforeMs))).insertionSort
    (retentionLe endMs id)).take batchSize

theorem mem_retentionRows {r : α} (h : r ∈ retentionRows endMs id beforeMs batchSize t) :
    r ∈ t.rows ∧ endMs r ≤ beforeMs := by
  have hmem := List.mem_of_mem_take h
  rw [List.mem_insertionSort] at hmem
  simpa using List.mem_filter.mp hmem

/-- The deletion by identifier deletes exactly the rows of the batch. -/
theorem mem_retentionBatch_iff (hkeyed : t.Keyed id) {r : α} (hr : r ∈ t.rows) :
    id r ∈ retentionBatch endMs id beforeMs batchSize t ↔
      r ∈ retentionRows endMs id beforeMs batchSize t := by
  constructor
  · intro h
    obtain ⟨b, hb, hid⟩ := List.mem_map.mp h
    have hsame : b = r := hkeyed.eq_of_key_eq (mem_retentionRows hb).1 hr hid
    rwa [hsame] at hb
  · exact fun h => List.mem_map_of_mem h

theorem not_mem_pruneTable_iff (hkeyed : t.Keyed id) {r : α} (hr : r ∈ t.rows) :
    r ∉ (pruneTable endMs id beforeMs batchSize t).2.rows ↔
      r ∈ retentionRows endMs id beforeMs batchSize t := by
  rw [← mem_retentionBatch_iff hkeyed hr, pruneTable, Table.deleteWhere_rows, List.mem_filter]
  simp [hr]

/-- A row of the batch comes before every expired row that is not in it. -/
theorem retentionRows_oldest {r k : α} (hr : r ∈ retentionRows endMs id beforeMs batchSize t)
    (hk : k ∈ t.rows) (hnot : k ∉ retentionRows endMs id beforeMs batchSize t)
    (hexpired : endMs k ≤ beforeMs) : retentionLe endMs id r k := by
  have hsorted := List.pairwise_insertionSort (retentionLe endMs id)
    (t.rows.filter (fun r => decide (endMs r ≤ beforeMs)))
  rw [← List.take_append_drop batchSize (List.insertionSort _ _), List.pairwise_append] at hsorted
  have hin : k ∈ (t.rows.filter (fun r => decide (endMs r ≤ beforeMs))).insertionSort
      (retentionLe endMs id) := by
    rw [List.mem_insertionSort]
    exact List.mem_filter.mpr ⟨hk, decide_eq_true hexpired⟩
  rw [← List.take_append_drop batchSize (List.insertionSort _ _), List.mem_append] at hin
  exact hsorted.2.2 r hr k (hin.resolve_left hnot)

/-- The number of deleted rows is the size of the batch. -/
theorem pruneTable_count (hkeyed : t.Keyed id) :
    (pruneTable endMs id beforeMs batchSize t).1 =
      (retentionRows endMs id beforeMs batchSize t).length := by
  have hnodup : t.rows.Nodup := List.Nodup.of_map id hkeyed.nodup
  have hrows : (retentionRows endMs id beforeMs batchSize t).Nodup := by
    have hall : ((t.rows.filter (fun r => decide (endMs r ≤ beforeMs))).insertionSort
        (retentionLe endMs id)).Nodup :=
      (List.perm_insertionSort _ _).nodup_iff.mpr (hnodup.filter _)
    exact hall.sublist (List.take_sublist _ _)
  have hperm : (t.rows.filter (fun r =>
      decide (id r ∈ retentionBatch endMs id beforeMs batchSize t))).Perm
        (retentionRows endMs id beforeMs batchSize t) := by
    refine (List.perm_ext_iff_of_nodup (hnodup.filter _) hrows).mpr ?_
    intro r
    rw [List.mem_filter, decide_eq_true_iff]
    constructor
    · rintro ⟨hr, hid⟩
      exact (mem_retentionBatch_iff hkeyed hr).mp hid
    · intro hr
      have hmem := (mem_retentionRows hr).1
      exact ⟨hmem, (mem_retentionBatch_iff hkeyed hmem).mpr hr⟩
  rw [pruneTable, Table.deleteWhere, List.countP_eq_length_filter]
  exact hperm.length_eq

theorem pruneTable_oldest (hkeyed : t.Keyed id) :
    OldestRemoved endMs id beforeMs batchSize t (pruneTable endMs id beforeMs batchSize t).1
      (pruneTable endMs id beforeMs batchSize t).2 where
  kept := List.filter_sublist
  sequence := rfl
  expired := by
    intro r hr hgone
    exact (mem_retentionRows ((not_mem_pruneTable_iff hkeyed hr).mp hgone)).2
  oldest := by
    intro r hr hgone k hk hexpired
    have hkmem := List.mem_of_mem_filter hk
    exact retentionRows_oldest ((not_mem_pruneTable_iff hkeyed hr).mp hgone) hkmem
      (fun hin => (not_mem_pruneTable_iff hkeyed hkmem).mpr hin hk) hexpired
  removed_add := by
    have hsplit := List.length_eq_countP_add_countP (l := t.rows) (p := fun r =>
      decide (id r ∈ retentionBatch endMs id beforeMs batchSize t))
    simp only [pruneTable, Table.deleteWhere, ← List.countP_eq_length_filter] at hsplit ⊢
    simpa using hsplit.symm
  removed_eq := by
    rw [pruneTable_count hkeyed, retentionRows, List.length_take, List.length_insertionSort,
      expiredIn, List.countP_eq_length_filter]
  left := by
    have hsplit := List.length_eq_countP_add_countP
      (l := t.rows.filter (fun r => decide (endMs r ≤ beforeMs)))
      (p := fun r => decide (id r ∈ retentionBatch endMs id beforeMs batchSize t))
    have hdeleted : (t.rows.filter (fun r => decide (endMs r ≤ beforeMs))).countP
        (fun r => decide (id r ∈ retentionBatch endMs id beforeMs batchSize t)) =
          (pruneTable endMs id beforeMs batchSize t).1 := by
      rw [List.countP_filter]
      refine List.countP_congr ?_
      intro r hr
      simp only [Bool.and_eq_true, decide_eq_true_eq, and_iff_left_iff_imp]
      intro hid
      exact (mem_retentionRows ((mem_retentionBatch_iff hkeyed hr).mp hid)).2
    rw [hdeleted, ← List.countP_eq_length_filter, List.countP_filter] at hsplit
    rw [expiredIn, expiredIn, hsplit, pruneTable, Table.deleteWhere_rows, List.countP_filter,
      add_comm]
    congr 1
    refine List.countP_congr ?_
    intro r _
    simp [and_comm]

end

/-! ## One call -/

/-- The rows of the history tables carry distinct identifiers that were handed out. -/
structure TrafficDb.HistoryKeyed (db : TrafficDb) : Prop where
  keyed : db.Keyed
  gaps : db.trafficGaps.Keyed (fun g => g.id)

/-- What a call deletes, table by table, and that it changes nothing else. -/
structure PrunedBatch (beforeMs : Int) (batchSize : Nat) (db : TrafficDb)
    (samples rollups gaps : Nat) (db' : TrafficDb) : Prop where
  samples : OldestRemoved (fun s => s.endedAtMs) (fun s => s.id) beforeMs batchSize
    db.trafficSamples samples db'.trafficSamples
  rollups : OldestRemoved (fun r => r.bucketEndMs) (fun r => r.id) beforeMs batchSize
    db.trafficRollups rollups db'.trafficRollups
  gaps : OldestRemoved (fun g => g.endedAtMs) (fun g => g.id) beforeMs batchSize
    db.trafficGaps gaps db'.trafficGaps
  frame : db' = { db with
    trafficSamples := db'.trafficSamples
    trafficRollups := db'.trafficRollups
    trafficGaps := db'.trafficGaps }

section

variable {beforeMs : Int} {batchSize : Nat} {db db' : TrafficDb}

theorem pruneExactHistoryBatch_batch (hkeyed : db.HistoryKeyed) {removed : Nat}
    (h : pruneExactHistoryBatch beforeMs batchSize db = .ok (removed, db')) :
    ∃ samples rollups gaps, PrunedBatch beforeMs batchSize db samples rollups gaps db' ∧
      removed = min (samples + rollups + gaps) (2 ^ 64 - 1) := by
  unfold pruneExactHistoryBatch at h
  obtain ⟨_, h⟩ := ensure_bind_eq_ok_iff.mp h
  obtain ⟨_, h⟩ := ensure_bind_eq_ok_iff.mp h
  simp only [pure_eq_ok, Except.ok.injEq, Prod.mk.injEq] at h
  obtain ⟨hremoved, rfl⟩ := h
  exact ⟨_, _, _, ⟨pruneTable_oldest hkeyed.keyed.samples, pruneTable_oldest hkeyed.keyed.rollups,
    pruneTable_oldest hkeyed.gaps, rfl⟩, hremoved.symm⟩

theorem pruneExactHistoryBatch_succeeds (hsome : batchSize ≠ 0) (hfits : IsI64 batchSize)
    (beforeMs : Int) (db : TrafficDb) :
    ∃ removed db', pruneExactHistoryBatch beforeMs batchSize db = .ok (removed, db') := by
  unfold pruneExactHistoryBatch
  rw [ensure_of hfits, ok_bind, ensure_of hsome, ok_bind]
  exact ⟨_, _, rfl⟩

theorem Pruned.historyKeyed (h : Pruned db db') (hkeyed : db.HistoryKeyed) : db'.HistoryKeyed := by
  obtain ⟨_, hsamples⟩ := h.samples
  obtain ⟨_, hrollups⟩ := h.rollups
  obtain ⟨_, hgaps⟩ := h.gaps
  refine ⟨⟨?_, ?_⟩, ?_⟩
  · rw [hsamples]
    exact hkeyed.keyed.samples.deleteWhere _
  · rw [hrollups]
    exact hkeyed.keyed.rollups.deleteWhere _
  · rw [hgaps]
    exact hkeyed.gaps.deleteWhere _

/-! ## Statements that fail -/

/-- The statements of the transaction, its commit included. -/
inductive PruneStatement where
  | samples
  | rollups
  | gaps
  | commit
  deriving DecidableEq, Repr

/-- What a statement does when it succeeds: how many rows it deletes, and what it leaves. -/
def PruneStatement.execute (beforeMs : Int) (batchSize : Nat) (db : TrafficDb) :
    PruneStatement → Nat × TrafficDb
  | .samples =>
      let pruned := pruneTable (fun s => s.endedAtMs) (fun s => s.id) beforeMs batchSize
        db.trafficSamples
      (pruned.1, { db with trafficSamples := pruned.2 })
  | .rollups =>
      let pruned := pruneTable (fun r => r.bucketEndMs) (fun r => r.id) beforeMs batchSize
        db.trafficRollups
      (pruned.1, { db with trafficRollups := pruned.2 })
  | .gaps =>
      let pruned := pruneTable (fun g => g.endedAtMs) (fun g => g.id) beforeMs batchSize
        db.trafficGaps
      (pruned.1, { db with trafficGaps := pruned.2 })
  | .commit => (0, db)

/-- Execute the statements one after the other, of which some fail. -/
def executeAll (failing : PruneStatement → Bool) (beforeMs : Int) (batchSize : Nat) :
    List PruneStatement → Nat → TrafficDb → DatabaseResult (Nat × TrafficDb)
  | [], removed, db => .ok (min removed (2 ^ 64 - 1), db)
  | statement :: rest, removed, db => do
      ensure (¬ failing statement = true) .sqlite
      let executed := statement.execute beforeMs batchSize db
      executeAll failing beforeMs batchSize rest (removed + executed.1) executed.2

/-- `prune_exact_history_batch` on a connection where some statements fail, as under a trigger
that aborts. -/
def pruneExactHistoryFailing (failing : PruneStatement → Bool) (beforeMs : Int) (batchSize : Nat)
    (db : TrafficDb) : DatabaseResult (Nat × TrafficDb) := do
  ensure (IsI64 batchSize) (.invalidCommand "retention batch size exceeds SQLite limits")
  ensure (¬ batchSize = 0) (.invalidCommand "retention batch size must be positive")
  executeAll failing beforeMs batchSize [.samples, .rollups, .gaps, .commit] 0 db

/-- Statements that succeed do what the batch does. -/
theorem executeAll_ok {failing : PruneStatement → Bool} {statements : List PruneStatement} :
    ∀ {removed : Nat} {db : TrafficDb} {result : Nat × TrafficDb},
      executeAll failing beforeMs batchSize statements removed db = .ok result →
      executeAll (fun _ => false) beforeMs batchSize statements removed db = .ok result := by
  induction statements with
  | nil =>
      intro removed db result h
      exact h
  | cons statement rest ih =>
      intro removed db result h
      obtain ⟨_, h⟩ := ensure_bind_eq_ok_iff.mp h
      unfold executeAll
      rw [ensure_of (by simp), ok_bind]
      exact ih h

theorem pruneExactHistoryFailing_none (db : TrafficDb) :
    pruneExactHistoryFailing (fun _ => false) beforeMs batchSize db =
      pruneExactHistoryBatch beforeMs batchSize db := by
  unfold pruneExactHistoryFailing pruneExactHistoryBatch
  simp only [executeAll, PruneStatement.execute]
  simp only [Bool.false_eq_true, not_false_eq_true, ensure_of, ok_bind, zero_add, add_zero,
    pure_eq_ok]

/-- A call does the whole batch, or it fails and the transaction is rolled back. -/
theorem pruneExactHistoryFailing_cases (failing : PruneStatement → Bool) (db : TrafficDb) :
    (∃ e, pruneExactHistoryFailing failing beforeMs batchSize db = .error e ∧
      committed (pruneExactHistoryFailing failing beforeMs batchSize db) db = db) ∨
    pruneExactHistoryFailing failing beforeMs batchSize db =
      pruneExactHistoryBatch beforeMs batchSize db := by
  cases h : pruneExactHistoryFailing failing beforeMs batchSize db with
  | error e => exact Or.inl ⟨e, rfl, rfl⟩
  | ok result =>
      right
      rw [← pruneExactHistoryFailing_none]
      unfold pruneExactHistoryFailing at h ⊢
      obtain ⟨hfits, h⟩ := ensure_bind_eq_ok_iff.mp h
      obtain ⟨hsome, h⟩ := ensure_bind_eq_ok_iff.mp h
      rw [ensure_of hfits, ok_bind, ensure_of hsome, ok_bind]
      exact (executeAll_ok h).symm

/-! ## Repeated calls -/

/-- Some calls in a row with one cutoff and one batch size. -/
def pruneCalls (beforeMs : Int) (batchSize : Nat) : Nat → TrafficDb → TrafficDb
  | 0, db => db
  | calls + 1, db => pruneCalls beforeMs batchSize calls
      (committed (pruneExactHistoryBatch beforeMs batchSize db) db)

/-- The expired rows of the table that has the most of them. -/
def TrafficDb.expired (beforeMs : Int) (db : TrafficDb) : Nat :=
  max (expiredIn (fun s => s.endedAtMs) beforeMs db.trafficSamples)
    (max (expiredIn (fun r => r.bucketEndMs) beforeMs db.trafficRollups)
      (expiredIn (fun g => g.endedAtMs) beforeMs db.trafficGaps))

/-- One call takes a batch away from the expired rows of every table. -/
theorem PrunedBatch.expired_eq {samples rollups gaps : Nat}
    (h : PrunedBatch beforeMs batchSize db samples rollups gaps db') :
    db'.expired beforeMs = db.expired beforeMs - batchSize := by
  have hsamples := h.samples.left
  have hrollups := h.rollups.left
  have hgaps := h.gaps.left
  rw [h.samples.removed_eq] at hsamples
  rw [h.rollups.removed_eq] at hrollups
  rw [h.gaps.removed_eq] at hgaps
  unfold TrafficDb.expired
  omega

theorem pruneCalls_expired (hsome : batchSize ≠ 0) (hfits : IsI64 batchSize) :
    ∀ (calls : Nat) (db : TrafficDb), db.HistoryKeyed →
      (pruneCalls beforeMs batchSize calls db).expired beforeMs =
        db.expired beforeMs - calls * batchSize := by
  intro calls
  induction calls with
  | zero =>
      intro db _
      simp [pruneCalls]
  | succ calls ih =>
      intro db hkeyed
      obtain ⟨removed, db', hok⟩ := pruneExactHistoryBatch_succeeds hsome hfits beforeMs db
      obtain ⟨samples, rollups, gaps, hbatch, _⟩ := pruneExactHistoryBatch_batch hkeyed hok
      have hnext : committed (pruneExactHistoryBatch beforeMs batchSize db) db = db' := by
        rw [hok]
        rfl
      rw [pruneCalls, hnext, ih db' ((pruneExactHistoryBatch_ok hok).historyKeyed hkeyed),
        hbatch.expired_eq, Nat.sub_sub, Nat.succ_mul, add_comm]

/-- No row of the three tables ended at or before the cutoff. -/
structure TrafficDb.NoneExpired (beforeMs : Int) (db : TrafficDb) : Prop where
  samples : ∀ s ∈ db.trafficSamples.rows, beforeMs < s.endedAtMs
  rollups : ∀ r ∈ db.trafficRollups.rows, beforeMs < r.bucketEndMs
  gaps : ∀ g ∈ db.trafficGaps.rows, beforeMs < g.endedAtMs

theorem expiredIn_eq_zero_iff {α : Type} {endMs : α → Int} {t : Table α} :
    expiredIn endMs beforeMs t = 0 ↔ ∀ r ∈ t.rows, beforeMs < endMs r := by
  simp only [expiredIn, List.countP_eq_zero, decide_eq_true_eq, not_le]

theorem noneExpired_iff : db.NoneExpired beforeMs ↔ db.expired beforeMs = 0 := by
  constructor
  · rintro ⟨hsamples, hrollups, hgaps⟩
    simp only [TrafficDb.expired, expiredIn_eq_zero_iff.mpr hsamples,
      expiredIn_eq_zero_iff.mpr hrollups, expiredIn_eq_zero_iff.mpr hgaps, max_self]
  · intro h
    simp only [TrafficDb.expired, Nat.max_eq_zero_iff] at h
    exact ⟨expiredIn_eq_zero_iff.mp h.1, expiredIn_eq_zero_iff.mp h.2.1,
      expiredIn_eq_zero_iff.mp h.2.2⟩

end

end RouterView.Db
