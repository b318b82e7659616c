/-
  Db/RollupWrites.lean --- what the writes of a rollup leave in the tables.

  The buckets are written one by one, each into a new rollup row or merged into
  the stored row with its key; then the remainders replace their samples; then
  the consumed samples are deleted.  For each of the three passes: where every
  row of the result comes from, and by how much a weighted total changed.
-/
import RouterView.Db.RollupBatch

set_option autoImplicit false

namespace RouterView.Db

open RouterView.Foundation

/-! ## Passes -/

/-- The rule of a pass: an invariant over the elements written so far. -/
theorem writeAll_invariant {α β : Type} {write : α → β → DatabaseResult β} {l : List α}
    (Invariant : List α → β → Prop)
    (hstep : ∀ {done a later b b'}, l = done ++ a :: later → Invariant done b →
      write a b = .ok b' → Invariant (done ++ [a]) b')
    {b b' : β} (hinitial : Invariant [] b) (h : writeAll write l b = .ok b') :
    Invariant l b' := by
  suffices hsuffix : ∀ (done rest : List α) (b : β), l = done ++ rest → Invariant done b →
      writeAll write rest b = .ok b' → Invariant l b' from hsuffix [] l b rfl hinitial h
  intro done rest
  induction rest generalizing done with
  | nil =>
      intro b hl hinvariant h
      simp only [writeAll, Except.ok.injEq] at h
      rw [List.append_nil] at hl
      rw [hl, ← h]
      exact hinvariant
  | cons a rest ih =>
      intro b hl hinvariant h
      obtain ⟨next, hwrite, h⟩ := bind_eq_ok_iff.mp h
      exact ih (done ++ [a]) next (by simp [hl]) (hstep hl hinvariant hwrite) h

theorem writeAll_map {α β γ : Type} (write : α → β → DatabaseResult β) (f : γ → α)
    (l : List γ) (b : β) :
    writeAll write (l.map f) b = writeAll (fun c => write (f c)) l b := by
  induction l generalizing b with
  | nil => rfl
  | cons c rest ih =>
      simp only [List.map_cons, writeAll]
      congr 1
      funext b'
      exact ih b'

/-! ## Weights of rows -/

/-- The accumulated quantities of a rollup row. -/
def TrafficRollup.accumulator (r : TrafficRollup) : TrafficBucketAccumulator :=
  ⟨r.exactDownloadBytes, r.exactUploadBytes, r.estimatedDownloadBytes,
    r.estimatedUploadBytes, r.exactDurationMs, r.estimatedDurationMs, r.sampleCount⟩

/-- The quantity of the samples of an interface that start in a window. -/
def sampleWeight (q : Quantity) (routerId interfaceId : Int) (window : Int → Bool)
    (s : TrafficSample) : Int :=
  if s.on routerId interfaceId && window s.startedAtMs then q.ofSample s else 0

/-- The quantity of the exact samples of an interface. -/
def sampleExact (q : Quantity) (routerId interfaceId : Int) (s : TrafficSample) : Int :=
  if s.on routerId interfaceId && decide (s.quality = .exact) then q.ofSample s else 0

/-- The quantity of the rollups of an interface that start in a window. -/
def rollupWeight (q : Quantity) (routerId interfaceId : Int) (window : Int → Bool)
    (r : TrafficRollup) : Int :=
  if r.on routerId interfaceId && window r.bucketStartMs then q.ofAccumulator r.accumulator
  else 0

/-- The exact part of the quantity of the rollups of an interface. -/
def rollupExact (q : Quantity) (routerId interfaceId : Int) (r : TrafficRollup) : Int :=
  if r.on routerId interfaceId then q.exactOf r.accumulator else 0

/-! ## Rollup rows -/

theorem BucketKey.ext {k k' : BucketKey} (hrouter : k.routerId = k'.routerId)
    (hinterface : k.interfaceId = k'.interfaceId) (hstart : k.startMs = k'.startMs) : k = k' :=
  Prod.ext hrouter (Prod.ext hinterface hstart)

/-- The row is the one of its bucket. -/
def TrafficRollup.ofBucket (bucketSizeMs : Int) (key : BucketKey) (r : TrafficRollup) : Prop :=
  r.routerId = key.routerId ∧ r.interfaceId = key.interfaceId ∧
    r.bucketSizeMs = bucketSizeMs ∧ r.bucketStartMs = key.startMs ∧ r.source = "raw-rollup"

theorem conflicts_rollupRow_iff {bucketSizeMs id : Int} {key : BucketKey}
    {bucket : RollupBucket} {stored : TrafficRollup} :
    (rollupRow bucketSizeMs key bucket id).conflicts stored = true ↔
      stored.ofBucket bucketSizeMs key :=
  decide_eq_true_iff

theorem rollupRow_ofBucket (bucketSizeMs : Int) (key : BucketKey) (bucket : RollupBucket)
    (id : Int) : (rollupRow bucketSizeMs key bucket id).ofBucket bucketSizeMs key :=
  ⟨rfl, rfl, rfl, rfl, rfl⟩

theorem TrafficRollup.ofBucket.key_eq {bucketSizeMs : Int} {key key' : BucketKey}
    {r : TrafficRollup} (h : r.ofBucket bucketSizeMs key) (h' : r.ofBucket bucketSizeMs key') :
    key = key' :=
  BucketKey.ext (h.1.symm.trans h'.1) (h.2.1.symm.trans h'.2.1)
    (h.2.2.2.1.symm.trans h'.2.2.2.1)

/-- No two rows share the unique key of the rollup table. -/
def UniqueRollups (t : Table TrafficRollup) : Prop :=
  ∀ a ∈ t.rows, ∀ b ∈ t.rows, a.conflicts b = true → a.id = b.id

/-- A row that a bucket left: its own row, or a stored row it was merged into. -/
def WrittenBy (bucketSizeMs : Int) (t : Table TrafficRollup)
    (entry : BucketKey × RollupBucket) (r : TrafficRollup) : Prop :=
  r = rollupRow bucketSizeMs entry.1 entry.2 r.id ∨
    ∃ stored ∈ t.rows, stored.ofBucket bucketSizeMs entry.1 ∧
      (rollupRow bucketSizeMs entry.1 entry.2 0).mergeable entry.2.batchStartMs stored = true ∧
      r = (rollupRow bucketSizeMs entry.1 entry.2 0).merge stored

theorem WrittenBy.ofBucket {bucketSizeMs : Int} {t : Table TrafficRollup}
    {entry : BucketKey × RollupBucket} {r : TrafficRollup}
    (h : WrittenBy bucketSizeMs t entry r) : r.ofBucket bucketSizeMs entry.1 := by
  rcases h with h | ⟨stored, _, hstored, _, h⟩
  · rw [h]
    exact rollupRow_ofBucket _ _ _ _
  · rw [h]
    exact hstored

/-- Every byte total of the accumulator fits its column. -/
structure TrafficBucketAccumulator.Fits (a : TrafficBucketAccumulator) : Prop where
  exactDownloadBytes : a.exactDownloadBytes ≤ i64Max
  exactUploadBytes : a.exactUploadBytes ≤ i64Max
  estimatedDownloadBytes : a.estimatedDownloadBytes ≤ i64Max
  estimatedUploadBytes : a.estimatedUploadBytes ≤ i64Max

/-- What writing a bucket checked, and the one row that it wrote. -/
theorem writeBucket_ok {bucketSizeMs : Int} {entry : BucketKey × RollupBucket}
    {t t' : Table TrafficRollup} (h : writeBucket bucketSizeMs entry t = .ok t') :
    entry.2.accumulator.Fits ∧
      upsertRollup (rollupRow bucketSizeMs entry.1 entry.2) entry.2.batchStartMs t = (1, t') := by
  unfold writeBucket at h
  obtain ⟨hexactDownload, h⟩ := ensure_bind_eq_ok_iff.mp h
  obtain ⟨hexactUpload, h⟩ := ensure_bind_eq_ok_iff.mp h
  obtain ⟨hestimatedDownload, h⟩ := ensure_bind_eq_ok_iff.mp h
  obtain ⟨hestimatedUpload, h⟩ := ensure_bind_eq_ok_iff.mp h
  obtain ⟨_, h⟩ := ensure_bind_eq_ok_iff.mp h
  cases hupsert : upsertRollup (rollupRow bucketSizeMs entry.1 entry.2) entry.2.batchStartMs t with
  | mk changed written =>
      simp only [hupsert] at h
      obtain ⟨hchanged, hwritten⟩ := ensure_bind_eq_ok_iff.mp h
      simp only [pure_eq_ok, Except.ok.injEq] at hwritten
      exact ⟨⟨hexactDownload.2, hexactUpload.2, hestimatedDownload.2, hestimatedUpload.2⟩,
        Prod.ext hchanged hwritten⟩

/-- Writing a bucket either inserted its row or merged it into the one stored
row that could take it. -/
theorem writeBucket_cases {bucketSizeMs : Int} {entry : BucketKey × RollupBucket}
    {t t' : Table TrafficRollup} (h : writeBucket bucketSizeMs entry t = .ok t') :
    ((∀ stored ∈ t.rows, ¬ stored.ofBucket bucketSizeMs entry.1) ∧
        t' = t.insert (rollupRow bucketSizeMs entry.1 entry.2)) ∨
      ∃ stored ∈ t.rows, stored.ofBucket bucketSizeMs entry.1 ∧
        (rollupRow bucketSizeMs entry.1 entry.2 0).mergeable entry.2.batchStartMs stored = true ∧
        (t.useKey.updateWhere
          (fun r => (rollupRow bucketSizeMs entry.1 entry.2 0).conflicts r &&
            (rollupRow bucketSizeMs entry.1 entry.2 0).mergeable entry.2.batchStartMs r)
          (fun r => (rollupRow bucketSizeMs entry.1 entry.2 0).merge r)) = (1, t') := by
  obtain ⟨_, hupsert⟩ := writeBucket_ok h
  simp only [upsertRollup] at hupsert
  split at hupsert
  · -- one row was changed: the filter of the update is a singleton
    have hcount : t.rows.countP
        (fun r => (rollupRow bucketSizeMs entry.1 entry.2 0).conflicts r &&
          (rollupRow bucketSizeMs entry.1 entry.2 0).mergeable entry.2.batchStartMs r) = 1 :=
      congrArg Prod.fst hupsert
    have hpos := List.countP_pos_iff.mp (by rw [hcount]; exact Nat.one_pos)
    obtain ⟨stored, hstored, hcondition⟩ := hpos
    rw [Bool.and_eq_true] at hcondition
    exact Or.inr ⟨stored, hstored, conflicts_rollupRow_iff.mp hcondition.1, hcondition.2,
      hupsert⟩
  · rename_i hnone
    refine Or.inl ⟨?_, (congrArg Prod.snd hupsert).symm⟩
    intro stored hstored hof
    apply hnone
    rw [List.any_eq_true]
    exact ⟨stored, hstored, conflicts_rollupRow_iff.mpr hof⟩

theorem on_of_ofBucket {bucketSizeMs : Int} {key : BucketKey} {r : TrafficRollup}
    (h : r.ofBucket bucketSizeMs key) (routerId interfaceId : Int) (window : Int → Bool) :
    (r.on routerId interfaceId && window r.bucketStartMs) =
      key.within routerId interfaceId window := by
  obtain ⟨hrouter, hinterface, _, hstart, _⟩ := h
  simp only [TrafficRollup.on, BucketKey.within, hrouter, hinterface, hstart]

theorem merge_quantity (q : Quantity) (excluded stored : TrafficRollup) :
    q.exactOf (excluded.merge stored).accumulator =
        q.exactOf stored.accumulator + q.exactOf excluded.accumulator ∧
      q.estimatedOf (excluded.merge stored).accumulator =
        q.estimatedOf stored.accumulator + q.estimatedOf excluded.accumulator := by
  cases q <;> exact ⟨rfl, rfl⟩

/-- A weight of rollup rows that adds up under the merge. -/
def Additive (bucketSizeMs : Int) (w : TrafficRollup → Int) (v : BucketKey → RollupBucket → Int) :
    Prop :=
  (∀ key bucket id, w (rollupRow bucketSizeMs key bucket id) = v key bucket) ∧
    ∀ key bucket stored, stored.ofBucket bucketSizeMs key →
      w ((rollupRow bucketSizeMs key bucket 0).merge stored) = w stored + v key bucket

theorem rollupWeight_additive (bucketSizeMs : Int) (q : Quantity) (routerId interfaceId : Int)
    (window : Int → Bool) :
    Additive bucketSizeMs (rollupWeight q routerId interfaceId window)
      (bucketWeight q routerId interfaceId window) := by
  refine ⟨fun key bucket id => rfl, ?_⟩
  intro key bucket stored hstored
  have hmerged : ((rollupRow bucketSizeMs key bucket 0).merge stored).ofBucket bucketSizeMs key :=
    hstored
  simp only [rollupWeight, bucketWeight, on_of_ofBucket hstored, on_of_ofBucket hmerged]
  split
  · have hq := merge_quantity q (rollupRow bucketSizeMs key bucket 0) stored
    have hrow : (rollupRow bucketSizeMs key bucket 0).accumulator = bucket.accumulator := rfl
    simp only [Quantity.ofAccumulator, hq.1, hq.2, hrow]
    omega
  · rfl

theorem rollupExact_additive (bucketSizeMs : Int) (q : Quantity) (routerId interfaceId : Int) :
    Additive bucketSizeMs (rollupExact q routerId interfaceId)
      (bucketExact q routerId interfaceId) := by
  have hon : ∀ {key : BucketKey} {r : TrafficRollup}, r.ofBucket bucketSizeMs key →
      r.on routerId interfaceId = key.within routerId interfaceId (fun _ => true) := by
    intro key r h
    rw [← on_of_ofBucket h, Bool.and_true]
  refine ⟨fun key bucket id => ?_, ?_⟩
  · simp only [rollupExact, bucketExact, hon (rollupRow_ofBucket bucketSizeMs key bucket id)]
    rfl
  · intro key bucket stored hstored
    have hmerged : ((rollupRow bucketSizeMs key bucket 0).merge stored).ofBucket
        bucketSizeMs key := hstored
    simp only [rollupExact, bucketExact, hon hstored, hon hmerged]
    split
    · exact (merge_quantity q (rollupRow bucketSizeMs key bucket 0) stored).1
    · rfl

/-- Another row of the same interface that ends no earlier. -/
def TrafficRollup.ReachedBy (r r' : TrafficRollup) : Prop :=
  r'.routerId = r.routerId ∧ r'.interfaceId = r.interfaceId ∧ r.bucketEndMs ≤ r'.bucketEndMs

/-- A row of the bucket's interface that ends no earlier than the bucket. -/
def RollupBucket.ReachedBy (entry : BucketKey × RollupBucket) (r : TrafficRollup) : Prop :=
  r.routerId = entry.1.routerId ∧ r.interfaceId = entry.1.interfaceId ∧
    entry.2.accumulatedEndMs ≤ r.bucketEndMs

/-- The rollup table after the buckets `done` were written. -/
structure RollupsAfter (bucketSizeMs : Int) (t : Table TrafficRollup)
    (done : List (BucketKey × RollupBucket)) (t' : Table TrafficRollup) : Prop where
  keyed : t'.Keyed (fun r => r.id)
  unique : UniqueRollups t'
  total : ∀ w v, Additive bucketSizeMs w v →
    t'.total w = t.total w + (done.map (fun e => v e.1 e.2)).sum
  rows : ∀ r ∈ t'.rows, r ∈ t.rows ∨ ∃ entry ∈ done, WrittenBy bucketSizeMs t entry r
  fits : ∀ entry ∈ done, entry.2.accumulator.Fits
  kept : ∀ r ∈ t.rows, ∃ r' ∈ t'.rows, r.ReachedBy r'
  written : ∀ entry ∈ done, ∃ r ∈ t'.rows, RollupBucket.ReachedBy entry r

theorem UniqueRollups.insert {t : Table TrafficRollup} (h : UniqueRollups t)
    {bucketSizeMs : Int} {entry : BucketKey × RollupBucket}
    (hnone : ∀ stored ∈ t.rows, ¬ stored.ofBucket bucketSizeMs entry.1) :
    UniqueRollups (t.insert (rollupRow bucketSizeMs entry.1 entry.2)) := by
  intro a ha b hb hconflict
  simp only [Table.insert_rows, List.mem_append, List.mem_singleton] at ha hb
  have hsymm : ∀ {a b : TrafficRollup}, a.conflicts b = true → b.conflicts a = true := by
    intro a b hab
    simp only [TrafficRollup.conflicts, decide_eq_true_eq] at hab ⊢
    exact ⟨hab.1.symm, hab.2.1.symm, hab.2.2.1.symm, hab.2.2.2.1.symm, hab.2.2.2.2.symm⟩
  rcases ha with ha | rfl <;> rcases hb with hb | rfl
  · exact h a ha b hb hconflict
  · exact absurd (conflicts_rollupRow_iff.mp (hsymm hconflict)) (hnone a ha)
  · exact absurd (conflicts_rollupRow_iff.mp hconflict) (hnone b hb)
  · rfl

theorem UniqueRollups.update {t : Table TrafficRollup} (h : UniqueRollups t)
    (p : TrafficRollup → Bool) (excluded : TrafficRollup) :
    UniqueRollups (t.updateWhere p (fun r => excluded.merge r)).2 := by
  have hrow : ∀ r ∈ (t.updateWhere p (fun r => excluded.merge r)).2.rows, ∃ old ∈ t.rows,
      r.id = old.id ∧ (∀ x, r.conflicts x = old.conflicts x) ∧
        (∀ x : TrafficRollup, x.conflicts r = x.conflicts old) := by
    intro r hr
    rcases Table.mem_updateWhere_iff.mp hr with ⟨hold, _⟩ | ⟨old, hold, _, rfl⟩
    · exact ⟨r, hold, rfl, fun _ => rfl, fun _ => rfl⟩
    · exact ⟨old, hold, rfl, fun _ => rfl, fun _ => rfl⟩
  intro a ha b hb hconflict
  obtain ⟨x, hx, hax, hxa, _⟩ := hrow a ha
  obtain ⟨y, hy, hby, _, hyb⟩ := hrow b hb
  rw [hax, hby]
  refine h x hx y hy ?_
  rw [← hxa, ← hyb]
  exact hconflict

/-- One bucket. -/
theorem RollupsAfter.write {bucketSizeMs : Int} {t mid t' : Table TrafficRollup}
    {done : List (BucketKey × RollupBucket)} {entry : BucketKey × RollupBucket}
    (h : RollupsAfter bucketSizeMs t done mid) (hnew : ∀ e ∈ done, e.1 ≠ entry.1)
    (hwrite : writeBucket bucketSizeMs entry mid = .ok t') :
    RollupsAfter bucketSizeMs t (done ++ [entry]) t' := by
  have hfits : ∀ e ∈ done ++ [entry], e.2.accumulator.Fits := by
    intro e he
    rcases List.mem_append.mp he with he | he
    · exact h.fits e he
    · rw [List.mem_singleton.mp he]
      exact (writeBucket_ok hwrite).1
  rcases writeBucket_cases hwrite with
    ⟨hnone, rfl⟩ | ⟨stored, hstored, hof, hmergeable, hupdate⟩
  · refine ⟨h.keyed.insert (fun _ => rfl), h.unique.insert hnone, ?_, ?_, hfits, ?_, ?_⟩
    · intro w v hadditive
      rw [Table.total_insert, h.total w v hadditive, hadditive.1]
      simp only [List.map_append, List.sum_append, List.map_cons, List.map_nil, List.sum_cons,
        List.sum_nil]
      omega
    · intro r hr
      rcases List.mem_append.mp hr with hold | hr
      · rcases h.rows r hold with hr | ⟨e, he, hby⟩
        · exact Or.inl hr
        · exact Or.inr ⟨e, List.mem_append_left _ he, hby⟩
      · rw [List.mem_singleton.mp hr]
        exact Or.inr ⟨entry, List.mem_append_right _ (List.mem_singleton.mpr rfl), Or.inl rfl⟩
    · intro r hr
      obtain ⟨r', hr', hreached⟩ := h.kept r hr
      exact ⟨r', List.mem_append_left _ hr', hreached⟩
    · intro e he
      rcases List.mem_append.mp he with he | he
      · obtain ⟨r, hr, hreached⟩ := h.written e he
        exact ⟨r, List.mem_append_left _ hr, hreached⟩
      · rw [List.mem_singleton.mp he]
        exact ⟨_, List.mem_append_right _ (List.mem_singleton.mpr rfl), rfl, rfl, le_refl _⟩
  · have hone := congrArg Prod.fst hupdate
    have hresult := congrArg Prod.snd hupdate
    simp only at hone hresult
    subst hresult
    -- the stored row is an original one: earlier buckets have other keys
    have horiginal : ∀ x ∈ mid.rows, x.ofBucket bucketSizeMs entry.1 → x ∈ t.rows := by
      intro x hx hofx
      rcases h.rows x hx with hx | ⟨e, he, hby⟩
      · exact hx
      · exact absurd (hby.ofBucket.key_eq hofx) (hnew e he)
    have hcondition : ((rollupRow bucketSizeMs entry.1 entry.2 0).conflicts stored &&
        (rollupRow bucketSizeMs entry.1 entry.2 0).mergeable entry.2.batchStartMs stored) =
        true := by
      rw [Bool.and_eq_true]
      exact ⟨conflicts_rollupRow_iff.mpr hof, hmergeable⟩
    -- an update keeps the interface of a row and never lowers its end
    have hforward : ∀ r ∈ mid.rows, ∃ r' ∈ (mid.useKey.updateWhere
        (fun r => (rollupRow bucketSizeMs entry.1 entry.2 0).conflicts r &&
          (rollupRow bucketSizeMs entry.1 entry.2 0).mergeable entry.2.batchStartMs r)
        (fun r => (rollupRow bucketSizeMs entry.1 entry.2 0).merge r)).2.rows,
        r.ReachedBy r' := by
      intro r hr
      cases hcase : (rollupRow bucketSizeMs entry.1 entry.2 0).conflicts r &&
          (rollupRow bucketSizeMs entry.1 entry.2 0).mergeable entry.2.batchStartMs r with
      | false => exact ⟨r, Table.mem_updateWhere_iff.mpr (Or.inl ⟨hr, hcase⟩), rfl, rfl, le_refl _⟩
      | true =>
          exact ⟨_, Table.mem_updateWhere_iff.mpr (Or.inr ⟨r, hr, hcase, rfl⟩), rfl, rfl,
            le_max_left _ _⟩
    refine ⟨h.keyed.useKey.updateWhere _ (fun _ _ => rfl), h.unique.update _ _, ?_, ?_, hfits,
      ?_, ?_⟩
    · intro w v hadditive
      have hmerged := Table.total_updateWhere_one w (t := mid.useKey) hstored hcondition hone
      rw [hmerged, Table.total_useKey, h.total w v hadditive, hadditive.2 _ _ _ hof]
      simp only [List.map_append, List.sum_append, List.map_cons, List.map_nil, List.sum_cons,
        List.sum_nil]
      omega
    · intro r hr
      rcases Table.mem_updateWhere_iff.mp hr with ⟨hold, _⟩ | ⟨x, hx, hxc, rfl⟩
      · rcases h.rows r hold with hr | ⟨e, he, hby⟩
        · exact Or.inl hr
        · exact Or.inr ⟨e, List.mem_append_left _ he, hby⟩
      · rw [Bool.and_eq_true] at hxc
        have hofx := conflicts_rollupRow_iff.mp hxc.1
        exact Or.inr ⟨entry, List.mem_append_right _ (List.mem_singleton.mpr rfl),
          Or.inr ⟨x, horiginal x hx hofx, hofx, hxc.2, rfl⟩⟩
    · intro r hr
      obtain ⟨r', hr', hrouter, hinterface, hle⟩ := h.kept r hr
      obtain ⟨r'', hr'', hrouter', hinterface', hle'⟩ := hforward r' hr'
      exact ⟨r'', hr'', hrouter'.trans hrouter, hinterface'.trans hinterface, le_trans hle hle'⟩
    · intro e he
      rcases List.mem_append.mp he with he | he
      · obtain ⟨r, hr, hrouter, hinterface, hle⟩ := h.written e he
        obtain ⟨r', hr', hrouter', hinterface', hle'⟩ := hforward r hr
        exact ⟨r', hr', hrouter'.trans hrouter, hinterface'.trans hinterface, le_trans hle hle'⟩
      · rw [List.mem_singleton.mp he]
        obtain ⟨hrouter, hinterface, _⟩ := hof
        exact ⟨_, Table.mem_updateWhere_iff.mpr (Or.inr ⟨stored, hstored, hcondition, rfl⟩),
          hrouter, hinterface, le_max_right _ _⟩

/-- The pass over the buckets. -/
theorem writeAll_writeBucket {bucketSizeMs : Int} {t t' : Table TrafficRollup}
    {buckets : OrdMap BucketKey RollupBucket} (hkeyed : t.Keyed (fun r => r.id))
    (hunique : UniqueRollups t)
    (h : writeAll (writeBucket bucketSizeMs) buckets.entries t = .ok t') :
    RollupsAfter bucketSizeMs t buckets.entries t' := by
  refine writeAll_invariant (fun done t' => RollupsAfter bucketSizeMs t done t')
    ?_ ⟨hkeyed, hunique, by simp, fun r hr => Or.inl hr, by simp,
      fun r hr => ⟨r, hr, rfl, rfl, le_refl _⟩, by simp⟩ h
  intro done entry later mid next hsplit hmid hwrite
  refine hmid.write ?_ hwrite
  have hsorted := buckets.sorted
  rw [hsplit, List.pairwise_append] at hsorted
  intro e he
  exact ne_of_lt (hsorted.2.2 e he entry List.mem_cons_self)

/-! ## Sample rows -/

/-- The row that is left of a consumed sample, when there is one. -/
def Consumed.left (c : Consumed) : Option TrafficSample :=
  if c.complete then none else some (c.remainder.applyTo c.sample)

/-- The change of a weight when the sample is replaced by what is left of it. -/
def Consumed.change (w : TrafficSample → Int) (c : Consumed) : Int :=
  (c.left.elim 0 w) - w c.sample

/-- The sample table after the consumed samples `done` were replaced by what is
left of them. -/
structure SamplesAfter (t : Table TrafficSample) (done : List Consumed)
    (t' : Table TrafficSample) : Prop where
  keyed : t'.Keyed (fun s => s.id)
  total : ∀ w, t'.total w = t.total w + (done.map (Consumed.change w)).sum
  rows : ∀ x ∈ t'.rows, (x ∈ t.rows ∧ ∀ c ∈ done, c.sample.id ≠ x.id) ∨
    ∃ c ∈ done, c.left = some x
  pending : ∀ s ∈ t.rows, (∀ c ∈ done, c.sample.id ≠ s.id) → s ∈ t'.rows
  remains : ∀ c ∈ done, ∀ x, c.left = some x → x ∈ t'.rows

theorem SamplesAfter.initial {t : Table TrafficSample} (h : t.Keyed (fun s => s.id)) :
    SamplesAfter t [] t :=
  ⟨h, by simp, fun x hx => Or.inl ⟨hx, by simp⟩, fun s hs _ => hs, by simp⟩

/-- What is left of a sample keeps its identifier. -/
theorem Consumed.left_id {c : Consumed} {x : TrafficSample} (h : c.left = some x) :
    x.id = c.sample.id := by
  unfold Consumed.left at h
  split at h
  · cases h
  · rw [← Option.some.inj h]
    rfl

theorem writeRemainder_ok {remainder : RawTrafficRemainder} {t t' : Table TrafficSample}
    (h : writeRemainder remainder t = .ok t') :
    t.updateWhere (fun s => decide (s.id = remainder.id)) remainder.applyTo = (1, t') := by
  unfold writeRemainder at h
  obtain ⟨_, h⟩ := ensure_bind_eq_ok_iff.mp h
  obtain ⟨_, h⟩ := ensure_bind_eq_ok_iff.mp h
  cases hupdate : t.updateWhere (fun s => decide (s.id = remainder.id)) remainder.applyTo with
  | mk changed written =>
      simp only [hupdate] at h
      obtain ⟨hchanged, hwritten⟩ := ensure_bind_eq_ok_iff.mp h
      simp only [pure_eq_ok, Except.ok.injEq] at hwritten
      rw [hchanged, hwritten]

theorem deleteConsumed_ok {id : Int} {t t' : Table TrafficSample}
    (h : deleteConsumed id t = .ok t') :
    t.deleteWhere (fun s => decide (s.id = id)) = (1, t') := by
  unfold deleteConsumed at h
  cases hdelete : t.deleteWhere (fun s => decide (s.id = id)) with
  | mk changed written =>
      simp only [hdelete] at h
      obtain ⟨hchanged, hwritten⟩ := ensure_bind_eq_ok_iff.mp h
      simp only [pure_eq_ok, Except.ok.injEq] at hwritten
      rw [hchanged, hwritten]

/-- One remainder. -/
theorem SamplesAfter.writeRemainder {t mid t' : Table TrafficSample} {done : List Consumed}
    (h : SamplesAfter t done mid) {c : Consumed} (hmem : c.sample ∈ t.rows)
    (hnew : ∀ d ∈ done, d.sample.id ≠ c.sample.id) (hcomplete : c.complete = false)
    (hwrite : writeRemainder c.remainder mid = .ok t') : SamplesAfter t (done ++ [c]) t' := by
  have hupdate := writeRemainder_ok hwrite
  have hone := congrArg Prod.fst hupdate
  obtain rfl : _ = t' := congrArg Prod.snd hupdate
  have hleft : c.left = some (c.remainder.applyTo c.sample) := by
    simp [Consumed.left, hcomplete]
  have hcurrent := h.pending c.sample hmem hnew
  have hid : decide (c.sample.id = c.remainder.id) = true := decide_eq_true rfl
  refine ⟨h.keyed.updateWhere _ (fun _ _ => rfl), ?_, ?_, ?_, ?_⟩
  · intro w
    rw [Table.total_updateWhere_one w hcurrent hid hone, h.total w]
    simp only [List.map_append, List.sum_append, List.map_cons, List.map_nil, List.sum_cons,
      List.sum_nil, Consumed.change, hleft, Option.elim]
    omega
  · intro x hx
    rcases Table.mem_updateWhere_iff.mp hx with ⟨hold, hne⟩ | ⟨y, hy, hyid, rfl⟩
    · have hother : c.sample.id ≠ x.id := Ne.symm (of_decide_eq_false hne)
      rcases h.rows x hold with ⟨hx, hids⟩ | ⟨d, hd, hdx⟩
      · left
        refine ⟨hx, ?_⟩
        intro d hd
        rcases List.mem_append.mp hd with hd | hd
        · exact hids d hd
        · rw [List.mem_singleton.mp hd]
          exact hother
      · exact Or.inr ⟨d, List.mem_append_left _ hd, hdx⟩
    · have hyeq : y = c.sample :=
        h.keyed.eq_of_key_eq hy hcurrent (of_decide_eq_true hyid)
      rw [hyeq]
      exact Or.inr ⟨c, List.mem_append_right _ (List.mem_singleton.mpr rfl), hleft⟩
  · intro s hs hids
    refine Table.mem_updateWhere_iff.mpr (Or.inl ⟨h.pending s hs
      (fun d hd => hids d (List.mem_append_left _ hd)), decide_eq_false ?_⟩)
    exact Ne.symm (hids c (List.mem_append_right _ (List.mem_singleton.mpr rfl)))
  · intro d hd x hdx
    rcases List.mem_append.mp hd with hd | hd
    · refine Table.mem_updateWhere_iff.mpr (Or.inl ⟨h.remains d hd x hdx, decide_eq_false ?_⟩)
      rw [Consumed.left_id hdx]
      exact hnew d hd
    · rw [List.mem_singleton.mp hd, hleft] at hdx
      rw [← Option.some.inj hdx]
      exact Table.mem_updateWhere_iff.mpr (Or.inr ⟨c.sample, hcurrent, hid, rfl⟩)

/-- One deletion. -/
theorem SamplesAfter.deleteConsumed {t mid t' : Table TrafficSample} {done : List Consumed}
    (h : SamplesAfter t done mid) {c : Consumed} (hmem : c.sample ∈ t.rows)
    (hnew : ∀ d ∈ done, d.sample.id ≠ c.sample.id) (hcomplete : c.complete = true)
    (hwrite : deleteConsumed c.sample.id mid = .ok t') : SamplesAfter t (done ++ [c]) t' := by
  have hdelete := deleteConsumed_ok hwrite
  have hone := congrArg Prod.fst hdelete
  obtain rfl : _ = t' := congrArg Prod.snd hdelete
  have hleft : c.left = none := by simp [Consumed.left, hcomplete]
  have hcurrent := h.pending c.sample hmem hnew
  have hid : decide (c.sample.id = c.sample.id) = true := decide_eq_true rfl
  refine ⟨h.keyed.deleteWhere _, ?_, ?_, ?_, ?_⟩
  · intro w
    rw [Table.total_deleteWhere_one w hcurrent hid hone, h.total w]
    simp only [List.map_append, List.sum_append, List.map_cons, List.map_nil, List.sum_cons,
      List.sum_nil, Consumed.change, hleft, Option.elim]
    omega
  · intro x hx
    obtain ⟨hold, hne⟩ := List.mem_filter.mp hx
    have hother : c.sample.id ≠ x.id := by
      intro heq
      simp [heq] at hne
    rcases h.rows x hold with ⟨hx, hids⟩ | ⟨d, hd, hdx⟩
    · left
      refine ⟨hx, ?_⟩
      intro d hd
      rcases List.mem_append.mp hd with hd | hd
      · exact hids d hd
      · rw [List.mem_singleton.mp hd]
        exact hother
    · exact Or.inr ⟨d, List.mem_append_left _ hd, hdx⟩
  · intro s hs hids
    refine List.mem_filter.mpr ⟨h.pending s hs
      (fun d hd => hids d (List.mem_append_left _ hd)), ?_⟩
    have hother := hids c (List.mem_append_right _ (List.mem_singleton.mpr rfl))
    simp [Ne.symm hother]
  · intro d hd x hdx
    rcases List.mem_append.mp hd with hd | hd
    · refine List.mem_filter.mpr ⟨h.remains d hd x hdx, ?_⟩
      have hother := hnew d hd
      simp [Consumed.left_id hdx, hother]
    · rw [List.mem_singleton.mp hd, hleft] at hdx
      cases hdx

/-- An element of a part of the consumed samples, and those before it. -/
theorem consumed_split {consumed : List Consumed}
    (hdistinct : (consumed.map (fun c => c.sample.id)).Nodup) {p : Consumed → Bool}
    {done later : List Consumed} {c : Consumed} (hfilter : consumed.filter p = done ++ c :: later) :
    (c ∈ consumed ∧ p c = true) ∧ ∀ d ∈ done, d.sample.id ≠ c.sample.id := by
  have hc : c ∈ consumed.filter p := by
    rw [hfilter]
    simp
  have hnodup : ((done ++ c :: later).map (fun c => c.sample.id)).Nodup := by
    rw [← hfilter]
    exact hdistinct.sublist (List.filter_sublist.map _)
  rw [List.map_append, List.nodup_append] at hnodup
  refine ⟨List.mem_filter.mp hc, ?_⟩
  intro d hd
  exact hnodup.2.2 _ (List.mem_map_of_mem hd) _ (by simp)

/-- An incomplete sample, or a complete one before it, is another one than a complete one. -/
theorem consumed_before_complete {consumed : List Consumed}
    (hdistinct : (consumed.map (fun c => c.sample.id)).Nodup) {done later : List Consumed}
    {c : Consumed} (hfilter : consumed.filter Consumed.complete = done ++ c :: later) :
    ∀ d ∈ consumed.filter (fun c => !c.complete) ++ done, d.sample.id ≠ c.sample.id := by
  obtain ⟨⟨hc, hcomplete⟩, hnew⟩ := consumed_split hdistinct hfilter
  intro d hd
  rcases List.mem_append.mp hd with hd | hd
  · obtain ⟨hdmem, hdincomplete⟩ := List.mem_filter.mp hd
    intro hid
    have hsame : d = c := List.inj_on_of_nodup_map hdistinct hdmem hc hid
    rw [hsame, hcomplete] at hdincomplete
    simp at hdincomplete
  · exact hnew d hd

/-- The pass over the remainders. -/
theorem writeAll_remainders {t remained : Table TrafficSample} {consumed : List Consumed}
    (hkeyed : t.Keyed (fun s => s.id)) (hmem : ∀ c ∈ consumed, c.sample ∈ t.rows)
    (hdistinct : (consumed.map (fun c => c.sample.id)).Nodup)
    (hremain : writeAll writeRemainder
      ((consumed.filter (fun c => !c.complete)).map Consumed.remainder) t = .ok remained) :
    SamplesAfter t (consumed.filter (fun c => !c.complete)) remained := by
  rw [writeAll_map] at hremain
  refine writeAll_invariant (fun done t' => SamplesAfter t done t') ?_
    (SamplesAfter.initial hkeyed) hremain
  intro done c later mid next hfilter hmid hwrite
  obtain ⟨⟨hc, hcomplete⟩, hnew⟩ := consumed_split hdistinct hfilter
  exact hmid.writeRemainder (hmem c hc) hnew (by simpa using hcomplete) hwrite

/-- The two passes over the samples: first the remainders, then the deletions. -/
theorem writeAll_samples {t remained kept : Table TrafficSample} {consumed : List Consumed}
    (hkeyed : t.Keyed (fun s => s.id)) (hmem : ∀ c ∈ consumed, c.sample ∈ t.rows)
    (hdistinct : (consumed.map (fun c => c.sample.id)).Nodup)
    (hremain : writeAll writeRemainder
      ((consumed.filter (fun c => !c.complete)).map Consumed.remainder) t = .ok remained)
    (hdelete : writeAll deleteConsumed
      ((consumed.filter Consumed.complete).map (fun c => c.sample.id)) remained = .ok kept) :
    SamplesAfter t (consumed.filter (fun c => !c.complete) ++ consumed.filter Consumed.complete)
      kept := by
  have hremained := writeAll_remainders hkeyed hmem hdistinct hremain
  rw [writeAll_map] at hdelete
  refine writeAll_invariant
    (fun done t' =>
      SamplesAfter t (consumed.filter (fun c => !c.complete) ++ done) t') ?_
    (by simpa using hremained) hdelete
  intro done c later mid next hfilter hmid hwrite
  obtain ⟨⟨hc, hcomplete⟩, _⟩ := consumed_split hdistinct hfilter
  rw [← List.append_assoc]
  exact hmid.deleteConsumed (hmem c hc) (consumed_before_complete hdistinct hfilter) hcomplete
    hwrite

/-! ## A call -/

/-- The checks and the passes of a call that returns. -/
structure BatchPasses (beforeMs bucketSizeMs : Int) (batchSize : Nat) (db : TrafficDb)
    (progress : RollupProgress) (rollups : Table TrafficRollup)
    (remained kept : Table TrafficSample) : Prop where
  size : 0 < bucketSizeMs
  budget : batchSize * 2 < 2 ^ 64
  limit : IsI64 batchSize
  batch : ¬ batchSize = 0
  loop : consumeSamples beforeMs bucketSizeMs (db.rollupSampleBatch beforeMs batchSize)
    ⟨OrdMap.empty, [], [], batchSize * 2⟩ = .ok progress
  buckets : writeAll (writeBucket bucketSizeMs) progress.buckets.entries db.trafficRollups =
    .ok rollups
  remainders : writeAll writeRemainder progress.remainders db.trafficSamples = .ok remained
  deletions : writeAll deleteConsumed progress.fullyConsumed remained = .ok kept

theorem rollupExactSamplesBatch_eq_ok_iff {beforeMs bucketSizeMs : Int} {batchSize n : Nat}
    {db db' : TrafficDb} :
    rollupExactSamplesBatch beforeMs bucketSizeMs batchSize db = .ok (n, db') ↔
      ∃ progress rollups remained kept,
        BatchPasses beforeMs bucketSizeMs batchSize db progress rollups remained kept ∧
          n = progress.fullyConsumed.length ∧
          db' = { db with trafficSamples := kept, trafficRollups := rollups } := by
  unfold rollupExactSamplesBatch
  constructor
  · intro h
    obtain ⟨hpositive, h⟩ := ensure_bind_eq_ok_iff.mp h
    obtain ⟨hbudget, h⟩ := ensure_bind_eq_ok_iff.mp h
    obtain ⟨hlimit, h⟩ := ensure_bind_eq_ok_iff.mp h
    obtain ⟨hbatch, h⟩ := ensure_bind_eq_ok_iff.mp h
    obtain ⟨progress, hloop, h⟩ := bind_eq_ok_iff.mp h
    obtain ⟨rollups, hrollups, h⟩ := bind_eq_ok_iff.mp h
    obtain ⟨remained, hremained, h⟩ := bind_eq_ok_iff.mp h
    obtain ⟨kept, hkept, h⟩ := bind_eq_ok_iff.mp h
    simp only [pure_eq_ok, Except.ok.injEq, Prod.mk.injEq] at h
    exact ⟨progress, rollups, remained, kept, ⟨not_le.mp hpositive, hbudget, hlimit, hbatch, hloop,
      hrollups, hremained, hkept⟩, h.1.symm, h.2.symm⟩
  · rintro ⟨progress, rollups, remained, kept, h, rfl, rfl⟩
    exact ensure_bind_eq_ok_iff.mpr ⟨not_le.mpr h.size, ensure_bind_eq_ok_iff.mpr ⟨h.budget,
      ensure_bind_eq_ok_iff.mpr ⟨h.limit, ensure_bind_eq_ok_iff.mpr ⟨h.batch,
        bind_eq_ok_iff.mpr ⟨progress, h.loop, bind_eq_ok_iff.mpr ⟨rollups, h.buckets,
          bind_eq_ok_iff.mpr ⟨remained, h.remainders, bind_eq_ok_iff.mpr ⟨kept, h.deletions,
            rfl⟩⟩⟩⟩⟩⟩⟩⟩

end RouterView.Db
