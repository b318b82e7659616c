/-
  Db/RollupProgress.lean --- a rollup over samples that do not overlap succeeds.

  The checks that abort a rollup are shown not to fail.  The loop keeps every
  segment after what its bucket has; a stored row of the bucket ends before the
  batch enters it, because no sample overlaps the row; the coverage of both fits
  the bucket, because each fits its part of it; and each of the updated samples
  is still there.  Every call then takes time away from the samples before the
  cutoff.
-/
import RouterView.Db.RollupDisjoint
import RouterView.Db.RollupLoad

set_option autoImplicit false

namespace RouterView.Db

open RouterView.Foundation

/-! ## Rows that can be rolled up -/

/-- What a rollup with this bucket size leaves in a row. -/
structure TrafficRollup.Rolled (bucketSizeMs : Int) (r : TrafficRollup) : Prop where
  sound : r.Sound
  end_le : r.bucketEndMs ≤ r.bucketStartMs + bucketSizeMs
  count_le : r.sampleCount ≤ Quantity.durationMs.ofAccumulator r.accumulator

/-- Sound samples that overlap neither each other nor a row rolled up from samples of their
interface.  Rows that were imported may be anything. -/
structure TrafficDb.Orderly (bucketSizeMs : Int) (db : TrafficDb) : Prop where
  keyed : db.Keyed
  unique : UniqueRollups db.trafficRollups
  samples : ∀ s ∈ db.trafficSamples.rows, s.Sound
  fits : ∀ s ∈ db.trafficSamples.rows, s.BytesFit
  started : ∀ s ∈ db.trafficSamples.rows, IsTimestamp s.startedAtMs
  ended : ∀ s ∈ db.trafficSamples.rows, IsTimestamp s.endedAtMs
  rolled : ∀ r ∈ db.trafficRollups.rows, r.source = "raw-rollup" → r.Rolled bucketSizeMs
  apart : ∀ s ∈ db.trafficSamples.rows, ∀ t ∈ db.trafficSamples.rows,
    t.on s.routerId s.interfaceId = true → s.id ≠ t.id → s.span.Apart t.span
  across : ∀ s ∈ db.trafficSamples.rows, ∀ r ∈ db.trafficRollups.rows,
    r.on s.routerId s.interfaceId = true → r.source = "raw-rollup" → s.span.Apart r.span

/-- The share of a sample in a bucket. -/
def TrafficSample.share (q : Quantity) (bucketSizeMs : Int) (key : BucketKey)
    (s : TrafficSample) : Int :=
  (⟨s, s.endedAtMs⟩ : Consumed).share q bucketSizeMs key

instance (bucketSizeMs : Int) (key : BucketKey) (r : TrafficRollup) :
    Decidable (r.ofBucket bucketSizeMs key) :=
  inferInstanceAs (Decidable (_ ∧ _))

/-- What a row holds of a bucket: everything, when it is the row of the bucket. -/
def TrafficRollup.held (q : Quantity) (bucketSizeMs : Int) (key : BucketKey)
    (r : TrafficRollup) : Int :=
  if r.ofBucket bucketSizeMs key then q.ofAccumulator r.accumulator else 0

/-- The sum of a quantity over a bucket: its row, and the shares of the samples in it. -/
def TrafficDb.bucketTotal (db : TrafficDb) (q : Quantity) (bucketSizeMs : Int)
    (key : BucketKey) : Int :=
  db.trafficSamples.total (TrafficSample.share q bucketSizeMs key) +
    db.trafficRollups.total (TrafficRollup.held q bucketSizeMs key)

/-- The byte sums of every bucket are 64-bit integers. -/
def TrafficDb.BucketsFit (bucketSizeMs : Int) (db : TrafficDb) : Prop :=
  ∀ key : BucketKey, bucketSizeMs ∣ key.startMs →
    db.bucketTotal .downloadBytes bucketSizeMs key ≤ i64Max ∧
      db.bucketTotal .uploadBytes bucketSizeMs key ≤ i64Max

theorem TrafficRollup.Sound.quantity_nonneg {r : TrafficRollup} (h : r.Sound) (q : Quantity) :
    0 ≤ q.exactOf r.accumulator ∧ 0 ≤ q.estimatedOf r.accumulator := by
  cases q with
  | downloadBytes => exact ⟨h.exactDownloadBytes, h.estimatedDownloadBytes⟩
  | uploadBytes => exact ⟨h.exactUploadBytes, h.estimatedUploadBytes⟩
  | durationMs => exact ⟨h.exactDurationMs, h.estimatedDurationMs⟩

section

variable {beforeMs bucketSizeMs : Int} {batchSize : Nat} {db : TrafficDb}
  {consumed : List Consumed} {later : List TrafficSample} {progress : RollupProgress}

theorem TrafficDb.Orderly.held_nonneg (h : db.Orderly bucketSizeMs) (q : Quantity)
    (key : BucketKey) : ∀ r ∈ db.trafficRollups.rows, 0 ≤ r.held q bucketSizeMs key := by
  intro r hr
  unfold TrafficRollup.held
  split
  · rename_i hof
    have hnonneg := (h.rolled r hr hof.2.2.2.2).sound.quantity_nonneg q
    exact add_nonneg hnonneg.1 hnonneg.2
  · exact le_refl _

theorem TrafficDb.Orderly.inTurn (h : db.Orderly bucketSizeMs) (routerId interfaceId : Int) :
    db.SamplesInTurn routerId interfaceId := by
  intro s hs t ht hson hton hne hle
  have hon : t.on s.routerId s.interfaceId = true := by
    simp only [TrafficSampleInput.on, decide_eq_true_eq] at hson hton ⊢
    exact ⟨hton.1.trans hson.1.symm, hton.2.trans hson.2.symm⟩
  exact (h.apart s hs t ht hon hne).before_of_start_le (h.samples t ht).increasing hle

/-! ## The loop -/

/-- A loop over a prefix of the batch, with what it put into the buckets. -/
structure Looped (beforeMs bucketSizeMs : Int) (batchSize : Nat) (db : TrafficDb)
    (consumed : List Consumed) (progress : RollupProgress) : Prop where
  loop : consumeSamples beforeMs bucketSizeMs (db.rollupSampleBatch beforeMs batchSize)
    ⟨OrdMap.empty, [], [], batchSize * 2⟩ = .ok progress
  split : ∃ later, db.rollupSampleBatch beforeMs batchSize =
    consumed.map (fun c => c.sample) ++ later
  done : BatchProgress beforeMs bucketSizeMs consumed progress
  load : Loaded bucketSizeMs consumed progress.buckets
  some_consumed : (∃ s ∈ db.trafficSamples.rows, s.startedAtMs < beforeMs) → consumed ≠ []

theorem TrafficDb.Orderly.looped (h : db.Orderly bucketSizeMs) (hpositive : 0 < bucketSizeMs)
    (hsize : bucketSizeMs ≤ i64Max) (hbatch : batchSize ≠ 0) :
    ∃ consumed progress, Looped beforeMs bucketSizeMs batchSize db consumed progress := by
  have hmem : ∀ s ∈ db.rollupSampleBatch beforeMs batchSize,
      s ∈ db.trafficSamples.rows ∧ s.startedAtMs < beforeMs :=
    fun s hs => mem_rollupSampleBatch hs
  have hinput : RollupInput beforeMs bucketSizeMs (db.rollupSampleBatch beforeMs batchSize) :=
    ⟨hpositive, hsize, fun s hs => h.started s (hmem s hs).1, fun s hs => h.ended s (hmem s hs).1,
      fun s hs => (hmem s hs).2⟩
  -- the batch is ordered, and samples of one interface come one after the other
  have horder : (db.rollupSampleBatch beforeMs batchSize).Pairwise (fun s t =>
      t.on s.routerId s.interfaceId = true → s.endedAtMs ≤ t.startedAtMs) := by
    have hsorted : (db.rollupSampleBatch beforeMs batchSize).Pairwise
        (fun s t => s.startedAtMs ≤ t.startedAtMs) :=
      (rollupSampleBatch_order (List.append_nil _).symm).1
    have hdistinct : (db.rollupSampleBatch beforeMs batchSize).Pairwise
        (fun s t => s.id ≠ t.id) :=
      List.pairwise_map.mp (rollupSampleBatch_nodup h.keyed.samples beforeMs batchSize)
    refine (hsorted.and hdistinct).imp_of_mem ?_
    intro s t hs ht hst hon
    have hself : s.on s.routerId s.interfaceId = true := by simp [TrafficSampleInput.on]
    exact h.inTurn _ _ s (hmem s hs).1 t (hmem t ht).1 hself hon hst.2 hst.1
  obtain ⟨consumed, later, progress, hloop, hsplit, hdone, hload, hsome⟩ :=
    consumeSamples_succeeds hinput
      ⟨fun s hs => h.samples s (hmem s hs).1, fun s hs => h.fits s (hmem s hs).1⟩
      (fun s hs => hs) horder (BatchProgress.initial beforeMs bucketSizeMs (batchSize * 2))
      (Loaded.empty bucketSizeMs) (by simp)
  refine ⟨consumed, progress, hloop, ⟨later, hsplit⟩, hdone, hload, ?_⟩
  rintro ⟨s, hs, hbefore⟩
  refine hsome (by simpa using hbatch) ?_
  intro hnil
  have hlength := congrArg List.length hnil
  have hin : s ∈ db.trafficSamples.rows.filter (fun s => decide (s.startedAtMs < beforeMs)) :=
    List.mem_filter.mpr ⟨hs, decide_eq_true hbefore⟩
  have hpositive := List.length_pos_of_mem hin
  simp only [TrafficDb.rollupSampleBatch, List.length_take, List.length_insertionSort,
    List.length_nil] at hlength
  omega

theorem Looped.consumed_mem (h : Looped beforeMs bucketSizeMs batchSize db consumed progress) :
    ∀ c ∈ consumed, c.sample ∈ db.trafficSamples.rows := by
  obtain ⟨later, hsplit⟩ := h.split
  intro c hc
  have hin : c.sample ∈ db.rollupSampleBatch beforeMs batchSize := by
    rw [hsplit]
    exact List.mem_append_left _ (List.mem_map_of_mem hc)
  exact (mem_rollupSampleBatch hin).1

theorem Looped.distinct (h : Looped beforeMs bucketSizeMs batchSize db consumed progress)
    (hkeyed : db.Keyed) : (consumed.map (fun c => c.sample.id)).Nodup := by
  obtain ⟨later, hsplit⟩ := h.split
  have hids := rollupSampleBatch_nodup hkeyed.samples beforeMs batchSize
  rw [hsplit, List.map_append, List.map_map] at hids
  exact (List.nodup_append.mp hids).1

/-- The shares that were consumed are part of the sum of the bucket. -/
theorem Looped.shares_le (h : Looped beforeMs bucketSizeMs batchSize db consumed progress)
    (horderly : db.Orderly bucketSizeMs) (q : Quantity) (key : BucketKey) :
    (consumed.map (Consumed.share q bucketSizeMs key)).sum ≤
      db.trafficSamples.total (TrafficSample.share q bucketSizeMs key) := by
  have hwhole : (consumed.map (Consumed.share q bucketSizeMs key)).sum ≤
      (consumed.map (fun c => c.sample.share q bucketSizeMs key)).sum := by
    refine sum_map_le_sum_map ?_
    intro c hc
    have hproper := h.done.proper c hc
    exact Consumed.share_mono hproper.sound q bucketSizeMs key hproper.le_ended
  have hnodup : (consumed.map (fun c => c.sample)).Nodup := by
    have hids := h.distinct horderly.keyed
    rw [← Function.comp_def (fun s : TrafficSample => s.id), ← List.map_map] at hids
    exact List.Nodup.of_map _ hids
  have hpart := Table.sum_le_total (w := TrafficSample.share q bucketSizeMs key)
    (fun s hs => Consumed.share_nonneg (c := ⟨s, s.endedAtMs⟩) (horderly.samples s hs) q
      bucketSizeMs key) hnodup (by
      intro s hs
      obtain ⟨c, hc, rfl⟩ := List.mem_map.mp hs
      exact h.consumed_mem c hc)
  rw [List.map_map] at hpart
  exact le_trans hwhole hpart

/-! ## The writes -/

/-- The rule of a pass that succeeds. -/
theorem writeAll_succeeds {α β : Type} {write : α → β → DatabaseResult β} {l : List α}
    (Invariant : List α → β → Prop)
    (hstep : ∀ {done a later b}, l = done ++ a :: later → Invariant done b →
      ∃ b', write a b = .ok b' ∧ Invariant (done ++ [a]) b')
    {b : β} (hinitial : Invariant [] b) : ∃ b', writeAll write l b = .ok b' := by
  suffices hsuffix : ∀ (done rest : List α) (b : β), l = done ++ rest → Invariant done b →
      ∃ b', writeAll write rest b = .ok b' from hsuffix [] l b rfl hinitial
  intro done rest
  induction rest generalizing done with
  | nil => exact fun b _ _ => ⟨b, rfl⟩
  | cons a rest ih =>
      intro b hl hinvariant
      obtain ⟨next, hwrite, hnext⟩ := hstep hl hinvariant
      obtain ⟨b', hrest⟩ := ih (done ++ [a]) next (by simp [hl]) hnext
      exact ⟨b', bind_eq_ok_iff.mpr ⟨next, hwrite, hrest⟩⟩

/-- A quantity within 64 bits. -/
def TrafficBucketAccumulator.BytesIn (a : TrafficBucketAccumulator) : Prop :=
  IsI64 a.exactDownloadBytes ∧ IsI64 a.exactUploadBytes ∧ IsI64 a.estimatedDownloadBytes ∧
    IsI64 a.estimatedUploadBytes

/-- A bucket is written when its sums fit and the stored row of the bucket, if there is one,
can take them. -/
theorem writeBucket_succeeds {entry : BucketKey × RollupBucket} {t mid : Table TrafficRollup}
    {done : List (BucketKey × RollupBucket)} (hsize : bucketSizeMs ≤ i64Max)
    (hentry : EntryOf bucketSizeMs consumed entry) (hbytes : entry.2.accumulator.BytesIn)
    (hmid : RollupsAfter bucketSizeMs t done mid) (hnew : ∀ e ∈ done, e.1 ≠ entry.1)
    (hmergeable : ∀ stored ∈ t.rows, stored.ofBucket bucketSizeMs entry.1 →
      (rollupRow bucketSizeMs entry.1 entry.2 0).mergeable entry.2.batchStartMs stored = true) :
    ∃ t', writeBucket bucketSizeMs entry mid = .ok t' := by
  obtain ⟨hexactDownload, hexactUpload, hestimatedDownload, hestimatedUpload⟩ := hbytes
  have hcovered := hentry.covered
  have hcoverage := hentry.coverage
  have hstart := hentry.start_le
  have hend := hentry.end_le
  have hexact := hentry.exact_nonneg .durationMs
  have hestimated := hentry.estimated_nonneg .durationMs
  simp only [Quantity.ofAccumulator, Quantity.exactOf, Quantity.estimatedOf]
    at hcovered hcoverage hexact hestimated
  have hsum : satAdd entry.2.accumulator.exactDurationMs entry.2.accumulator.estimatedDurationMs =
      entry.2.accumulator.exactDurationMs + entry.2.accumulator.estimatedDurationMs :=
    satAdd_eq (by simp only [IsI64, i64Min]; omega)
  have hduration : ¬ (satAdd entry.2.accumulator.exactDurationMs
        entry.2.accumulator.estimatedDurationMs ≤ 0 ∨
      satAdd entry.2.accumulator.exactDurationMs entry.2.accumulator.estimatedDurationMs >
        bucketSizeMs) := by
    rw [hsum]
    omega
  have hone : (upsertRollup (rollupRow bucketSizeMs entry.1 entry.2) entry.2.batchStartMs
      mid).1 = 1 := by
    simp only [upsertRollup]
    split
    · rename_i hany
      obtain ⟨stored, hstored, hconflict⟩ := List.any_eq_true.mp hany
      have hof := conflicts_rollupRow_iff.mp hconflict
      -- buckets that were written before have other keys, so the row is an original one
      have horiginal : stored ∈ t.rows := by
        rcases hmid.rows stored hstored with horiginal | ⟨e, he, hby⟩
        · exact horiginal
        · exact absurd (hby.ofBucket.key_eq hof) (hnew e he)
      refine hmid.keyed.countP_eq_one hstored ?_ ?_
      · rw [Bool.and_eq_true]
        exact ⟨hconflict, hmergeable stored horiginal hof⟩
      · intro r hr hcondition
        rw [Bool.and_eq_true] at hcondition
        obtain ⟨hrouter, hinterface, hsized, hstarted, hsource⟩ :=
          conflicts_rollupRow_iff.mp hcondition.1
        obtain ⟨hrouter', hinterface', hsized', hstarted', hsource'⟩ := hof
        refine hmid.unique r hr stored hstored ?_
        simp only [TrafficRollup.conflicts, decide_eq_true_eq]
        exact ⟨hrouter'.trans hrouter.symm, hinterface'.trans hinterface.symm,
          hsized'.trans hsized.symm, hstarted'.trans hstarted.symm, hsource'.trans hsource.symm⟩
    · rfl
  unfold writeBucket
  exact ⟨_, ensure_bind_eq_ok_iff.mpr ⟨hexactDownload, ensure_bind_eq_ok_iff.mpr ⟨hexactUpload,
    ensure_bind_eq_ok_iff.mpr ⟨hestimatedDownload, ensure_bind_eq_ok_iff.mpr ⟨hestimatedUpload,
      ensure_bind_eq_ok_iff.mpr ⟨hduration, ensure_bind_eq_ok_iff.mpr ⟨hone, rfl⟩⟩⟩⟩⟩⟩⟩

/-- What a bucket adds to its stored row stays within the sum of the bucket. -/
theorem Looped.held_add_le (h : Looped beforeMs bucketSizeMs batchSize db consumed progress)
    (horderly : db.Orderly bucketSizeMs) {entry : BucketKey × RollupBucket}
    (hentry : entry ∈ progress.buckets.entries) (q : Quantity) :
    q.ofAccumulator entry.2.accumulator ≤ db.bucketTotal q bucketSizeMs entry.1 ∧
      ∀ stored ∈ db.trafficRollups.rows, stored.ofBucket bucketSizeMs entry.1 →
        q.ofAccumulator stored.accumulator + q.ofAccumulator entry.2.accumulator ≤
          db.bucketTotal q bucketSizeMs entry.1 := by
  have hload := h.load.quantity entry hentry q
  have hshares := h.shares_le horderly q entry.1
  have hnonneg := horderly.held_nonneg q entry.1
  simp only [TrafficDb.bucketTotal]
  constructor
  · have hrest := Table.sum_le_total hnonneg List.nodup_nil (by simp)
    simp only [List.map_nil, List.sum_nil] at hrest
    omega
  · intro stored hstored hof
    have hrow := Table.sum_le_total hnonneg (List.nodup_singleton stored) (by simpa using hstored)
    simp only [List.map_cons, List.map_nil, List.sum_cons, List.sum_nil, TrafficRollup.held, hof,
      if_true] at hrow
    omega

/-- The stored row of a bucket ends before the batch enters the bucket. -/
theorem Looped.stored_end_le (h : Looped beforeMs bucketSizeMs batchSize db consumed progress)
    (horderly : db.Orderly bucketSizeMs) {entry : BucketKey × RollupBucket}
    (hentry : entry ∈ progress.buckets.entries) {stored : TrafficRollup}
    (hstored : stored ∈ db.trafficRollups.rows) (hof : stored.ofBucket bucketSizeMs entry.1) :
    stored.bucketEndMs ≤ entry.2.batchStartMs := by
  have he := h.done.covers.entries entry hentry
  obtain ⟨hrouter, hinterface, _, hstart, hsource⟩ := hof
  obtain ⟨c, hc, hon, hlo, hhi⟩ := he.opened
  have hle := (h.done.proper c hc).le_ended
  have hbucket := he.start_le
  have hsame : stored.on c.sample.routerId c.sample.interfaceId = true := by
    simp only [TrafficSampleInput.on, TrafficRollup.on, decide_eq_true_eq] at hon ⊢
    exact ⟨hrouter.trans hon.1.symm, hinterface.trans hon.2.symm⟩
  have hacross := horderly.across c.sample (h.consumed_mem c hc) stored hstored hsame hsource
  simp only [Span.Apart, Span.Before, TrafficRollup.span, TrafficSampleInput.span] at hacross
  omega

/-- The stored row of a bucket can take what the batch adds. -/
theorem Looped.mergeable (h : Looped beforeMs bucketSizeMs batchSize db consumed progress)
    (horderly : db.Orderly bucketSizeMs) (hfit : db.BucketsFit bucketSizeMs)
    (hsize : bucketSizeMs ≤ i64Max) {entry : BucketKey × RollupBucket}
    (hentry : entry ∈ progress.buckets.entries) {stored : TrafficRollup}
    (hstored : stored ∈ db.trafficRollups.rows) (hof : stored.ofBucket bucketSizeMs entry.1) :
    (rollupRow bucketSizeMs entry.1 entry.2 0).mergeable entry.2.batchStartMs stored = true := by
  have he := h.done.covers.entries entry hentry
  have hrolled := horderly.rolled stored hstored hof.2.2.2.2
  have hordered := h.stored_end_le horderly hentry hstored hof
  have hstart : stored.bucketStartMs = entry.1.startMs := hof.2.2.2.1
  have hcoverage := he.coverage
  have hend := he.end_le
  have hcoverage' := hrolled.sound.coverage
  have hcount := h.load.count entry hentry
  have hcount' := hrolled.count_le
  have hdownload := (h.held_add_le horderly hentry .downloadBytes).2 stored hstored hof
  have hupload := (h.held_add_le horderly hentry .uploadBytes).2 stored hstored hof
  have hnonneg := fun q => hrolled.sound.quantity_nonneg q
  have hnonneg' := fun q => he.exact_nonneg q
  have hnonneg'' := fun q => he.estimated_nonneg q
  have hdown := hnonneg .downloadBytes
  have hup := hnonneg .uploadBytes
  have hdown' := hnonneg' .downloadBytes
  have hup' := hnonneg' .uploadBytes
  have hdown'' := hnonneg'' .downloadBytes
  have hup'' := hnonneg'' .uploadBytes
  obtain ⟨hfitDown, hfitUp⟩ := hfit entry.1 he.floor
  simp only [Quantity.ofAccumulator, Quantity.exactOf, Quantity.estimatedOf,
      TrafficRollup.accumulator]
    at hcoverage hcount hcount' hdownload hupload hdown hup hdown' hup' hdown'' hup''
  rw [TrafficRollup.mergeable, decide_eq_true_eq]
  simp only [rollupRow]
  omega

theorem Looped.bytesIn (h : Looped beforeMs bucketSizeMs batchSize db consumed progress)
    (horderly : db.Orderly bucketSizeMs) (hfit : db.BucketsFit bucketSizeMs)
    {entry : BucketKey × RollupBucket} (hentry : entry ∈ progress.buckets.entries) :
    entry.2.accumulator.BytesIn := by
  have he := h.done.covers.entries entry hentry
  have hdownload := (h.held_add_le horderly hentry .downloadBytes).1
  have hupload := (h.held_add_le horderly hentry .uploadBytes).1
  have hdown := he.exact_nonneg .downloadBytes
  have hup := he.exact_nonneg .uploadBytes
  have hdown' := he.estimated_nonneg .downloadBytes
  have hup' := he.estimated_nonneg .uploadBytes
  obtain ⟨hfitDown, hfitUp⟩ := hfit entry.1 he.floor
  simp only [Quantity.ofAccumulator, Quantity.exactOf, Quantity.estimatedOf]
    at hdownload hupload hdown hup hdown' hup'
  simp only [i64Max] at hfitDown hfitUp
  refine ⟨?_, ?_, ?_, ?_⟩ <;> simp only [IsI64, i64Min, i64Max] <;> omega

/-- The pass over the buckets succeeds. -/
theorem Looped.writesBuckets
    (h : Looped beforeMs bucketSizeMs batchSize db consumed progress)
    (horderly : db.Orderly bucketSizeMs) (hfit : db.BucketsFit bucketSizeMs)
    (hsize : bucketSizeMs ≤ i64Max) :
    ∃ rollups, writeAll (writeBucket bucketSizeMs) progress.buckets.entries db.trafficRollups =
      .ok rollups := by
  refine writeAll_succeeds
    (fun done mid => RollupsAfter bucketSizeMs db.trafficRollups done mid) ?_
    ⟨horderly.keyed.rollups, horderly.unique, by simp, fun r hr => Or.inl hr, by simp,
      fun r hr => ⟨r, hr, rfl, rfl, le_refl _⟩, by simp⟩
  intro done entry later mid hsplit hmid
  have hentry : entry ∈ progress.buckets.entries := by
    rw [hsplit]
    simp
  have hsorted := progress.buckets.sorted
  rw [hsplit, List.pairwise_append] at hsorted
  have hnew : ∀ e ∈ done, e.1 ≠ entry.1 :=
    fun e he => ne_of_lt (hsorted.2.2 e he entry List.mem_cons_self)
  obtain ⟨t', hwrite⟩ := writeBucket_succeeds hsize (h.done.covers.entries entry hentry)
    (h.bytesIn horderly hfit hentry) hmid hnew
    (fun stored hstored hof => h.mergeable horderly hfit hsize hentry hstored hof)
  exact ⟨t', hwrite, hmid.write hnew hwrite⟩

/-- A stored sample that was not written yet is the only one with its identifier. -/
theorem SamplesAfter.counts_one {t mid : Table TrafficSample} {done : List Consumed}
    (h : SamplesAfter t done mid) {c : Consumed} (hmem : c.sample ∈ t.rows)
    (hnew : ∀ d ∈ done, d.sample.id ≠ c.sample.id) :
    mid.rows.countP (fun s => decide (s.id = c.sample.id)) = 1 :=
  h.keyed.countP_eq_one (h.pending c.sample hmem hnew) (decide_eq_true rfl)
    (fun _ _ hid => of_decide_eq_true hid)

theorem writeRemainder_succeeds {t mid : Table TrafficSample} {done : List Consumed}
    (h : SamplesAfter t done mid) {c : Consumed} (hproper : c.Proper beforeMs)
    (hfits : c.sample.BytesFit) (hmem : c.sample ∈ t.rows)
    (hnew : ∀ d ∈ done, d.sample.id ≠ c.sample.id) :
    ∃ t', writeRemainder c.remainder mid = .ok t' := by
  have hdownload := hproper.quantity_bounds .downloadBytes
  have hupload := hproper.quantity_bounds .uploadBytes
  obtain ⟨hfitDown, hfitUp⟩ := hfits
  simp only [Quantity.ofSample] at hdownload hupload
  simp only [i64Max] at hfitDown hfitUp
  have hdown : IsI64 c.remainder.downloadBytes := by
    simp only [Consumed.remainder, IsI64, i64Min, i64Max]
    omega
  have hup : IsI64 c.remainder.uploadBytes := by
    simp only [Consumed.remainder, IsI64, i64Min, i64Max]
    omega
  unfold writeRemainder
  exact ⟨_, ensure_bind_eq_ok_iff.mpr ⟨hdown, ensure_bind_eq_ok_iff.mpr ⟨hup,
    ensure_bind_eq_ok_iff.mpr ⟨h.counts_one hmem hnew, rfl⟩⟩⟩⟩

theorem deleteConsumed_succeeds {t mid : Table TrafficSample} {done : List Consumed}
    (h : SamplesAfter t done mid) {c : Consumed} (hmem : c.sample ∈ t.rows)
    (hnew : ∀ d ∈ done, d.sample.id ≠ c.sample.id) :
    ∃ t', deleteConsumed c.sample.id mid = .ok t' := by
  unfold deleteConsumed
  exact ⟨_, ensure_bind_eq_ok_iff.mpr ⟨h.counts_one hmem hnew, rfl⟩⟩

/-- The passes over the samples succeed. -/
theorem Looped.writesSamples
    (h : Looped beforeMs bucketSizeMs batchSize db consumed progress)
    (horderly : db.Orderly bucketSizeMs) :
    ∃ remained kept, writeAll writeRemainder progress.remainders db.trafficSamples = .ok remained ∧
      writeAll deleteConsumed progress.fullyConsumed remained = .ok kept := by
  have hmem := h.consumed_mem
  have hdistinct := h.distinct horderly.keyed
  rw [h.done.remainders, h.done.fullyConsumed]
  have hfirst : ∃ remained, writeAll writeRemainder
      ((consumed.filter (fun c => !c.complete)).map Consumed.remainder) db.trafficSamples =
        .ok remained := by
    rw [writeAll_map]
    refine writeAll_succeeds (fun done mid => SamplesAfter db.trafficSamples done mid) ?_
      (SamplesAfter.initial horderly.keyed.samples)
    intro done c later mid hfilter hmid
    obtain ⟨⟨hc, hincomplete⟩, hnew⟩ := consumed_split hdistinct hfilter
    obtain ⟨next, hwrite⟩ := writeRemainder_succeeds hmid (h.done.proper c hc)
      (horderly.fits c.sample (hmem c hc)) (hmem c hc) hnew
    exact ⟨next, hwrite, hmid.writeRemainder (hmem c hc) hnew (by simpa using hincomplete) hwrite⟩
  obtain ⟨remained, hremained⟩ := hfirst
  have hafter := writeAll_remainders horderly.keyed.samples hmem hdistinct hremained
  have hsecond : ∃ kept, writeAll deleteConsumed
      ((consumed.filter Consumed.complete).map (fun c => c.sample.id)) remained = .ok kept := by
    rw [writeAll_map]
    refine writeAll_succeeds (fun done mid => SamplesAfter db.trafficSamples
      (consumed.filter (fun c => !c.complete) ++ done) mid) ?_ (by simpa using hafter)
    intro done c later mid hfilter hmid
    obtain ⟨⟨hc, hcomplete⟩, _⟩ := consumed_split hdistinct hfilter
    have hnew := consumed_before_complete hdistinct hfilter
    obtain ⟨next, hwrite⟩ := deleteConsumed_succeeds hmid (hmem c hc) hnew
    rw [← List.append_assoc]
    exact ⟨next, hwrite, hmid.deleteConsumed (hmem c hc) hnew hcomplete hwrite⟩
  obtain ⟨kept, hkept⟩ := hsecond
  exact ⟨remained, kept, hremained, hkept⟩

/-! ## One call -/

/-- A batch size that the call accepts. -/
def ValidBatch (batchSize : Nat) : Prop := 1 ≤ batchSize ∧ (batchSize : Int) ≤ i64Max

instance (batchSize : Nat) : Decidable (ValidBatch batchSize) :=
  inferInstanceAs (Decidable (_ ∧ _))

/-- The call succeeds. -/
theorem TrafficDb.Orderly.succeeds (horderly : db.Orderly bucketSizeMs)
    (hpositive : 0 < bucketSizeMs) (hsize : bucketSizeMs ≤ i64Max)
    (hfit : db.BucketsFit bucketSizeMs) (hbatch : ValidBatch batchSize) :
    ∃ n db', rollupExactSamplesBatch beforeMs bucketSizeMs batchSize db = .ok (n, db') := by
  obtain ⟨hone, hlimit⟩ := hbatch
  have hsome : batchSize ≠ 0 := by omega
  obtain ⟨consumed, progress, h⟩ : ∃ consumed progress,
      Looped beforeMs bucketSizeMs batchSize db consumed progress :=
    horderly.looped hpositive hsize hsome
  obtain ⟨rollups, hrollups⟩ := h.writesBuckets horderly hfit hsize
  obtain ⟨remained, kept, hremained, hkept⟩ := h.writesSamples horderly
  simp only [i64Max] at hlimit
  have hbudget : batchSize * 2 < 2 ^ 64 := by omega
  have hisI64 : IsI64 batchSize := by
    simp only [IsI64, i64Min, i64Max]
    omega
  exact ⟨_, _, rollupExactSamplesBatch_eq_ok_iff.mpr ⟨progress, rollups, remained, kept,
    ⟨hpositive, hbudget, hisI64, hsome, h.loop, hrollups, hremained, hkept⟩, rfl, rfl⟩⟩

/-- What a successful call did. -/
theorem TrafficDb.Orderly.rolledUp (horderly : db.Orderly bucketSizeMs)
    (hsize : bucketSizeMs ≤ i64Max) {n : Nat} {db' : TrafficDb}
    (hok : rollupExactSamplesBatch beforeMs bucketSizeMs batchSize db = .ok (n, db')) :
    ∃ consumed progress, Looped beforeMs bucketSizeMs batchSize db consumed progress ∧
      RolledUp beforeMs bucketSizeMs db consumed progress.buckets db' := by
  obtain ⟨progress', rollups, remained, kept, hpasses, _, rfl⟩ :=
    rollupExactSamplesBatch_eq_ok_iff.mp hok
  obtain ⟨consumed, progress, h⟩ : ∃ consumed progress,
      Looped beforeMs bucketSizeMs batchSize db consumed progress :=
    horderly.looped hpasses.size hsize hpasses.batch
  have hloop := hpasses.loop
  rw [h.loop, Except.ok.injEq] at hloop
  subst hloop
  obtain ⟨later, hsplit⟩ := h.split
  exact ⟨consumed, progress, h, RolledUp.of_passes horderly.keyed horderly.unique
    hpasses.size hsplit h.done hpasses.buckets hpasses.remainders hpasses.deletions⟩

variable {buckets : OrdMap BucketKey RollupBucket} {db' : TrafficDb}

/-- A rollup leaves rows that can be rolled up again. -/
theorem RolledUp.orderly (h : RolledUp beforeMs bucketSizeMs db consumed buckets db')
    (hload : Loaded bucketSizeMs consumed buckets) (horderly : db.Orderly bucketSizeMs) :
    db'.Orderly bucketSizeMs where
  keyed := ⟨h.samples.keyed, h.rollups.keyed⟩
  unique := h.rollups.unique
  samples := h.samples_sound horderly.samples
  fits := h.samples_fit horderly.fits
  started := h.samples_started horderly.started
  ended := h.samples_ended horderly.ended
  rolled := by
    intro r hr hsource
    rcases h.rollups.rows r hr with hold | ⟨entry, hentry, hby⟩
    · exact horderly.rolled r hold hsource
    · have he := h.covers.entries entry hentry
      have hcount := hload.count entry hentry
      have hend := hby.bucketEnd he
      have hle := he.end_le
      obtain ⟨_, _, _, hstart, _⟩ := hby.ofBucket
      rcases hby with hby | ⟨stored, hstored, hof, hmergeable, hby⟩
      · refine ⟨hby ▸ he.rollupRow_sound _, by omega, ?_⟩
        rw [hby]
        exact hcount
      · have hrolled := horderly.rolled stored hstored hof.2.2.2.2
        refine ⟨hby ▸ he.merge_sound hrolled.sound hmergeable, by omega, ?_⟩
        have hcount' := hrolled.count_le
        have hmerged := merge_quantity .durationMs (rollupRow bucketSizeMs entry.1 entry.2 0) stored
        have hrow : (rollupRow bucketSizeMs entry.1 entry.2 0).accumulator =
          entry.2.accumulator := rfl
        have hcounted : r.sampleCount = stored.sampleCount + entry.2.accumulator.sampleCount := by
          rw [hby]
          rfl
        rw [hcounted, hby]
        simp only [Quantity.ofAccumulator] at hcount hcount' ⊢
        rw [hmerged.1, hmerged.2, hrow]
        omega
  apart := by
    intro x hx y hy hon hne
    have hself : x.on x.routerId x.interfaceId = true := by simp [TrafficSampleInput.on]
    obtain ⟨s, hs, hson, hsid, hsstart, hsend⟩ := h.sample_origin hx hself
    obtain ⟨t, ht, hton, htid, htstart, htend⟩ := h.sample_origin hy hon
    have hst : t.on s.routerId s.interfaceId = true := by
      simp only [TrafficSampleInput.on, decide_eq_true_eq] at hson hton ⊢
      exact ⟨hton.1.trans hson.1.symm, hton.2.trans hson.2.symm⟩
    have happart := horderly.apart s hs t ht hst (by rw [hsid, htid]; exact hne)
    have hxt : x.span.Apart t.span := happart.mono hsstart (le_of_eq hsend)
    have hyx : y.span.Apart x.span := hxt.symm.mono htstart (le_of_eq htend)
    exact hyx.symm
  across := by
    intro x hx r hr hon hsource
    have hself : x.on x.routerId x.interfaceId = true := by simp [TrafficSampleInput.on]
    rcases h.rollups.rows r hr with hold | ⟨entry, hentry, hby⟩
    · obtain ⟨s, hs, hson, _, hsstart, hsend⟩ := h.sample_origin hx hself
      have hrs : r.on s.routerId s.interfaceId = true := by
        simp only [TrafficSampleInput.on, TrafficRollup.on, decide_eq_true_eq] at hson hon ⊢
        exact ⟨hon.1.trans hson.1.symm, hon.2.trans hson.2.symm⟩
      exact (horderly.across s hs r hold hrs hsource).mono hsstart (le_of_eq hsend)
    · exact h.next_apart_written (horderly.inTurn _ _) hx hself hon hentry hby

/-! ## The time before the cutoff -/

/-- The time of a sample that lies before the cutoff. -/
def TrafficSample.pendingMs (beforeMs : Int) (s : TrafficSample) : Int :=
  max 0 (min s.endedAtMs beforeMs - s.startedAtMs)

/-- The time of all samples that lies before the cutoff. -/
def TrafficDb.pendingMs (beforeMs : Int) (db : TrafficDb) : Int :=
  db.trafficSamples.total (TrafficSample.pendingMs beforeMs)

theorem Consumed.Proper.change_pendingMs {c : Consumed} (h : c.Proper beforeMs) :
    c.change (TrafficSample.pendingMs beforeMs) < 0 := by
  have hadvances := h.advances
  have hended := h.le_ended
  have hbefore := h.le_before
  unfold Consumed.change Consumed.left
  split
  · simp only [Option.elim, TrafficSample.pendingMs]
    omega
  · simp only [Option.elim, TrafficSample.pendingMs, RawTrafficRemainder.applyTo,
      Consumed.remainder]
    omega

/-- A rollup takes time away for what it consumed. -/
theorem RolledUp.pendingMs_change (h : RolledUp beforeMs bucketSizeMs db consumed buckets db') :
    db'.pendingMs beforeMs = db.pendingMs beforeMs +
      (consumed.map (Consumed.change (TrafficSample.pendingMs beforeMs))).sum := by
  have htotal := h.samples.total (TrafficSample.pendingMs beforeMs)
  rw [sum_map_filter_split] at htotal
  exact htotal

theorem sum_changes_nonpos (hproper : ∀ c ∈ consumed, c.Proper beforeMs) :
    (consumed.map (Consumed.change (TrafficSample.pendingMs beforeMs))).sum ≤ 0 := by
  have hzero : (consumed.map (Consumed.change (TrafficSample.pendingMs beforeMs))).sum ≤
      (consumed.map (fun _ => (0 : Int))).sum :=
    sum_map_le_sum_map (fun c hc => le_of_lt (hproper c hc).change_pendingMs)
  simpa using hzero

theorem RolledUp.pendingMs_le (h : RolledUp beforeMs bucketSizeMs db consumed buckets db') :
    db'.pendingMs beforeMs ≤ db.pendingMs beforeMs := by
  have hchange := h.pendingMs_change
  have hnonpos := sum_changes_nonpos h.proper
  omega

theorem RolledUp.pendingMs_lt (h : RolledUp beforeMs bucketSizeMs db consumed buckets db')
    (hconsumed : consumed ≠ []) : db'.pendingMs beforeMs < db.pendingMs beforeMs := by
  have hchange := h.pendingMs_change
  cases hlist : consumed with
  | nil => exact absurd hlist hconsumed
  | cons c rest =>
      have hproper := h.proper
      rw [hlist] at hchange hproper
      have hfirst := (hproper c List.mem_cons_self).change_pendingMs
      have hrest := sum_changes_nonpos (fun d hd => hproper d (List.mem_cons_of_mem _ hd))
      rw [List.map_cons, List.sum_cons] at hchange
      omega

end

end RouterView.Db
