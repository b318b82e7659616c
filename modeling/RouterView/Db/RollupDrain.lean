/-
  Db/RollupDrain.lean --- rollups use the history up.

  In every state that an import, registrations, commits of samples that overlap
  nothing, prunings and rollups of one bucket size can reach, a rollup succeeds
  and takes time away from the samples before its cutoff; so finitely many
  calls leave none.  The sums of the buckets must fit their columns in every
  state on the way.  They do when the row of a bucket fits together with the
  whole of every sample that reaches into the bucket, which is not lost when
  what is left of a sample is shared out anew.
-/
import RouterView.Db.LegacyQueries
import RouterView.Db.RollupProgress

set_option autoImplicit false

namespace RouterView.Db

open RouterView.Foundation

/-! ## Histories -/

/-- A call that changes the history of the interfaces. -/
inductive HistoryEvent where
  | write (event : StoreEvent)
  | prune (beforeMs : Int) (batchSize : Nat)

/-- One call; the rollups share one bucket size. -/
def historyStep (bucketSizeMs : Int) (db : TrafficDb) : HistoryEvent → TrafficDb
  | .write event => storeStep bucketSizeMs db event
  | .prune beforeMs batchSize => committed (pruneExactHistoryBatch beforeMs batchSize db) db

/-- The sample overlaps no stored sample of its interface, and no row rolled up from them. -/
def TrafficDb.HasRoomFor (db : TrafficDb) (sample : TrafficSampleInput) : Prop :=
  (∀ s ∈ db.trafficSamples.rows, s.on sample.routerId sample.interfaceId = true →
    s.span.Apart sample.span) ∧
  ∀ r ∈ db.trafficRollups.rows, r.on sample.routerId sample.interfaceId = true →
    r.source = "raw-rollup" → r.span.Apart sample.span

instance (db : TrafficDb) (sample : TrafficSampleInput) : Decidable (db.HasRoomFor sample) :=
  inferInstanceAs (Decidable (_ ∧ _))

/-- A committed sample has timestamps and 64-bit byte counts, and a new one overlaps nothing. -/
def HistoryEvent.Disjoint (db : TrafficDb) : HistoryEvent → Prop
  | .write (.commitSample sample _) =>
      IsTimestamp sample.startedAtMs ∧ IsTimestamp sample.endedAtMs ∧
        sample.downloadBytes ≤ i64Max ∧ sample.uploadBytes ≤ i64Max ∧
        (db.existingSample sample = none → db.HasRoomFor sample)
  | _ => True

instance (db : TrafficDb) (event : HistoryEvent) : Decidable (event.Disjoint db) := by
  unfold HistoryEvent.Disjoint
  split <;> infer_instance

section Steps

variable {bucketSizeMs : Int} {db db' : TrafficDb}

theorem TrafficDb.Orderly.congr (h : db.Orderly bucketSizeMs)
    (hsamples : db'.trafficSamples = db.trafficSamples)
    (hrollups : db'.trafficRollups = db.trafficRollups) : db'.Orderly bucketSizeMs where
  keyed := ⟨hsamples ▸ h.keyed.samples, hrollups ▸ h.keyed.rollups⟩
  unique := hrollups ▸ h.unique
  samples := hsamples ▸ h.samples
  fits := hsamples ▸ h.fits
  started := hsamples ▸ h.started
  ended := hsamples ▸ h.ended
  rolled := hrollups ▸ h.rolled
  apart := hsamples ▸ h.apart
  across := hsamples ▸ hrollups ▸ h.across

/-- Fewer rows are as orderly. -/
theorem TrafficDb.Orderly.prune (h : db.Orderly bucketSizeMs) (hpruned : Pruned db db') :
    db'.Orderly bucketSizeMs where
  keyed := by
    obtain ⟨_, hsamples⟩ := hpruned.samples
    obtain ⟨_, hrollups⟩ := hpruned.rollups
    refine ⟨?_, ?_⟩
    · rw [hsamples]
      exact h.keyed.samples.deleteWhere _
    · rw [hrollups]
      exact h.keyed.rollups.deleteWhere _
  unique := fun a ha b hb => h.unique a (hpruned.rollup_mem ha) b (hpruned.rollup_mem hb)
  samples := fun s hs => h.samples s (hpruned.sample_mem hs)
  fits := fun s hs => h.fits s (hpruned.sample_mem hs)
  started := fun s hs => h.started s (hpruned.sample_mem hs)
  ended := fun s hs => h.ended s (hpruned.sample_mem hs)
  rolled := fun r hr => h.rolled r (hpruned.rollup_mem hr)
  apart := fun s hs t ht => h.apart s (hpruned.sample_mem hs) t (hpruned.sample_mem ht)
  across := fun s hs r hr => h.across s (hpruned.sample_mem hs) r (hpruned.rollup_mem hr)

/-- A new sample that overlaps nothing. -/
theorem TrafficDb.Orderly.insertSample (h : db.Orderly bucketSizeMs) {sample : TrafficSampleInput}
    (hvalid : ValidSample sample) (hstarted : IsTimestamp sample.startedAtMs)
    (hended : IsTimestamp sample.endedAtMs) (hdownload : sample.downloadBytes ≤ i64Max)
    (hupload : sample.uploadBytes ≤ i64Max) (hroom : db.HasRoomFor sample) :
    (db.insertSample sample).Orderly bucketSizeMs := by
  have hrow : ∀ {P : TrafficSample → Prop}, (∀ x ∈ db.trafficSamples.rows, P x) →
      (∀ id, P { sample with id := id }) →
      ∀ x ∈ (db.insertSample sample).trafficSamples.rows, P x := by
    intro P hold hnew x hx
    rcases List.mem_append.mp hx with hx | hx
    · exact hold x hx
    · rw [List.mem_singleton.mp hx]
      exact hnew _
  have hflip : ∀ {s t : TrafficSampleInput}, t.on s.routerId s.interfaceId = true →
      s.on t.routerId t.interfaceId = true := by
    intro s t hon
    simp only [TrafficSampleInput.on, decide_eq_true_eq] at hon ⊢
    exact ⟨hon.1.symm, hon.2.symm⟩
  exact {
    keyed := ⟨h.keyed.samples.insert (fun _ => rfl), h.keyed.rollups⟩
    unique := h.unique
    samples := hrow h.samples
      (fun _ => ⟨hvalid.increasing, hvalid.duration, hvalid.downloadBytes, hvalid.uploadBytes⟩)
    fits := hrow h.fits (fun _ => ⟨hdownload, hupload⟩)
    started := hrow h.started (fun _ => hstarted)
    ended := hrow h.ended (fun _ => hended)
    rolled := h.rolled
    apart := by
      intro s hs t ht hon hne
      rcases List.mem_append.mp hs with hs | hs <;> rcases List.mem_append.mp ht with ht | ht
      · exact h.apart s hs t ht hon hne
      · rw [List.mem_singleton.mp ht] at hon ⊢
        exact hroom.1 s hs (hflip hon)
      · rw [List.mem_singleton.mp hs] at hon ⊢
        exact (hroom.1 t ht hon).symm
      · rw [List.mem_singleton.mp hs, List.mem_singleton.mp ht] at hne
        exact absurd rfl hne
    across := by
      intro s hs r hr hon hsource
      rcases List.mem_append.mp hs with hs | hs
      · exact h.across s hs r hr hon hsource
      · rw [List.mem_singleton.mp hs] at hon ⊢
        exact (hroom.2 r hr hon hsource).symm }

theorem TrafficDb.Orderly.step (hsize : bucketSizeMs ≤ i64Max) (h : db.Orderly bucketSizeMs)
    {event : HistoryEvent} (hevent : event.Disjoint db) :
    (historyStep bucketSizeMs db event).Orderly bucketSizeMs := by
  cases event with
  | prune beforeMs batchSize =>
      exact committed_cases h (fun _ _ hok => h.prune (pruneExactHistoryBatch_ok hok))
  | write event =>
      cases event with
      | insertRouter internalUuid hardwareIdentity fallbackTarget identitySource observedAtMs =>
          exact h.congr rfl rfl
      | upsertInterface routerId interfaceKey name kind hardwareId observedAtMs =>
          refine committed_cases h ?_
          intro record db' hok
          have hsame := (upsertRouterInterface_ok hok).sameTraffic
          exact h.congr hsame.samples hsame.rollups
      | commitSample sample checkpoint =>
          refine committed_cases h ?_
          intro b db' hok
          rcases commitSampleAndCheckpoint_cases hok with ⟨_, hnew⟩ | ⟨_, _, hsame⟩
          · obtain ⟨hstarted, hended, hdownload, hupload, hroom⟩ := hevent
            rw [hnew.result]
            exact (h.insertSample hnew.valid hstarted hended hdownload hupload
              (hroom hnew.fresh)).congr rfl rfl
          · exact hsame ▸ h
      | commitGap gap checkpoint =>
          refine committed_cases h ?_
          intro b db' hok
          rcases commitGapAndCheckpoint_cases hok with ⟨_, hnew⟩ | ⟨_, _, hsame⟩
          · rw [hnew.result]
            exact h.congr rfl rfl
          · exact hsame ▸ h
      | initializeCheckpoint checkpoint =>
          refine committed_cases h ?_
          intro b db' hok
          rcases initializeCheckpointIfAbsent_cases hok with ⟨_, _, hnew⟩ | ⟨_, _, hsame⟩
          · rw [hnew]
            exact h.congr rfl rfl
          · exact hsame ▸ h
      | rollup beforeMs batchSize =>
          refine committed_cases h ?_
          intro n db' hok
          obtain ⟨consumed, progress, hlooped, hrolled⟩ := h.rolledUp hsize hok
          exact hrolled.orderly hlooped.load h

end Steps

/-! ## The import -/

/-- An import is orderly for any bucket size: its samples are disjoint, and nothing of it is
rolled up. -/
theorem ImportsExactly.orderly {bucketSizeMs nowMs routerId : Int} {legacy : LegacyTraffic}
    {interfaceOf : Option String → Int} {db : TrafficDb}
    (h : ImportsExactly legacy routerId interfaceOf db)
    (himport : importLegacyTraffic nowMs legacy TrafficDb.empty = .ok db)
    (hpoints : ∀ p ∈ legacy.points, IsTimestamp (p.ts - 60000) ∧ IsTimestamp p.ts) :
    db.Orderly bucketSizeMs := by
  have hintact : db.Intact := importLegacyTraffic_intact TrafficDb.Intact.empty himport
  have htidy : db.Tidy 1 := importLegacyTraffic_tidy
    ⟨hpoints, fun m _ => ⟨one_dvd _, one_dvd _⟩⟩ himport
  have himported : ∀ r ∈ db.trafficRollups.rows, r.source ≠ "raw-rollup" := by
    intro r hr
    obtain ⟨m, _, _, hrollup⟩ := h.rollup_origin hr
    rw [hrollup]
    simp [legacyRollup]
  exact {
    keyed := htidy.keyed
    unique := htidy.unique
    samples := htidy.samples
    fits := h.bytesFit.samples
    started := htidy.started
    ended := htidy.ended
    rolled := fun r hr hsource => absurd hsource (himported r hr)
    apart := by
      intro s hs t ht hon hne
      exact h.samples_apart hintact hs ht (by simp [TrafficSampleInput.on]) hon hne
    across := fun s _ r hr _ hsource => absurd hsource (himported r hr) }

/-! ## Whole samples -/

/-- The sample reaches into the bucket. -/
def TrafficSample.reaches (bucketSizeMs : Int) (key : BucketKey) (s : TrafficSample) : Bool :=
  s.on key.routerId key.interfaceId &&
    decide (s.startedAtMs < key.startMs + bucketSizeMs ∧ key.startMs < s.endedAtMs)

/-- The whole quantity of a sample that reaches into the bucket. -/
def TrafficSample.reach (q : Quantity) (bucketSizeMs : Int) (key : BucketKey)
    (s : TrafficSample) : Int :=
  if s.reaches bucketSizeMs key then q.ofSample s else 0

/-- The quantity of the row of a bucket and of all samples that reach into it. -/
def TrafficDb.bucketReach (db : TrafficDb) (q : Quantity) (bucketSizeMs : Int)
    (key : BucketKey) : Int :=
  db.trafficSamples.total (TrafficSample.reach q bucketSizeMs key) +
    db.trafficRollups.total (TrafficRollup.held q bucketSizeMs key)

/-- The bytes of the row of a bucket and of all samples that reach into it add up to a 64-bit
integer. -/
def TrafficDb.BucketsRoomy (bucketSizeMs : Int) (db : TrafficDb) : Prop :=
  ∀ key : BucketKey, bucketSizeMs ∣ key.startMs →
    db.bucketReach .downloadBytes bucketSizeMs key ≤ i64Max ∧
      db.bucketReach .uploadBytes bucketSizeMs key ≤ i64Max

section Reach

variable {beforeMs bucketSizeMs : Int} {db db' : TrafficDb} {consumed : List Consumed}
  {buckets : OrdMap BucketKey RollupBucket} {key : BucketKey} {c : Consumed}

/-- A share is part of what was consumed. -/
theorem Consumed.share_le {c : Consumed} {q : Quantity} (hnonneg : 0 ≤ q.ofSample c.sample)
    (hduration : 0 < c.sample.durationMs) (hadvances : c.sample.startedAtMs ≤ c.consumedEnd) :
    c.share q bucketSizeMs key ≤ c.quantity q := by
  unfold Consumed.share Consumed.quantity
  split
  · rw [← max_sub_sub_right (max c.sample.startedAtMs key.startMs)
      (min c.consumedEnd (key.startMs + bucketSizeMs))]
    exact slice_inside_le hnonneg hduration (by omega) (by omega) (by omega)
  · exact slice_nonneg hnonneg hduration (by omega)

theorem Consumed.Proper.share_le (h : c.Proper beforeMs) (q : Quantity) :
    c.share q bucketSizeMs key ≤ c.quantity q :=
  Consumed.share_le (h.sound.ofSample_nonneg q) h.sound.duration_pos (le_of_lt h.advances)

/-- A sample that does not reach into a bucket has no share in it. -/
theorem Consumed.Proper.share_eq_zero (h : c.Proper beforeMs)
    (hreaches : c.sample.reaches bucketSizeMs key = false) (q : Quantity) :
    c.share q bucketSizeMs key = 0 := by
  have hended := h.le_ended
  unfold Consumed.share
  split
  · rename_i hon
    rw [TrafficSample.reaches, hon, Bool.true_and, decide_eq_false_iff_not] at hreaches
    have hnone : max (max c.sample.startedAtMs key.startMs)
        (min c.consumedEnd (key.startMs + bucketSizeMs)) =
          max c.sample.startedAtMs key.startMs := by
      omega
    rw [hnone, slice_self]
  · rfl

/-- What is consumed of a sample for a bucket is taken out of the samples that reach into it. -/
theorem Consumed.Proper.change_reach (h : c.Proper beforeMs) (q : Quantity) :
    c.change (TrafficSample.reach q bucketSizeMs key) + c.share q bucketSizeMs key ≤ 0 := by
  have hbounds := h.quantity_bounds q
  have hshare : c.share q bucketSizeMs key ≤ c.quantity q := h.share_le q
  have hadvances := h.advances
  cases hreaches : c.sample.reaches bucketSizeMs key with
  | false =>
      -- then what is left of it does not reach into the bucket either
      have hleft : c.left.elim 0 (TrafficSample.reach q bucketSizeMs key) = 0 := by
        unfold Consumed.left
        split
        · rfl
        · have hremainder : (c.remainder.applyTo c.sample).reaches bucketSizeMs key = false := by
            have hon : (c.remainder.applyTo c.sample).on key.routerId key.interfaceId =
              c.sample.on key.routerId key.interfaceId := rfl
            rw [TrafficSample.reaches] at hreaches ⊢
            rw [hon]
            cases honSample : c.sample.on key.routerId key.interfaceId with
            | false => rfl
            | true =>
                rw [honSample, Bool.true_and, decide_eq_false_iff_not] at hreaches
                rw [Bool.true_and, decide_eq_false_iff_not]
                simp only [RawTrafficRemainder.applyTo, Consumed.remainder]
                omega
          simp only [Option.elim, TrafficSample.reach, hremainder, Bool.false_eq_true, if_false]
      simp only [Consumed.change, hleft, TrafficSample.reach, hreaches, Bool.false_eq_true,
        if_false, h.share_eq_zero hreaches q]
      omega
  | true =>
      have hleft : c.left.elim 0 (TrafficSample.reach q bucketSizeMs key) ≤
          q.ofSample c.sample - c.quantity q := by
        unfold Consumed.left
        split
        · simp only [Option.elim]
          omega
        · simp only [Option.elim, TrafficSample.reach]
          split
          · exact le_of_eq (h.remainder_quantity q)
          · omega
      simp only [Consumed.change, TrafficSample.reach, hreaches, if_true] at hleft ⊢
      omega

/-- What a bucket adds to the row of a bucket. -/
def bucketHeld (q : Quantity) (key : BucketKey) (filled : BucketKey) (bucket : RollupBucket) :
    Int :=
  if filled = key then q.ofAccumulator bucket.accumulator else 0

theorem held_additive (q : Quantity) (bucketSizeMs : Int) (key : BucketKey) :
    Additive bucketSizeMs (TrafficRollup.held q bucketSizeMs key) (bucketHeld q key) := by
  have hof : ∀ {filled : BucketKey} {r : TrafficRollup}, r.ofBucket bucketSizeMs filled →
      (r.ofBucket bucketSizeMs key ↔ filled = key) := by
    intro filled r h
    refine ⟨fun h' => h.key_eq h', ?_⟩
    rintro rfl
    exact h
  refine ⟨fun filled bucket id => ?_, fun filled bucket stored hstored => ?_⟩
  · simp only [TrafficRollup.held, bucketHeld,
      hof (rollupRow_ofBucket bucketSizeMs filled bucket id)]
    rfl
  · have hmerged : ((rollupRow bucketSizeMs filled bucket 0).merge stored).ofBucket
        bucketSizeMs filled := hstored
    simp only [TrafficRollup.held, bucketHeld, hof hstored, hof hmerged]
    split
    · have hq := merge_quantity q (rollupRow bucketSizeMs filled bucket 0) stored
      have hrow : (rollupRow bucketSizeMs filled bucket 0).accumulator = bucket.accumulator := rfl
      simp only [Quantity.ofAccumulator, hq.1, hq.2, hrow]
      omega
    · rfl

/-- What the batch adds to one bucket is at most what it consumed of the samples there. -/
theorem Loaded.bucketHeld_le (h : Loaded bucketSizeMs consumed buckets)
    (hsound : ∀ c ∈ consumed, c.sample.Sound) (q : Quantity) (key : BucketKey) :
    buckets.total (bucketHeld q key) ≤ (consumed.map (Consumed.share q bucketSizeMs key)).sum := by
  have hother : ∀ filled bucket, filled ≠ key → bucketHeld q key filled bucket = 0 :=
    fun filled bucket hne => if_neg hne
  by_cases hfound : ∃ bucket, (key, bucket) ∈ buckets.entries
  · obtain ⟨bucket, hentry⟩ := hfound
    rw [OrdMap.total_of_mem hother hentry]
    simp only [bucketHeld, if_true]
    exact h.quantity _ hentry q
  · have hzero : buckets.total (bucketHeld q key) = 0 := by
      refine List.sum_eq_zero ?_
      intro x hx
      obtain ⟨e, he, rfl⟩ := List.mem_map.mp hx
      refine hother e.1 e.2 ?_
      rintro rfl
      exact hfound ⟨e.2, he⟩
    rw [hzero]
    exact sum_shares_nonneg hsound q bucketSizeMs key

/-- A rollup does not make the quantities that a bucket can get any larger. -/
theorem RolledUp.bucketReach_le (h : RolledUp beforeMs bucketSizeMs db consumed buckets db')
    (hload : Loaded bucketSizeMs consumed buckets) (q : Quantity) (key : BucketKey) :
    db'.bucketReach q bucketSizeMs key ≤ db.bucketReach q bucketSizeMs key := by
  have hsamples := h.samples.total (TrafficSample.reach q bucketSizeMs key)
  rw [sum_map_filter_split] at hsamples
  have hrollups := h.rollups.total _ _ (held_additive q bucketSizeMs key)
  have hheld := hload.bucketHeld_le (fun c hc => (h.proper c hc).sound) q key
  have hzero : ((consumed.map (fun c => c.change (TrafficSample.reach q bucketSizeMs key) +
      c.share q bucketSizeMs key))).sum ≤ (consumed.map (fun _ => (0 : Int))).sum :=
    sum_map_le_sum_map (fun c hc => (h.proper c hc).change_reach q)
  rw [List.sum_map_add] at hzero
  simp only [List.map_const', List.sum_replicate, smul_zero] at hzero
  have hshares : (consumed.map (fun c => c.share q bucketSizeMs key)).sum =
    (consumed.map (Consumed.share q bucketSizeMs key)).sum := rfl
  simp only [OrdMap.total] at hheld
  simp only [TrafficDb.bucketReach]
  omega

/-- The share of a sample is part of the whole sample. -/
theorem TrafficDb.Orderly.share_le_reach (h : db.Orderly bucketSizeMs) {s : TrafficSample}
    (hs : s ∈ db.trafficSamples.rows) (q : Quantity) (key : BucketKey) :
    s.share q bucketSizeMs key ≤ s.reach q bucketSizeMs key := by
  have hsound := h.samples s hs
  have hproper : Consumed.Proper s.endedAtMs ⟨s, s.endedAtMs⟩ :=
    ⟨hsound, h.started s hs, h.ended s hs, hsound.increasing, le_refl _, le_refl _⟩
  have hwhole := hproper.quantity_complete (decide_eq_true rfl) q
  have hle : Consumed.share q bucketSizeMs key ⟨s, s.endedAtMs⟩ ≤
      Consumed.quantity q ⟨s, s.endedAtMs⟩ := hproper.share_le q
  simp only [TrafficSample.share, TrafficSample.reach]
  cases hreaches : s.reaches bucketSizeMs key with
  | false =>
      rw [hproper.share_eq_zero hreaches q]
      simp
  | true =>
      rw [hwhole] at hle
      simpa using hle

theorem TrafficDb.Orderly.fit_of_roomy (h : db.Orderly bucketSizeMs)
    (hroomy : db.BucketsRoomy bucketSizeMs) : db.BucketsFit bucketSizeMs := by
  have hle : ∀ (q : Quantity) (key : BucketKey),
      db.bucketTotal q bucketSizeMs key ≤ db.bucketReach q bucketSizeMs key := by
    intro q key
    have hshares : db.trafficSamples.total (TrafficSample.share q bucketSizeMs key) ≤
        db.trafficSamples.total (TrafficSample.reach q bucketSizeMs key) :=
      sum_map_le_sum_map (fun s hs => h.share_le_reach hs q key)
    simp only [TrafficDb.bucketTotal, TrafficDb.bucketReach]
    omega
  intro key hdvd
  exact ⟨le_trans (hle _ key) (hroomy key hdvd).1, le_trans (hle _ key) (hroomy key hdvd).2⟩

end Reach

/-! ## Sequences of rollups -/

/-- Calls with one cutoff and these batch sizes. -/
def rollupsBefore (beforeMs : Int) (batchSizes : List Nat) : List HistoryEvent :=
  batchSizes.map (fun batchSize => .write (.rollup beforeMs batchSize))

section Drain

variable {beforeMs bucketSizeMs : Int} {batchSize : Nat} {db db' : TrafficDb}

/-- One call succeeds, and takes time away when a sample starts before the cutoff. -/
theorem TrafficDb.Orderly.progresses (horderly : db.Orderly bucketSizeMs)
    (hpositive : 0 < bucketSizeMs) (hsize : bucketSizeMs ≤ i64Max)
    (hfit : db.BucketsFit bucketSizeMs) (beforeMs : Int) (hbatch : ValidBatch batchSize) :
    ∃ n db', rollupExactSamplesBatch beforeMs bucketSizeMs batchSize db = .ok (n, db') ∧
      db'.Orderly bucketSizeMs ∧ db'.pendingMs beforeMs ≤ db.pendingMs beforeMs ∧
      ((∃ s ∈ db.trafficSamples.rows, s.startedAtMs < beforeMs) →
        db'.pendingMs beforeMs < db.pendingMs beforeMs) := by
  obtain ⟨n, db', hok⟩ : ∃ n db',
      rollupExactSamplesBatch beforeMs bucketSizeMs batchSize db = .ok (n, db') :=
    horderly.succeeds hpositive hsize hfit hbatch
  obtain ⟨consumed, progress, hlooped, hrolled⟩ := horderly.rolledUp hsize hok
  exact ⟨n, db', hok, hrolled.orderly hlooped.load horderly, hrolled.pendingMs_le,
    fun hpending => hrolled.pendingMs_lt (hlooped.some_consumed hpending)⟩

/-- Time before the cutoff is time of a sample that starts before it. -/
theorem TrafficDb.Orderly.pendingMs_pos_iff (h : db.Orderly bucketSizeMs) :
    0 < db.pendingMs beforeMs ↔ ∃ s ∈ db.trafficSamples.rows, s.startedAtMs < beforeMs := by
  constructor
  · intro hpositive
    by_contra hnone
    have hzero : db.pendingMs beforeMs = 0 := by
      refine List.sum_eq_zero ?_
      intro x hx
      obtain ⟨s, hs, rfl⟩ := List.mem_map.mp hx
      have hafter : ¬ s.startedAtMs < beforeMs := fun hbefore => hnone ⟨s, hs, hbefore⟩
      simp only [TrafficSample.pendingMs]
      omega
    omega
  · rintro ⟨s, hs, hbefore⟩
    have hincreasing := (h.samples s hs).increasing
    have hpart := Table.sum_le_total (w := TrafficSample.pendingMs beforeMs)
      (fun _ _ => le_max_left _ _) (List.nodup_singleton s) (by simpa using hs)
    simp only [List.map_cons, List.map_nil, List.sum_cons, List.sum_nil,
      TrafficSample.pendingMs] at hpart
    simp only [TrafficDb.pendingMs]
    omega

/-- As many calls as there are milliseconds before the cutoff leave no sample before it. -/
theorem TrafficDb.Orderly.drains (horderly : db.Orderly bucketSizeMs)
    (hpositive : 0 < bucketSizeMs) (hsize : bucketSizeMs ≤ i64Max) {batchSizes : List Nat}
    (hbatches : ∀ batchSize ∈ batchSizes, ValidBatch batchSize)
    (hfit : Along (historyStep bucketSizeMs) (fun db _ => db.BucketsFit bucketSizeMs) db
      (rollupsBefore beforeMs batchSizes))
    (hlength : db.pendingMs beforeMs ≤ batchSizes.length) :
    ∀ s ∈ (run (historyStep bucketSizeMs) db
        (rollupsBefore beforeMs batchSizes)).trafficSamples.rows, beforeMs ≤ s.startedAtMs := by
  induction batchSizes generalizing db with
  | nil =>
      intro s hs
      by_contra hbefore
      have hpositive := horderly.pendingMs_pos_iff.mpr ⟨s, hs, not_le.mp hbefore⟩
      simp only [List.length_nil] at hlength
      omega
  | cons batchSize rest ih =>
      obtain ⟨n, db', hok, horderly', hle, hless⟩ := horderly.progresses hpositive hsize hfit.1
        beforeMs (hbatches batchSize List.mem_cons_self)
      have hnext : historyStep bucketSizeMs db (.write (.rollup beforeMs batchSize)) = db' := by
        simp only [historyStep, storeStep, hok, committed]
      have hfit' := hfit.2
      simp only [rollupsBefore, List.map_cons, run_cons] at hfit' ⊢
      rw [hnext] at hfit' ⊢
      refine ih horderly' (fun b hb => hbatches b (List.mem_cons_of_mem _ hb)) hfit' ?_
      rw [← horderly.pendingMs_pos_iff] at hless
      simp only [List.length_cons, Nat.cast_add, Nat.cast_one] at hlength
      omega

/-- Rollups keep the room of the buckets, so all of them find sums that fit. -/
theorem TrafficDb.Orderly.fits_along (horderly : db.Orderly bucketSizeMs)
    (hpositive : 0 < bucketSizeMs) (hsize : bucketSizeMs ≤ i64Max) {batchSizes : List Nat}
    (hbatches : ∀ batchSize ∈ batchSizes, ValidBatch batchSize)
    (hroomy : db.BucketsRoomy bucketSizeMs) :
    Along (historyStep bucketSizeMs) (fun db _ => db.BucketsFit bucketSizeMs) db
      (rollupsBefore beforeMs batchSizes) := by
  induction batchSizes generalizing db with
  | nil => trivial
  | cons batchSize rest ih =>
      have hfit := horderly.fit_of_roomy hroomy
      obtain ⟨n, db', hok⟩ : ∃ n db',
          rollupExactSamplesBatch beforeMs bucketSizeMs batchSize db = .ok (n, db') :=
        horderly.succeeds hpositive hsize hfit (hbatches batchSize List.mem_cons_self)
      obtain ⟨consumed, progress, hlooped, hrolled⟩ := horderly.rolledUp hsize hok
      have hnext : historyStep bucketSizeMs db (.write (.rollup beforeMs batchSize)) = db' := by
        simp only [historyStep, storeStep, hok, committed]
      refine ⟨hfit, ?_⟩
      rw [hnext]
      refine ih (hrolled.orderly hlooped.load horderly)
        (fun b hb => hbatches b (List.mem_cons_of_mem _ hb)) ?_
      intro key hdvd
      exact ⟨le_trans (hrolled.bucketReach_le hlooped.load _ key) (hroomy key hdvd).1,
        le_trans (hrolled.bucketReach_le hlooped.load _ key) (hroomy key hdvd).2⟩

end Drain

/-! ## Progress -/

/-- From every state that an import, commits of samples that overlap nothing, prunings and
rollups of one bucket size can reach, a rollup succeeds while the sums of the buckets fit, and
advances when there is anything before its cutoff; enough calls leave nothing before it, and
the sums fit throughout when the buckets are roomy. -/
theorem rollup_drains (bucketSizeMs nowMs : Int) (hpositive : 0 < bucketSizeMs)
    (hsize : bucketSizeMs ≤ i64Max) (legacy : LegacyTraffic) (hkeyed : legacy.Keyed)
    (hpoints : ∀ p ∈ legacy.points, IsTimestamp (p.ts - 60000) ∧ IsTimestamp p.ts) :
    ∃ imported, importLegacyTraffic nowMs legacy TrafficDb.empty = .ok imported ∧
      ∀ events, Along (historyStep bucketSizeMs) (fun db event => event.Disjoint db) imported
          events →
        ∀ (beforeMs : Int) (batchSizes : List Nat),
          (∀ batchSize ∈ batchSizes, ValidBatch batchSize) →
          let db := run (historyStep bucketSizeMs) imported events
          (db.BucketsFit bucketSizeMs → ∀ batchSize ∈ batchSizes, ∃ n db',
            rollupExactSamplesBatch beforeMs bucketSizeMs batchSize db = .ok (n, db') ∧
              ((∃ s ∈ db.trafficSamples.rows, s.startedAtMs < beforeMs) →
                db'.pendingMs beforeMs < db.pendingMs beforeMs)) ∧
          (Along (historyStep bucketSizeMs) (fun db _ => db.BucketsFit bucketSizeMs) db
              (rollupsBefore beforeMs batchSizes) →
            db.pendingMs beforeMs ≤ batchSizes.length →
            ∀ s ∈ (run (historyStep bucketSizeMs) db
              (rollupsBefore beforeMs batchSizes)).trafficSamples.rows,
              beforeMs ≤ s.startedAtMs) ∧
          (db.BucketsRoomy bucketSizeMs →
            Along (historyStep bucketSizeMs) (fun db _ => db.BucketsFit bucketSizeMs) db
              (rollupsBefore beforeMs batchSizes)) := by
  obtain ⟨imported, routerId, interfaceOf, himport, hexact⟩ :=
    importLegacyTraffic_exact nowMs hkeyed
  refine ⟨imported, himport, ?_⟩
  intro events hevents beforeMs batchSizes hbatches db
  have hstep : ∀ db event, TrafficDb.Orderly bucketSizeMs db → HistoryEvent.Disjoint db event →
      (historyStep bucketSizeMs db event).Orderly bucketSizeMs :=
    fun db event h hevent => h.step hsize hevent
  have horderly : db.Orderly bucketSizeMs :=
    run_invariant hstep (hexact.orderly himport hpoints) hevents
  refine ⟨?_, ?_, ?_⟩
  · intro hfit batchSize hbatch
    obtain ⟨n, db', hok, _, _, hless⟩ := horderly.progresses hpositive hsize hfit beforeMs
      (hbatches batchSize hbatch)
    exact ⟨n, db', hok, hless⟩
  · exact fun hfit hlength => horderly.drains hpositive hsize hbatches hfit hlength
  · exact fun hroomy => horderly.fits_along hpositive hsize hbatches hroomy

/-- The sums of all buckets fit when those of the tables do. -/
theorem BucketsFit.of_totals {bucketSizeMs : Int} {db : TrafficDb}
    (hduration : ∀ s ∈ db.trafficSamples.rows, s.startedAtMs < s.endedAtMs ∧
      s.durationMs = s.endedAtMs - s.startedAtMs ∧ 0 ≤ s.downloadBytes ∧ 0 ≤ s.uploadBytes)
    (hrollups : ∀ r ∈ db.trafficRollups.rows,
      0 ≤ Quantity.downloadBytes.ofAccumulator r.accumulator ∧
        0 ≤ Quantity.uploadBytes.ofAccumulator r.accumulator)
    (htotals : db.trafficSamples.total Quantity.downloadBytes.ofSample +
          db.trafficRollups.total (fun r => Quantity.downloadBytes.ofAccumulator r.accumulator) ≤
        i64Max ∧
      db.trafficSamples.total Quantity.uploadBytes.ofSample +
          db.trafficRollups.total (fun r => Quantity.uploadBytes.ofAccumulator r.accumulator) ≤
        i64Max) : db.BucketsFit bucketSizeMs := by
  have hle : ∀ (q : Quantity) (key : BucketKey),
      (∀ s ∈ db.trafficSamples.rows, 0 ≤ q.ofSample s) →
      (∀ r ∈ db.trafficRollups.rows, 0 ≤ q.ofAccumulator r.accumulator) →
      db.bucketTotal q bucketSizeMs key ≤ db.trafficSamples.total q.ofSample +
        db.trafficRollups.total (fun r => q.ofAccumulator r.accumulator) := by
    intro q key hsamples hrows
    refine add_le_add (sum_map_le_sum_map ?_) (sum_map_le_sum_map ?_)
    · intro s hs
      obtain ⟨hincreasing, hspan, _, _⟩ := hduration s hs
      have hpositive : 0 < s.durationMs := by omega
      have hpart : Consumed.share q bucketSizeMs key ⟨s, s.endedAtMs⟩ ≤
          Consumed.quantity q ⟨s, s.endedAtMs⟩ :=
        Consumed.share_le (hsamples s hs) hpositive (le_of_lt hincreasing)
      have hwhole : Consumed.quantity q ⟨s, s.endedAtMs⟩ = q.ofSample s := by
        simp only [Consumed.quantity]
        rw [← hspan]
        exact slice_whole hpositive
      rw [hwhole] at hpart
      exact hpart
    · intro r hr
      simp only [TrafficRollup.held]
      split
      · exact le_refl _
      · exact hrows r hr
  intro key _
  exact ⟨le_trans (hle .downloadBytes key (fun s hs => (hduration s hs).2.2.1)
      (fun r hr => (hrollups r hr).1)) htotals.1,
    le_trans (hle .uploadBytes key (fun s hs => (hduration s hs).2.2.2)
      (fun r hr => (hrollups r hr).2)) htotals.2⟩

/-- The history of the mixed import, with a commit, a rollup, a repeated commit and a pruning. -/
def mixedHistory : List HistoryEvent :=
  [.write (plainCommit 150000 190000 701 99), .write (.rollup 185000 1),
    .write (plainCommit 190000 400000 1000 3), .prune 130000 5]

theorem rollup_drains_mixed :
    ∃ n db', rollupExactSamplesBatch 380000 60000 1
        (run (historyStep 60000) (stored (importLegacyTraffic 5 mixedLegacy TrafficDb.empty))
          mixedHistory) = .ok (n, db') ∧
      db'.pendingMs 380000 < TrafficDb.pendingMs 380000
        (run (historyStep 60000) (stored (importLegacyTraffic 5 mixedLegacy TrafficDb.empty))
          mixedHistory) := by
  have hkeyed : mixedLegacy.Keyed := ⟨by decide, by decide⟩
  obtain ⟨imported, himport, hdrains⟩ :=
    rollup_drains 60000 5 (by decide) (by decide) mixedLegacy hkeyed (by decide)
  have hstored : stored (importLegacyTraffic 5 mixedLegacy TrafficDb.empty) = imported := by
    rw [himport]
    rfl
  rw [hstored]
  obtain ⟨hone, _, _⟩ := hdrains mixedHistory (by rw [← hstored]; decide +kernel) 380000 [1]
    (by decide)
  rw [← hstored] at hone ⊢
  obtain ⟨n, db', hok, hless⟩ := hone
    (BucketsFit.of_totals (by decide +kernel) (by decide +kernel) (by decide +kernel)) 1
    List.mem_cons_self
  exact ⟨n, db', hok, hless (by decide +kernel)⟩

/-- A rollup is stuck on commits that overlap, on a sample whose first bucket starts before the
64-bit integers, and on a batch size beyond them. -/
theorem rollup_drains_fails :
    (TrafficDb.BucketsFit 60000 (run (historyStep 60000)
        (stored (importLegacyTraffic 5 (legacyMinuteAt 0) TrafficDb.empty))
        [.write (plainCommit 60000 100000 7 7), .write (plainCommit 80000 110000 7 7)]) ∧
      rollupExactSamplesBatch 120000 60000 10 (run (historyStep 60000)
        (stored (importLegacyTraffic 5 (legacyMinuteAt 0) TrafficDb.empty))
        [.write (plainCommit 60000 100000 7 7), .write (plainCommit 80000 110000 7 7)]) =
        .error (.verification "raw traffic samples overlap during rollup")) ∧
    (TrafficDb.BucketsFit 60000 (run (historyStep 60000)
        (stored (importLegacyTraffic 5 (legacyMinuteAt 0) TrafficDb.empty))
        [.write (plainCommit (-9223372036854775808) (-9223372036854675808) 7 7)]) ∧
      rollupExactSamplesBatch 0 60000 10 (run (historyStep 60000)
        (stored (importLegacyTraffic 5 (legacyMinuteAt 0) TrafficDb.empty))
        [.write (plainCommit (-9223372036854775808) (-9223372036854675808) 7 7)]) =
        .error (.verification "rollup bucket contains invalid or overlapping sample coverage")) ∧
    rollupExactSamplesBatch 0 60000 (2 ^ 63) TrafficDb.empty =
      .error (.invalidCommand "rollup segment budget exceeds process limits") := by
  refine ⟨⟨BucketsFit.of_totals ?_ ?_ ?_, ?_⟩, ⟨BucketsFit.of_totals ?_ ?_ ?_, ?_⟩, ?_⟩ <;>
    decide +kernel

end RouterView.Db
