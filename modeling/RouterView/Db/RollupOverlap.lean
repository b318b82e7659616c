/-
  Db/RollupOverlap.lean --- which overlaps a rollup refuses.

  Nothing is assumed of the stored rows here beyond their keys and column types:
  spans may overlap, and durations and bytes may be anything.  The loop keeps,
  for each bucket, where the batch entered it and how far it got; a segment that
  starts before that, and a stored row that reaches past where the batch entered,
  make the call fail.  So what a successful call consumed was consumed once.
-/
import RouterView.Db.QueryAnswer
import RouterView.Db.RollupDisjoint

set_option autoImplicit false

namespace RouterView.Db

open RouterView.Foundation

/-! ## One cut -/

/-- The instant was consumed from the sample. -/
def Consumed.Takes (c : Consumed) (t : Int) : Prop :=
  c.sample.startedAtMs ≤ t ∧ t < c.consumedEnd

/-- A bucket of which the batch took the instants from `batchStartMs` on. -/
structure RollupBucket.Ordered (bucket : RollupBucket) : Prop where
  batch_le : bucket.batchStartMs ≤ bucket.accumulatedEndMs
  sampleCount_le : bucket.accumulator.sampleCount ≤ i64Max

theorem RollupBucket.Ordered.opened (segmentStart : Int) :
    (RollupBucket.opened segmentStart).Ordered :=
  ⟨le_refl _, show (0 : Int) ≤ i64Max by decide⟩

theorem RollupBucket.Ordered.addSegment {bucket : RollupBucket} (h : bucket.Ordered)
    {segmentEnd : Int} (hend : bucket.accumulatedEndMs ≤ segmentEnd) (exact : Bool)
    (downloadBytes uploadBytes segmentDuration : Int) :
    (bucket.addSegment exact downloadBytes uploadBytes segmentDuration segmentEnd).Ordered where
  batch_le := le_trans h.batch_le hend
  sampleCount_le := by
    cases exact <;> exact (clampI64_isI64 (bucket.accumulator.sampleCount + 1)).2

/-- The ends of a segment that was cut, and the bucket that it fell in. -/
structure CutAt (bucketSizeMs plannedConsumedEnd : Int) (sample : TrafficSample)
    (segmentStart : Int) (buckets : OrdMap BucketKey RollupBucket) (segmentEnd : Int)
    (buckets' : OrdMap BucketKey RollupBucket) : Prop where
  start_lt : segmentStart < segmentEnd
  le_planned : segmentEnd ≤ plannedConsumedEnd
  le_bucket : segmentEnd ≤ bucketFloor bucketSizeMs segmentStart + bucketSizeMs
  ordered : ((buckets.get? (segmentKey bucketSizeMs sample segmentStart)).getD
    (.opened segmentStart)).accumulatedEndMs ≤ segmentStart
  grown : ∃ exact downloadBytes uploadBytes segmentDuration,
    buckets' = buckets.alter (segmentKey bucketSizeMs sample segmentStart) (.opened segmentStart)
      (fun bucket => bucket.addSegment exact downloadBytes uploadBytes segmentDuration segmentEnd)

section

variable {bucketSizeMs plannedConsumedEnd : Int} {sample : TrafficSample}
  {segmentStart segmentEnd : Int} {buckets buckets' : OrdMap BucketKey RollupBucket}

/-- Where the bucket starts at a 64-bit integer, a cut stays inside it. -/
theorem cutSegment_cutAt (hsize : 0 < bucketSizeMs)
    (hfloor : IsI64 (bucketFloor bucketSizeMs segmentStart))
    (hlt : segmentStart < plannedConsumedEnd) (hplanned : plannedConsumedEnd ≤ i64Max)
    (h : cutSegment bucketSizeMs plannedConsumedEnd sample segmentStart buckets =
      .ok (segmentEnd, buckets')) :
    CutAt bucketSizeMs plannedConsumedEnd sample segmentStart buckets segmentEnd buckets' := by
  unfold cutSegment at h
  obtain ⟨download, _, h⟩ := bind_eq_ok_iff.mp h
  obtain ⟨upload, _, h⟩ := bind_eq_ok_iff.mp h
  obtain ⟨hordered, h⟩ := ensure_bind_eq_ok_iff.mp h
  simp only [pure_eq_ok, Except.ok.injEq, Prod.mk.injEq] at h
  obtain ⟨hend, hbuckets⟩ := h
  rw [wrapI64_of_isI64 hfloor] at hordered hend hbuckets
  have hnext := lt_bucketFloor_add hsize segmentStart
  have hlow : satAdd (bucketFloor bucketSizeMs segmentStart) bucketSizeMs ≤
      bucketFloor bucketSizeMs segmentStart + bucketSizeMs :=
    satAdd_le_add (by have := hfloor.1; omega)
  have hhigh : segmentStart < satAdd (bucketFloor bucketSizeMs segmentStart) bucketSizeMs :=
    lt_satAdd hnext (by omega)
  refine ⟨by omega, by omega, by omega, not_lt.mp hordered, ?_⟩
  rw [← hbuckets, hend]
  exact ⟨_, _, _, _, rfl⟩

theorem segmentKey_eq_of_bucket {a t : Int} (hsize : 0 < bucketSizeMs) (ha : a ≤ t)
    (ht : t < bucketFloor bucketSizeMs a + bucketSizeMs) (sample : TrafficSample) :
    segmentKey bucketSizeMs sample t = segmentKey bucketSizeMs sample a := by
  have hle := bucketFloor_le hsize a
  have hle' := bucketFloor_le hsize t
  have hlt := lt_bucketFloor_add hsize t
  have heq : bucketFloor bucketSizeMs t = bucketFloor bucketSizeMs a := by
    rcases lt_trichotomy (bucketFloor bucketSizeMs t) (bucketFloor bucketSizeMs a) with
      hbelow | heq | habove
    · have := add_le_of_dvd_of_lt (dvd_bucketFloor _ t) (dvd_bucketFloor _ a) hbelow
      omega
    · exact heq
    · have := add_le_of_dvd_of_lt (dvd_bucketFloor _ a) (dvd_bucketFloor _ t) habove
      omega
  rw [segmentKey, heq, segmentKey]

end

/-! ## What the buckets say of the batch -/

/-- Every consumed instant lies in its bucket, between where the batch entered it and how
far it got, and no instant of an interface was consumed twice. -/
structure Filed (bucketSizeMs : Int) (consumed : List Consumed)
    (buckets : OrdMap BucketKey RollupBucket) : Prop where
  ordered : ∀ entry ∈ buckets.entries, entry.2.Ordered
  reached : ∀ c ∈ consumed, ∀ t, c.Takes t →
    ∃ bucket, (segmentKey bucketSizeMs c.sample t, bucket) ∈ buckets.entries ∧
      bucket.batchStartMs ≤ t ∧ t < bucket.accumulatedEndMs
  once : consumed.Pairwise (fun c d => d.sample.on c.sample.routerId c.sample.interfaceId = true →
    ∀ t, c.Takes t → ¬ d.Takes t)

theorem Filed.empty (bucketSizeMs : Int) : Filed bucketSizeMs [] OrdMap.empty :=
  ⟨by simp, by simp, List.Pairwise.nil⟩

section

variable {bucketSizeMs plannedConsumedEnd : Int} {sample : TrafficSample}
  {segmentStart segmentEnd : Int} {buckets buckets' : OrdMap BucketKey RollupBucket}
  {consumed : List Consumed}

theorem segmentKey_eq_iff {s u : TrafficSample} {a b : Int} :
    segmentKey bucketSizeMs s a = segmentKey bucketSizeMs u b ↔
      u.on s.routerId s.interfaceId = true ∧
        bucketFloor bucketSizeMs a = bucketFloor bucketSizeMs b := by
  simp only [segmentKey, bucketKey, toLex_inj, Prod.mk.injEq, TrafficSampleInput.on,
    decide_eq_true_eq]
  constructor
  · rintro ⟨hrouter, hinterface, hfloor⟩
    exact ⟨⟨hrouter.symm, hinterface.symm⟩, hfloor⟩
  · rintro ⟨⟨hrouter, hinterface⟩, hfloor⟩
    exact ⟨hrouter.symm, hinterface.symm, hfloor⟩

/-- A sample about to be consumed takes no instant yet. -/
theorem Filed.begin (h : Filed bucketSizeMs consumed buckets) (sample : TrafficSample) :
    Filed bucketSizeMs (consumed ++ [⟨sample, sample.startedAtMs⟩]) buckets where
  ordered := h.ordered
  reached := by
    intro c hc t ht
    rcases List.mem_append.mp hc with hc | hc
    · exact h.reached c hc t ht
    · rw [List.mem_singleton.mp hc] at ht
      exact absurd ht.2 (not_lt.mpr ht.1)
  once := by
    rw [List.pairwise_append]
    refine ⟨h.once, List.pairwise_singleton _ _, ?_⟩
    intro c _ d hd _ t _ ht
    rw [List.mem_singleton.mp hd] at ht
    exact absurd ht.2 (not_lt.mpr ht.1)

/-- One cut: its instants are new to the bucket. -/
theorem Filed.cut (h : Filed bucketSizeMs (consumed ++ [⟨sample, segmentStart⟩]) buckets)
    (hsize : 0 < bucketSizeMs)
    (hcut : CutAt bucketSizeMs plannedConsumedEnd sample segmentStart buckets segmentEnd
      buckets') : Filed bucketSizeMs (consumed ++ [⟨sample, segmentEnd⟩]) buckets' := by
  obtain ⟨exact, downloadBytes, uploadBytes, segmentDuration, hgrown⟩ := hcut.grown
  have hlt := hcut.start_lt
  have hordered := hcut.ordered
  -- The bucket of the segment, before the cut.
  have hbefore : ((buckets.get? (segmentKey bucketSizeMs sample segmentStart)).getD
      (.opened segmentStart)).Ordered := by
    cases hget : buckets.get? (segmentKey bucketSizeMs sample segmentStart) with
    | none => exact .opened segmentStart
    | some bucket => exact h.ordered _ (OrdMap.mem_entries_iff.mpr hget)
  -- What was reached before is reached after.
  have hkept : ∀ {key bucket t}, (key, bucket) ∈ buckets.entries → bucket.batchStartMs ≤ t →
      t < bucket.accumulatedEndMs → ∃ bucket', (key, bucket') ∈ buckets'.entries ∧
        bucket'.batchStartMs ≤ t ∧ t < bucket'.accumulatedEndMs := by
    intro key bucket t hentry hstart hstop
    rw [hgrown]
    by_cases hkey : key = segmentKey bucketSizeMs sample segmentStart
    · subst hkey
      have hget := OrdMap.mem_entries_iff.mp hentry
      refine ⟨_, OrdMap.mem_alter_self _ _ _ _, ?_, ?_⟩
      · rw [hget]
        exact hstart
      · rw [hget] at hordered
        exact lt_of_lt_of_le hstop (le_trans hordered (le_of_lt hlt))
    · exact ⟨bucket, OrdMap.mem_alter_iff.mpr (Or.inl ⟨hentry, hkey⟩), hstart, hstop⟩
  -- The instants of the segment are in its bucket now, and were in no one's before.
  have hnew : ∀ t, segmentStart ≤ t → t < segmentEnd →
      ∃ bucket, (segmentKey bucketSizeMs sample t, bucket) ∈ buckets'.entries ∧
        bucket.batchStartMs ≤ t ∧ t < bucket.accumulatedEndMs := by
    intro t hstart hstop
    rw [segmentKey_eq_of_bucket hsize hstart (lt_of_lt_of_le hstop hcut.le_bucket), hgrown]
    refine ⟨_, OrdMap.mem_alter_self _ _ _ _, ?_, hstop⟩
    exact le_trans hbefore.batch_le (le_trans hordered hstart)
  refine ⟨?_, ?_, ?_⟩
  · intro entry hentry
    rw [hgrown] at hentry
    rcases OrdMap.mem_alter_iff.mp hentry with ⟨hold, _⟩ | heq
    · exact h.ordered entry hold
    · rw [heq]
      exact hbefore.addSegment (le_trans hordered (le_of_lt hlt)) _ _ _ _
  · intro c hc t ht
    rcases List.mem_append.mp hc with hc | hc
    · obtain ⟨bucket, hentry, hstart, hstop⟩ := h.reached c (List.mem_append_left _ hc) t ht
      exact hkept hentry hstart hstop
    · rw [List.mem_singleton.mp hc] at ht ⊢
      rcases lt_or_ge t segmentStart with hold | hnewly
      · obtain ⟨bucket, hentry, hstart, hstop⟩ := h.reached ⟨sample, segmentStart⟩
          (List.mem_append_right _ (List.mem_singleton.mpr rfl)) t ⟨ht.1, hold⟩
        exact hkept hentry hstart hstop
      · exact hnew t hnewly ht.2
  · have honce := List.pairwise_append.mp h.once
    rw [List.pairwise_append]
    refine ⟨honce.1, List.pairwise_singleton _ _, ?_⟩
    intro c hc d hd hon t htakes ht
    rw [List.mem_singleton.mp hd] at hon ht
    rcases lt_or_ge t segmentStart with hold | hnewly
    · exact honce.2.2 c hc ⟨sample, segmentStart⟩ (List.mem_singleton.mpr rfl) hon t htakes
        ⟨ht.1, hold⟩
    · -- The bucket already reached past the instant, so the cut would have failed.
      obtain ⟨bucket, hentry, _, hstop⟩ := h.reached c (List.mem_append_left _ hc) t htakes
      have hkey : segmentKey bucketSizeMs c.sample t =
          segmentKey bucketSizeMs sample segmentStart := by
        rw [← segmentKey_eq_of_bucket hsize hnewly (lt_of_lt_of_le ht.2 hcut.le_bucket),
          segmentKey_eq_iff]
        exact ⟨hon, rfl⟩
      rw [hkey] at hentry
      rw [OrdMap.mem_entries_iff.mp hentry] at hordered
      simp only [Option.getD_some] at hordered
      omega

end

/-! ## The loops -/

/-- A sample of the batch: it starts before the cutoff, its cells are 64-bit integers, and so
is the start of its first bucket. -/
structure Rollable (beforeMs bucketSizeMs : Int) (s : TrafficSample) : Prop where
  before : s.startedAtMs < beforeMs
  ended_le : s.endedAtMs ≤ i64Max
  floor : IsI64 (bucketFloor bucketSizeMs s.startedAtMs)

section

variable {beforeMs bucketSizeMs plannedConsumedEnd : Int} {sample : TrafficSample}
  {consumed : List Consumed}

/-- The inner loop files what it consumes. -/
theorem consumeSegments_filed (hsize : 0 < bucketSizeMs) (hplanned : plannedConsumedEnd ≤ i64Max)
    {remaining remaining' : Nat} {segmentStart consumedEnd : Int}
    {buckets buckets' : OrdMap BucketKey RollupBucket}
    (hfloor : IsI64 (bucketFloor bucketSizeMs segmentStart))
    (hle : segmentStart ≤ plannedConsumedEnd)
    (hfiled : Filed bucketSizeMs (consumed ++ [⟨sample, segmentStart⟩]) buckets)
    (h : consumeSegments bucketSizeMs plannedConsumedEnd sample remaining segmentStart buckets =
      .ok (remaining', consumedEnd, buckets')) :
    Filed bucketSizeMs (consumed ++ [⟨sample, consumedEnd⟩]) buckets' ∧
      segmentStart ≤ consumedEnd ∧ consumedEnd ≤ plannedConsumedEnd ∧
      (consumedEnd = plannedConsumedEnd ∨ remaining' = 0) := by
  induction remaining generalizing segmentStart buckets with
  | zero =>
      simp only [consumeSegments, Except.ok.injEq, Prod.mk.injEq] at h
      obtain ⟨rfl, rfl, rfl⟩ := h
      exact ⟨hfiled, le_refl _, hle, Or.inr rfl⟩
  | succ remaining ih =>
      simp only [consumeSegments] at h
      split at h
      · next hlt =>
          obtain ⟨⟨segmentEnd, cut⟩, hcut, h⟩ := bind_eq_ok_iff.mp h
          have hat := cutSegment_cutAt hsize hfloor hlt hplanned hcut
          have hadvance := hat.start_lt
          have hend := hat.le_planned
          have hfloor' : IsI64 (bucketFloor bucketSizeMs segmentEnd) :=
            ⟨le_trans hfloor.1 (bucketFloor_mono hsize (le_of_lt hadvance)),
              le_trans (bucketFloor_le hsize segmentEnd) (le_trans hend hplanned)⟩
          obtain ⟨hdone, hmono, hplan, hstop⟩ := ih hfloor' hend (hfiled.cut hsize hat) h
          exact ⟨hdone, by omega, hplan, hstop⟩
      · next hge =>
          simp only [Except.ok.injEq, Prod.mk.injEq] at h
          obtain ⟨rfl, rfl, rfl⟩ := h
          exact ⟨hfiled, le_refl _, hle, Or.inl (by omega)⟩

/-- The state of the outer loop after it consumed a prefix of the batch. -/
structure Swept (beforeMs bucketSizeMs : Int) (consumed : List Consumed)
    (progress : RollupProgress) : Prop where
  filed : Filed bucketSizeMs consumed progress.buckets
  le_ended : ∀ c ∈ consumed, c.consumedEnd ≤ c.sample.endedAtMs
  fullyConsumed : progress.fullyConsumed =
    (consumed.filter Consumed.complete).map (fun c => c.sample.id)
  remainders : progress.remainders.map (fun r => (r.id, r.startedAtMs)) =
    (consumed.filter (fun c => !c.complete)).map (fun c => (c.sample.id, c.consumedEnd))
  exhausted : consumed.Pairwise (fun c _ => c.Exhausted beforeMs)
  budget : (∀ c ∈ consumed, c.Exhausted beforeMs) ∨ progress.remainingSegments = 0

theorem Swept.initial (beforeMs bucketSizeMs : Int) (budget : Nat) :
    Swept beforeMs bucketSizeMs [] ⟨OrdMap.empty, [], [], budget⟩ :=
  ⟨Filed.empty bucketSizeMs, by simp, rfl, rfl, List.Pairwise.nil, Or.inl (by simp)⟩

/-- What is left of a sample has its key and starts where consuming it stopped. -/
theorem remainderOf_key {consumedEnd : Int} {remainder : RawTrafficRemainder}
    (h : remainderOf sample consumedEnd = .ok remainder) :
    remainder.id = sample.id ∧ remainder.startedAtMs = consumedEnd := by
  unfold remainderOf at h
  obtain ⟨_, _, h⟩ := bind_eq_ok_iff.mp h
  obtain ⟨_, _, h⟩ := bind_eq_ok_iff.mp h
  simp only [pure_eq_ok, Except.ok.injEq] at h
  rw [← h]
  exact ⟨rfl, rfl⟩

/-- One more sample. -/
theorem Swept.next {progress progress' : RollupProgress}
    (h : Swept beforeMs bucketSizeMs consumed progress) (hsize : 0 < bucketSizeMs)
    (hsample : Rollable beforeMs bucketSizeMs sample) (hbudget : progress.remainingSegments ≠ 0)
    (hstep : consumeSample beforeMs bucketSizeMs sample progress = .ok progress') :
    ∃ consumedEnd,
      Swept beforeMs bucketSizeMs (consumed ++ [⟨sample, consumedEnd⟩]) progress' := by
  unfold consumeSample at hstep
  obtain ⟨_, hvalid, hstep⟩ := bind_eq_ok_iff.mp hstep
  have hincreasing := (validateRawSampleForRollup_ok hvalid).increasing
  have hbefore := hsample.before
  have hended := hsample.ended_le
  rw [if_neg (by omega)] at hstep
  obtain ⟨⟨remaining, consumedEnd, buckets⟩, hsegments, hstep⟩ := bind_eq_ok_iff.mp hstep
  obtain ⟨hfiled, _, hle, hstop⟩ := consumeSegments_filed hsize (by omega) hsample.floor
    (by omega) (h.filed.begin sample) hsegments
  have hexhausted : ∀ c ∈ consumed, c.Exhausted beforeMs := h.budget.resolve_right hbudget
  have hle_ended : ∀ c ∈ consumed ++ [⟨sample, consumedEnd⟩],
      c.consumedEnd ≤ c.sample.endedAtMs := by
    intro c hc
    rcases List.mem_append.mp hc with hc | hc
    · exact h.le_ended c hc
    · rw [List.mem_singleton.mp hc]
      exact le_trans hle (min_le_left _ _)
  have hpairwise : List.Pairwise (fun c (_ : Consumed) => c.Exhausted beforeMs)
      (consumed ++ [⟨sample, consumedEnd⟩]) := by
    rw [List.pairwise_append]
    exact ⟨h.exhausted, List.pairwise_singleton _ _, fun c hc _ _ => hexhausted c hc⟩
  have hbudget' : (∀ c ∈ consumed ++ [⟨sample, consumedEnd⟩], c.Exhausted beforeMs) ∨
      remaining = 0 := by
    rcases hstop with hstop | hstop
    · left
      intro c hc
      rcases List.mem_append.mp hc with hc | hc
      · exact hexhausted c hc
      · rw [List.mem_singleton.mp hc]
        exact hstop
    · exact Or.inr hstop
  refine ⟨consumedEnd, ?_⟩
  by_cases hcomplete : consumedEnd = sample.endedAtMs
  · have hflag : Consumed.complete ⟨sample, consumedEnd⟩ = true := decide_eq_true hcomplete
    simp only [hcomplete, if_true, pure_eq_ok, Except.ok.injEq] at hstep
    subst hstep
    refine ⟨hfiled, hle_ended, ?_, ?_, hpairwise, hbudget'⟩
    · simp [h.fullyConsumed, hflag]
    · simp [h.remainders, hflag]
  · have hflag : Consumed.complete ⟨sample, consumedEnd⟩ = false := decide_eq_false hcomplete
    simp only [hcomplete, if_false] at hstep
    obtain ⟨remainder, hremainder, hstep⟩ := bind_eq_ok_iff.mp hstep
    obtain ⟨hid, hstart⟩ := remainderOf_key hremainder
    simp only [pure_eq_ok, Except.ok.injEq] at hstep
    subst hstep
    refine ⟨hfiled, hle_ended, ?_, ?_, hpairwise, hbudget'⟩
    · simp [h.fullyConsumed, hflag]
    · simp [h.remainders, hflag, hid, hstart]

/-- The outer loop consumes a prefix of the batch. -/
theorem consumeSamples_swept (hsize : 0 < bucketSizeMs) {batch : List TrafficSample}
    (hbatch : ∀ s ∈ batch, Rollable beforeMs bucketSizeMs s) {progress progress' : RollupProgress}
    (h : Swept beforeMs bucketSizeMs consumed progress)
    (hloop : consumeSamples beforeMs bucketSizeMs batch progress = .ok progress') :
    ∃ more later, batch = more.map (fun c => c.sample) ++ later ∧
      Swept beforeMs bucketSizeMs (consumed ++ more) progress' := by
  induction batch generalizing consumed progress with
  | nil =>
      simp only [consumeSamples, Except.ok.injEq] at hloop
      subst hloop
      exact ⟨[], [], rfl, by simpa using h⟩
  | cons sample rest ih =>
      simp only [consumeSamples] at hloop
      split at hloop
      · simp only [Except.ok.injEq] at hloop
        subst hloop
        exact ⟨[], sample :: rest, rfl, by simpa using h⟩
      · next hbudget =>
          obtain ⟨next, hstep, hloop⟩ := bind_eq_ok_iff.mp hloop
          obtain ⟨consumedEnd, hnext⟩ :=
            h.next hsize (hbatch sample List.mem_cons_self) hbudget hstep
          obtain ⟨more, later, hsplit, hdone⟩ :=
            ih (fun s hs => hbatch s (List.mem_cons_of_mem _ hs)) hnext hloop
          refine ⟨⟨sample, consumedEnd⟩ :: more, later, by simp [hsplit], ?_⟩
          simpa [List.append_assoc] using hdone

end

/-! ## The writes -/

/-- A row of the table that takes the bucket ends before the batch entered it. -/
theorem writeBucket_ended {bucketSizeMs : Int} {entry : BucketKey × RollupBucket}
    {t t' : Table TrafficRollup} (hkeyed : t.Keyed (fun r => r.id)) (hunique : UniqueRollups t)
    (h : writeBucket bucketSizeMs entry t = .ok t') {r : TrafficRollup} (hr : r ∈ t.rows)
    (hof : r.ofBucket bucketSizeMs entry.1) : r.bucketEndMs ≤ entry.2.batchStartMs := by
  rcases writeBucket_cases h with ⟨hnone, _⟩ | ⟨stored, hstored, hstoredOf, hmergeable, _⟩
  · exact absurd hof (hnone r hr)
  · have hconflict : r.conflicts stored = true := by
      obtain ⟨hrouter, hinterface, hbucket, hstart, hsource⟩ := hof
      obtain ⟨hrouter', hinterface', hbucket', hstart', hsource'⟩ := hstoredOf
      simp only [TrafficRollup.conflicts, decide_eq_true_eq]
      exact ⟨hrouter'.trans hrouter.symm, hinterface'.trans hinterface.symm,
        hbucket'.trans hbucket.symm, hstart'.trans hstart.symm, hsource'.trans hsource.symm⟩
    have hsame : r = stored := hkeyed.eq_of_key_eq hr hstored (hunique r hr stored hstored hconflict)
    rw [hsame]
    exact mergeable_ordered hmergeable

/-- A row of another bucket is left alone. -/
theorem writeBucket_keeps {bucketSizeMs : Int} {entry : BucketKey × RollupBucket}
    {t t' : Table TrafficRollup} (h : writeBucket bucketSizeMs entry t = .ok t')
    {r : TrafficRollup} (hr : r ∈ t.rows) (hof : ¬ r.ofBucket bucketSizeMs entry.1) :
    r ∈ t'.rows := by
  rcases writeBucket_cases h with ⟨_, rfl⟩ | ⟨_, _, _, _, hupdate⟩
  · exact List.mem_append_left _ hr
  · obtain rfl : _ = t' := congrArg Prod.snd hupdate
    refine Table.mem_updateWhere_iff.mpr (Or.inl ⟨hr, ?_⟩)
    rw [Bool.and_eq_false_iff]
    exact Or.inl (Bool.eq_false_iff.mpr (fun hconflict => hof (conflicts_rollupRow_iff.mp hconflict)))

/-- The stored rows of the buckets `done` end before the batch entered them, and the rows of
other buckets are still there. -/
structure RollupsEnded (bucketSizeMs : Int) (t : Table TrafficRollup)
    (done : List (BucketKey × RollupBucket)) (t' : Table TrafficRollup) : Prop where
  after : RollupsAfter bucketSizeMs t done t'
  pending : ∀ r ∈ t.rows, (∀ entry ∈ done, ¬ r.ofBucket bucketSizeMs entry.1) → r ∈ t'.rows
  ended : ∀ entry ∈ done, ∀ r ∈ t.rows, r.ofBucket bucketSizeMs entry.1 →
    r.bucketEndMs ≤ entry.2.batchStartMs

theorem writeAll_ended {bucketSizeMs : Int} {t t' : Table TrafficRollup}
    {buckets : OrdMap BucketKey RollupBucket} (hkeyed : t.Keyed (fun r => r.id))
    (hunique : UniqueRollups t)
    (h : writeAll (writeBucket bucketSizeMs) buckets.entries t = .ok t') :
    RollupsEnded bucketSizeMs t buckets.entries t' := by
  refine writeAll_invariant (fun done t' => RollupsEnded bucketSizeMs t done t') ?_
    ⟨⟨hkeyed, hunique, by simp, fun r hr => Or.inl hr, by simp,
      fun r hr => ⟨r, hr, rfl, rfl, le_refl _⟩, by simp⟩, fun r hr _ => hr, by simp⟩ h
  intro done entry later mid next hsplit hmid hwrite
  have hnew : ∀ e ∈ done, e.1 ≠ entry.1 := by
    have hsorted := buckets.sorted
    rw [hsplit, List.pairwise_append] at hsorted
    exact fun e he => ne_of_lt (hsorted.2.2 e he entry List.mem_cons_self)
  refine ⟨hmid.after.write hnew hwrite, ?_, ?_⟩
  · intro r hr hother
    have hmem := hmid.pending r hr (fun e he => hother e (List.mem_append_left _ he))
    exact writeBucket_keeps hwrite hmem
      (hother entry (List.mem_append_right _ (List.mem_singleton.mpr rfl)))
  · intro e he r hr hof
    rcases List.mem_append.mp he with he | he
    · exact hmid.ended e he r hr hof
    · rw [List.mem_singleton.mp he] at hof ⊢
      have hmem := hmid.pending r hr (fun d hd hd' => hnew d hd (hd'.key_eq hof))
      exact writeBucket_ended hmid.after.keyed hmid.after.unique hwrite hmem hof

/-- The samples after the remainders `done` were written. -/
structure Remained (t : Table TrafficSample) (done : List RawTrafficRemainder)
    (t' : Table TrafficSample) : Prop where
  pending : ∀ s ∈ t.rows, (∀ r ∈ done, r.id ≠ s.id) → s ∈ t'.rows
  started : ∀ r ∈ done, ∃ x ∈ t'.rows, x.id = r.id ∧ x.startedAtMs = r.startedAtMs

theorem writeAll_remained {t t' : Table TrafficSample} {remainders : List RawTrafficRemainder}
    (hdistinct : (remainders.map (fun r => r.id)).Nodup)
    (h : writeAll writeRemainder remainders t = .ok t') : Remained t remainders t' := by
  refine writeAll_invariant (fun done t' => Remained t done t') ?_
    ⟨fun s hs _ => hs, by simp⟩ h
  intro done remainder later mid next hsplit hmid hwrite
  have hnew : ∀ r ∈ done, r.id ≠ remainder.id := by
    rw [hsplit, List.map_append, List.nodup_append] at hdistinct
    exact fun r hr => hdistinct.2.2 _ (List.mem_map_of_mem hr) _ (by simp)
  have hupdate := writeRemainder_ok hwrite
  have hone := congrArg Prod.fst hupdate
  obtain rfl : _ = next := congrArg Prod.snd hupdate
  constructor
  · intro s hs hother
    refine Table.mem_updateWhere_iff.mpr (Or.inl ⟨hmid.pending s hs
      (fun r hr => hother r (List.mem_append_left _ hr)), decide_eq_false ?_⟩)
    exact Ne.symm (hother remainder (List.mem_append_right _ (List.mem_singleton.mpr rfl)))
  · intro r hr
    rcases List.mem_append.mp hr with hr | hr
    · obtain ⟨x, hx, hid, hstart⟩ := hmid.started r hr
      refine ⟨x, Table.mem_updateWhere_iff.mpr (Or.inl ⟨hx, decide_eq_false ?_⟩), hid, hstart⟩
      rw [hid]
      exact hnew r hr
    · rw [List.mem_singleton.mp hr]
      obtain ⟨x, hx, hid⟩ := List.countP_pos_iff.mp (show 0 < mid.rows.countP
        (fun s => decide (s.id = remainder.id)) by
          simp only [Table.updateWhere] at hone
          omega)
      exact ⟨_, Table.mem_updateWhere_iff.mpr (Or.inr ⟨x, hx, hid, rfl⟩), of_decide_eq_true hid, rfl⟩

/-- The deletions keep the rows with other keys. -/
theorem writeAll_deleteConsumed_keeps {ids : List Int} {t t' : Table TrafficSample}
    (h : writeAll deleteConsumed ids t = .ok t') :
    ∀ x ∈ t.rows, x.id ∉ ids → x ∈ t'.rows := by
  refine writeAll_invariant (fun done t' => ∀ x ∈ t.rows, x.id ∉ done → x ∈ t'.rows) ?_
    (fun x hx _ => hx) h
  intro done id later mid next _ hmid hwrite x hx hother
  have hdelete := deleteConsumed_ok hwrite
  obtain rfl : _ = next := congrArg Prod.snd hdelete
  rw [List.mem_append, List.mem_singleton, not_or] at hother
  refine List.mem_filter.mpr ⟨hmid x hx hother.1, ?_⟩
  simp [hother.2]

/-! ## The call -/

/-- The instants of a stored sample that are no longer stored afterwards. -/
def TrafficDb.ConsumedAt (db' : TrafficDb) (s : TrafficSample) (t : Int) : Prop :=
  s.startedAtMs ≤ t ∧ t < s.endedAtMs ∧
    ¬ ∃ x ∈ db'.trafficSamples.rows, x.id = s.id ∧ x.startedAtMs ≤ t

/-- What a successful call refused. -/
structure Refused (bucketSizeMs : Int) (db db' : TrafficDb) : Prop where
  /-- Two samples of one interface of which anything was consumed do not overlap. -/
  samples : ∀ s ∈ db.trafficSamples.rows, ∀ u ∈ db.trafficSamples.rows, s.id ≠ u.id →
    u.on s.routerId s.interfaceId = true → (∃ t, db'.ConsumedAt s t) → (∃ t, db'.ConsumedAt u t) →
    s.span.Apart u.span
  /-- A consumed instant lies after the span that its bucket had been rolled up to. -/
  rollups : ∀ s ∈ db.trafficSamples.rows, ∀ t, db'.ConsumedAt s t →
    ∀ r ∈ db.trafficRollups.rows, r.ofBucket bucketSizeMs (segmentKey bucketSizeMs s t) →
    r.bucketEndMs ≤ t
  /-- A row that was written has counters that fit their columns. -/
  fits : ∀ r ∈ db'.trafficRollups.rows, r ∈ db.trafficRollups.rows ∨
    (r.accumulator.Fits ∧ r.sampleCount ≤ i64Max)

section

variable {beforeMs bucketSizeMs : Int} {db db' : TrafficDb} {consumed : List Consumed}
  {buckets : OrdMap BucketKey RollupBucket}

/-- A successful call: what it consumed, and the tables it left. -/
structure SweptUp (beforeMs bucketSizeMs : Int) (db : TrafficDb) (consumed : List Consumed)
    (buckets : OrdMap BucketKey RollupBucket) (db' : TrafficDb) : Prop where
  filed : Filed bucketSizeMs consumed buckets
  exhausted : consumed.Pairwise (fun c _ => c.Exhausted beforeMs)
  stored : ∀ c ∈ consumed, c.sample ∈ db.trafficSamples.rows
  before : ∀ c ∈ consumed, c.sample.startedAtMs < beforeMs
  ordered : consumed.Pairwise (fun c d => c.sample.startedAtMs ≤ d.sample.startedAtMs)
  rollups : RollupsEnded bucketSizeMs db.trafficRollups buckets.entries db'.trafficRollups
  pending : ∀ s ∈ db.trafficSamples.rows, (∀ c ∈ consumed, c.sample.id ≠ s.id) →
    s ∈ db'.trafficSamples.rows
  started : ∀ c ∈ consumed, c.complete = false →
    ∃ x ∈ db'.trafficSamples.rows, x.id = c.sample.id ∧ x.startedAtMs = c.consumedEnd

/-- What was consumed of a sample of the result was consumed by the batch. -/
theorem SweptUp.takes (h : SweptUp beforeMs bucketSizeMs db consumed buckets db')
    (hkeyed : db.trafficSamples.Keyed (fun s => s.id)) {s : TrafficSample}
    (hs : s ∈ db.trafficSamples.rows) {t : Int} (ht : db'.ConsumedAt s t) :
    ∃ c ∈ consumed, c.sample = s ∧ c.Takes t := by
  obtain ⟨hstart, hstop, hgone⟩ := ht
  by_cases hconsumed : ∃ c ∈ consumed, c.sample.id = s.id
  · obtain ⟨c, hc, hid⟩ := hconsumed
    have hsame : c.sample = s := hkeyed.eq_of_key_eq (h.stored c hc) hs hid
    subst hsame
    refine ⟨c, hc, rfl, hstart, ?_⟩
    cases hcomplete : c.complete with
    | true =>
        rw [of_decide_eq_true hcomplete]
        exact hstop
    | false =>
        obtain ⟨x, hx, hxid, hxstart⟩ := h.started c hc hcomplete
        by_contra hle
        exact hgone ⟨x, hx, hxid, by omega⟩
  · refine absurd ⟨s, h.pending s hs ?_, rfl, hstart⟩ hgone
    exact fun c hc hid => hconsumed ⟨c, hc, hid⟩

/-- Of two consumed samples of one interface, the earlier one was exhausted before the later
one was begun, so it ends before the later one starts. -/
theorem SweptUp.apart (h : SweptUp beforeMs bucketSizeMs db consumed buckets db')
    {c d : Consumed} (hc : c ∈ consumed) (hd : d ∈ consumed) (hne : c ≠ d)
    (hon : d.sample.on c.sample.routerId c.sample.interfaceId = true)
    (hct : ∃ t, c.Takes t) (hdt : ∃ t, d.Takes t) : c.sample.span.Apart d.sample.span := by
  obtain ⟨tc, hcstart, hcstop⟩ := hct
  obtain ⟨td, hdstart, hdstop⟩ := hdt
  have hcbefore := h.before c hc
  have hdbefore := h.before d hd
  have hall := (h.exhausted.and h.ordered).and h.filed.once
  simp only [Span.Apart, Span.Before, TrafficSampleInput.span]
  rcases Table.pairwise_either hall hc hd hne with ⟨⟨hexhausted, hle⟩, honce⟩ |
    ⟨⟨hexhausted, hle⟩, honce⟩
  · left
    by_contra hlt
    simp only [Consumed.Exhausted] at hexhausted
    exact honce hon d.sample.startedAtMs ⟨hle, by omega⟩ ⟨le_refl _, by omega⟩
  · right
    by_contra hlt
    simp only [Consumed.Exhausted] at hexhausted
    have hon' : c.sample.on d.sample.routerId d.sample.interfaceId = true := by
      simp only [TrafficSampleInput.on, decide_eq_true_eq] at hon ⊢
      exact ⟨hon.1.symm, hon.2.symm⟩
    exact honce hon' c.sample.startedAtMs ⟨hle, by omega⟩ ⟨le_refl _, by omega⟩

theorem SweptUp.refused (h : SweptUp beforeMs bucketSizeMs db consumed buckets db')
    (hkeyed : db.trafficSamples.Keyed (fun s => s.id)) : Refused bucketSizeMs db db' where
  samples := by
    rintro s hs u hu hne hon ⟨ts, hts⟩ ⟨tu, htu⟩
    obtain ⟨c, hc, rfl, hct⟩ := h.takes hkeyed hs hts
    obtain ⟨d, hd, rfl, hdt⟩ := h.takes hkeyed hu htu
    exact h.apart hc hd (fun heq => hne (by rw [heq])) hon ⟨ts, hct⟩ ⟨tu, hdt⟩
  rollups := by
    intro s hs t ht r hr hof
    obtain ⟨c, hc, rfl, hct⟩ := h.takes hkeyed hs ht
    obtain ⟨bucket, hentry, hstart, _⟩ := h.filed.reached c hc t hct
    exact le_trans (h.rollups.ended _ hentry r hr hof) hstart
  fits := by
    intro r hr
    rcases h.rollups.after.rows r hr with hold | ⟨entry, hentry, hby⟩
    · exact Or.inl hold
    · have hfits := h.rollups.after.fits entry hentry
      have hcount := (h.filed.ordered entry hentry).sampleCount_le
      right
      rcases hby with hby | ⟨stored, _, _, hmergeable, hby⟩
      · rw [hby]
        exact ⟨⟨hfits.exactDownloadBytes, hfits.exactUploadBytes, hfits.estimatedDownloadBytes,
          hfits.estimatedUploadBytes⟩, hcount⟩
      · rw [hby]
        simp only [TrafficRollup.mergeable, decide_eq_true_eq] at hmergeable
        obtain ⟨_, _, hexactDownload, hexactUpload, hestimatedDownload, hestimatedUpload, hsamples⟩ :=
          hmergeable
        refine ⟨?_, ?_⟩
        · constructor <;> simp only [TrafficRollup.accumulator, TrafficRollup.merge] <;> omega
        · simp only [TrafficRollup.merge]
          omega

/-- The inversion of the call on rows of which only the keys and the column types are known. -/
theorem rollupExactSamplesBatch_swept {batchSize n : Nat} (hkeyed : db.Keyed)
    (hunique : UniqueRollups db.trafficRollups)
    (hrollable : ∀ s ∈ db.trafficSamples.rows, s.startedAtMs < beforeMs →
      s.endedAtMs ≤ i64Max ∧ IsI64 (bucketFloor bucketSizeMs s.startedAtMs))
    (h : rollupExactSamplesBatch beforeMs bucketSizeMs batchSize db = .ok (n, db')) :
    ∃ consumed buckets, SweptUp beforeMs bucketSizeMs db consumed buckets db' := by
  obtain ⟨progress, rollups, remained, kept, hpasses, _, rfl⟩ :=
    rollupExactSamplesBatch_eq_ok_iff.mp h
  have hbatch : ∀ s ∈ db.rollupSampleBatch beforeMs batchSize,
      s ∈ db.trafficSamples.rows ∧ s.startedAtMs < beforeMs :=
    fun s hs => mem_rollupSampleBatch hs
  have hall : ∀ s ∈ db.rollupSampleBatch beforeMs batchSize,
      Rollable beforeMs bucketSizeMs s := by
    intro s hs
    obtain ⟨hmem, hbefore⟩ := hbatch s hs
    obtain ⟨hended, hfloor⟩ := hrollable s hmem hbefore
    exact ⟨hbefore, hended, hfloor⟩
  obtain ⟨consumed, later, hsplit, hdone⟩ := consumeSamples_swept hpasses.size hall
    (Swept.initial beforeMs bucketSizeMs (batchSize * 2)) hpasses.loop
  rw [List.nil_append] at hdone
  have hmem : ∀ c ∈ consumed, c.sample ∈ db.rollupSampleBatch beforeMs batchSize := by
    intro c hc
    rw [hsplit]
    exact List.mem_append_left _ (List.mem_map_of_mem hc)
  have hdistinct : (consumed.map (fun c => c.sample.id)).Nodup := by
    have hids := rollupSampleBatch_nodup hkeyed.samples beforeMs batchSize
    rw [hsplit, List.map_append, List.map_map] at hids
    exact (List.nodup_append.mp hids).1
  have hordered := (rollupSampleBatch_order hsplit).1
  rw [List.pairwise_map] at hordered
  have hpairs := hdone.remainders
  have hids : progress.remainders.map (fun r => r.id) =
      (consumed.filter (fun c => !c.complete)).map (fun c => c.sample.id) := by
    have := congrArg (List.map Prod.fst) hpairs
    simpa only [List.map_map, Function.comp_def] using this
  have hremain := writeAll_remained (by
    rw [hids]
    exact hdistinct.sublist (List.filter_sublist.map _)) hpasses.remainders
  have hdeleted := writeAll_deleteConsumed_keeps hpasses.deletions
  rw [hdone.fullyConsumed] at hdeleted
  refine ⟨consumed, progress.buckets, {
    filed := hdone.filed
    exhausted := hdone.exhausted
    stored := fun c hc => (hbatch _ (hmem c hc)).1
    before := fun c hc => (hbatch _ (hmem c hc)).2
    ordered := hordered
    rollups := writeAll_ended hkeyed.rollups hunique hpasses.buckets
    pending := ?_
    started := ?_ }⟩
  · intro s hs hother
    have hnot : ∀ {p : Consumed → Bool}, s.id ∉ (consumed.filter p).map (fun c => c.sample.id) := by
      intro p hin
      obtain ⟨c, hc, hid⟩ := List.mem_map.mp hin
      exact hother c (List.mem_of_mem_filter hc) hid
    refine hdeleted s (hremain.pending s hs ?_) hnot
    intro r hr hid
    refine hnot (p := fun c => !c.complete) ?_
    rw [← hids, ← hid]
    exact List.mem_map_of_mem hr
  · intro c hc hcomplete
    have hpair : (c.sample.id, c.consumedEnd) ∈
        progress.remainders.map (fun r => (r.id, r.startedAtMs)) := by
      rw [hpairs]
      exact List.mem_map.mpr ⟨c, List.mem_filter.mpr ⟨hc, by rw [hcomplete]; rfl⟩, rfl⟩
    obtain ⟨r, hr, heq⟩ := List.mem_map.mp hpair
    obtain ⟨x, hx, hxid, hxstart⟩ := hremain.started r hr
    simp only [Prod.mk.injEq] at heq
    refine ⟨x, hdeleted x hx ?_, hxid.trans heq.1, hxstart.trans heq.2⟩
    -- Another sample was deleted than the one that is left.
    intro hin
    obtain ⟨d, hd, hid⟩ := List.mem_map.mp hin
    obtain ⟨hdmem, hdcomplete⟩ := List.mem_filter.mp hd
    have hsame : d = c :=
      List.inj_on_of_nodup_map hdistinct hdmem hc (hid.trans (hxid.trans heq.1))
    rw [hsame, hcomplete] at hdcomplete
    cases hdcomplete

end

/-! ## The transaction -/

/-- A transaction: the statements, and the commit.  When either fails, the transaction is
dropped, which rolls it back; `failure` is what the storage engine reports of its own. -/
def inTransaction {α : Type} (failure : Option DatabaseError)
    (body : TrafficDb → DatabaseResult (α × TrafficDb)) (db : TrafficDb) :
    DatabaseResult α × TrafficDb :=
  match body db, failure with
  | .error e, _ => (.error e, db)
  | .ok _, some e => (.error e, db)
  | .ok (a, db'), none => (.ok a, db')

theorem inTransaction_error {α : Type} {failure : Option DatabaseError}
    {body : TrafficDb → DatabaseResult (α × TrafficDb)} {db : TrafficDb} {e : DatabaseError}
    (h : (inTransaction failure body db).1 = .error e) : (inTransaction failure body db).2 = db := by
  unfold inTransaction at h ⊢
  split at h
  · rfl
  · rfl
  · cases h

theorem inTransaction_ok {α : Type} {failure : Option DatabaseError}
    {body : TrafficDb → DatabaseResult (α × TrafficDb)} {db : TrafficDb} {a : α}
    (h : (inTransaction failure body db).1 = .ok a) :
    body db = .ok (a, (inTransaction failure body db).2) := by
  unfold inTransaction at h ⊢
  split at h
  · cases h
  · cases h
  · next hbody =>
      rw [hbody]
      injection h with h
      rw [h]

/-- `rollup_exact_samples_batch` with its transaction. -/
def rollupCall (beforeMs bucketSizeMs : Int) (batchSize : Nat) (failure : Option DatabaseError)
    (db : TrafficDb) : DatabaseResult Nat × TrafficDb :=
  inTransaction failure (rollupExactSamplesBatch beforeMs bucketSizeMs batchSize) db

/-- A call that fails changes nothing.  One that succeeds, on samples whose first buckets start
at 64-bit integers, consumed no overlapping samples and no instant that had been rolled up,
and wrote no counter that leaves its column. -/
theorem rollup_refuses (beforeMs bucketSizeMs : Int) (batchSize : Nat)
    (failure : Option DatabaseError) (db : TrafficDb) (htyped : db.WellTyped) (hkeyed : db.Keyed)
    (hunique : UniqueRollups db.trafficRollups) :
    (∀ e, (rollupCall beforeMs bucketSizeMs batchSize failure db).1 = .error e →
      (rollupCall beforeMs bucketSizeMs batchSize failure db).2 = db) ∧
    ∀ n, (rollupCall beforeMs bucketSizeMs batchSize failure db).1 = .ok n →
      (∀ s ∈ db.trafficSamples.rows, s.startedAtMs < beforeMs →
        IsI64 (bucketFloor bucketSizeMs s.startedAtMs)) →
      Refused bucketSizeMs db (rollupCall beforeMs bucketSizeMs batchSize failure db).2 := by
  refine ⟨fun e he => inTransaction_error he, ?_⟩
  intro n hok hfloors
  have hrollable : ∀ s ∈ db.trafficSamples.rows, s.startedAtMs < beforeMs →
      s.endedAtMs ≤ i64Max ∧ IsI64 (bucketFloor bucketSizeMs s.startedAtMs) :=
    fun s hs hbefore => ⟨(htyped.samples s hs).endedAtMs.2, hfloors s hs hbefore⟩
  obtain ⟨consumed, buckets, hswept⟩ :=
    rollupExactSamplesBatch_swept hkeyed hunique hrollable (inTransaction_ok hok)
  exact hswept.refused hkeyed.samples

theorem rollup_refuses_withTraffic :
    Refused 60000 TrafficDb.withTraffic (rollupCall 100000 60000 1 none TrafficDb.withTraffic).2 := by
  have hkeyed : TrafficDb.withTraffic.Keyed := by
    constructor <;> constructor <;> decide
  have hunique : UniqueRollups TrafficDb.withTraffic.trafficRollups := by
    intro a ha b hb _
    rw [List.mem_singleton.mp ha, List.mem_singleton.mp hb]
  exact (rollup_refuses 100000 60000 1 none TrafficDb.withTraffic withTraffic_wellTyped hkeyed
    hunique).2 1 (by decide +kernel) (by decide)

/-- A sample from the earliest instant on, and one that overlaps it. -/
def TrafficDb.withEarliest : TrafficDb :=
  { TrafficDb.withInterface with
    trafficSamples := ⟨[
      { quarterSample 1 (-9223372036854775808) with
        endedAtMs := 10
        durationMs := 9223372036854775807 },
      { quarterSample 2 0 with
        endedAtMs := 5
        durationMs := 5 }], 2⟩ }

/-- The start of the earliest bucket wraps around to 2, so the two samples fall in different
buckets and both are consumed. -/
theorem rollup_refuses_fails :
    (rollupCall 20 9223372036854775807 2 none TrafficDb.withEarliest).1 = .ok 2 ∧
      (rollupCall 20 9223372036854775807 2 none TrafficDb.withEarliest).2.trafficSamples.rows = [] ∧
      ¬ TrafficDb.withEarliest.trafficSamples.rows.Pairwise (fun s u => s.span.Apart u.span) := by
  refine ⟨?_, ?_, ?_⟩ <;> decide +kernel

end RouterView.Db
