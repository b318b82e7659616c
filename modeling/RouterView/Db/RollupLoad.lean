/-
  Db/RollupLoad.lean --- the loop over samples that do not overlap.

  Over sound samples of which those of one interface come one after the other,
  no check of the loop fails.  A bucket ends up with no more of a quantity than
  the shares of the consumed samples in it, and with no more segments than
  milliseconds, since every segment lasts at least one.
-/
import RouterView.Db.RollupSpec

set_option autoImplicit false

namespace RouterView.Db

open RouterView.Foundation

/-! ## Shares -/

/-- The consumed part of a sample that lies in a bucket of its interface. -/
def Consumed.share (q : Quantity) (bucketSizeMs : Int) (key : BucketKey) (c : Consumed) : Int :=
  if c.sample.on key.routerId key.interfaceId then
    slice (q.ofSample c.sample) c.sample.durationMs
      (max c.sample.startedAtMs key.startMs - c.sample.startedAtMs)
      (max (max c.sample.startedAtMs key.startMs) (min c.consumedEnd (key.startMs + bucketSizeMs)) -
        c.sample.startedAtMs)
  else 0

theorem TrafficSample.Sound.duration_pos {s : TrafficSample} (h : s.Sound) : 0 < s.durationMs := by
  rw [h.duration]
  exact satSub_pos h.increasing

theorem TrafficSample.Sound.ofSample_nonneg {s : TrafficSample} (h : s.Sound) (q : Quantity) :
    0 ≤ q.ofSample s := by
  cases q with
  | downloadBytes => exact h.downloadBytes
  | uploadBytes => exact h.uploadBytes
  | durationMs => exact le_of_lt h.duration_pos

theorem Consumed.share_nonneg {c : Consumed} (h : c.sample.Sound) (q : Quantity)
    (bucketSizeMs : Int) (key : BucketKey) : 0 ≤ c.share q bucketSizeMs key := by
  unfold Consumed.share
  split
  · exact slice_nonneg (h.ofSample_nonneg q) h.duration_pos (by omega)
  · exact le_refl _

/-- Consuming more of a sample does not shrink its share. -/
theorem Consumed.share_mono {s : TrafficSample} (h : s.Sound) (q : Quantity)
    (bucketSizeMs : Int) (key : BucketKey) {reached reached' : Int} (hle : reached ≤ reached') :
    (⟨s, reached⟩ : Consumed).share q bucketSizeMs key ≤
      (⟨s, reached'⟩ : Consumed).share q bucketSizeMs key := by
  unfold Consumed.share
  simp only
  split
  · have hsum := slice_add (q.ofSample s) s.durationMs
      (max s.startedAtMs key.startMs - s.startedAtMs)
      (max (max s.startedAtMs key.startMs) (min reached (key.startMs + bucketSizeMs)) -
        s.startedAtMs)
      (max (max s.startedAtMs key.startMs) (min reached' (key.startMs + bucketSizeMs)) -
        s.startedAtMs)
    have hrest : 0 ≤ slice (q.ofSample s) s.durationMs
        (max (max s.startedAtMs key.startMs) (min reached (key.startMs + bucketSizeMs)) -
          s.startedAtMs)
        (max (max s.startedAtMs key.startMs) (min reached' (key.startMs + bucketSizeMs)) -
          s.startedAtMs) :=
      slice_nonneg (h.ofSample_nonneg q) h.duration_pos (by omega)
    linarith
  · exact le_refl _

section Cut

variable {bucketSizeMs plannedConsumedEnd : Int} {sample : TrafficSample}
  {segmentStart segmentEnd : Int} {buckets buckets' : OrdMap BucketKey RollupBucket}
  {exact : Bool} {consumed : List Consumed}

/-- A cut adds its segment to the share in its bucket. -/
theorem SegmentCut.share (hc : Cuttable bucketSizeMs plannedConsumedEnd sample)
    (hstart : sample.startedAtMs ≤ segmentStart) (hlt : segmentStart < plannedConsumedEnd)
    (hcut : SegmentCut bucketSizeMs plannedConsumedEnd sample segmentStart buckets segmentEnd
      buckets' exact) (q : Quantity) :
    (⟨sample, segmentEnd⟩ : Consumed).share q bucketSizeMs
        (segmentKey bucketSizeMs sample segmentStart) =
      (⟨sample, segmentStart⟩ : Consumed).share q bucketSizeMs
          (segmentKey bucketSizeMs sample segmentStart) +
        segmentQuantity q sample segmentStart segmentEnd := by
  have hadvance := hcut.start_lt hc.size_pos hlt
  have hend := hcut.segmentEnd_eq
  have hfloor := bucketFloor_le hc.size_pos segmentStart
  have hfloor' := lt_bucketFloor_add hc.size_pos segmentStart
  have hkey : (segmentKey bucketSizeMs sample segmentStart).startMs =
    bucketFloor bucketSizeMs segmentStart := rfl
  have hon : sample.on (segmentKey bucketSizeMs sample segmentStart).routerId
      (segmentKey bucketSizeMs sample segmentStart).interfaceId = true := by
    simp [TrafficSampleInput.on, segmentKey, bucketKey, BucketKey.routerId, BucketKey.interfaceId]
  have hbefore : max (max sample.startedAtMs (bucketFloor bucketSizeMs segmentStart))
      (min segmentStart (bucketFloor bucketSizeMs segmentStart + bucketSizeMs)) = segmentStart := by
    omega
  have hafter : max (max sample.startedAtMs (bucketFloor bucketSizeMs segmentStart))
      (min segmentEnd (bucketFloor bucketSizeMs segmentStart + bucketSizeMs)) = segmentEnd := by
    omega
  simp only [Consumed.share, hon, if_true, hkey, hbefore, hafter, segmentQuantity, slice_add]

/-! ## What a bucket holds -/

/-- A bucket holds at most the shares of the consumed samples, and a segment lasts at least
a millisecond. -/
structure Loaded (bucketSizeMs : Int) (consumed : List Consumed)
    (buckets : OrdMap BucketKey RollupBucket) : Prop where
  quantity : ∀ entry ∈ buckets.entries, ∀ q : Quantity,
    q.ofAccumulator entry.2.accumulator ≤
      (consumed.map (Consumed.share q bucketSizeMs entry.1)).sum
  count : ∀ entry ∈ buckets.entries,
    entry.2.accumulator.sampleCount ≤ Quantity.durationMs.ofAccumulator entry.2.accumulator

theorem Loaded.empty (bucketSizeMs : Int) : Loaded bucketSizeMs [] OrdMap.empty :=
  ⟨by simp, by simp⟩

theorem sum_shares_nonneg (hsound : ∀ c ∈ consumed, c.sample.Sound) (q : Quantity)
    (bucketSizeMs : Int) (key : BucketKey) :
    0 ≤ (consumed.map (Consumed.share q bucketSizeMs key)).sum := by
  refine List.sum_nonneg ?_
  intro x hx
  obtain ⟨c, hc, rfl⟩ := List.mem_map.mp hx
  exact Consumed.share_nonneg (hsound c hc) q bucketSizeMs key

theorem Loaded.begin (h : Loaded bucketSizeMs consumed buckets) (hsound : sample.Sound) :
    Loaded bucketSizeMs (consumed ++ [⟨sample, sample.startedAtMs⟩]) buckets := by
  refine ⟨?_, h.count⟩
  intro entry hentry q
  have hshare := Consumed.share_nonneg (c := ⟨sample, sample.startedAtMs⟩) hsound q bucketSizeMs
    entry.1
  have hquantity := h.quantity entry hentry q
  simp only [List.map_append, List.sum_append, List.map_cons, List.map_nil, List.sum_cons,
    List.sum_nil]
  omega

/-- One cut moves its segment from the sample into its bucket. -/
theorem Loaded.cut (hc : Cuttable bucketSizeMs plannedConsumedEnd sample)
    (hsound : ∀ c ∈ consumed, c.sample.Sound)
    (hstart : sample.startedAtMs ≤ segmentStart) (hlt : segmentStart < plannedConsumedEnd)
    (hcut : SegmentCut bucketSizeMs plannedConsumedEnd sample segmentStart buckets segmentEnd
      buckets' exact)
    (hcovers : Covers bucketSizeMs (consumed ++ [⟨sample, segmentStart⟩]) buckets)
    (h : Loaded bucketSizeMs (consumed ++ [⟨sample, segmentStart⟩]) buckets) :
    Loaded bucketSizeMs (consumed ++ [⟨sample, segmentEnd⟩]) buckets' := by
  have hadvance := hcut.start_lt hc.size_pos hlt
  obtain ⟨hextendable, _⟩ := hcovers.extendable (segmentKey bucketSizeMs sample segmentStart)
    (bucketFloor_le hc.size_pos segmentStart) hcut.ordered
  have hquantities := hcut.quantities hc hlt hextendable
  have hsum : ∀ (q : Quantity) (key : BucketKey) (reached : Int),
      ((consumed ++ [(⟨sample, reached⟩ : Consumed)]).map (Consumed.share q bucketSizeMs key)).sum =
        (consumed.map (Consumed.share q bucketSizeMs key)).sum +
          (⟨sample, reached⟩ : Consumed).share q bucketSizeMs key := by
    intro q key reached
    simp
  -- the bucket of the segment before the cut, also when the cut opens it
  have hopened : (∀ q : Quantity,
      q.ofAccumulator ((buckets.get? (segmentKey bucketSizeMs sample segmentStart)).getD
          (.opened segmentStart)).accumulator ≤
        ((consumed ++ [(⟨sample, segmentStart⟩ : Consumed)]).map
          (Consumed.share q bucketSizeMs (segmentKey bucketSizeMs sample segmentStart))).sum) ∧
      ((buckets.get? (segmentKey bucketSizeMs sample segmentStart)).getD
          (.opened segmentStart)).accumulator.sampleCount ≤
        Quantity.durationMs.ofAccumulator
          ((buckets.get? (segmentKey bucketSizeMs sample segmentStart)).getD
            (.opened segmentStart)).accumulator := by
    cases hfound : buckets.get? (segmentKey bucketSizeMs sample segmentStart) with
    | none =>
        refine ⟨?_, le_refl _⟩
        intro q
        have hzero : q.ofAccumulator (RollupBucket.opened segmentStart).accumulator = 0 := by
          cases q <;> rfl
        rw [Option.getD_none, hzero]
        apply sum_shares_nonneg
        intro c hc'
        rcases List.mem_append.mp hc' with hc' | hc'
        · exact hsound c hc'
        · rw [List.mem_singleton.mp hc']
          exact hc.sound
    | some bucket =>
        have hentry := OrdMap.mem_entries_iff.mpr hfound
        exact ⟨h.quantity _ hentry, h.count _ hentry⟩
  constructor
  · intro entry hentry q
    rw [hcut.altered] at hentry
    rw [hsum]
    rcases OrdMap.mem_alter_iff.mp hentry with ⟨hold, _⟩ | rfl
    · have hquantity := h.quantity entry hold q
      have hshare := Consumed.share_mono hc.sound q bucketSizeMs entry.1 (le_of_lt hadvance)
      rw [hsum] at hquantity
      omega
    · have hquantity := hopened.1 q
      have hshare := hcut.share hc hstart hlt q
      rw [hsum] at hquantity
      simp only [Quantity.ofAccumulator] at hquantity ⊢
      rw [(hquantities q).1, (hquantities q).2]
      split <;> omega
  · intro entry hentry
    rw [hcut.altered] at hentry
    rcases OrdMap.mem_alter_iff.mp hentry with ⟨hold, _⟩ | rfl
    · exact h.count entry hold
    · have hcount := hopened.2
      have hsampleCount := hextendable.sampleCount
      have hone : ∀ bucket : RollupBucket,
          (bucket.withSegment exact sample segmentStart segmentEnd).accumulator.sampleCount =
            satAdd bucket.accumulator.sampleCount 1 := by
        intro bucket
        cases exact <;> rfl
      have hsat : ∀ n : Int, 0 ≤ n → satAdd n 1 ≤ n + 1 := by
        intro n hn
        simp only [satAdd, clampI64, i64Min, i64Max]
        omega
      have hle := hsat _ hsampleCount
      have hduration := hquantities .durationMs
      rw [hc.segmentQuantity_duration] at hduration
      simp only [Quantity.ofAccumulator] at hcount ⊢
      rw [hduration.1, hduration.2, hone]
      split <;> omega

end Cut

/-! ## The inner loop -/

section Inner

variable {bucketSizeMs plannedConsumedEnd : Int} {sample : TrafficSample}

/-- A slice of a quantity within 64 bits succeeds. -/
theorem Cuttable.slices (hc : Cuttable bucketSizeMs plannedConsumedEnd sample) {value : Int}
    (hvalue : 0 ≤ value) (hfits : value ≤ i64Max) {segmentStart segmentEnd : Int}
    (hstart : sample.startedAtMs ≤ segmentStart) (hle : segmentStart ≤ segmentEnd)
    (hend : segmentEnd ≤ sample.endedAtMs) :
    ∃ part, proportionalSlice value sample.durationMs
      (satSub segmentStart sample.startedAtMs) (satSub segmentEnd sample.startedAtMs) =
        .ok part := by
  have hstarted := hc.started
  have hended := hc.ended
  have hduration := hc.durationMs_eq
  have hpositive := hc.duration_pos
  simp only [IsTimestamp] at hstarted hended
  simp only [i64Max] at hfits
  have hrelStart : satSub segmentStart sample.startedAtMs = segmentStart - sample.startedAtMs :=
    satSub_eq (by simp only [IsI64, i64Min, i64Max]; omega)
  have hrelEnd : satSub segmentEnd sample.startedAtMs = segmentEnd - sample.startedAtMs :=
    satSub_eq (by simp only [IsI64, i64Min, i64Max]; omega)
  rw [hrelStart, hrelEnd]
  exact ⟨_, proportionalSlice_eq hvalue (by omega) hpositive (by omega) (by omega) (by omega)
    (by omega)⟩

theorem cutSegment_succeeds (hc : Cuttable bucketSizeMs plannedConsumedEnd sample)
    (hfits : sample.BytesFit) {segmentStart : Int} {buckets : OrdMap BucketKey RollupBucket}
    (hstart : sample.startedAtMs ≤ segmentStart) (hlt : segmentStart < plannedConsumedEnd)
    (hordered : ((buckets.get? (segmentKey bucketSizeMs sample segmentStart)).getD
      (.opened segmentStart)).accumulatedEndMs ≤ segmentStart) :
    ∃ segmentEnd buckets', cutSegment bucketSizeMs plannedConsumedEnd sample segmentStart buckets =
      .ok (segmentEnd, buckets') := by
  have hplanned := hc.planned_le
  have hstarted := hc.started
  have hended := hc.ended
  simp only [IsTimestamp] at hstarted hended
  have hfloor := lt_bucketFloor_add hc.size_pos segmentStart
  have hwrap : wrapI64 (bucketFloor bucketSizeMs segmentStart) =
      bucketFloor bucketSizeMs segmentStart :=
    wrapI64_of_isI64 (bucketFloor_isI64 hc.size_pos hc.size_le (by
      simp only [IsTimestamp]
      omega))
  have hend : segmentStart ≤
      min plannedConsumedEnd (satAdd (bucketFloor bucketSizeMs segmentStart) bucketSizeMs) := by
    simp only [satAdd, clampI64, i64Min, i64Max]
    omega
  have hstop : min plannedConsumedEnd
      (satAdd (bucketFloor bucketSizeMs segmentStart) bucketSizeMs) ≤ sample.endedAtMs := by
    omega
  obtain ⟨download, hdownload⟩ := hc.slices hc.sound.downloadBytes hfits.1 hstart hend hstop
  obtain ⟨upload, hupload⟩ := hc.slices hc.sound.uploadBytes hfits.2 hstart hend hstop
  unfold cutSegment
  rw [hwrap]
  exact ⟨_, _, bind_eq_ok_iff.mpr ⟨download, hdownload, bind_eq_ok_iff.mpr ⟨upload, hupload,
    ensure_bind_eq_ok_iff.mpr ⟨not_lt.mpr hordered, rfl⟩⟩⟩⟩

/-- The inner loop succeeds when an invariant of its cuts keeps every segment after what its
bucket has. -/
theorem consumeSegments_succeeds (hc : Cuttable bucketSizeMs plannedConsumedEnd sample)
    (hfits : sample.BytesFit) (Invariant : Int → OrdMap BucketKey RollupBucket → Prop)
    (hstep : ∀ {segmentStart segmentEnd buckets buckets' exact},
      sample.startedAtMs ≤ segmentStart → segmentStart < plannedConsumedEnd →
      SegmentCut bucketSizeMs plannedConsumedEnd sample segmentStart buckets segmentEnd
        buckets' exact →
      Invariant segmentStart buckets → Invariant segmentEnd buckets')
    (hordered : ∀ {segmentStart buckets}, sample.startedAtMs ≤ segmentStart →
      Invariant segmentStart buckets →
      ((buckets.get? (segmentKey bucketSizeMs sample segmentStart)).getD
        (.opened segmentStart)).accumulatedEndMs ≤ segmentStart)
    (remaining : Nat) {segmentStart : Int} {buckets : OrdMap BucketKey RollupBucket}
    (hstart : sample.startedAtMs ≤ segmentStart) (hinvariant : Invariant segmentStart buckets) :
    ∃ remaining' consumedEnd buckets',
      consumeSegments bucketSizeMs plannedConsumedEnd sample remaining segmentStart buckets =
        .ok (remaining', consumedEnd, buckets') := by
  induction remaining generalizing segmentStart buckets with
  | zero => exact ⟨0, segmentStart, buckets, rfl⟩
  | succ remaining ih =>
      by_cases hlt : segmentStart < plannedConsumedEnd
      · obtain ⟨segmentEnd, cut, hcut⟩ :=
          cutSegment_succeeds hc hfits hstart hlt (hordered hstart hinvariant)
        obtain ⟨exact, hsegment⟩ := cutSegment_ok hc hstart hlt hcut
        have hadvance := hsegment.start_lt hc.size_pos hlt
        obtain ⟨remaining', consumedEnd, buckets', hrest⟩ :=
          ih (le_trans hstart (le_of_lt hadvance)) (hstep hstart hlt hsegment hinvariant)
        refine ⟨remaining', consumedEnd, buckets', ?_⟩
        simp only [consumeSegments, hlt, if_true]
        exact bind_eq_ok_iff.mpr ⟨_, hcut, hrest⟩
      · refine ⟨remaining + 1, segmentStart, buckets, ?_⟩
        simp only [consumeSegments, hlt, if_false]

end Inner

/-! ## The outer loop -/

/-- The samples of the batch can be consumed one after the other. -/
structure Consumable (batch : List TrafficSample) : Prop where
  sound : ∀ s ∈ batch, s.Sound
  fits : ∀ s ∈ batch, s.BytesFit

section Outer

variable {beforeMs bucketSizeMs : Int} {batch : List TrafficSample} {consumed : List Consumed}
  {progress : RollupProgress} {sample : TrafficSample}

/-- A bucket that consumed samples filled ends before a later sample of its interface starts,
and where the sample itself was cut. -/
theorem Covers.ordered_of_turn {buckets : OrdMap BucketKey RollupBucket} {segmentStart : Int}
    (h : Covers bucketSizeMs (consumed ++ [⟨sample, segmentStart⟩]) buckets)
    (hproper : ∀ c ∈ consumed, c.Proper beforeMs)
    (hturn : ∀ c ∈ consumed, sample.on c.sample.routerId c.sample.interfaceId = true →
      c.sample.endedAtMs ≤ sample.startedAtMs)
    (hstart : sample.startedAtMs ≤ segmentStart) :
    ((buckets.get? (segmentKey bucketSizeMs sample segmentStart)).getD
      (.opened segmentStart)).accumulatedEndMs ≤ segmentStart := by
  cases hfound : buckets.get? (segmentKey bucketSizeMs sample segmentStart) with
  | none => exact le_refl _
  | some bucket =>
      obtain ⟨c, hc, hon, hlo, hhi⟩ := (h.entries _ (OrdMap.mem_entries_iff.mpr hfound)).closed
      rw [Option.getD_some]
      rcases List.mem_append.mp hc with hc | hc
      · have hsame : sample.on c.sample.routerId c.sample.interfaceId = true := by
          simp only [TrafficSampleInput.on, decide_eq_true_eq] at hon ⊢
          exact ⟨hon.1.symm, hon.2.symm⟩
        have hended := hturn c hc hsame
        have hle := (hproper c hc).le_ended
        simp only at hhi
        omega
      · rw [List.mem_singleton.mp hc] at hhi
        simp only at hhi
        omega

/-- One more sample is consumed. -/
theorem BatchProgress.consume (hinput : RollupInput beforeMs bucketSizeMs batch)
    (hbatch : Consumable batch) (h : BatchProgress beforeMs bucketSizeMs consumed progress)
    (hload : Loaded bucketSizeMs consumed progress.buckets) (hmem : sample ∈ batch)
    (hbudget : progress.remainingSegments ≠ 0)
    (hturn : ∀ c ∈ consumed, sample.on c.sample.routerId c.sample.interfaceId = true →
      c.sample.endedAtMs ≤ sample.startedAtMs) :
    ∃ progress' consumedEnd, consumeSample beforeMs bucketSizeMs sample progress = .ok progress' ∧
      BatchProgress beforeMs bucketSizeMs (consumed ++ [⟨sample, consumedEnd⟩]) progress' ∧
      Loaded bucketSizeMs (consumed ++ [⟨sample, consumedEnd⟩]) progress'.buckets := by
  have hsound := hbatch.sound sample hmem
  have hfits := hbatch.fits sample hmem
  have hincreasing := hsound.increasing
  have hbefore := hinput.before sample hmem
  have hc : Cuttable bucketSizeMs (min sample.endedAtMs beforeMs) sample :=
    ⟨hinput.size_pos, hinput.size_le, hsound, hinput.started sample hmem,
      hinput.ended sample hmem, min_le_left _ _⟩
  have hsounds : ∀ c ∈ consumed, c.sample.Sound := fun c hc' => (h.proper c hc').sound
  -- the invariant of the inner loop
  have hstep : ∀ {segmentStart segmentEnd : Int} {buckets buckets' : OrdMap BucketKey RollupBucket}
      {exact : Bool}, sample.startedAtMs ≤ segmentStart →
      segmentStart < min sample.endedAtMs beforeMs →
      SegmentCut bucketSizeMs (min sample.endedAtMs beforeMs) sample segmentStart buckets
        segmentEnd buckets' exact →
      (Covers bucketSizeMs (consumed ++ [⟨sample, segmentStart⟩]) buckets ∧
        Loaded bucketSizeMs (consumed ++ [⟨sample, segmentStart⟩]) buckets) →
      Covers bucketSizeMs (consumed ++ [⟨sample, segmentEnd⟩]) buckets' ∧
        Loaded bucketSizeMs (consumed ++ [⟨sample, segmentEnd⟩]) buckets' := by
    intro segmentStart segmentEnd buckets buckets' exact hstart hlt hcut hinv
    exact ⟨hinv.1.cut hc hstart hlt hcut, hinv.2.cut hc hsounds hstart hlt hcut hinv.1⟩
  obtain ⟨remaining, consumedEnd, buckets, hsegments⟩ := consumeSegments_succeeds hc hfits
    (fun t buckets => Covers bucketSizeMs (consumed ++ [⟨sample, t⟩]) buckets ∧
      Loaded bucketSizeMs (consumed ++ [⟨sample, t⟩]) buckets)
    hstep (fun hstart hinv => hinv.1.ordered_of_turn h.proper hturn hstart)
    progress.remainingSegments (le_refl _) ⟨h.covers.begin sample, hload.begin hsound⟩
  obtain ⟨⟨_, hloaded⟩, hmono, hle, _, _⟩ := consumeSegments_invariant hc
    (fun t buckets => Covers bucketSizeMs (consumed ++ [⟨sample, t⟩]) buckets ∧
      Loaded bucketSizeMs (consumed ++ [⟨sample, t⟩]) buckets)
    hstep (le_refl _) (by omega) ⟨h.covers.begin sample, hload.begin hsound⟩ hsegments
  -- what is left of the sample can be computed
  obtain ⟨download, hdownload⟩ := hc.slices hsound.downloadBytes hfits.1 (le_refl _) hmono
    (by omega)
  obtain ⟨upload, hupload⟩ := hc.slices hsound.uploadBytes hfits.2 (le_refl _) hmono (by omega)
  have hzero : satSub sample.startedAtMs sample.startedAtMs = 0 := by
    have hstarted := (hinput.started sample hmem).satSub_eq (hinput.started sample hmem)
    omega
  rw [hzero] at hdownload hupload
  have hconsumed : ∃ progress',
      consumeSample beforeMs bucketSizeMs sample progress = .ok progress' := by
    have hvalid : validateRawSampleForRollup sample = .ok () := by
      unfold validateRawSampleForRollup
      rw [ensure_eq_ok_iff]
      simp only [not_or, not_le, not_lt, not_not]
      exact ⟨hincreasing, hsound.duration, hsound.downloadBytes, hsound.uploadBytes⟩
    have hplanned : ¬ min sample.endedAtMs beforeMs ≤ sample.startedAtMs := by omega
    unfold consumeSample
    rw [hvalid, ok_bind]
    simp only [if_neg hplanned, hsegments, ok_bind]
    split
    · exact ⟨_, rfl⟩
    · exact ⟨_, bind_eq_ok_iff.mpr ⟨_, bind_eq_ok_iff.mpr ⟨download, hdownload,
        bind_eq_ok_iff.mpr ⟨upload, hupload, rfl⟩⟩, rfl⟩⟩
  obtain ⟨progress', hprogress⟩ := hconsumed
  obtain ⟨remaining', consumedEnd', hsame, hnext⟩ := h.advance hinput hmem hbudget hprogress
  rw [hsegments, Except.ok.injEq, Prod.mk.injEq, Prod.mk.injEq] at hsame
  obtain ⟨_, rfl, rfl⟩ := hsame
  exact ⟨progress', consumedEnd, hprogress, hnext, hloaded⟩

/-- The outer loop consumes a prefix of the batch, and at least one sample. -/
theorem consumeSamples_succeeds (hinput : RollupInput beforeMs bucketSizeMs batch)
    (hbatch : Consumable batch) {rest : List TrafficSample} (hrest : ∀ s ∈ rest, s ∈ batch)
    (horder : rest.Pairwise (fun s t =>
      t.on s.routerId s.interfaceId = true → s.endedAtMs ≤ t.startedAtMs))
    (h : BatchProgress beforeMs bucketSizeMs consumed progress)
    (hload : Loaded bucketSizeMs consumed progress.buckets)
    (hturn : ∀ c ∈ consumed, ∀ s ∈ rest, s.on c.sample.routerId c.sample.interfaceId = true →
      c.sample.endedAtMs ≤ s.startedAtMs) :
    ∃ more later progress', consumeSamples beforeMs bucketSizeMs rest progress = .ok progress' ∧
      rest = more.map (fun c => c.sample) ++ later ∧
      BatchProgress beforeMs bucketSizeMs (consumed ++ more) progress' ∧
      Loaded bucketSizeMs (consumed ++ more) progress'.buckets ∧
      (progress.remainingSegments ≠ 0 → rest ≠ [] → more ≠ []) := by
  induction rest generalizing consumed progress with
  | nil => exact ⟨[], [], progress, rfl, rfl, by simpa using h, by simpa using hload, by simp⟩
  | cons sample rest ih =>
      by_cases hbudget : progress.remainingSegments = 0
      · refine ⟨[], sample :: rest, progress, ?_, rfl, by simpa using h, by simpa using hload,
          fun hne => absurd hbudget hne⟩
        simp only [consumeSamples, hbudget, if_true]
      · rw [List.pairwise_cons] at horder
        obtain ⟨next, consumedEnd, hstep, hnext, hloaded⟩ := h.consume hinput hbatch hload
          (hrest sample List.mem_cons_self) hbudget
          (fun c hc => hturn c hc sample List.mem_cons_self)
        obtain ⟨more, later, progress', hloop, hsplit, hdone, hdoneLoad, _⟩ := ih
          (fun s hs => hrest s (List.mem_cons_of_mem _ hs)) horder.2 hnext hloaded (by
            intro c hc s hs hon
            rcases List.mem_append.mp hc with hc | hc
            · exact hturn c hc s (List.mem_cons_of_mem _ hs) hon
            · rw [List.mem_singleton.mp hc] at hon ⊢
              exact horder.1 s hs hon)
        refine ⟨⟨sample, consumedEnd⟩ :: more, later, progress', ?_, by simp [hsplit], ?_, ?_,
          fun _ _ => List.cons_ne_nil _ _⟩
        · simp only [consumeSamples, hbudget, if_false]
          exact bind_eq_ok_iff.mpr ⟨next, hstep, hloop⟩
        · simpa [List.append_assoc] using hdone
        · simpa [List.append_assoc] using hdoneLoad

end Outer

end RouterView.Db
