/-
  Db/RollupLoop.lean --- what the loop over a rollup batch accumulates.

  Every quantity of a sample that the loop consumed lies in the buckets, and
  nothing else does.  The quantities are weighed by a window of instants that
  is coarse (constant on each bucket) and that no consumed sample straddles:
  the whole line gives the totals of an interface, a range whose ends are
  bucket boundaries gives the part of the totals inside it.
-/
import RouterView.Db.Contribution
import RouterView.Db.Rollup

set_option autoImplicit false

namespace RouterView.Db

open RouterView.Foundation

/-! ## Windows -/

/-- A window of instants that is constant on each bucket. -/
def Coarse (bucketSizeMs : Int) (window : Int → Bool) : Prop :=
  ∀ t, window (bucketFloor bucketSizeMs t) = window t

/-- The span does not straddle the window. -/
def WholeOn (window : Int → Bool) (span : Span Int) : Prop :=
  ∀ t, span.start ≤ t → t < span.stop → window t = window span.start

/-- The bucket belongs to the interface and starts in the window. -/
def BucketKey.within (routerId interfaceId : Int) (window : Int → Bool) (key : BucketKey) :
    Bool :=
  decide (key.routerId = routerId ∧ key.interfaceId = interfaceId) && window key.startMs

/-- The quantity of the buckets of an interface inside a window. -/
def bucketWeight (q : Quantity) (routerId interfaceId : Int) (window : Int → Bool)
    (key : BucketKey) (bucket : RollupBucket) : Int :=
  if key.within routerId interfaceId window then q.ofAccumulator bucket.accumulator else 0

/-- The exact part of the quantity of the buckets of an interface. -/
def bucketExact (q : Quantity) (routerId interfaceId : Int) (key : BucketKey)
    (bucket : RollupBucket) : Int :=
  if key.within routerId interfaceId (fun _ => true) then q.exactOf bucket.accumulator else 0

/-! ## One segment -/

/-- The bucket size and the sample that a segment is cut from. -/
structure Cuttable (bucketSizeMs plannedConsumedEnd : Int) (sample : TrafficSample) : Prop where
  size_pos : 0 < bucketSizeMs
  size_le : bucketSizeMs ≤ i64Max
  sound : sample.Sound
  started : IsTimestamp sample.startedAtMs
  ended : IsTimestamp sample.endedAtMs
  planned_le : plannedConsumedEnd ≤ sample.endedAtMs

theorem Cuttable.durationMs_eq {bucketSizeMs plannedConsumedEnd : Int} {sample : TrafficSample}
    (h : Cuttable bucketSizeMs plannedConsumedEnd sample) :
    sample.durationMs = sample.endedAtMs - sample.startedAtMs := by
  rw [h.sound.duration, h.ended.satSub_eq h.started]

/-- A successful cut: the segment ends at the planned end or at the end of its
bucket, and the bucket grew by the slices of the segment. -/
structure SegmentCut (bucketSizeMs plannedConsumedEnd : Int) (sample : TrafficSample)
    (segmentStart : Int) (buckets : OrdMap BucketKey RollupBucket) (segmentEnd : Int)
    (buckets' : OrdMap BucketKey RollupBucket) (exact : Bool) : Prop where
  segmentEnd_eq : segmentEnd =
    min plannedConsumedEnd (bucketFloor bucketSizeMs segmentStart + bucketSizeMs)
  ordered : ((buckets.get? (bucketKey sample.routerId sample.interfaceId
    (bucketFloor bucketSizeMs segmentStart))).getD
      (.opened segmentStart)).accumulatedEndMs ≤ segmentStart
  exact_quality : exact = true → sample.quality = .exact
  buckets_eq : buckets' = buckets.alter
    (bucketKey sample.routerId sample.interfaceId (bucketFloor bucketSizeMs segmentStart))
    (.opened segmentStart)
    (fun bucket => bucket.addSegment exact
      (slice sample.downloadBytes sample.durationMs (segmentStart - sample.startedAtMs)
        (segmentEnd - sample.startedAtMs))
      (slice sample.uploadBytes sample.durationMs (segmentStart - sample.startedAtMs)
        (segmentEnd - sample.startedAtMs))
      (segmentEnd - segmentStart) segmentEnd)

theorem SegmentCut.start_lt {bucketSizeMs plannedConsumedEnd : Int} {sample : TrafficSample}
    {segmentStart segmentEnd : Int} {buckets buckets' : OrdMap BucketKey RollupBucket}
    {exact : Bool} (h : SegmentCut bucketSizeMs plannedConsumedEnd sample segmentStart buckets
      segmentEnd buckets' exact)
    (hsize : 0 < bucketSizeMs) (hlt : segmentStart < plannedConsumedEnd) :
    segmentStart < segmentEnd := by
  have := lt_bucketFloor_add hsize segmentStart
  have := h.segmentEnd_eq
  omega

theorem SegmentCut.le_planned {bucketSizeMs plannedConsumedEnd : Int} {sample : TrafficSample}
    {segmentStart segmentEnd : Int} {buckets buckets' : OrdMap BucketKey RollupBucket}
    {exact : Bool} (h : SegmentCut bucketSizeMs plannedConsumedEnd sample segmentStart buckets
      segmentEnd buckets' exact) : segmentEnd ≤ plannedConsumedEnd := by
  have := h.segmentEnd_eq
  omega

theorem cutSegment_ok {bucketSizeMs plannedConsumedEnd : Int} {sample : TrafficSample}
    (hc : Cuttable bucketSizeMs plannedConsumedEnd sample)
    {segmentStart segmentEnd : Int} {buckets buckets' : OrdMap BucketKey RollupBucket}
    (hstart : sample.startedAtMs ≤ segmentStart) (hlt : segmentStart < plannedConsumedEnd)
    (h : cutSegment bucketSizeMs plannedConsumedEnd sample segmentStart buckets =
      .ok (segmentEnd, buckets')) :
    ∃ exact, SegmentCut bucketSizeMs plannedConsumedEnd sample segmentStart buckets
      segmentEnd buckets' exact := by
  unfold cutSegment at h
  obtain ⟨download, hdownload, h⟩ := bind_eq_ok_iff.mp h
  obtain ⟨upload, hupload, h⟩ := bind_eq_ok_iff.mp h
  obtain ⟨hordered, h⟩ := ensure_bind_eq_ok_iff.mp h
  simp only [pure_eq_ok, Except.ok.injEq, Prod.mk.injEq] at h
  obtain ⟨hend, hbuckets⟩ := h
  have hplanned := hc.planned_le
  have hstarted := hc.started
  have hended := hc.ended
  have hfloor := bucketFloor_le hc.size_pos segmentStart
  have hfloor' := lt_bucketFloor_add hc.size_pos segmentStart
  simp only [IsTimestamp] at hstarted hended
  have hwrap : wrapI64 (bucketFloor bucketSizeMs segmentStart) =
      bucketFloor bucketSizeMs segmentStart :=
    wrapI64_of_isI64 (bucketFloor_isI64 hc.size_pos hc.size_le (by
      simp only [IsTimestamp]
      omega))
  rw [hwrap] at hend hdownload hupload hordered hbuckets
  -- the saturating bucket end only saturates above every timestamp
  have hsegmentEnd : segmentEnd =
      min plannedConsumedEnd (bucketFloor bucketSizeMs segmentStart + bucketSizeMs) := by
    rw [← hend]
    simp only [satAdd, clampI64, i64Min, i64Max]
    omega
  have hrange : sample.startedAtMs ≤ segmentStart ∧ segmentStart < segmentEnd ∧
      segmentEnd ≤ sample.endedAtMs := by omega
  have hrelStart : satSub segmentStart sample.startedAtMs =
      segmentStart - sample.startedAtMs :=
    satSub_eq (by simp only [IsI64, i64Min, i64Max]; omega)
  have hrelEnd : satSub segmentEnd sample.startedAtMs = segmentEnd - sample.startedAtMs :=
    satSub_eq (by simp only [IsI64, i64Min, i64Max]; omega)
  have hduration : satSub segmentEnd segmentStart = segmentEnd - segmentStart :=
    satSub_eq (by simp only [IsI64, i64Min, i64Max]; omega)
  rw [hend, hrelStart, hrelEnd] at hdownload hupload
  refine ⟨decide (sample.quality = .exact) &&
    !splitSample bucketSizeMs plannedConsumedEnd sample,
    hsegmentEnd, not_lt.mp hordered, ?_, ?_⟩
  · intro hexact
    rw [Bool.and_eq_true, decide_eq_true_eq] at hexact
    exact hexact.1
  · rw [← hbuckets, hend, hduration, (proportionalSlice_ok hdownload).result_eq,
      (proportionalSlice_ok hupload).result_eq]

/-! ## The inner loop -/

/-- The rule of the inner loop: what every cut preserves holds where it stops. -/
theorem consumeSegments_invariant {bucketSizeMs plannedConsumedEnd : Int}
    {sample : TrafficSample} (hc : Cuttable bucketSizeMs plannedConsumedEnd sample)
    (Invariant : Int → OrdMap BucketKey RollupBucket → Prop)
    (hstep : ∀ {segmentStart segmentEnd buckets buckets' exact},
      sample.startedAtMs ≤ segmentStart → segmentStart < plannedConsumedEnd →
      SegmentCut bucketSizeMs plannedConsumedEnd sample segmentStart buckets segmentEnd
        buckets' exact →
      Invariant segmentStart buckets → Invariant segmentEnd buckets')
    {remaining remaining' : Nat} {segmentStart consumedEnd : Int}
    {buckets buckets' : OrdMap BucketKey RollupBucket}
    (hstart : sample.startedAtMs ≤ segmentStart) (hle : segmentStart ≤ plannedConsumedEnd)
    (hinvariant : Invariant segmentStart buckets)
    (h : consumeSegments bucketSizeMs plannedConsumedEnd sample remaining segmentStart buckets =
      .ok (remaining', consumedEnd, buckets')) :
    Invariant consumedEnd buckets' ∧ segmentStart ≤ consumedEnd ∧
      consumedEnd ≤ plannedConsumedEnd ∧
      (consumedEnd = plannedConsumedEnd ∨ remaining' = 0) ∧
      (0 < remaining → segmentStart < plannedConsumedEnd → segmentStart < consumedEnd) := by
  induction remaining generalizing segmentStart buckets with
  | zero =>
      simp only [consumeSegments, Except.ok.injEq, Prod.mk.injEq] at h
      obtain ⟨rfl, rfl, rfl⟩ := h
      exact ⟨hinvariant, le_refl _, hle, Or.inr rfl, by omega⟩
  | succ remaining ih =>
      simp only [consumeSegments] at h
      split at h
      · rename_i hlt
        obtain ⟨⟨segmentEnd, cut⟩, hcut, h⟩ := bind_eq_ok_iff.mp h
        obtain ⟨exact, hsegment⟩ := cutSegment_ok hc hstart hlt hcut
        have hadvance := hsegment.start_lt hc.size_pos hlt
        obtain ⟨hend, hmono, hplanned, hstop, _⟩ := ih (by omega) hsegment.le_planned
          (hstep hstart hlt hsegment hinvariant) h
        exact ⟨hend, by omega, hplanned, hstop, by omega⟩
      · rename_i hge
        simp only [Except.ok.injEq, Prod.mk.injEq] at h
        obtain ⟨rfl, rfl, rfl⟩ := h
        exact ⟨hinvariant, le_refl _, hle, Or.inl (by omega), by omega⟩

/-! ## What the loop accumulated -/

/-- A sample of the batch and how far it was consumed. -/
structure Consumed where
  sample : TrafficSample
  consumedEnd : Int

/-- The part of a sample's quantity that was consumed. -/
def Consumed.quantity (q : Quantity) (c : Consumed) : Int :=
  slice (q.ofSample c.sample) c.sample.durationMs 0 (c.consumedEnd - c.sample.startedAtMs)

/-- The consumed quantity of the samples of an interface inside a window. -/
def Consumed.weight (q : Quantity) (routerId interfaceId : Int) (window : Int → Bool)
    (c : Consumed) : Int :=
  if c.sample.on routerId interfaceId && window c.sample.startedAtMs then c.quantity q else 0

/-- The consumed quantity of the exact samples of an interface. -/
def Consumed.exactWeight (q : Quantity) (routerId interfaceId : Int) (c : Consumed) : Int :=
  if c.sample.on routerId interfaceId && decide (c.sample.quality = .exact) then c.quantity q
  else 0

/-- The instants of the sample's interface that were consumed. -/
def Consumed.covers (key : BucketKey) (t : Int) (c : Consumed) : Prop :=
  c.sample.on key.routerId key.interfaceId = true ∧ c.sample.startedAtMs ≤ t ∧ t < c.consumedEnd

/-- An entry of the buckets: it lies in its bucket, from the start of a consumed
segment to the end of one, and its coverage fits between the two. -/
structure EntryOf (bucketSizeMs : Int) (consumed : List Consumed)
    (entry : BucketKey × RollupBucket) : Prop where
  floor : bucketSizeMs ∣ entry.1.startMs
  start_le : entry.1.startMs ≤ entry.2.batchStartMs
  batch_lt : entry.2.batchStartMs < entry.2.accumulatedEndMs
  end_le : entry.2.accumulatedEndMs ≤ entry.1.startMs + bucketSizeMs
  exact_nonneg : ∀ q : Quantity, 0 ≤ q.exactOf entry.2.accumulator
  estimated_nonneg : ∀ q : Quantity, 0 ≤ q.estimatedOf entry.2.accumulator
  sampleCount : 0 < entry.2.accumulator.sampleCount
  covered : 0 < Quantity.durationMs.ofAccumulator entry.2.accumulator
  coverage : Quantity.durationMs.ofAccumulator entry.2.accumulator ≤
    entry.2.accumulatedEndMs - entry.2.batchStartMs
  opened : ∃ c ∈ consumed, c.covers entry.1 entry.2.batchStartMs
  closed : ∃ c ∈ consumed, c.covers entry.1 (entry.2.accumulatedEndMs - 1)

/-- The buckets hold what was consumed. -/
structure Covers (bucketSizeMs : Int) (consumed : List Consumed)
    (buckets : OrdMap BucketKey RollupBucket) : Prop where
  total : ∀ q routerId interfaceId window, Coarse bucketSizeMs window →
    (∀ c ∈ consumed, c.sample.on routerId interfaceId = true →
      WholeOn window c.sample.span) →
    buckets.total (bucketWeight q routerId interfaceId window) =
      (consumed.map (Consumed.weight q routerId interfaceId window)).sum
  exact : ∀ q routerId interfaceId,
    buckets.total (bucketExact q routerId interfaceId) ≤
      (consumed.map (Consumed.exactWeight q routerId interfaceId)).sum
  entries : ∀ entry ∈ buckets.entries, EntryOf bucketSizeMs consumed entry
  filed : ∀ c ∈ consumed, c.sample.startedAtMs < c.consumedEnd →
    ∃ entry ∈ buckets.entries, c.sample.on entry.1.routerId entry.1.interfaceId = true ∧
      c.consumedEnd ≤ entry.2.accumulatedEndMs

theorem Covers.empty (bucketSizeMs : Int) : Covers bucketSizeMs [] OrdMap.empty :=
  ⟨by simp, by simp, by simp, by simp⟩

/-- A sample about to be consumed adds nothing yet. -/
theorem Covers.begin {bucketSizeMs : Int} {consumed : List Consumed}
    {buckets : OrdMap BucketKey RollupBucket} (h : Covers bucketSizeMs consumed buckets)
    (sample : TrafficSample) :
    Covers bucketSizeMs (consumed ++ [⟨sample, sample.startedAtMs⟩]) buckets := by
  have hzero : ∀ q, Consumed.quantity q ⟨sample, sample.startedAtMs⟩ = 0 := by
    intro q
    simp [Consumed.quantity, slice_self]
  refine ⟨?_, ?_, ?_, ?_⟩
  · intro q routerId interfaceId window hcoarse hwhole
    rw [h.total q routerId interfaceId window hcoarse
      (fun c hc => hwhole c (List.mem_append_left _ hc))]
    simp [Consumed.weight, hzero]
  · intro q routerId interfaceId
    refine le_trans (h.exact q routerId interfaceId) (le_of_eq ?_)
    simp [Consumed.exactWeight, hzero]
  · intro entry hentry
    have he := h.entries entry hentry
    obtain ⟨c, hc, hcovers⟩ := he.opened
    obtain ⟨d, hd, hdcovers⟩ := he.closed
    exact { he with
      opened := ⟨c, List.mem_append_left _ hc, hcovers⟩
      closed := ⟨d, List.mem_append_left _ hd, hdcovers⟩ }
  · intro c hc hlt
    rcases List.mem_append.mp hc with hc | hc
    · exact h.filed c hc hlt
    · rw [List.mem_singleton.mp hc] at hlt
      exact absurd hlt (lt_irrefl _)

/-- Consuming more of the last sample keeps what an entry says about the batch. -/
theorem EntryOf.extend {bucketSizeMs : Int} {consumed : List Consumed} {sample : TrafficSample}
    {reached reached' : Int} {entry : BucketKey × RollupBucket}
    (h : EntryOf bucketSizeMs (consumed ++ [⟨sample, reached⟩]) entry)
    (hle : reached ≤ reached') :
    EntryOf bucketSizeMs (consumed ++ [⟨sample, reached'⟩]) entry := by
  have hcovers : ∀ t, (∃ c ∈ consumed ++ [⟨sample, reached⟩], c.covers entry.1 t) →
      ∃ c ∈ consumed ++ [⟨sample, reached'⟩], c.covers entry.1 t := by
    rintro t ⟨c, hc, hct⟩
    rcases List.mem_append.mp hc with hc | hc
    · exact ⟨c, List.mem_append_left _ hc, hct⟩
    · rw [List.mem_singleton.mp hc] at hct
      obtain ⟨hon, hlo, hhi⟩ := hct
      exact ⟨_, List.mem_append_right _ (List.mem_singleton.mpr rfl), hon, hlo,
        lt_of_lt_of_le hhi hle⟩
  exact { h with opened := hcovers _ h.opened, closed := hcovers _ h.closed }

/-! ## One cut -/

/-- Adding a segment adds its quantities to the exact or to the estimated part,
as long as the durations do not saturate. -/
theorem RollupBucket.addSegment_quantity {bucket : RollupBucket}
    (hexact : 0 ≤ Quantity.durationMs.exactOf bucket.accumulator)
    (hestimated : 0 ≤ Quantity.durationMs.estimatedOf bucket.accumulator)
    {segmentDuration : Int} (hnonneg : 0 ≤ segmentDuration)
    (hfit : Quantity.durationMs.ofAccumulator bucket.accumulator + segmentDuration ≤ i64Max)
    (q : Quantity) (exact : Bool) (downloadBytes uploadBytes segmentEnd : Int) :
    q.exactOf (bucket.addSegment exact downloadBytes uploadBytes segmentDuration
          segmentEnd).accumulator =
        q.exactOf bucket.accumulator +
          (if exact then q.pick downloadBytes uploadBytes segmentDuration else 0) ∧
      q.estimatedOf (bucket.addSegment exact downloadBytes uploadBytes segmentDuration
          segmentEnd).accumulator =
        q.estimatedOf bucket.accumulator +
          (if exact then 0 else q.pick downloadBytes uploadBytes segmentDuration) := by
  simp only [Quantity.ofAccumulator, Quantity.exactOf, Quantity.estimatedOf] at hexact hestimated hfit
  have hexactSat : satAdd bucket.accumulator.exactDurationMs segmentDuration =
      bucket.accumulator.exactDurationMs + segmentDuration :=
    satAdd_eq (by simp only [IsI64, i64Min]; omega)
  have hestimatedSat : satAdd bucket.accumulator.estimatedDurationMs segmentDuration =
      bucket.accumulator.estimatedDurationMs + segmentDuration :=
    satAdd_eq (by simp only [IsI64, i64Min]; omega)
  cases exact <;> cases q <;>
    simp [RollupBucket.addSegment, Quantity.exactOf, Quantity.estimatedOf, Quantity.pick,
      hexactSat, hestimatedSat]

theorem RollupBucket.addSegment_sampleCount {bucket : RollupBucket}
    (h : 0 ≤ bucket.accumulator.sampleCount) (exact : Bool)
    (downloadBytes uploadBytes segmentDuration segmentEnd : Int) :
    0 < (bucket.addSegment exact downloadBytes uploadBytes segmentDuration
      segmentEnd).accumulator.sampleCount := by
  have hpositive : 0 < satAdd bucket.accumulator.sampleCount 1 := by
    simp only [satAdd, clampI64, i64Min, i64Max]
    omega
  cases exact <;> exact hpositive

/-- The slice of a quantity of the sample between two cuts. -/
def segmentQuantity (q : Quantity) (sample : TrafficSample) (segmentStart segmentEnd : Int) :
    Int :=
  slice (q.ofSample sample) sample.durationMs (segmentStart - sample.startedAtMs)
    (segmentEnd - sample.startedAtMs)

theorem Cuttable.quantity_nonneg {bucketSizeMs plannedConsumedEnd : Int}
    {sample : TrafficSample} (h : Cuttable bucketSizeMs plannedConsumedEnd sample)
    (q : Quantity) : 0 ≤ q.ofSample sample := by
  have hduration := h.durationMs_eq
  have hincreasing := h.sound.increasing
  cases q with
  | downloadBytes => exact h.sound.downloadBytes
  | uploadBytes => exact h.sound.uploadBytes
  | durationMs =>
      simp only [Quantity.ofSample]
      omega

theorem Cuttable.duration_pos {bucketSizeMs plannedConsumedEnd : Int}
    {sample : TrafficSample} (h : Cuttable bucketSizeMs plannedConsumedEnd sample) :
    0 < sample.durationMs := by
  have hduration := h.durationMs_eq
  have hincreasing := h.sound.increasing
  omega

theorem Cuttable.segmentQuantity_nonneg {bucketSizeMs plannedConsumedEnd : Int}
    {sample : TrafficSample} (h : Cuttable bucketSizeMs plannedConsumedEnd sample)
    (q : Quantity) {segmentStart segmentEnd : Int} (hle : segmentStart ≤ segmentEnd) :
    0 ≤ segmentQuantity q sample segmentStart segmentEnd :=
  slice_nonneg (h.quantity_nonneg q) h.duration_pos (by omega)

/-- The bucket that a cut extends: an entry that ends no later than the segment
starts, or a fresh one. -/
structure Extendable (bucketSizeMs : Int) (key : BucketKey) (segmentStart : Int)
    (bucket : RollupBucket) : Prop where
  start_le : key.startMs ≤ bucket.batchStartMs
  batch_le : bucket.batchStartMs ≤ bucket.accumulatedEndMs
  end_le : bucket.accumulatedEndMs ≤ segmentStart
  exact_nonneg : ∀ q : Quantity, 0 ≤ q.exactOf bucket.accumulator
  estimated_nonneg : ∀ q : Quantity, 0 ≤ q.estimatedOf bucket.accumulator
  sampleCount : 0 ≤ bucket.accumulator.sampleCount
  coverage : Quantity.durationMs.ofAccumulator bucket.accumulator ≤
    bucket.accumulatedEndMs - bucket.batchStartMs

theorem Covers.extendable {bucketSizeMs : Int} {consumed : List Consumed}
    {buckets : OrdMap BucketKey RollupBucket} (h : Covers bucketSizeMs consumed buckets)
    (key : BucketKey) {segmentStart : Int} (hkey : key.startMs ≤ segmentStart)
    (hordered : ((buckets.get? key).getD (.opened segmentStart)).accumulatedEndMs ≤
      segmentStart) :
    Extendable bucketSizeMs key segmentStart
        ((buckets.get? key).getD (.opened segmentStart)) ∧
      ((∃ c ∈ consumed, c.covers key
          ((buckets.get? key).getD (.opened segmentStart)).batchStartMs) ∨
        ((buckets.get? key).getD (.opened segmentStart)).batchStartMs = segmentStart) := by
  cases hfound : buckets.get? key with
  | none =>
      refine ⟨⟨hkey, le_refl _, le_refl _, ?_, ?_, le_refl _, le_of_eq ?_⟩, Or.inr rfl⟩
      · intro q
        cases q <;> exact le_refl _
      · intro q
        cases q <;> exact le_refl _
      · simp [Quantity.ofAccumulator, Quantity.exactOf, Quantity.estimatedOf,
          RollupBucket.opened, TrafficBucketAccumulator.zero]
  | some bucket =>
      have he := h.entries _ (OrdMap.mem_entries_iff.mpr hfound)
      rw [hfound] at hordered
      exact ⟨⟨he.start_le, le_of_lt he.batch_lt, hordered, he.exact_nonneg,
        he.estimated_nonneg, le_of_lt he.sampleCount, he.coverage⟩, Or.inl he.opened⟩

section Cut

variable {bucketSizeMs plannedConsumedEnd : Int} {sample : TrafficSample}
  {segmentStart segmentEnd : Int} {buckets buckets' : OrdMap BucketKey RollupBucket}
  {exact : Bool} {consumed : List Consumed}

/-- The key of the segment's bucket. -/
def segmentKey (bucketSizeMs : Int) (sample : TrafficSample) (segmentStart : Int) : BucketKey :=
  bucketKey sample.routerId sample.interfaceId (bucketFloor bucketSizeMs segmentStart)

theorem segmentKey_within (routerId interfaceId : Int) (window : Int → Bool) :
    (segmentKey bucketSizeMs sample segmentStart).within routerId interfaceId window =
      (sample.on routerId interfaceId && window (bucketFloor bucketSizeMs segmentStart)) := rfl

/-- The bucket that takes the segment. -/
def RollupBucket.withSegment (bucket : RollupBucket) (exact : Bool) (sample : TrafficSample)
    (segmentStart segmentEnd : Int) : RollupBucket :=
  bucket.addSegment exact (segmentQuantity .downloadBytes sample segmentStart segmentEnd)
    (segmentQuantity .uploadBytes sample segmentStart segmentEnd) (segmentEnd - segmentStart)
    segmentEnd

@[simp] theorem RollupBucket.withSegment_batchStartMs (bucket : RollupBucket) :
    (bucket.withSegment exact sample segmentStart segmentEnd).batchStartMs =
      bucket.batchStartMs := rfl

@[simp] theorem RollupBucket.withSegment_accumulatedEndMs (bucket : RollupBucket) :
    (bucket.withSegment exact sample segmentStart segmentEnd).accumulatedEndMs = segmentEnd := rfl

theorem SegmentCut.altered (hcut : SegmentCut bucketSizeMs plannedConsumedEnd sample segmentStart
      buckets segmentEnd buckets' exact) :
    buckets' = buckets.alter (segmentKey bucketSizeMs sample segmentStart) (.opened segmentStart)
      (fun bucket => bucket.withSegment exact sample segmentStart segmentEnd) :=
  hcut.buckets_eq

/-- The duration of a segment is its width. -/
theorem Cuttable.segmentQuantity_duration (hc : Cuttable bucketSizeMs plannedConsumedEnd sample)
    (segmentStart segmentEnd : Int) :
    segmentQuantity .durationMs sample segmentStart segmentEnd = segmentEnd - segmentStart := by
  simp only [segmentQuantity, Quantity.ofSample]
  rw [slice_uniform hc.duration_pos]
  omega

/-- The bucket of the segment before and after the cut. -/
theorem SegmentCut.quantities
    (hc : Cuttable bucketSizeMs plannedConsumedEnd sample)
    (hlt : segmentStart < plannedConsumedEnd)
    (hcut : SegmentCut bucketSizeMs plannedConsumedEnd sample segmentStart buckets segmentEnd
      buckets' exact) {bucket : RollupBucket}
    (hextendable : Extendable bucketSizeMs (segmentKey bucketSizeMs sample segmentStart)
      segmentStart bucket) (q : Quantity) :
    q.exactOf (bucket.withSegment exact sample segmentStart segmentEnd).accumulator =
        q.exactOf bucket.accumulator +
          (if exact then segmentQuantity q sample segmentStart segmentEnd else 0) ∧
      q.estimatedOf (bucket.withSegment exact sample segmentStart segmentEnd).accumulator =
        q.estimatedOf bucket.accumulator +
          (if exact then 0 else segmentQuantity q sample segmentStart segmentEnd) := by
  have hadvance := hcut.start_lt hc.size_pos hlt
  have hend := hcut.segmentEnd_eq
  have hsize := hc.size_le
  have hfits : Quantity.durationMs.ofAccumulator bucket.accumulator +
      (segmentEnd - segmentStart) ≤ i64Max := by
    have hcoverage := hextendable.coverage
    have hbatch := hextendable.start_le
    have haccumulated := hextendable.end_le
    have hkey : (segmentKey bucketSizeMs sample segmentStart).startMs =
      bucketFloor bucketSizeMs segmentStart := rfl
    omega
  have hquantity := RollupBucket.addSegment_quantity (hextendable.exact_nonneg .durationMs)
    (hextendable.estimated_nonneg .durationMs) (by omega) hfits q exact
    (segmentQuantity .downloadBytes sample segmentStart segmentEnd)
    (segmentQuantity .uploadBytes sample segmentStart segmentEnd) segmentEnd
  have hpick : q.pick (segmentQuantity .downloadBytes sample segmentStart segmentEnd)
      (segmentQuantity .uploadBytes sample segmentStart segmentEnd)
      (segmentEnd - segmentStart) = segmentQuantity q sample segmentStart segmentEnd := by
    cases q with
    | downloadBytes => rfl
    | uploadBytes => rfl
    | durationMs => exact (hc.segmentQuantity_duration segmentStart segmentEnd).symm
  rw [hpick] at hquantity
  exact hquantity

/-- The bucket that a cut of these buckets extends. -/
theorem SegmentCut.extendable
    (hc : Cuttable bucketSizeMs plannedConsumedEnd sample)
    (hcut : SegmentCut bucketSizeMs plannedConsumedEnd sample segmentStart buckets segmentEnd
      buckets' exact) (h : Covers bucketSizeMs consumed buckets) :
    Extendable bucketSizeMs (segmentKey bucketSizeMs sample segmentStart) segmentStart
      ((buckets.get? (segmentKey bucketSizeMs sample segmentStart)).getD (.opened segmentStart)) :=
  (h.extendable _ (bucketFloor_le hc.size_pos segmentStart) hcut.ordered).1

/-! ### What the buckets hold after a cut -/

theorem Consumed.quantity_cut (q : Quantity) (sample : TrafficSample)
    (segmentStart segmentEnd : Int) :
    Consumed.quantity q ⟨sample, segmentEnd⟩ =
      Consumed.quantity q ⟨sample, segmentStart⟩ +
        segmentQuantity q sample segmentStart segmentEnd := by
  simp only [Consumed.quantity, segmentQuantity, slice_add]

theorem bucketWeight_opened (q : Quantity) (routerId interfaceId : Int) (window : Int → Bool)
    (key : BucketKey) (startMs : Int) :
    bucketWeight q routerId interfaceId window key (.opened startMs) = 0 := by
  simp only [bucketWeight]
  split
  · cases q <;> rfl
  · rfl

theorem bucketExact_opened (q : Quantity) (routerId interfaceId : Int) (key : BucketKey)
    (startMs : Int) : bucketExact q routerId interfaceId key (.opened startMs) = 0 := by
  simp only [bucketExact]
  split
  · cases q <;> rfl
  · rfl

/-- The totals of the buckets grow by the segment. -/
theorem Covers.cut_total
    (hc : Cuttable bucketSizeMs plannedConsumedEnd sample)
    (hstart : sample.startedAtMs ≤ segmentStart) (hlt : segmentStart < plannedConsumedEnd)
    (hcut : SegmentCut bucketSizeMs plannedConsumedEnd sample segmentStart buckets segmentEnd
      buckets' exact)
    (h : Covers bucketSizeMs (consumed ++ [⟨sample, segmentStart⟩]) buckets) (q : Quantity)
    (routerId interfaceId : Int) (window : Int → Bool) (hcoarse : Coarse bucketSizeMs window)
    (hwhole : ∀ c ∈ consumed ++ [⟨sample, segmentEnd⟩],
      c.sample.on routerId interfaceId = true → WholeOn window c.sample.span) :
    buckets'.total (bucketWeight q routerId interfaceId window) =
      ((consumed ++ [(⟨sample, segmentEnd⟩ : Consumed)]).map
        (Consumed.weight q routerId interfaceId window)).sum := by
  have hlast : (⟨sample, segmentEnd⟩ : Consumed) ∈ consumed ++ [⟨sample, segmentEnd⟩] :=
    List.mem_append_right _ (List.mem_singleton.mpr rfl)
  have hwhole' : ∀ c ∈ consumed ++ [⟨sample, segmentStart⟩],
      c.sample.on routerId interfaceId = true → WholeOn window c.sample.span := by
    intro c hc'
    rcases List.mem_append.mp hc' with hc' | hc'
    · exact hwhole c (List.mem_append_left _ hc')
    · rw [List.mem_singleton.mp hc']
      exact hwhole ⟨sample, segmentEnd⟩ hlast
  have hwindow : sample.on routerId interfaceId = true →
      window (bucketFloor bucketSizeMs segmentStart) = window sample.startedAtMs := by
    intro hon
    rw [hcoarse]
    exact hwhole ⟨sample, segmentEnd⟩ hlast hon segmentStart hstart
      (lt_of_lt_of_le hlt hc.planned_le)
  have hquantities := hcut.quantities hc hlt (hcut.extendable hc h) q
  rw [hcut.altered, OrdMap.total_alter _ _ (bucketWeight_opened ..),
    h.total q routerId interfaceId window hcoarse hwhole']
  simp only [List.map_append, List.map_cons, List.map_nil, List.sum_append, List.sum_cons,
    List.sum_nil, Consumed.weight, bucketWeight, segmentKey_within,
    Consumed.quantity_cut q sample segmentStart segmentEnd]
  by_cases hon : sample.on routerId interfaceId = true
  · simp only [hon, hwindow hon, Bool.true_and]
    split
    · simp only [Quantity.ofAccumulator]
      rw [hquantities.1, hquantities.2]
      split <;> omega
    · omega
  · simp only [hon, Bool.false_and, Bool.false_eq_true, if_false]
    omega

/-- Their exact totals grow by no more than the segment of an exact sample. -/
theorem Covers.cut_exact
    (hc : Cuttable bucketSizeMs plannedConsumedEnd sample)
    (hlt : segmentStart < plannedConsumedEnd)
    (hcut : SegmentCut bucketSizeMs plannedConsumedEnd sample segmentStart buckets segmentEnd
      buckets' exact)
    (h : Covers bucketSizeMs (consumed ++ [⟨sample, segmentStart⟩]) buckets) (q : Quantity)
    (routerId interfaceId : Int) :
    buckets'.total (bucketExact q routerId interfaceId) ≤
      ((consumed ++ [(⟨sample, segmentEnd⟩ : Consumed)]).map
        (Consumed.exactWeight q routerId interfaceId)).sum := by
  have hprevious := h.exact q routerId interfaceId
  have hnonneg := hc.segmentQuantity_nonneg q (le_of_lt (hcut.start_lt hc.size_pos hlt))
  have hquantities := hcut.quantities hc hlt (hcut.extendable hc h) q
  rw [hcut.altered, OrdMap.total_alter _ _ (bucketExact_opened ..)]
  simp only [List.map_append, List.map_cons, List.map_nil, List.sum_append, List.sum_cons,
    List.sum_nil, Consumed.exactWeight, bucketExact, segmentKey_within, Bool.and_true,
    Consumed.quantity_cut q sample segmentStart segmentEnd] at hprevious ⊢
  cases hon : sample.on routerId interfaceId with
  | false =>
      simp only [hon, Bool.false_and, Bool.false_eq_true, if_false] at hprevious ⊢
      omega
  | true =>
      simp only [hon, Bool.true_and, if_true, decide_eq_true_eq] at hprevious ⊢
      rw [hquantities.1]
      cases hexact : exact with
      | false =>
          by_cases hquality : sample.quality = .exact <;>
            simp only [hquality, Bool.false_eq_true, if_true, if_false] at hprevious ⊢ <;>
            omega
      | true =>
          have hquality := hcut.exact_quality hexact
          simp only [if_true, hquality] at hprevious ⊢
          omega

/-- The segment's sample is on the interface of its bucket. -/
theorem on_segmentKey (bucketSizeMs : Int) (sample : TrafficSample) (segmentStart : Int) :
    sample.on (segmentKey bucketSizeMs sample segmentStart).routerId
      (segmentKey bucketSizeMs sample segmentStart).interfaceId = true := by
  simp [TrafficSampleInput.on, segmentKey, bucketKey, BucketKey.routerId, BucketKey.interfaceId]

/-- The bucket of the segment is an entry of the batch. -/
theorem Covers.cut_entry
    (hc : Cuttable bucketSizeMs plannedConsumedEnd sample)
    (hstart : sample.startedAtMs ≤ segmentStart) (hlt : segmentStart < plannedConsumedEnd)
    (hcut : SegmentCut bucketSizeMs plannedConsumedEnd sample segmentStart buckets segmentEnd
      buckets' exact)
    (h : Covers bucketSizeMs (consumed ++ [⟨sample, segmentStart⟩]) buckets) :
    EntryOf bucketSizeMs (consumed ++ [⟨sample, segmentEnd⟩])
      (segmentKey bucketSizeMs sample segmentStart,
        ((buckets.get? (segmentKey bucketSizeMs sample segmentStart)).getD
          (.opened segmentStart)).withSegment exact sample segmentStart segmentEnd) := by
  have hadvance := hcut.start_lt hc.size_pos hlt
  have hend := hcut.segmentEnd_eq
  obtain ⟨hextendable, hopened⟩ := h.extendable (segmentKey bucketSizeMs sample segmentStart)
    (bucketFloor_le hc.size_pos segmentStart) hcut.ordered
  have hquantities := hcut.quantities hc hlt hextendable
  have hduration := hquantities .durationMs
  have hwidth := hc.segmentQuantity_duration segmentStart segmentEnd
  have hbatch := hextendable.batch_le
  have hbefore := hextendable.end_le
  have hnonneg := fun q => hc.segmentQuantity_nonneg q (le_of_lt hadvance)
  have hlast : (⟨sample, segmentEnd⟩ : Consumed) ∈ consumed ++ [⟨sample, segmentEnd⟩] :=
    List.mem_append_right _ (List.mem_singleton.mpr rfl)
  have hon := on_segmentKey bucketSizeMs sample segmentStart
  have hkey : (segmentKey bucketSizeMs sample segmentStart).startMs =
    bucketFloor bucketSizeMs segmentStart := rfl
  exact {
    floor := dvd_bucketFloor _ _
    start_le := hextendable.start_le
    batch_lt := by
      rw [RollupBucket.withSegment_batchStartMs, RollupBucket.withSegment_accumulatedEndMs]
      omega
    end_le := by
      rw [RollupBucket.withSegment_accumulatedEndMs, hkey]
      omega
    exact_nonneg := by
      intro q
      rw [(hquantities q).1]
      have hstored := hextendable.exact_nonneg q
      have hsegment := hnonneg q
      split <;> omega
    estimated_nonneg := by
      intro q
      rw [(hquantities q).2]
      have hstored := hextendable.estimated_nonneg q
      have hsegment := hnonneg q
      split <;> omega
    sampleCount := RollupBucket.addSegment_sampleCount hextendable.sampleCount ..
    covered := by
      have hexact := hextendable.exact_nonneg .durationMs
      have hestimated := hextendable.estimated_nonneg .durationMs
      simp only [Quantity.ofAccumulator]
      rw [hduration.1, hduration.2, hwidth]
      split <;> omega
    coverage := by
      have hcoverage := hextendable.coverage
      simp only [Quantity.ofAccumulator] at hcoverage ⊢
      rw [hduration.1, hduration.2, hwidth, RollupBucket.withSegment_batchStartMs,
        RollupBucket.withSegment_accumulatedEndMs]
      split <;> omega
    opened := by
      rcases hopened with ⟨c, hc', hcovers⟩ | hfresh
      · rcases List.mem_append.mp hc' with hc' | hc'
        · exact ⟨c, List.mem_append_left _ hc', hcovers⟩
        · rw [List.mem_singleton.mp hc'] at hcovers
          exact ⟨_, hlast, hcovers.1, hcovers.2.1, lt_trans hcovers.2.2 hadvance⟩
      · refine ⟨_, hlast, ?_⟩
        rw [RollupBucket.withSegment_batchStartMs, hfresh]
        exact ⟨hon, hstart, hadvance⟩
    closed := by
      refine ⟨_, hlast, hon, ?_, ?_⟩ <;>
        simp only [RollupBucket.withSegment_accumulatedEndMs] <;> omega }

/-- The bucket of the segment ends with the segment, and no bucket ends earlier. -/
theorem Covers.cut_filed
    (hcut : SegmentCut bucketSizeMs plannedConsumedEnd sample segmentStart buckets segmentEnd
      buckets' exact) (hadvance : segmentStart < segmentEnd)
    (h : Covers bucketSizeMs (consumed ++ [⟨sample, segmentStart⟩]) buckets) {c : Consumed}
    (hmem : c ∈ consumed ++ [⟨sample, segmentEnd⟩])
    (hconsumed : c.sample.startedAtMs < c.consumedEnd) :
    ∃ entry ∈ buckets'.entries, c.sample.on entry.1.routerId entry.1.interfaceId = true ∧
      c.consumedEnd ≤ entry.2.accumulatedEndMs := by
  have hnew := OrdMap.mem_alter_self buckets (segmentKey bucketSizeMs sample segmentStart)
    (.opened segmentStart)
    (fun bucket => bucket.withSegment exact sample segmentStart segmentEnd)
  rw [← hcut.altered] at hnew
  rcases List.mem_append.mp hmem with hmem | hmem
  · obtain ⟨entry, hentry, hentryOn, hend⟩ := h.filed c (List.mem_append_left _ hmem) hconsumed
    by_cases hkey : entry.1 = segmentKey bucketSizeMs sample segmentStart
    · refine ⟨_, hnew, hkey ▸ hentryOn, ?_⟩
      have hget := OrdMap.mem_entries_iff.mp hentry
      have hordered := hcut.ordered
      rw [show bucketKey sample.routerId sample.interfaceId
        (bucketFloor bucketSizeMs segmentStart) = entry.1 from hkey.symm, hget] at hordered
      simp only [Option.getD_some] at hordered
      rw [RollupBucket.withSegment_accumulatedEndMs]
      omega
    · refine ⟨entry, ?_, hentryOn, hend⟩
      rw [hcut.altered]
      exact OrdMap.mem_alter_iff.mpr (Or.inl ⟨hentry, hkey⟩)
  · rw [List.mem_singleton.mp hmem]
    exact ⟨_, hnew, on_segmentKey bucketSizeMs sample segmentStart, le_refl _⟩

/-- One cut moves its segment from the sample into the buckets. -/
theorem Covers.cut
    (hc : Cuttable bucketSizeMs plannedConsumedEnd sample)
    (hstart : sample.startedAtMs ≤ segmentStart) (hlt : segmentStart < plannedConsumedEnd)
    (hcut : SegmentCut bucketSizeMs plannedConsumedEnd sample segmentStart buckets segmentEnd
      buckets' exact)
    (h : Covers bucketSizeMs (consumed ++ [⟨sample, segmentStart⟩]) buckets) :
    Covers bucketSizeMs (consumed ++ [⟨sample, segmentEnd⟩]) buckets' where
  total := h.cut_total hc hstart hlt hcut
  exact := h.cut_exact hc hlt hcut
  entries := by
    intro entry hentry
    rw [hcut.altered] at hentry
    rcases OrdMap.mem_alter_iff.mp hentry with ⟨hold, _⟩ | rfl
    · exact (h.entries entry hold).extend (le_of_lt (hcut.start_lt hc.size_pos hlt))
    · exact h.cut_entry hc hstart hlt hcut
  filed := fun _ => h.cut_filed hcut (hcut.start_lt hc.size_pos hlt)

end Cut

end RouterView.Db
