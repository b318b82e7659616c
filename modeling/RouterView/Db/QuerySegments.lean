/-
  Db/QuerySegments.lean --- what one contribution adds to a query.

  A segment of a valid contribution adds its part: the whole contribution, or
  the proportional slices of its quantities.  The parts that the loop over the
  point buckets adds telescope to the part that the totals receive, and no
  bucket is covered for longer than it lasts.
-/
import RouterView.Db.Query

set_option autoImplicit false

namespace RouterView.Db

open RouterView.Foundation

/-! ## Parts of a contribution -/

/-- The quantity of a contribution, exact and estimated together. -/
def Quantity.ofContribution : Quantity → TrafficContribution → Int
  | .downloadBytes, c => c.exactDownloadBytes + c.estimatedDownloadBytes
  | .uploadBytes, c => c.exactUploadBytes + c.estimatedUploadBytes
  | .durationMs, c => c.coveredDurationMs

namespace TrafficContribution

/-- The slice of a quantity of the contribution that lies in `[a, b)`. -/
def cut (c : TrafficContribution) (q : Quantity) (a b : Int) : Int :=
  slice (q.ofContribution c) (c.endedAtMs - c.startedAtMs) (a - c.startedAtMs)
    (b - c.startedAtMs)

/-- What a segment of the contribution adds to an accumulator. -/
def part (c : TrafficContribution) (a b : Int) : TrafficBucketAccumulator :=
  if a = c.startedAtMs ∧ b = c.endedAtMs then
    ⟨c.exactDownloadBytes, c.exactUploadBytes, c.estimatedDownloadBytes, c.estimatedUploadBytes,
      c.exactDurationMs, c.estimatedDurationMs, c.sampleCount⟩
  else
    ⟨0, 0, c.cut .downloadBytes a b, c.cut .uploadBytes a b, 0, c.cut .durationMs a b,
      c.sampleCount⟩

/-- The contribution comes from a row whose span and byte columns are 64-bit. -/
structure Bounded (c : TrafficContribution) : Prop where
  span_le : c.endedAtMs - c.startedAtMs ≤ i64Max
  download_lt : c.exactDownloadBytes + c.estimatedDownloadBytes < 2 ^ 64
  upload_lt : c.exactUploadBytes + c.estimatedUploadBytes < 2 ^ 64

/-- The checks of a valid contribution, one by one. -/
structure Checked (c : TrafficContribution) : Prop where
  increasing : c.startedAtMs < c.endedAtMs
  duration_eq : c.durationMs = c.endedAtMs - c.startedAtMs
  quantity_nonneg : ∀ q : Quantity, 0 ≤ q.ofContribution c
  exactDuration_nonneg : 0 ≤ c.exactDurationMs
  estimatedDuration_nonneg : 0 ≤ c.estimatedDurationMs
  covered_le : c.coveredDurationMs ≤ c.endedAtMs - c.startedAtMs

theorem Valid.checked {c : TrafficContribution} (h : c.Valid) (hbounded : c.Bounded) :
    c.Checked := by
  have hproper : c.startedAtMs < c.endedAtMs := h.proper
  have hspan := hbounded.span_le
  have hduration : c.durationMs = c.endedAtMs - c.startedAtMs :=
    satSub_eq ⟨by simp only [i64Min]; omega, hspan⟩
  simp only [Valid, not_or, not_not] at h
  obtain ⟨_, ⟨hdown, hup, hestDown, hestUp⟩, ⟨hexact, hestimated, hcovered⟩, _, _⟩ := h
  refine ⟨hproper, hduration, ?_, hexact, hestimated, by rw [← hduration]; exact hcovered⟩
  intro q
  cases q with
  | downloadBytes => exact add_nonneg hdown hestDown
  | uploadBytes => exact add_nonneg hup hestUp
  | durationMs => exact satAdd_nonneg hexact hestimated

theorem quantity_lt {c : TrafficContribution} (h : c.Bounded) (q : Quantity) :
    q.ofContribution c < 2 ^ 64 := by
  cases q with
  | downloadBytes => exact h.download_lt
  | uploadBytes => exact h.upload_lt
  | durationMs =>
      have := (clampI64_isI64 (c.exactDurationMs + c.estimatedDurationMs)).2
      simp only [Quantity.ofContribution, coveredDurationMs, satAdd, i64Max] at *
      omega

/-- A segment `[a, b)` of the contribution. -/
structure Segment (c : TrafficContribution) (a b : Int) : Prop where
  started_le : c.startedAtMs ≤ a
  ordered : a ≤ b
  le_ended : b ≤ c.endedAtMs

section

variable {c : TrafficContribution} {a b : Int}

theorem Checked.cut_nonneg (h : c.Checked) (hsegment : c.Segment a b) (q : Quantity) :
    0 ≤ c.cut q a b := by
  have hincreasing := h.increasing
  have hordered := hsegment.ordered
  exact slice_nonneg (h.quantity_nonneg q) (by omega) (by omega)

theorem Checked.cut_duration_le (h : c.Checked) (hsegment : c.Segment a b) :
    c.cut .durationMs a b ≤ b - a := by
  have hincreasing := h.increasing
  have hordered := hsegment.ordered
  have hwidth := slice_le_width (v := Quantity.durationMs.ofContribution c)
    (d := c.endedAtMs - c.startedAtMs) (a := a - c.startedAtMs) (b := b - c.startedAtMs)
    (by omega) h.covered_le (by omega)
  simp only [cut]
  omega

theorem cut_self (c : TrafficContribution) (q : Quantity) (a : Int) : c.cut q a a = 0 :=
  slice_self _ _ _

theorem cut_add (c : TrafficContribution) (q : Quantity) (a b e : Int) :
    c.cut q a b + c.cut q b e = c.cut q a e :=
  slice_add _ _ _ _ _

theorem Checked.cut_whole (h : c.Checked) (q : Quantity) :
    c.cut q c.startedAtMs c.endedAtMs = q.ofContribution c := by
  have hincreasing := h.increasing
  simp only [cut, sub_self]
  exact slice_whole (by omega)

/-- The part of a segment holds the slice of every quantity. -/
theorem Checked.part_quantity (h : c.Checked) (hsegment : c.Segment a b)
    (hshort : b - a < i64Max) (q : Quantity) :
    q.ofAccumulator (c.part a b) = c.cut q a b := by
  unfold part
  split
  · rename_i hwhole
    obtain ⟨hstart, hend⟩ := hwhole
    subst hstart hend
    rw [h.cut_whole q]
    cases q with
    | downloadBytes => rfl
    | uploadBytes => rfl
    | durationMs =>
        have hcovered := h.covered_le
        have hexact := h.exactDuration_nonneg
        have hestimated := h.estimatedDuration_nonneg
        simp only [coveredDurationMs, satAdd, clampI64, i64Min, i64Max] at hcovered hshort
        simp only [Quantity.ofAccumulator, Quantity.exactOf, Quantity.estimatedOf,
          Quantity.ofContribution, coveredDurationMs, satAdd, clampI64, i64Min, i64Max]
        omega
  · cases q <;> exact zero_add _

/-- The durations of a part are not negative. -/
theorem Checked.part_durations (h : c.Checked) (hsegment : c.Segment a b) :
    0 ≤ (c.part a b).exactDurationMs ∧ 0 ≤ (c.part a b).estimatedDurationMs := by
  unfold part
  split
  · exact ⟨h.exactDuration_nonneg, h.estimatedDuration_nonneg⟩
  · exact ⟨le_refl _, h.cut_nonneg hsegment .durationMs⟩

end

end TrafficContribution

/-! ## Accumulators -/

namespace TrafficBucketAccumulator

/-- Add a part. -/
def plus (acc part : TrafficBucketAccumulator) : TrafficBucketAccumulator where
  exactDownloadBytes := acc.exactDownloadBytes + part.exactDownloadBytes
  exactUploadBytes := acc.exactUploadBytes + part.exactUploadBytes
  estimatedDownloadBytes := acc.estimatedDownloadBytes + part.estimatedDownloadBytes
  estimatedUploadBytes := acc.estimatedUploadBytes + part.estimatedUploadBytes
  exactDurationMs := satAdd acc.exactDurationMs part.exactDurationMs
  estimatedDurationMs := satAdd acc.estimatedDurationMs part.estimatedDurationMs
  sampleCount := satAdd acc.sampleCount part.sampleCount

/-- The durations are not negative, and cover at most `limit` milliseconds. -/
structure CoversAtMost (acc : TrafficBucketAccumulator) (limit : Int) : Prop where
  exact_nonneg : 0 ≤ acc.exactDurationMs
  estimated_nonneg : 0 ≤ acc.estimatedDurationMs
  covered_le : acc.exactDurationMs + acc.estimatedDurationMs ≤ limit

theorem CoversAtMost.zero {limit : Int} (h : 0 ≤ limit) : zero.CoversAtMost limit :=
  ⟨le_refl _, le_refl _, h⟩

theorem CoversAtMost.mono {acc : TrafficBucketAccumulator} {limit limit' : Int}
    (h : acc.CoversAtMost limit) (hle : limit ≤ limit') : acc.CoversAtMost limit' :=
  ⟨h.exact_nonneg, h.estimated_nonneg, le_trans h.covered_le hle⟩

variable {acc part : TrafficBucketAccumulator} {limit width : Int}

/-- As long as the coverage fits the integers, a part adds its quantities. -/
theorem CoversAtMost.plus_quantity (h : acc.CoversAtMost limit) (hpart : part.CoversAtMost width)
    (hfit : limit + width ≤ i64Max) (q : Quantity) :
    q.ofAccumulator (acc.plus part) = q.ofAccumulator acc + q.ofAccumulator part := by
  obtain ⟨hexact, hestimated, hcovered⟩ := h
  obtain ⟨hexact', hestimated', hcovered'⟩ := hpart
  cases q with
  | downloadBytes =>
      simp only [plus, Quantity.ofAccumulator, Quantity.exactOf, Quantity.estimatedOf]
      omega
  | uploadBytes =>
      simp only [plus, Quantity.ofAccumulator, Quantity.exactOf, Quantity.estimatedOf]
      omega
  | durationMs =>
      simp only [plus, Quantity.ofAccumulator, Quantity.exactOf, Quantity.estimatedOf, satAdd,
        clampI64, i64Min, i64Max] at *
      omega

theorem CoversAtMost.plus (h : acc.CoversAtMost limit) (hpart : part.CoversAtMost width)
    (hfit : limit + width ≤ i64Max) : (acc.plus part).CoversAtMost (limit + width) := by
  have hquantity := h.plus_quantity hpart hfit .durationMs
  have hexact := satAdd_nonneg h.exact_nonneg hpart.exact_nonneg
  have hestimated := satAdd_nonneg h.estimated_nonneg hpart.estimated_nonneg
  have hcovered := h.covered_le
  have hcovered' := hpart.covered_le
  refine ⟨hexact, hestimated, ?_⟩
  simp only [Quantity.ofAccumulator, Quantity.exactOf, Quantity.estimatedOf] at hquantity
  omega

end TrafficBucketAccumulator

theorem proportionalSlice_cut {c : TrafficContribution} {a b : Int} (hchecked : c.Checked)
    (hbounded : c.Bounded) (hsegment : c.Segment a b) (q : Quantity) :
    proportionalSlice (q.ofContribution c) c.durationMs (a - c.startedAtMs) (b - c.startedAtMs) =
      .ok (c.cut q a b) := by
  obtain ⟨hstarted, hordered, hended⟩ := hsegment
  have hspan := hbounded.span_le
  have hincreasing := hchecked.increasing
  simp only [i64Max] at hspan
  rw [hchecked.duration_eq]
  exact proportionalSlice_eq (hchecked.quantity_nonneg q) (TrafficContribution.quantity_lt hbounded q)
    (by omega) (by omega) (by omega) (by omega) (by omega)

/-- A segment of a valid contribution adds its part. -/
theorem addSegment_eq {c : TrafficContribution} {a b : Int} (hchecked : c.Checked)
    (hbounded : c.Bounded) (hsegment : c.Segment a b) {acc : TrafficBucketAccumulator}
    (hacc : IsI64 acc.exactDurationMs) :
    acc.addSegment c a b = .ok (acc.plus (c.part a b)) := by
  have hcut := proportionalSlice_cut hchecked hbounded hsegment
  have hnonneg := hchecked.cut_nonneg hsegment .durationMs
  have hle := hchecked.cut_duration_le hsegment
  obtain ⟨hstarted, hordered, hended⟩ := hsegment
  have hspan := hbounded.span_le
  have hrelative : ∀ t, c.startedAtMs ≤ t → t ≤ c.endedAtMs →
      satSub t c.startedAtMs = t - c.startedAtMs := fun t hlo hhi =>
    satSub_eq ⟨by simp only [i64Min]; omega, by omega⟩
  have hwidth : satSub b a = b - a := satSub_eq ⟨by simp only [i64Min]; omega, by omega⟩
  have hdownload := hcut .downloadBytes
  have hupload := hcut .uploadBytes
  have hduration := hcut .durationMs
  simp only [Quantity.ofContribution] at hdownload hupload hduration
  have hfit : toI64? (c.cut .durationMs a b) = some (c.cut .durationMs a b) :=
    toI64?_eq_some_iff.mpr ⟨⟨by simp only [i64Min]; omega, by omega⟩, rfl⟩
  have hkept : satAdd acc.exactDurationMs 0 = acc.exactDurationMs := by
    rw [satAdd, add_zero, clampI64_of_isI64 hacc]
  simp only [TrafficBucketAccumulator.addSegment, TrafficContribution.part,
    hrelative a hstarted (by omega), hrelative b (by omega) hended]
  split
  · rfl
  · rw [hdownload, ok_bind, hupload, ok_bind, hduration, ok_bind, hfit, hwidth]
    simp only [okOr, ok_bind, pure_eq_ok, TrafficBucketAccumulator.plus, hkept, add_zero,
      min_eq_left hle]

/-! ## Point buckets -/

/-- A range whose length, like its ends, is a 64-bit integer. -/
structure TrafficQuery.Ranged (query : TrafficQuery) : Prop where
  from_isI64 : IsI64 query.fromMs
  to_isI64 : IsI64 query.toMs
  increasing : query.fromMs < query.toMs
  length_lt : query.toMs - query.fromMs < i64Max

/-- A bucket size that the query computes. -/
structure PointSize (bucketSizeMs : Int) : Prop where
  positive : 0 < bucketSizeMs
  le_max : bucketSizeMs ≤ i64Max

theorem pointBucketStart_eq {query : TrafficQuery} {bucketSizeMs t : Int}
    (hranged : query.Ranged) (hsize : PointSize bucketSizeMs) (hfrom : query.fromMs ≤ t)
    (hto : t < query.toMs) :
    pointBucketStart query bucketSizeMs t =
      query.fromMs + bucketFloor bucketSizeMs (t - query.fromMs) := by
  have hlo := hranged.from_isI64.1
  have hhi := hranged.to_isI64.2
  have hlength := hranged.length_lt
  have hpositive := hsize.positive
  have hsub : satSub t query.fromMs = t - query.fromMs :=
    satSub_eq ⟨by simp only [i64Min]; omega, by omega⟩
  have hdiv : (t - query.fromMs).tdiv bucketSizeMs = (t - query.fromMs) / bucketSizeMs :=
    Int.tdiv_eq_ediv_of_nonneg (by omega)
  have hfloor := bucketFloor_le hpositive (t - query.fromMs)
  have hnonneg : 0 ≤ bucketFloor bucketSizeMs (t - query.fromMs) :=
    mul_nonneg (Int.ediv_nonneg (by omega) (by omega)) (by omega)
  have hmul : satMul ((t - query.fromMs) / bucketSizeMs) bucketSizeMs =
      bucketFloor bucketSizeMs (t - query.fromMs) := by
    refine clampI64_of_isI64 ⟨?_, ?_⟩
    · simp only [bucketFloor, i64Min] at *
      omega
    · simp only [bucketFloor, i64Max] at *
      omega
  rw [pointBucketStart, hsub, hdiv, hmul]
  exact satAdd_eq ⟨by omega, by omega⟩

theorem pointBucketEnd_eq {query : TrafficQuery} {bucketSizeMs start : Int}
    (hranged : query.Ranged) (hsize : PointSize bucketSizeMs) (hfrom : query.fromMs ≤ start) :
    pointBucketEnd query bucketSizeMs start = min (start + bucketSizeMs) query.toMs := by
  have hlo := hranged.from_isI64.1
  have hhi := hranged.to_isI64.2
  have hpositive := hsize.positive
  simp only [pointBucketEnd, satAdd, clampI64, i64Min, i64Max] at *
  omega

/-- What the buckets hold once every contribution before `reached` was added:
they start on the grid of the range, and none is covered for longer than it
lasts. -/
structure Gathered (query : TrafficQuery) (bucketSizeMs reached : Int)
    (buckets : OrdMap Int TrafficBucketAccumulator) : Prop where
  grid : ∀ e ∈ buckets.entries, bucketSizeMs ∣ e.1 - query.fromMs
  from_le : ∀ e ∈ buckets.entries, query.fromMs ≤ e.1
  started : ∀ e ∈ buckets.entries, e.1 < reached
  covered : ∀ e ∈ buckets.entries, e.2.CoversAtMost (min reached (e.1 + bucketSizeMs) - e.1)

theorem Gathered.empty (query : TrafficQuery) (bucketSizeMs reached : Int) :
    Gathered query bucketSizeMs reached OrdMap.empty :=
  ⟨by simp, by simp, by simp, by simp⟩

theorem Gathered.mono {query : TrafficQuery} {bucketSizeMs reached reached' : Int}
    {buckets : OrdMap Int TrafficBucketAccumulator}
    (h : Gathered query bucketSizeMs reached buckets) (hle : reached ≤ reached') :
    Gathered query bucketSizeMs reached' buckets where
  grid := h.grid
  from_le := h.from_le
  started := fun e he => lt_of_lt_of_le (h.started e he) hle
  covered := fun e he => (h.covered e he).mono (by omega)

/-- The total of a quantity over the buckets. -/
def pointsTotal (q : Quantity) (buckets : OrdMap Int TrafficBucketAccumulator) : Int :=
  buckets.total (fun _ acc => q.ofAccumulator acc)

/-- One pass of the loop over the point buckets. -/
theorem Gathered.addSegment {query : TrafficQuery} {bucketSizeMs a b : Int}
    {buckets : OrdMap Int TrafficBucketAccumulator} {c : TrafficContribution}
    (h : Gathered query bucketSizeMs a buckets) (hranged : query.Ranged)
    (hsize : PointSize bucketSizeMs) (hchecked : c.Checked) (hbounded : c.Bounded)
    (hstarted : c.startedAtMs ≤ a) (hfrom : query.fromMs ≤ a) (hab : a < b)
    (hended : b ≤ c.endedAtMs) (hto : b ≤ query.toMs)
    (hbucket : b ≤ pointBucketStart query bucketSizeMs a + bucketSizeMs) :
    ∃ acc, ((buckets.get? (pointBucketStart query bucketSizeMs a)).getD .zero).addSegment c a b =
        .ok acc ∧
      Gathered query bucketSizeMs b
        (buckets.alter (pointBucketStart query bucketSizeMs a) .zero (fun _ => acc)) ∧
      ∀ q, pointsTotal q
          (buckets.alter (pointBucketStart query bucketSizeMs a) .zero (fun _ => acc)) =
        pointsTotal q buckets + c.cut q a b := by
  have hsegment : c.Segment a b := ⟨hstarted, by omega, hended⟩
  have hstart := pointBucketStart_eq hranged hsize hfrom (by omega)
  generalize hkey : pointBucketStart query bucketSizeMs a = key at *
  have hfloor := bucketFloor_le hsize.positive (a - query.fromMs)
  have hnonneg : 0 ≤ bucketFloor bucketSizeMs (a - query.fromMs) :=
    mul_nonneg (Int.ediv_nonneg (by omega) (le_of_lt hsize.positive)) (le_of_lt hsize.positive)
  have hlength := hranged.length_lt
  -- The bucket holds at most what lies between its start and the segment.
  have hcovered : ((buckets.get? key).getD .zero).CoversAtMost (a - key) := by
    cases hget : buckets.get? key with
    | none => exact .zero (by omega)
    | some acc =>
        exact (h.covered (key, acc) (OrdMap.mem_entries_iff.mpr hget)).mono (by simp)
  have hpart : (c.part a b).CoversAtMost (b - a) := by
    have hquantity := hchecked.part_quantity hsegment (by omega) .durationMs
    have hwidth := hchecked.cut_duration_le hsegment
    have hdurations := hchecked.part_durations hsegment
    exact ⟨hdurations.1, hdurations.2, by rw [← hquantity] at hwidth; exact hwidth⟩
  have hfit : (a - key) + (b - a) ≤ i64Max := by omega
  have hexact : IsI64 ((buckets.get? key).getD .zero).exactDurationMs := by
    obtain ⟨hexact, hestimated, hsum⟩ := hcovered
    exact ⟨by simp only [i64Min]; omega, by omega⟩
  refine ⟨_, addSegment_eq hchecked hbounded hsegment hexact, ?_, ?_⟩
  · refine ⟨?_, ?_, ?_, ?_⟩ <;> intro e he <;>
      rcases OrdMap.mem_alter_iff.mp he with ⟨hold, _⟩ | hnew
    · exact h.grid e hold
    · subst hnew
      simp only [hstart, add_sub_cancel_left]
      exact dvd_bucketFloor _ _
    · exact h.from_le e hold
    · subst hnew
      simp only
      omega
    · exact lt_trans (h.started e hold) hab
    · subst hnew
      simp only
      omega
    · exact (h.covered e hold).mono (by omega)
    · subst hnew
      refine (hcovered.plus hpart hfit).mono ?_
      simp only
      omega
  · intro q
    have hzero : q.ofAccumulator TrafficBucketAccumulator.zero = 0 := by cases q <;> rfl
    have htotal := OrdMap.total_alter (fun _ acc => q.ofAccumulator acc) buckets (k := key)
      (f := fun _ => ((buckets.get? key).getD .zero).plus (c.part a b)) hzero
    rw [hcovered.plus_quantity hpart hfit q, hchecked.part_quantity hsegment (by omega) q] at htotal
    simp only [pointsTotal, htotal]
    omega

/-- The loop over the point buckets: it never fails on a valid contribution, and
adds every quantity of the clipped contribution. -/
theorem addSegments_ok {query : TrafficQuery} {bucketSizeMs clippedEnd : Int}
    {c : TrafficContribution} (hranged : query.Ranged) (hsize : PointSize bucketSizeMs)
    (hchecked : c.Checked) (hbounded : c.Bounded) (hended : clippedEnd ≤ c.endedAtMs)
    (hto : clippedEnd ≤ query.toMs) :
    ∀ (left : Nat) (a : Int) (buckets : OrdMap Int TrafficBucketAccumulator),
      clippedEnd - a ≤ left → a ≤ clippedEnd → c.startedAtMs ≤ a → query.fromMs ≤ a →
      Gathered query bucketSizeMs a buckets →
      ∃ buckets', addSegments query bucketSizeMs c clippedEnd left a buckets = .ok buckets' ∧
        Gathered query bucketSizeMs clippedEnd buckets' ∧
        ∀ q, pointsTotal q buckets' = pointsTotal q buckets + c.cut q a clippedEnd := by
  intro left
  induction left with
  | zero =>
      intro a buckets hleft hle _ _ hgathered
      have heq : a = clippedEnd := by omega
      subst heq
      exact ⟨buckets, rfl, hgathered, fun q => by rw [c.cut_self, add_zero]⟩
  | succ left ih =>
      intro a buckets hleft hle hstarted hfrom hgathered
      by_cases hlt : a < clippedEnd
      · have hstart := pointBucketStart_eq hranged hsize hfrom (by omega)
        have hfloor := bucketFloor_le hsize.positive (a - query.fromMs)
        have hnext := lt_bucketFloor_add hsize.positive (a - query.fromMs)
        have hnonneg : 0 ≤ bucketFloor bucketSizeMs (a - query.fromMs) :=
          mul_nonneg (Int.ediv_nonneg (by omega) (le_of_lt hsize.positive))
            (le_of_lt hsize.positive)
        have hend := pointBucketEnd_eq hranged hsize
          (show query.fromMs ≤ pointBucketStart query bucketSizeMs a by omega)
        obtain ⟨acc, hacc, hgathered', htotal⟩ := hgathered.addSegment
          (b := min clippedEnd (pointBucketEnd query bucketSizeMs
            (pointBucketStart query bucketSizeMs a)))
          hranged hsize hchecked hbounded hstarted hfrom (by omega) (by omega) (by omega)
          (by omega)
        obtain ⟨buckets', hrest, hgathered'', htotal'⟩ := ih _ _ (by omega) (by omega) (by omega)
          (by omega) hgathered'
        refine ⟨buckets', ?_, hgathered'', ?_⟩
        · simp only [addSegments, hlt, if_true]
          rw [ensure_of (by omega), ok_bind, hacc, ok_bind]
          exact hrest
        · intro q
          rw [htotal' q, htotal q, add_assoc, c.cut_add]
      · have heq : a = clippedEnd := by omega
        subst heq
        refine ⟨buckets, by simp [addSegments], hgathered, ?_⟩
        intro q
        rw [c.cut_self, add_zero]

end RouterView.Db
