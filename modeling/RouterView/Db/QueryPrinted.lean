/-
  Db/QueryPrinted.lean --- the byte counts of a result as texts.

  No total and no point of an accepted query has a negative part, so every byte count is
  printed as the digits of a natural number; and the two parts of a count fit the unsigned
  128-bit integers together.
-/
import RouterView.Db.QueryBudget

set_option autoImplicit false

namespace RouterView.Db

open RouterView.Foundation

/-! ## Accumulators -/

/-- No byte count of the accumulator is negative. -/
structure TrafficBucketAccumulator.BytesNonneg (acc : TrafficBucketAccumulator) : Prop where
  exactDownload : 0 ≤ acc.exactDownloadBytes
  exactUpload : 0 ≤ acc.exactUploadBytes
  estimatedDownload : 0 ≤ acc.estimatedDownloadBytes
  estimatedUpload : 0 ≤ acc.estimatedUploadBytes

theorem TrafficBucketAccumulator.BytesNonneg.zero : zero.BytesNonneg :=
  ⟨le_refl _, le_refl _, le_refl _, le_refl _⟩

theorem Sliced.nonneg {value durationMs a b result : Int}
    (h : Sliced value durationMs a b result) : 0 ≤ result := by
  rw [h.result_eq]
  exact slice_nonneg h.value_nonneg h.duration_pos h.ordered

/-- A segment of a valid contribution adds nothing negative. -/
theorem TrafficBucketAccumulator.BytesNonneg.addSegment {acc acc' : TrafficBucketAccumulator}
    {c : TrafficContribution} {a b : Int} (h : acc.BytesNonneg) (hvalid : c.Valid)
    (hadd : acc.addSegment c a b = .ok acc') : acc'.BytesNonneg := by
  simp only [TrafficContribution.Valid, not_or, not_not] at hvalid
  obtain ⟨_, ⟨hdownload, hupload, hestimatedDownload, hestimatedUpload⟩, _⟩ := hvalid
  unfold TrafficBucketAccumulator.addSegment at hadd
  split at hadd
  · cases hadd
    exact ⟨add_nonneg h.exactDownload hdownload, add_nonneg h.exactUpload hupload,
      add_nonneg h.estimatedDownload hestimatedDownload,
      add_nonneg h.estimatedUpload hestimatedUpload⟩
  · obtain ⟨download, hdown, hadd⟩ := bind_eq_ok_iff.mp hadd
    obtain ⟨upload, hup, hadd⟩ := bind_eq_ok_iff.mp hadd
    obtain ⟨_, _, hadd⟩ := bind_eq_ok_iff.mp hadd
    obtain ⟨_, _, hadd⟩ := bind_eq_ok_iff.mp hadd
    cases hadd
    exact ⟨h.exactDownload, h.exactUpload,
      add_nonneg h.estimatedDownload (proportionalSlice_ok hdown).nonneg,
      add_nonneg h.estimatedUpload (proportionalSlice_ok hup).nonneg⟩

/-- No byte count of the buckets is negative. -/
def BucketsNonneg (buckets : OrdMap Int TrafficBucketAccumulator) : Prop :=
  ∀ e ∈ buckets.entries, e.2.BytesNonneg

theorem addSegments_nonneg {query : TrafficQuery} {bucketSizeMs clippedEnd : Int}
    {c : TrafficContribution} (hvalid : c.Valid) (left : Nat) :
    ∀ (a : Int) (buckets buckets' : OrdMap Int TrafficBucketAccumulator), BucketsNonneg buckets →
      addSegments query bucketSizeMs c clippedEnd left a buckets = .ok buckets' →
      BucketsNonneg buckets' := by
  induction left with
  | zero =>
      intro a buckets buckets' hbuckets h
      cases h
      exact hbuckets
  | succ left ih =>
      intro a buckets buckets' hbuckets h
      unfold addSegments at h
      split at h
      · obtain ⟨_, h⟩ := ensure_bind_eq_ok_iff.mp h
        obtain ⟨bucket, hbucket, h⟩ := bind_eq_ok_iff.mp h
        refine ih _ _ _ ?_ h
        intro e he
        rcases OrdMap.mem_alter_iff.mp he with ⟨hold, _⟩ | rfl
        · exact hbuckets e hold
        · refine TrafficBucketAccumulator.BytesNonneg.addSegment ?_ hvalid hbucket
          generalize pointBucketStart query bucketSizeMs a = key
          cases hget : buckets.get? key with
          | none => exact .zero
          | some acc => exact hbuckets (key, acc) (OrdMap.mem_entries_iff.mpr hget)
      · cases h
        exact hbuckets

theorem foldInOrder_nonneg {query : TrafficQuery} {bucketSizeMs : Int}
    (l : List TrafficContribution) {state state' : FoldState} (htotals : state.totals.BytesNonneg)
    (hbuckets : BucketsNonneg state.buckets)
    (h : foldInOrder query bucketSizeMs l state = .ok state') :
    state'.totals.BytesNonneg ∧ BucketsNonneg state'.buckets := by
  induction l generalizing state with
  | nil =>
      cases h
      exact ⟨htotals, hbuckets⟩
  | cons c rest ih =>
      rw [foldInOrder_cons] at h
      obtain ⟨next, hstep, h⟩ := bind_eq_ok_iff.mp h
      unfold foldTrafficContribution at hstep
      obtain ⟨_, hchecked, hstep⟩ := bind_eq_ok_iff.mp hstep
      obtain ⟨⟨buckets, totals⟩, hadded, hstep⟩ := bind_eq_ok_iff.mp hstep
      cases hstep
      have hvalid : c.Valid := by
        rcases validateTrafficContribution_cases c state.previousEnd with
          ⟨hvalid, _⟩ | ⟨_, e, _, herror⟩
        · exact hvalid
        · rw [herror] at hchecked
          cases hchecked
      unfold accumulateTrafficContribution at hadded
      obtain ⟨totals', htotals', hadded⟩ := bind_eq_ok_iff.mp hadded
      obtain ⟨buckets', hbuckets', hadded⟩ := bind_eq_ok_iff.mp hadded
      cases hadded
      exact ih (htotals.addSegment hvalid htotals')
        (addSegments_nonneg hvalid _ _ _ _ hbuckets hbuckets') h

/-! ## Results -/

section

variable {db : TrafficDb} {query : TrafficQuery} {result : TrafficQueryResult}
  {state : FoldState}

/-- A result, with the fold that it is built from. -/
structure Built (db : TrafficDb) (query : TrafficQuery) (result : TrafficQueryResult)
    (state : FoldState) : Prop where
  rows : (db.sources query).length ≤ maxTrafficSourceRows
  size : result.bucketSizeMs = max (minimumBucketSizeMs query) (db.sourceResolution query)
  resolution : PointSize (db.sourceResolution query)
  folded : foldTrafficContributions db query result.bucketSizeMs maxTrafficSourceRows = .ok state
  points : result.points = state.buckets.entries.map (trafficBucket query result.bucketSizeMs)
  totals : result.totals = trafficTotals state.totals
  length : result.points.length ≤ query.maxPoints
  requested : result.coverage.requestedDurationMs = satSub query.toMs query.fromMs
  gaps : result.coverage.gapCount = db.gapCount query
  completeness : result.coverage.completeness =
    completenessOf result.coverage.coveredDurationMs result.coverage.requestedDurationMs

theorem queryTrafficV4OnConnection_built
    (h : queryTrafficV4OnConnection db query maxTrafficSourceRows = .ok result) :
    ∃ state, Built db query result state := by
  unfold queryTrafficV4OnConnection at h
  obtain ⟨_, _, h⟩ := bind_eq_ok_iff.mp h
  obtain ⟨resolution, hplan, h⟩ := bind_eq_ok_iff.mp h
  obtain ⟨state, hfold, h⟩ := bind_eq_ok_iff.mp h
  obtain ⟨hlength, h⟩ := ensure_bind_eq_ok_iff.mp h
  obtain ⟨hresolution, _⟩ := planTrafficSources_ok maxTrafficSourceRows_lt hplan
  obtain ⟨_, hrows, _, _, rfl⟩ := planTrafficSources_eq_ok_iff.mp hplan
  unfold buildTrafficQueryResult at h
  obtain ⟨_, h⟩ := ensure_bind_eq_ok_iff.mp h
  cases h
  exact ⟨state, hrows, rfl, hresolution, hfold, rfl, rfl, by rw [List.length_map]; omega, rfl,
    rfl, rfl⟩

theorem Built.nonneg (h : Built db query result state) :
    state.totals.BytesNonneg ∧ BucketsNonneg state.buckets := by
  have hfolded := h.folded
  rw [foldTrafficContributions_eq h.rows] at hfolded
  exact foldInOrder_nonneg _ .zero (fun e he => absurd he List.not_mem_nil) hfolded

/-- The text is the digits of a natural number. -/
def Printed (text : String) : Prop := ∃ n : Nat, text = toString n

theorem printed_of_nonneg {n : Int} (h : 0 ≤ n) : Printed (toString n) := by
  obtain ⟨m, rfl⟩ := Int.eq_ofNat_of_zero_le h
  exact ⟨m, rfl⟩

theorem decimalValue_natToString (n : Nat) : decimalValue (toString n) = n :=
  decimalValue_toString (n : Int)

theorem Printed.nonneg {text : String} (h : Printed text) : 0 ≤ decimalValue text := by
  obtain ⟨n, rfl⟩ := h
  rw [decimalValue_natToString]
  exact Int.natCast_nonneg n

theorem Printed.eq_zero_iff {text : String} (h : Printed text) :
    text = "0" ↔ decimalValue text = 0 := by
  obtain ⟨n, rfl⟩ := h
  rw [decimalValue_natToString]
  constructor
  · intro htext
    calc (n : Int) = decimalValue (toString n) := (decimalValue_natToString n).symm
      _ = decimalValue (toString 0) := congrArg decimalValue htext
      _ = 0 := decimalValue_natToString 0
  · intro hzero
    obtain rfl : n = 0 := by exact_mod_cast hzero
    rfl

/-- The byte counts of a point are digits. -/
structure TrafficBucket.BytesPrinted (p : TrafficBucket) : Prop where
  exactDownload : Printed p.exactDownloadBytes
  exactUpload : Printed p.exactUploadBytes
  estimatedDownload : Printed p.estimatedDownloadBytes
  estimatedUpload : Printed p.estimatedUploadBytes

theorem Built.point_printed (h : Built db query result state) {p : TrafficBucket}
    (hp : p ∈ result.points) : p.BytesPrinted := by
  rw [h.points] at hp
  obtain ⟨e, he, rfl⟩ := List.mem_map.mp hp
  have hnonneg := h.nonneg.2 e he
  exact ⟨printed_of_nonneg hnonneg.exactDownload, printed_of_nonneg hnonneg.exactUpload,
    printed_of_nonneg hnonneg.estimatedDownload, printed_of_nonneg hnonneg.estimatedUpload⟩

/-- The byte counts of the totals are digits. -/
structure TrafficTotals.BytesPrinted (t : TrafficTotals) : Prop where
  download : Printed t.downloadBytes
  upload : Printed t.uploadBytes
  exactDownload : Printed t.exactDownloadBytes
  exactUpload : Printed t.exactUploadBytes
  estimatedDownload : Printed t.estimatedDownloadBytes
  estimatedUpload : Printed t.estimatedUploadBytes

theorem Built.totals_printed (h : Built db query result state) :
    result.totals.BytesPrinted := by
  rw [h.totals]
  have hnonneg := h.nonneg.1
  exact ⟨printed_of_nonneg (add_nonneg hnonneg.exactDownload hnonneg.estimatedDownload),
    printed_of_nonneg (add_nonneg hnonneg.exactUpload hnonneg.estimatedUpload),
    printed_of_nonneg hnonneg.exactDownload, printed_of_nonneg hnonneg.exactUpload,
    printed_of_nonneg hnonneg.estimatedDownload, printed_of_nonneg hnonneg.estimatedUpload⟩

/-! ## Bounds -/

theorem Built.size_bounds (h : Built db query result state) (hranged : query.Ranged)
    (hlimited : query.Limited) : 0 < result.bucketSizeMs ∧ result.bucketSizeMs ≤ i64Max := by
  have hsize := pointSize_max (minimumBucketSize_pointSize hranged hlimited) h.resolution
  rw [h.size]
  exact ⟨hsize.positive, hsize.le_max⟩

theorem TrafficContribution.Checked.cut_le {c : TrafficContribution} {a b : Int}
    (h : c.Checked) (hsegment : c.Segment a b) (q : Quantity) :
    c.cut q a b ≤ q.ofContribution c := by
  have hstarted := hsegment.started_le
  have hordered := hsegment.ordered
  have hended := hsegment.le_ended
  have hbefore := h.cut_nonneg (a := c.startedAtMs) (b := a) ⟨le_refl _, hstarted, by omega⟩ q
  have hafter := h.cut_nonneg (a := b) (b := c.endedAtMs) ⟨by omega, hended, le_refl _⟩ q
  have hfirst := cut_add c q c.startedAtMs a b
  have hall := cut_add c q c.startedAtMs b c.endedAtMs
  rw [h.cut_whole q] at hall
  omega

/-- Both parts of a byte count of a point fit the unsigned 128-bit integers together. -/
theorem Answer.ofPoint_lt {bucketSizeMs : Int} (h : Answer db query result bucketSizeMs state)
    (hranged : query.Ranged) (hbounded : ∀ c ∈ db.sources query, c.Bounded) (q : Quantity)
    (hnonneg : ∀ p ∈ result.points, 0 ≤ q.ofPoint p) {p : TrafficBucket}
    (hp : p ∈ result.points) : q.ofPoint p < 2 ^ 128 := by
  have hle : q.ofPoint p ≤ (result.points.map q.ofPoint).sum :=
    List.single_le_sum (by
      intro x hx
      obtain ⟨p', hp', rfl⟩ := List.mem_map.mp hx
      exact hnonneg p' hp') _ (List.mem_map_of_mem hp)
  have hwithin : ∀ x ∈ (db.sources query).map (fun c => c.within query q), x ≤ 2 ^ 64 := by
    intro x hx
    obtain ⟨c, hc, rfl⟩ := List.mem_map.mp hx
    have hvalid := h.accepted.valid c ((mergedSources_perm db query).mem_iff.mpr hc)
    have hchecked := hvalid.checked (hbounded c hc)
    have hincreasing := hchecked.increasing
    obtain ⟨hended, hstarted⟩ := meets_of_mem_sources hc
    have hrange := hranged.increasing
    have hsegment : c.Segment (c.clippedStart query) (c.clippedEnd query) := by
      simp only [TrafficContribution.clippedStart, TrafficContribution.clippedEnd]
      exact ⟨le_max_left _ _, by omega, min_le_left _ _⟩
    exact (hchecked.cut_le hsegment q).trans (TrafficContribution.quantity_lt (hbounded c hc) q).le
  have hsum := List.sum_le_card_nsmul _ _ hwithin
  rw [List.length_map, nsmul_eq_mul] at hsum
  rw [h.points_sum q, h.ofResult_sum q] at hle
  have hrows : ((db.sources query).length : Int) ≤ 1000000 := by exact_mod_cast h.rows
  have hproduct : ((db.sources query).length : Int) * 2 ^ 64 ≤ 1000000 * 2 ^ 64 :=
    mul_le_mul_of_nonneg_right hrows (by norm_num)
  calc q.ofPoint p ≤ ((db.sources query).length : Int) * 2 ^ 64 := hle.trans hsum
    _ ≤ 1000000 * 2 ^ 64 := hproduct
    _ < 2 ^ 128 := by norm_num

end

end RouterView.Db
