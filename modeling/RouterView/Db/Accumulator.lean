/-
  Db/Accumulator.lean --- proportional allocation and bucket accumulators.

  `proportional_slice` and the fields of `TrafficBucketAccumulator` of
  `db/traffic_v4.rs`, which the rollup and the query both use.  A successful
  slice is the floor-proportional slice of `Foundation/Amounts.lean`.
-/
import RouterView.Foundation.Amounts
import RouterView.Db.Types

set_option autoImplicit false

namespace RouterView.Db

open RouterView.Foundation

/-- `proportional_slice`. -/
def proportionalSlice (value durationMs relativeStartMs relativeEndMs : Int) :
    DatabaseResult Int := do
  ensure (¬ (value < 0 ∨ durationMs ≤ 0 ∨ relativeStartMs < 0
      ∨ relativeEndMs < relativeStartMs ∨ relativeEndMs > durationMs))
    (.verification "traffic contribution cannot be proportionally allocated")
  let before ← okOr (checkedMul128 value relativeStartMs)
    (.verification "traffic allocation overflowed")
  let after ← okOr (checkedMul128 value relativeEndMs)
    (.verification "traffic allocation overflowed")
  return after / durationMs - before / durationMs

/-- What a successful slice was asked for, and what it is. -/
structure Sliced (value durationMs relativeStartMs relativeEndMs result : Int) : Prop where
  value_nonneg : 0 ≤ value
  duration_pos : 0 < durationMs
  start_nonneg : 0 ≤ relativeStartMs
  ordered : relativeStartMs ≤ relativeEndMs
  stop_le : relativeEndMs ≤ durationMs
  result_eq : result = slice value durationMs relativeStartMs relativeEndMs

theorem proportionalSlice_ok {value durationMs relativeStartMs relativeEndMs result : Int}
    (h : proportionalSlice value durationMs relativeStartMs relativeEndMs = .ok result) :
    Sliced value durationMs relativeStartMs relativeEndMs result := by
  unfold proportionalSlice at h
  obtain ⟨hguard, h⟩ := ensure_bind_eq_ok_iff.mp h
  obtain ⟨before, hbefore, h⟩ := bind_eq_ok_iff.mp h
  obtain ⟨after, hafter, h⟩ := bind_eq_ok_iff.mp h
  rw [okOr_eq_ok_iff] at hbefore hafter
  simp only [not_or, not_lt, not_le, gt_iff_lt] at hguard
  obtain ⟨hvalue, hduration, hstart, hordered, hstop⟩ := hguard
  simp only [pure_eq_ok, Except.ok.injEq] at h
  refine ⟨hvalue, hduration, hstart, hordered, hstop, ?_⟩
  rw [← h, checkedMul128_eq_some hbefore, checkedMul128_eq_some hafter]
  rfl

theorem proportionalSlice_eq {value durationMs relativeStartMs relativeEndMs : Int}
    (hvalue : 0 ≤ value) (hvalue' : value < 2 ^ 64)
    (hduration : 0 < durationMs) (hduration' : durationMs < 2 ^ 63)
    (hstart : 0 ≤ relativeStartMs) (hordered : relativeStartMs ≤ relativeEndMs)
    (hstop : relativeEndMs ≤ durationMs) :
    proportionalSlice value durationMs relativeStartMs relativeEndMs =
      .ok (slice value durationMs relativeStartMs relativeEndMs) := by
  unfold proportionalSlice
  rw [ensure_of (by simp only [not_or, not_lt, not_le, gt_iff_lt]; omega), ok_bind,
    checkedMul128_of_bounds hvalue hvalue' hstart (by omega),
    checkedMul128_of_bounds hvalue hvalue' (by omega) (by omega)]
  rfl

/-- `TrafficBucketAccumulator`. -/
structure TrafficBucketAccumulator where
  exactDownloadBytes : Int
  exactUploadBytes : Int
  estimatedDownloadBytes : Int
  estimatedUploadBytes : Int
  exactDurationMs : Int
  estimatedDurationMs : Int
  sampleCount : Int
  deriving DecidableEq, Repr

/-- `TrafficBucketAccumulator::default`. -/
def TrafficBucketAccumulator.zero : TrafficBucketAccumulator := ⟨0, 0, 0, 0, 0, 0, 0⟩

/-! ## Quantities -/

/-- The quantities that a rollup moves from samples to rollup rows. -/
inductive Quantity where
  | downloadBytes
  | uploadBytes
  | durationMs
  deriving DecidableEq, Repr

namespace Quantity

/-- The quantity of a sample. -/
def ofSample : Quantity → TrafficSample → Int
  | .downloadBytes, s => s.downloadBytes
  | .uploadBytes, s => s.uploadBytes
  | .durationMs, s => s.durationMs

/-- The exact part of an accumulated quantity. -/
def exactOf : Quantity → TrafficBucketAccumulator → Int
  | .downloadBytes, a => a.exactDownloadBytes
  | .uploadBytes, a => a.exactUploadBytes
  | .durationMs, a => a.exactDurationMs

/-- The estimated part of an accumulated quantity. -/
def estimatedOf : Quantity → TrafficBucketAccumulator → Int
  | .downloadBytes, a => a.estimatedDownloadBytes
  | .uploadBytes, a => a.estimatedUploadBytes
  | .durationMs, a => a.estimatedDurationMs

/-- The quantity among the three of a segment. -/
def pick : Quantity → Int → Int → Int → Int
  | .downloadBytes, download, _, _ => download
  | .uploadBytes, _, upload, _ => upload
  | .durationMs, _, _, duration => duration

/-- An accumulated quantity. -/
def ofAccumulator (q : Quantity) (a : TrafficBucketAccumulator) : Int :=
  q.exactOf a + q.estimatedOf a

end Quantity

/-! ## Floors -/

/-- The start of the bucket that holds an instant. -/
def bucketFloor (bucketSizeMs t : Int) : Int := t / bucketSizeMs * bucketSizeMs

theorem bucketFloor_le {bucketSizeMs : Int} (h : 0 < bucketSizeMs) (t : Int) :
    bucketFloor bucketSizeMs t ≤ t :=
  Int.ediv_mul_le t (by omega)

theorem lt_bucketFloor_add {bucketSizeMs : Int} (h : 0 < bucketSizeMs) (t : Int) :
    t < bucketFloor bucketSizeMs t + bucketSizeMs := by
  have := Int.lt_ediv_add_one_mul_self t h
  rw [add_mul, one_mul] at this
  exact this

theorem dvd_bucketFloor (bucketSizeMs t : Int) : bucketSizeMs ∣ bucketFloor bucketSizeMs t :=
  Dvd.intro_left _ rfl

theorem bucketFloor_mono {bucketSizeMs s t : Int} (h : 0 < bucketSizeMs) (hle : s ≤ t) :
    bucketFloor bucketSizeMs s ≤ bucketFloor bucketSizeMs t :=
  mul_le_mul_of_nonneg_right (Int.ediv_le_ediv h hle) (le_of_lt h)

/-- Two multiples of the bucket size are equal or a bucket apart. -/
theorem add_le_of_dvd_of_lt {bucketSizeMs a b : Int}
    (ha : bucketSizeMs ∣ a) (hb : bucketSizeMs ∣ b) (hlt : a < b) : a + bucketSizeMs ≤ b := by
  have hdvd : bucketSizeMs ∣ b - a := Int.dvd_sub hb ha
  have := Int.le_of_dvd (by omega) hdvd
  omega

/-- The start of the bucket of a timestamp is a 64-bit integer. -/
theorem bucketFloor_isI64 {bucketSizeMs t : Int} (hpositive : 0 < bucketSizeMs)
    (hsize : bucketSizeMs ≤ i64Max) (ht : IsTimestamp t) : IsI64 (bucketFloor bucketSizeMs t) := by
  have hle := bucketFloor_le hpositive t
  have hlt := lt_bucketFloor_add hpositive t
  simp only [IsTimestamp] at ht
  refine ⟨?_, by simp only [i64Max]; omega⟩
  by_contra hlow
  -- A bucket that starts this early would start before `-bucketSizeMs` and end there.
  have hdvd : bucketSizeMs ∣ -bucketSizeMs := Dvd.intro (-1) (by omega)
  simp only [i64Min, i64Max] at hlow hsize
  have hbefore := add_le_of_dvd_of_lt (dvd_bucketFloor bucketSizeMs t) hdvd (by omega)
  omega

end RouterView.Db
