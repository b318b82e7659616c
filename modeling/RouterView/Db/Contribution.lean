/-
  Db/Contribution.lean --- the contributions of an interface.

  A query reads the samples and the rollups of an interface through one record,
  `TrafficContribution` of `db/traffic_v4.rs`.  What it demands of a single
  contribution, and that no two of them overlap, is stated here once: the query
  checks it and the rollup has to preserve it.
-/
import RouterView.Db.Types

set_option autoImplicit false

namespace RouterView.Db

open RouterView.Foundation

/-- `TrafficContribution`. -/
structure TrafficContribution where
  startedAtMs : Int
  endedAtMs : Int
  exactDownloadBytes : Int
  exactUploadBytes : Int
  estimatedDownloadBytes : Int
  estimatedUploadBytes : Int
  exactDurationMs : Int
  estimatedDurationMs : Int
  sampleCount : Int
  deriving DecidableEq, Repr

namespace TrafficContribution

/-- `TrafficContribution::duration_ms`. -/
def durationMs (c : TrafficContribution) : Int := satSub c.endedAtMs c.startedAtMs

/-- `TrafficContribution::covered_duration_ms`. -/
def coveredDurationMs (c : TrafficContribution) : Int :=
  satAdd c.exactDurationMs c.estimatedDurationMs

/-- The span of a contribution. -/
def span (c : TrafficContribution) : Span Int := ⟨c.startedAtMs, c.endedAtMs⟩

/-- The contribution intersects `[fromMs, toMs)`. -/
def intersects (c : TrafficContribution) (fromMs toMs : Int) : Bool :=
  decide (c.endedAtMs > fromMs ∧ c.startedAtMs < toMs)

/-- No byte column is negative. -/
def BytesAreValid (c : TrafficContribution) : Prop :=
  0 ≤ c.exactDownloadBytes ∧ 0 ≤ c.exactUploadBytes ∧
    0 ≤ c.estimatedDownloadBytes ∧ 0 ≤ c.estimatedUploadBytes

/-- The coverage is not negative and fits the span. -/
def CoverageIsValid (c : TrafficContribution) : Prop :=
  0 ≤ c.exactDurationMs ∧ 0 ≤ c.estimatedDurationMs ∧ c.coveredDurationMs ≤ c.durationMs

instance (c : TrafficContribution) : Decidable c.BytesAreValid :=
  inferInstanceAs (Decidable (_ ∧ _))

instance (c : TrafficContribution) : Decidable c.CoverageIsValid :=
  inferInstanceAs (Decidable (_ ∧ _))

/-- The contribution is individually valid. -/
def Valid (c : TrafficContribution) : Prop :=
  ¬ (c.durationMs ≤ 0 ∨ ¬ c.BytesAreValid ∨ ¬ c.CoverageIsValid ∨ c.sampleCount ≤ 0
    ∨ (c.coveredDurationMs = 0
      ∧ c.exactDownloadBytes + c.exactUploadBytes + c.estimatedDownloadBytes
          + c.estimatedUploadBytes > 0))

instance (c : TrafficContribution) : Decidable c.Valid :=
  inferInstanceAs (Decidable (¬ _))

/-- The columns that the query selects from `traffic_samples`. -/
def ofSample (s : TrafficSample) : TrafficContribution where
  startedAtMs := s.startedAtMs
  endedAtMs := s.endedAtMs
  exactDownloadBytes := if s.quality = .exact then s.downloadBytes else 0
  exactUploadBytes := if s.quality = .exact then s.uploadBytes else 0
  estimatedDownloadBytes := if s.quality = .estimated then s.downloadBytes else 0
  estimatedUploadBytes := if s.quality = .estimated then s.uploadBytes else 0
  exactDurationMs := if s.quality = .exact then s.durationMs else 0
  estimatedDurationMs := if s.quality = .estimated then s.durationMs else 0
  sampleCount := 1

/-- The columns that the query selects from `traffic_rollups`. -/
def ofRollup (r : TrafficRollup) : TrafficContribution where
  startedAtMs := r.bucketStartMs
  endedAtMs := r.bucketEndMs
  exactDownloadBytes := r.exactDownloadBytes
  exactUploadBytes := r.exactUploadBytes
  estimatedDownloadBytes := r.estimatedDownloadBytes
  estimatedUploadBytes := r.estimatedUploadBytes
  exactDurationMs := r.exactDurationMs
  estimatedDurationMs := r.estimatedDurationMs
  sampleCount := r.sampleCount

@[simp] theorem ofSample_span (s : TrafficSample) : (ofSample s).span = s.span := rfl

@[simp] theorem ofRollup_span (r : TrafficRollup) : (ofRollup r).span = r.span := rfl

/-- A valid contribution has a proper span. -/
theorem Valid.proper {c : TrafficContribution} (h : c.Valid) : c.span.Proper := by
  simp only [Valid, not_or, not_le] at h
  have hpositive : 0 < satSub c.endedAtMs c.startedAtMs := h.1
  simp only [satSub, clampI64, i64Min, i64Max] at hpositive
  simp only [span, Span.Proper]
  omega

end TrafficContribution

/-- The contributions of one interface. -/
def TrafficDb.contributionsOn (db : TrafficDb) (routerId interfaceId : Int) :
    List TrafficContribution :=
  (db.samplesOn routerId interfaceId).map .ofSample ++
    (db.rollupsOn routerId interfaceId).map .ofRollup

/-- The contributions of the interface are pairwise disjoint. -/
def TrafficDb.DisjointOn (db : TrafficDb) (routerId interfaceId : Int) : Prop :=
  (db.contributionsOn routerId interfaceId).Pairwise (fun c d => c.span.Apart d.span)

instance (db : TrafficDb) (routerId interfaceId : Int) :
    Decidable (db.DisjointOn routerId interfaceId) :=
  inferInstanceAs (Decidable (List.Pairwise _ _))

/-! ## Sound rows -/

/-- What the store promises about a sample row. -/
structure TrafficSample.Sound (s : TrafficSample) : Prop where
  increasing : s.startedAtMs < s.endedAtMs
  duration : s.durationMs = satSub s.endedAtMs s.startedAtMs
  downloadBytes : 0 ≤ s.downloadBytes
  uploadBytes : 0 ≤ s.uploadBytes

/-- A sample whose byte counts are 64-bit integers. -/
def TrafficSample.BytesFit (s : TrafficSample) : Prop :=
  s.downloadBytes ≤ i64Max ∧ s.uploadBytes ≤ i64Max

/-- What the store promises about a rollup row. -/
structure TrafficRollup.Sound (r : TrafficRollup) : Prop where
  increasing : r.bucketStartMs < r.bucketEndMs
  exactDownloadBytes : 0 ≤ r.exactDownloadBytes
  exactUploadBytes : 0 ≤ r.exactUploadBytes
  estimatedDownloadBytes : 0 ≤ r.estimatedDownloadBytes
  estimatedUploadBytes : 0 ≤ r.estimatedUploadBytes
  exactDurationMs : 0 ≤ r.exactDurationMs
  estimatedDurationMs : 0 ≤ r.estimatedDurationMs
  covered : 0 < r.exactDurationMs + r.estimatedDurationMs
  coverage : r.exactDurationMs + r.estimatedDurationMs ≤ r.bucketEndMs - r.bucketStartMs
  sampleCount : 0 < r.sampleCount

theorem satSub_pos {a b : Int} (h : b < a) : 0 < satSub a b := by
  simp only [satSub, clampI64, i64Min, i64Max]
  omega

theorem TrafficSample.Sound.valid {s : TrafficSample} (h : s.Sound) :
    (TrafficContribution.ofSample s).Valid := by
  have hpositive : 0 < s.durationMs := by
    rw [h.duration]
    exact satSub_pos h.increasing
  have hfit : IsI64 s.durationMs := by
    rw [h.duration]
    exact clampI64_isI64 _
  have hduration : (TrafficContribution.ofSample s).durationMs = s.durationMs := h.duration.symm
  have hcovered : (TrafficContribution.ofSample s).coveredDurationMs = s.durationMs := by
    cases hquality : s.quality <;>
      simp [TrafficContribution.coveredDurationMs, TrafficContribution.ofSample, hquality,
        satAdd, clampI64_of_isI64 hfit]
  have hlow := h.downloadBytes
  have hhigh := h.uploadBytes
  have hbytes : (TrafficContribution.ofSample s).BytesAreValid := by
    cases hquality : s.quality <;>
      simp [TrafficContribution.BytesAreValid, TrafficContribution.ofSample, hquality, hlow, hhigh]
  have hnonneg : 0 ≤ s.durationMs := le_of_lt hpositive
  have hcoverage : (TrafficContribution.ofSample s).CoverageIsValid := by
    refine ⟨?_, ?_, by rw [hcovered, hduration]⟩ <;>
      cases hquality : s.quality <;> simp [TrafficContribution.ofSample, hquality, hnonneg]
  have hcount : (TrafficContribution.ofSample s).sampleCount = 1 := rfl
  simp only [TrafficContribution.Valid, hbytes, hcoverage, hcovered, hduration, hcount,
    not_true_eq_false, false_or]
  omega

theorem TrafficRollup.Sound.valid {r : TrafficRollup} (h : r.Sound) :
    (TrafficContribution.ofRollup r).Valid := by
  have hpositive : 0 < (TrafficContribution.ofRollup r).durationMs := satSub_pos h.increasing
  have hcovered : 0 < (TrafficContribution.ofRollup r).coveredDurationMs := by
    have := h.covered
    simp only [TrafficContribution.coveredDurationMs, TrafficContribution.ofRollup, satAdd,
      clampI64, i64Min, i64Max]
    omega
  have hbytes : (TrafficContribution.ofRollup r).BytesAreValid :=
    ⟨h.exactDownloadBytes, h.exactUploadBytes, h.estimatedDownloadBytes, h.estimatedUploadBytes⟩
  have hcoverage : (TrafficContribution.ofRollup r).CoverageIsValid :=
    ⟨h.exactDurationMs, h.estimatedDurationMs, clampI64_mono h.coverage⟩
  have hcount : 0 < (TrafficContribution.ofRollup r).sampleCount := h.sampleCount
  simp only [TrafficContribution.Valid, hbytes, hcoverage, not_true_eq_false, false_or]
  omega

/-! ## Disjointness by rows -/

/-- The rows of the tables carry distinct identifiers that were handed out, and
no two rollups share their unique key. -/
structure TrafficDb.Keyed (db : TrafficDb) : Prop where
  samples : db.trafficSamples.Keyed (fun s => s.id)
  rollups : db.trafficRollups.Keyed (fun r => r.id)

/-- Disjointness of an interface, stated over pairs of rows. -/
structure TrafficDb.RowsApart (db : TrafficDb) (routerId interfaceId : Int) : Prop where
  samples : ∀ s ∈ db.trafficSamples.rows, ∀ t ∈ db.trafficSamples.rows,
    s.on routerId interfaceId = true → t.on routerId interfaceId = true →
    s.id ≠ t.id → s.span.Apart t.span
  rollups : ∀ a ∈ db.trafficRollups.rows, ∀ b ∈ db.trafficRollups.rows,
    a.on routerId interfaceId = true → b.on routerId interfaceId = true →
    a.id ≠ b.id → a.span.Apart b.span
  across : ∀ s ∈ db.trafficSamples.rows, ∀ a ∈ db.trafficRollups.rows,
    s.on routerId interfaceId = true → a.on routerId interfaceId = true →
    s.span.Apart a.span

theorem TrafficDb.disjointOn_iff_rowsApart {db : TrafficDb} (h : db.Keyed)
    (routerId interfaceId : Int) :
    db.DisjointOn routerId interfaceId ↔ db.RowsApart routerId interfaceId := by
  have hsamples : ((db.samplesOn routerId interfaceId).map (fun s => s.id)).Nodup :=
    h.samples.nodup.sublist (List.filter_sublist.map _)
  have hrollups : ((db.rollupsOn routerId interfaceId).map (fun r => r.id)).Nodup :=
    h.rollups.nodup.sublist (List.filter_sublist.map _)
  unfold TrafficDb.DisjointOn TrafficDb.contributionsOn
  rw [List.pairwise_append, List.pairwise_map, List.pairwise_map,
    Table.pairwise_iff_of_nodup Span.Apart.symm hsamples,
    Table.pairwise_iff_of_nodup Span.Apart.symm hrollups]
  simp only [TrafficDb.samplesOn, TrafficDb.rollupsOn, List.mem_filter, List.mem_map]
  constructor
  · rintro ⟨hs, hr, hacross⟩
    refine ⟨?_, ?_, ?_⟩
    · intro s hs' t ht hson hton hne
      exact hs s ⟨hs', hson⟩ t ⟨ht, hton⟩ hne
    · intro a ha b hb haon hbon hne
      exact hr a ⟨ha, haon⟩ b ⟨hb, hbon⟩ hne
    · intro s hs' a ha hson haon
      exact hacross _ ⟨s, ⟨hs', hson⟩, rfl⟩ _ ⟨a, ⟨ha, haon⟩, rfl⟩
  · rintro ⟨hs, hr, hacross⟩
    refine ⟨?_, ?_, ?_⟩
    · rintro s ⟨hs', hson⟩ t ⟨ht, hton⟩ hne
      exact hs s hs' t ht hson hton hne
    · rintro a ⟨ha, haon⟩ b ⟨hb, hbon⟩ hne
      exact hr a ha b hb haon hbon hne
    · rintro _ ⟨s, ⟨hs', hson⟩, rfl⟩ _ ⟨a, ⟨ha, haon⟩, rfl⟩
      exact hacross s hs' a ha hson haon

end RouterView.Db
