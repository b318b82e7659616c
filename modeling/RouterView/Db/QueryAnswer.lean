/-
  Db/QueryAnswer.lean --- acceptance and downsampling.

  When a query succeeds, and how its points relate to its totals.
-/
import RouterView.Db.Interfaces
import RouterView.Db.QuerySpec

set_option autoImplicit false

namespace RouterView.Db

open RouterView.Foundation

/-! ## Rows of the tables -/

/-- Every timestamp of a sample or rollup has a magnitude below `2 ^ 62`. -/
structure TrafficDb.Timed (db : TrafficDb) : Prop where
  samples : ∀ s ∈ db.trafficSamples.rows, IsTimestamp s.startedAtMs ∧ IsTimestamp s.endedAtMs
  rollups : ∀ r ∈ db.trafficRollups.rows, IsTimestamp r.bucketStartMs ∧ IsTimestamp r.bucketEndMs

theorem mem_sources_cases {db : TrafficDb} {query : TrafficQuery} {c : TrafficContribution}
    (h : c ∈ db.sources query) :
    (∃ s ∈ db.trafficSamples.rows, c = .ofSample s) ∨
      ∃ r ∈ db.trafficRollups.rows, c = .ofRollup r := by
  rcases List.mem_append.mp (List.mem_of_mem_filter h) with hmem | hmem
  · obtain ⟨s, hs, rfl⟩ := List.mem_map.mp hmem
    exact Or.inl ⟨s, List.mem_of_mem_filter hs, rfl⟩
  · obtain ⟨r, hr, rfl⟩ := List.mem_map.mp hmem
    exact Or.inr ⟨r, List.mem_of_mem_filter hr, rfl⟩

theorem TrafficSample.WellTyped.bytesFit {s : TrafficSample} (h : s.WellTyped) :
    (TrafficContribution.ofSample s).BytesFit := by
  have hdownload := h.downloadBytes.2
  have hupload := h.uploadBytes.2
  simp only [i64Max] at hdownload hupload
  cases hquality : s.quality <;>
    simp only [TrafficContribution.BytesFit, TrafficContribution.ofSample, hquality, if_true,
      reduceCtorEq, if_false] <;>
    omega

theorem TrafficRollup.WellTyped.bytesFit {r : TrafficRollup} (h : r.WellTyped) :
    (TrafficContribution.ofRollup r).BytesFit := by
  have hexactDownload := h.exactDownloadBytes.2
  have hexactUpload := h.exactUploadBytes.2
  have hestimatedDownload := h.estimatedDownloadBytes.2
  have hestimatedUpload := h.estimatedUploadBytes.2
  simp only [i64Max] at *
  simp only [TrafficContribution.BytesFit, TrafficContribution.ofRollup]
  omega

theorem TrafficDb.WellTyped.bytesFit {db : TrafficDb} (h : db.WellTyped) {query : TrafficQuery}
    {c : TrafficContribution} (hc : c ∈ db.sources query) : c.BytesFit := by
  rcases mem_sources_cases hc with ⟨s, hs, rfl⟩ | ⟨r, hr, rfl⟩
  · exact (h.samples s hs).bytesFit
  · exact (h.rollups r hr).bytesFit

theorem TrafficDb.Timed.span_le {db : TrafficDb} (h : db.Timed) {query : TrafficQuery}
    {c : TrafficContribution} (hc : c ∈ db.sources query) :
    c.endedAtMs - c.startedAtMs ≤ i64Max := by
  rcases mem_sources_cases hc with ⟨s, hs, rfl⟩ | ⟨r, hr, rfl⟩
  · exact ((h.samples s hs).2.sub_isI64 (h.samples s hs).1).2
  · exact ((h.rollups r hr).2.sub_isI64 (h.rollups r hr).1).2

/-! ## Acceptance -/

/-- Ninety days in milliseconds. -/
def ninetyDaysMs : Int := 90 * 86400 * 1000

/-- A rejection is none of the errors whose texts begin with a `t`. -/
theorem IsRejection.ne_verification {e : DatabaseError} (h : IsRejection e) {text : String}
    (htext : text.toList.head? = some 't') : e ≠ .verification text := by
  intro heq
  rcases h with h | h <;> rw [h] at heq <;> cases heq <;> revert htext <;> decide

/-- A query of at most ninety days over an owned interface succeeds, within its
row budget, exactly when the contributions that intersect the range are valid
and pairwise disjoint; none of the other four checks can fail. -/
theorem query_accepts (db : TrafficDb) (query : TrafficQuery) (htyped : db.WellTyped)
    (htimed : db.Timed)
    (howned : db.ownsRouterInterface query.routerId (some query.interfaceId) = true)
    (hfrom : IsI64 query.fromMs) (hto : IsI64 query.toMs) (hincreasing : query.fromMs < query.toMs)
    (hrange : query.toMs - query.fromMs ≤ ninetyDaysMs) (hlimited : query.Limited) :
    ((db.sources query).length ≤ maxTrafficSourceRows →
      ((∃ result, queryTrafficV4 db query = .ok result) ↔
        (∀ c ∈ db.sources query, c.Valid) ∧
          (db.sources query).Pairwise (fun c d => c.span.Apart d.span))) ∧
    ∀ e, queryTrafficV4 db query = .error e →
      (∀ covered range : Int, e ≠ .verification
        s!"traffic coverage {covered}ms exceeds requested range {range}ms") ∧
      (∀ points limit : Nat, e ≠ .verification
        s!"traffic query produced {points} points for a {limit}-point limit") ∧
      e ≠ .verification "traffic bucket boundaries did not advance" ∧
      e ≠ .verification "traffic allocation overflowed" ∧
      e ≠ .verification "traffic duration allocation overflowed" := by
  simp only [ninetyDaysMs] at hrange
  have hlimit := hlimited.le_limit
  have hranged : query.Ranged := ⟨hfrom, hto, hincreasing, by simp only [i64Max]; omega⟩
  have hbounded : ∀ c ∈ db.sources query, c.Bounded := fun c hc =>
    ⟨htimed.span_le hc, (htyped.bytesFit hc).1, (htyped.bytesFit hc).2⟩
  have hcases := queryTrafficV4_cases hranged hlimited (by simp only [i64Max]; omega) howned
    hbounded
  rw [accepted_mergedSources_iff] at hcases
  constructor
  · intro hrows
    rcases hcases with ⟨hlarge, _⟩ | ⟨_, haccepted, result, _, _, hok, _⟩ |
      ⟨_, hnot, e, _, herror⟩
    · omega
    · exact ⟨fun _ => haccepted, fun _ => ⟨result, hok⟩⟩
    · refine ⟨?_, fun haccepted => absurd haccepted hnot⟩
      rintro ⟨result, hok⟩
      rw [herror] at hok
      cases hok
  · intro e he
    have hkind : e = .trafficQueryTooLarge maxTrafficSourceRows ∨ IsRejection e := by
      rcases hcases with ⟨_, herror⟩ | ⟨_, _, result, _, _, hok, _⟩ |
        ⟨_, _, e', he', herror⟩
      · rw [herror] at he
        cases he
        exact Or.inl rfl
      · rw [hok] at he
        cases he
      · rw [herror] at he
        cases he
        exact Or.inr he'
    have hne : ∀ text : String, text.toList.head? = some 't' → e ≠ .verification text := by
      intro text htext
      rcases hkind with rfl | hrejection
      · exact fun heq => by cases heq
      · exact hrejection.ne_verification htext
    refine ⟨?_, ?_, hne _ (by decide), hne _ (by decide), hne _ (by decide)⟩
    · intro covered range
      exact hne _ (head_append (head_append (head_append (head_append (by decide)))))
    · intro points limit
      exact hne _ (head_append (head_append (head_append (head_append (by decide)))))

/-- A sample and a rollup row that touch at a bucket boundary. -/
def TrafficDb.withTraffic : TrafficDb :=
  { TrafficDb.withInterface with
    trafficSamples := ⟨[{
      id := 1
      routerId := 1
      interfaceId := 1
      startedAtMs := 60000
      endedAtMs := 90000
      durationMs := 30000
      downloadBytes := 1000
      uploadBytes := 17
      downloadBps := .finite 0
      uploadBps := .finite 0
      quality := .exact
      source := "routeros-counter" }], 1⟩
    trafficRollups := ⟨[{
      id := 1
      routerId := 1
      interfaceId := 1
      bucketStartMs := 0
      bucketEndMs := 60000
      bucketSizeMs := 60000
      exactDownloadBytes := 700
      exactUploadBytes := 0
      estimatedDownloadBytes := 301
      estimatedUploadBytes := 5
      exactDurationMs := 40000
      estimatedDurationMs := 11000
      sampleCount := 3
      source := "raw-rollup" }], 1⟩ }

theorem withTraffic_wellTyped : TrafficDb.withTraffic.WellTyped := by
  constructor
  · intro s hs
    rw [List.mem_singleton.mp hs]
    constructor <;> decide
  · intro r hr
    rw [List.mem_singleton.mp hr]
    constructor <;> decide

theorem withTraffic_timed : TrafficDb.withTraffic.Timed := by
  constructor
  · intro s hs
    rw [List.mem_singleton.mp hs]
    decide
  · intro r hr
    rw [List.mem_singleton.mp hr]
    decide

theorem query_accepts_withTraffic :
    ∃ result, queryTrafficV4 TrafficDb.withTraffic ⟨1, 1, 10, 80000, 3⟩ = .ok result :=
  ((query_accepts TrafficDb.withTraffic ⟨1, 1, 10, 80000, 3⟩ withTraffic_wellTyped
    withTraffic_timed (by decide) (by decide) (by decide) (by decide) (by decide)
    ⟨by decide, by decide⟩).1 (by decide)).mpr ⟨by decide, by decide⟩

/-! ## Points and totals -/

/-- The number that a decimal string stands for. -/
def decimalValue (s : String) : Int := s.toInt?.getD 0

@[simp] theorem decimalValue_toString (n : Int) : decimalValue (toString n) = n := by
  show (Int.repr n).toInt?.getD 0 = n
  rw [Int.toInt?_repr]
  rfl

/-- A quantity of a point, exact and estimated together. -/
def Quantity.ofPoint : Quantity → TrafficBucket → Int
  | .downloadBytes, p => decimalValue p.exactDownloadBytes + decimalValue p.estimatedDownloadBytes
  | .uploadBytes, p => decimalValue p.exactUploadBytes + decimalValue p.estimatedUploadBytes
  | .durationMs, p => p.exactDurationMs + p.estimatedDurationMs

/-- A quantity of a result, exact and estimated together. -/
def Quantity.ofResult : Quantity → TrafficQueryResult → Int
  | .downloadBytes, result => decimalValue result.totals.downloadBytes
  | .uploadBytes, result => decimalValue result.totals.uploadBytes
  | .durationMs, result => result.coverage.coveredDurationMs

theorem ofPoint_trafficBucket (q : Quantity) (query : TrafficQuery) (bucketSizeMs : Int)
    (entry : Int × TrafficBucketAccumulator) :
    q.ofPoint (trafficBucket query bucketSizeMs entry) = q.ofAccumulator entry.2 := by
  cases q with
  | downloadBytes => simp only [Quantity.ofPoint, trafficBucket, decimalValue_toString]; rfl
  | uploadBytes => simp only [Quantity.ofPoint, trafficBucket, decimalValue_toString]; rfl
  | durationMs => rfl

section

variable {db : TrafficDb} {query : TrafficQuery} {result : TrafficQueryResult}
  {bucketSizeMs : Int} {state : FoldState}

theorem Answer.ofResult_eq (h : Answer db query result bucketSizeMs state) (q : Quantity) :
    q.ofResult result = q.ofAccumulator state.totals := by
  cases q with
  | downloadBytes =>
      simp only [Quantity.ofResult, h.totals_eq, trafficTotals, decimalValue_toString]
      rfl
  | uploadBytes =>
      simp only [Quantity.ofResult, h.totals_eq, trafficTotals, decimalValue_toString]
      rfl
  | durationMs => exact h.coveredDuration_eq

/-- A quantity of the result is the sum of the slices inside the range. -/
theorem Answer.ofResult_sum (h : Answer db query result bucketSizeMs state) (q : Quantity) :
    q.ofResult result = ((db.sources query).map (fun c => c.within query q)).sum := by
  rw [h.ofResult_eq q, h.folded.totals q]
  exact ((mergedSources_perm db query).map _).sum_eq

theorem Answer.points_sum (h : Answer db query result bucketSizeMs state) (q : Quantity) :
    (result.points.map q.ofPoint).sum = q.ofResult result := by
  rw [h.ofResult_eq q, h.folded.totals q, ← h.folded.points q, h.points_eq, List.map_map]
  refine congrArg List.sum (List.map_congr_left ?_)
  intro entry _
  exact ofPoint_trafficBucket q query bucketSizeMs entry

/-- What holds of every point of an answer. -/
structure PointInside (query : TrafficQuery) (p : TrafficBucket) : Prop where
  from_le : query.fromMs ≤ p.startedAtMs
  increasing : p.startedAtMs < p.endedAtMs
  le_to : p.endedAtMs ≤ query.toMs
  covered_le : p.exactDurationMs + p.estimatedDurationMs ≤ p.endedAtMs - p.startedAtMs

theorem Answer.point_inside (h : Answer db query result bucketSizeMs state)
    (hranged : query.Ranged) {p : TrafficBucket} (hp : p ∈ result.points) :
    PointInside query p := by
  rw [h.points_eq] at hp
  obtain ⟨entry, hentry, rfl⟩ := List.mem_map.mp hp
  have hfrom := h.folded.gathered.from_le entry hentry
  have hstarted := h.folded.gathered.started entry hentry
  have hcovered := (h.folded.gathered.covered entry hentry).covered_le
  have hend := pointBucketEnd_eq hranged h.size hfrom
  have hreached := h.reached_le
  have hpositive := h.size.positive
  refine ⟨hfrom, ?_, min_le_right _ _, ?_⟩ <;> simp only [trafficBucket, hend] <;> omega

theorem Answer.points_ordered (h : Answer db query result bucketSizeMs state)
    (hranged : query.Ranged) :
    result.points.Pairwise (fun p p' => p.endedAtMs ≤ p'.startedAtMs) := by
  rw [h.points_eq, List.pairwise_map]
  refine state.buckets.sorted.imp_of_mem ?_
  intro entry entry' hentry hentry' hlt
  have hend := pointBucketEnd_eq hranged h.size (h.folded.gathered.from_le entry hentry)
  have hnext := add_le_of_dvd_of_lt (h.folded.gathered.grid entry hentry)
    (h.folded.gathered.grid entry' hentry') (by omega)
  simp only [trafficBucket, hend]
  omega

end

/-! ## Downsampling -/

/-- The sources, and their order, do not depend on the number of points. -/
theorem mergedSources_maxPoints (db : TrafficDb) (query : TrafficQuery) (maxPoints : Nat) :
    db.mergedSources { query with maxPoints := maxPoints } = db.mergedSources query := rfl

theorem totalsWithin_maxPoints (query : TrafficQuery) (maxPoints : Nat)
    (done : List TrafficContribution) :
    totalsWithin { query with maxPoints := maxPoints } done = totalsWithin query done := rfl

/-- Over a range whose length fits the integers, the totals of a query do not
depend on how many points it asks for, and the points partition the totals. -/
theorem downsampling_invariant (db : TrafficDb) (query : TrafficQuery) (maxPoints : Nat)
    (result coarse : TrafficQueryResult) (htyped : db.WellTyped) (hfits : query.Fits)
    (hresult : queryTrafficV4 db query = .ok result)
    (hcoarse : queryTrafficV4 db { query with maxPoints := maxPoints } = .ok coarse) :
    coarse.totals = result.totals ∧
      coarse.coverage.exactDurationMs = result.coverage.exactDurationMs ∧
      coarse.coverage.estimatedDurationMs = result.coverage.estimatedDurationMs ∧
      (∀ q : Quantity, (result.points.map q.ofPoint).sum = q.ofResult result) ∧
      result.points.Pairwise (fun p p' => p.endedAtMs ≤ p'.startedAtMs) ∧
      ∀ p ∈ result.points, PointInside query p := by
  obtain ⟨bucketSizeMs, state, hanswer⟩ :=
    queryTrafficV4_ok hfits (fun c hc => htyped.bytesFit hc) hresult
  have hfits' : TrafficQuery.Fits { query with maxPoints := maxPoints } :=
    ⟨hfits.from_isI64, hfits.to_isI64, hfits.length_lt⟩
  obtain ⟨bucketSizeMs', state', hanswer'⟩ :=
    queryTrafficV4_ok hfits' (fun c hc => htyped.bytesFit hc) hcoarse
  have hsame : state'.totals = state.totals := by
    rw [hanswer'.folded.totals_eq, hanswer.folded.totals_eq, mergedSources_maxPoints,
      totalsWithin_maxPoints]
  have hincreasing : query.fromMs < query.toMs := by
    unfold queryTrafficV4 queryTrafficV4WithOptions validateTrafficQuery at hresult
    have hvalid := (ensure_bind_eq_ok_iff.mp hresult).1
    omega
  have hranged : query.Ranged := ⟨hfits.from_isI64, hfits.to_isI64, hincreasing, hfits.length_lt⟩
  refine ⟨?_, ?_, ?_, hanswer.points_sum, hanswer.points_ordered hranged,
    fun p hp => hanswer.point_inside hranged hp⟩
  · rw [hanswer'.totals_eq, hanswer.totals_eq, hsame]
  · rw [hanswer'.exactDuration_eq, hanswer.exactDuration_eq, hsame]
  · rw [hanswer'.estimatedDuration_eq, hanswer.estimatedDuration_eq, hsame]

theorem downsampling_invariant_withTraffic :
    ∃ result coarse, queryTrafficV4 TrafficDb.withTraffic ⟨1, 1, 10, 80000, 3⟩ = .ok result ∧
      queryTrafficV4 TrafficDb.withTraffic ⟨1, 1, 10, 80000, 1⟩ = .ok coarse ∧
      coarse.totals = result.totals ∧
      ∀ q : Quantity, (result.points.map q.ofPoint).sum = q.ofResult result := by
  obtain ⟨result, hresult⟩ : ∃ result, queryTrafficV4 TrafficDb.withTraffic
      ⟨1, 1, 10, 80000, 3⟩ = .ok result := exists_ok_of_isSome (by decide)
  obtain ⟨coarse, hcoarse⟩ : ∃ coarse, queryTrafficV4 TrafficDb.withTraffic
      ⟨1, 1, 10, 80000, 1⟩ = .ok coarse := exists_ok_of_isSome (by decide)
  obtain ⟨htotals, _, _, hsums, _⟩ := downsampling_invariant TrafficDb.withTraffic
    ⟨1, 1, 10, 80000, 3⟩ 1 result coarse withTraffic_wellTyped
    ⟨by decide, by decide, by decide⟩ hresult hcoarse
  exact ⟨result, coarse, hresult, hcoarse, htotals, hsums⟩

/-- A sample of a quarter of the whole time line. -/
def quarterSample (id startedAtMs : Int) : TrafficSample where
  id := id
  routerId := 1
  interfaceId := 1
  startedAtMs := startedAtMs
  endedAtMs := startedAtMs + 4611686018427387904
  durationMs := 4611686018427387904
  downloadBytes := 1000
  uploadBytes := 17
  downloadBps := .finite 0
  uploadBps := .finite 0
  quality := .exact
  source := "routeros-counter"

/-- The earliest half of the time line, in two samples. -/
def TrafficDb.withQuarters : TrafficDb :=
  { TrafficDb.withInterface with
    trafficSamples := ⟨[quarterSample 1 (-9223372036854775808),
      quarterSample 2 (-4611686018427387904)], 2⟩ }

/-- Over the whole time line the totals saturate: the two points cover one
millisecond more than the totals report. -/
theorem downsampling_invariant_fails :
    (∀ c ∈ TrafficDb.withQuarters.sources
        ⟨1, 1, -9223372036854775808, 9223372036854775807, 2⟩, c.Valid) ∧
      (TrafficDb.withQuarters.sources
        ⟨1, 1, -9223372036854775808, 9223372036854775807, 2⟩).Pairwise
          (fun c d => c.span.Apart d.span) ∧
      ∃ result, queryTrafficV4 TrafficDb.withQuarters
          ⟨1, 1, -9223372036854775808, 9223372036854775807, 2⟩ = .ok result ∧
        (result.points.map Quantity.durationMs.ofPoint).sum ≠
          Quantity.durationMs.ofResult result := by
  refine ⟨by decide, by decide, ?_⟩
  have hsums : ((queryTrafficV4 TrafficDb.withQuarters
      ⟨1, 1, -9223372036854775808, 9223372036854775807, 2⟩).toOption.map
        (fun result => ((result.points.map Quantity.durationMs.ofPoint).sum,
          Quantity.durationMs.ofResult result))) =
      some (9223372036854775808, 9223372036854775807) := by decide +kernel
  obtain ⟨result, hresult, hpair⟩ := Option.map_eq_some_iff.mp hsums
  have hok : queryTrafficV4 TrafficDb.withQuarters
      ⟨1, 1, -9223372036854775808, 9223372036854775807, 2⟩ = .ok result := by
    obtain ⟨answer, hanswer⟩ := exists_ok_of_isSome (by rw [hresult]; rfl)
    rw [hanswer] at hresult ⊢
    simpa [Except.toOption] using hresult
  simp only [Prod.mk.injEq] at hpair
  refine ⟨result, hok, ?_⟩
  rw [hpair.1, hpair.2]
  decide

end RouterView.Db
