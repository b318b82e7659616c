/-
  Db/QuerySpec.lean --- what a traffic query answers.

  Within its row budget a query succeeds exactly when the contributions that it
  reads are valid and pairwise disjoint, and otherwise fails with one of two
  errors.  The totals of an answer do not depend on the number of points, and
  the points partition them.
-/
import Std.Data.String.ToInt
import RouterView.Db.QueryFold

set_option autoImplicit false

namespace RouterView.Db

open RouterView.Foundation

/-! ## The contributions that a query reads -/

/-- The contributions of the interface that intersect the range. -/
def TrafficDb.sources (db : TrafficDb) (query : TrafficQuery) : List TrafficContribution :=
  (db.contributionsOn query.routerId query.interfaceId).filter
    (fun c => c.intersects query.fromMs query.toMs)

/-- The contributions in the order of the merge loop. -/
def TrafficDb.mergedSources (db : TrafficDb) (query : TrafficQuery) : List TrafficContribution :=
  mergeContributions (db.sampleContributions query) (db.rollupContributions query)

theorem sources_eq (db : TrafficDb) (query : TrafficQuery) :
    db.sources query =
      (db.sampleSources query).map .ofSample ++ (db.rollupSources query).map .ofRollup := by
  unfold TrafficDb.sources TrafficDb.contributionsOn
  rw [List.filter_append, List.filter_map, List.filter_map]
  rfl

theorem sampleContributions_perm (db : TrafficDb) (query : TrafficQuery) :
    (db.sampleContributions query).Perm ((db.sampleSources query).map .ofSample) :=
  (List.perm_insertionSort _ _).map _

theorem rollupContributions_perm (db : TrafficDb) (query : TrafficQuery) :
    (db.rollupContributions query).Perm ((db.rollupSources query).map .ofRollup) :=
  (List.perm_insertionSort _ _).map _

theorem mergedSources_perm (db : TrafficDb) (query : TrafficQuery) :
    (db.mergedSources query).Perm (db.sources query) := by
  rw [sources_eq]
  exact (mergeContributions_perm _ _).trans
    ((sampleContributions_perm db query).append (rollupContributions_perm db query))

/-- A sort by a key is sorted by every coarser key. -/
theorem pairwise_insertionSort_key {α : Type} {K L : Type} [LinearOrder K] [Preorder L]
    (key : α → K) (coarse : α → L) (hmono : ∀ a b, key a ≤ key b → coarse a ≤ coarse b)
    (l : List α) :
    (l.insertionSort (fun a b => key a ≤ key b)).Pairwise (fun a b => coarse a ≤ coarse b) := by
  have htotal : Std.Total (fun a b => key a ≤ key b) := ⟨fun a b => le_total (key a) (key b)⟩
  have htrans : IsTrans α (fun a b => key a ≤ key b) := ⟨fun _ _ _ hab hbc => le_trans hab hbc⟩
  exact (List.pairwise_insertionSort (fun a b => key a ≤ key b) l).imp (fun h => hmono _ _ h)

theorem TrafficSample.orderKey_le {s t : TrafficSample} (h : s.queryKey ≤ t.queryKey) :
    (TrafficContribution.ofSample s).orderKey ≤ (TrafficContribution.ofSample t).orderKey := by
  simp only [TrafficSample.queryKey, TrafficContribution.orderKey,
    TrafficContribution.ofSample, Prod.Lex.toLex_le_toLex] at *
  omega

theorem TrafficRollup.orderKey_le {r t : TrafficRollup} (h : r.queryKey ≤ t.queryKey) :
    (TrafficContribution.ofRollup r).orderKey ≤ (TrafficContribution.ofRollup t).orderKey := by
  simp only [TrafficRollup.queryKey, TrafficContribution.orderKey,
    TrafficContribution.ofRollup, Prod.Lex.toLex_le_toLex] at *
  omega

theorem mergedSources_sorted (db : TrafficDb) (query : TrafficQuery) :
    (db.mergedSources query).Pairwise (fun c d => c.orderKey ≤ d.orderKey) := by
  refine mergeContributions_sorted ?_ ?_
  · rw [TrafficDb.sampleContributions, List.pairwise_map]
    exact pairwise_insertionSort_key TrafficSample.queryKey _ (fun _ _ h => TrafficSample.orderKey_le h) _
  · rw [TrafficDb.rollupContributions, List.pairwise_map]
    exact pairwise_insertionSort_key TrafficRollup.queryKey _ (fun _ _ h => TrafficRollup.orderKey_le h) _

/-- The loop accepts the merged contributions exactly when they are valid and
pairwise disjoint, in whatever order they are listed. -/
theorem accepted_mergedSources_iff (db : TrafficDb) (query : TrafficQuery) :
    Accepted none (db.mergedSources query) ↔
      (∀ c ∈ db.sources query, c.Valid) ∧
        (db.sources query).Pairwise (fun c d => c.span.Apart d.span) := by
  have hperm := mergedSources_perm db query
  rw [accepted_iff_disjoint (mergedSources_sorted db query),
    hperm.pairwise_iff (fun h => Span.Apart.symm h)]
  refine and_congr_left ?_
  intro _
  exact forall_congr' fun c => by rw [hperm.mem_iff]

theorem meets_of_mem_sources {db : TrafficDb} {query : TrafficQuery} {c : TrafficContribution}
    (h : c ∈ db.sources query) : c.Meets query := by
  have := (List.mem_filter.mp h).2
  simpa [TrafficContribution.intersects, TrafficContribution.Meets] using this

/-! ## The plan -/

theorem saturatingSucc_eq {n : Nat} (h : (n : Int) < i64Max) : saturatingSucc n = n + 1 := by
  have hn : n < 9223372036854775807 := by
    have hcast : (n : Int) < ((9223372036854775807 : Nat) : Int) := h
    exact Int.ofNat_lt.mp hcast
  exact min_eq_left (le_trans (Nat.succ_le_of_lt hn) (by norm_num))

/-- When a summary succeeds, and what it is. -/
theorem boundedSourceSummary_eq_ok_iff {durations : List Int} {limit : Nat}
    {s : TrafficSourceSummary} :
    boundedSourceSummary durations limit = .ok s ↔
      IsI64 limit ∧ IsI64 ((durations.take limit).max?.getD 1) ∧
        s = ⟨(durations.take limit).length, (durations.take limit).max?.getD 1⟩ := by
  unfold boundedSourceSummary
  rw [ensure_bind_eq_ok_iff, ensure_bind_eq_ok_iff, pure_eq_ok, Except.ok.injEq, eq_comm (b := s)]

theorem boundedSourceSummary_ok {durations : List Int} {limit : Nat} {s : TrafficSourceSummary}
    (h : boundedSourceSummary durations limit = .ok s) :
    s.rowCount = min limit durations.length ∧ s.maxDurationMs ≤ i64Max ∧
      ∀ d ∈ durations.take limit, d ≤ s.maxDurationMs := by
  obtain ⟨_, hmax, rfl⟩ := boundedSourceSummary_eq_ok_iff.mp h
  refine ⟨List.length_take, hmax.2, ?_⟩
  intro d hd
  cases hcase : (durations.take limit).max? with
  | none =>
      rw [List.max?_eq_none_iff.mp hcase] at hd
      simp at hd
  | some m => exact (List.max?_eq_some_iff.mp hcase).2 d hd

theorem boundedSourceSummary_eq (durations : List Int) {limit : Nat} (hlimit : IsI64 limit)
    (hdurations : ∀ d ∈ durations, IsI64 d) :
    ∃ s, boundedSourceSummary durations limit = .ok s := by
  have hmax : IsI64 ((durations.take limit).max?.getD 1) := by
    cases hcase : (durations.take limit).max? with
    | none => decide
    | some m =>
        exact hdurations m (List.mem_of_mem_take (List.max?_eq_some_iff.mp hcase).1)
  simp only [boundedSourceSummary]
  rw [ensure_of hlimit, ok_bind, ensure_of hmax]
  exact ⟨_, rfl⟩

/-- The number of rows that a query reads. -/
theorem sources_length (db : TrafficDb) (query : TrafficQuery) :
    (db.sources query).length =
      (db.sampleSources query).length + (db.rollupSources query).length := by
  rw [sources_eq, List.length_append, List.length_map, List.length_map]

theorem planTrafficSources_ok {db : TrafficDb} {query : TrafficQuery} {budget : Nat}
    {resolution : Int} (hbudget : (budget : Int) < i64Max)
    (h : planTrafficSources db query budget = .ok resolution) :
    PointSize resolution ∧ (db.sources query).length ≤ budget ∧
      ∀ c ∈ db.sources query, c.endedAtMs - c.startedAtMs ≤ i64Max := by
  unfold planTrafficSources boundedSampleSummary boundedRollupSummary at h
  obtain ⟨samples, hsamples, h⟩ := bind_eq_ok_iff.mp h
  obtain ⟨hsampleRows, h⟩ := ensure_bind_eq_ok_iff.mp h
  obtain ⟨rollups, hrollups, h⟩ := bind_eq_ok_iff.mp h
  obtain ⟨hrollupRows, h⟩ := ensure_bind_eq_ok_iff.mp h
  simp only [pure_eq_ok, Except.ok.injEq] at h
  obtain ⟨hsampleCount, hsampleMax, hsampleLe⟩ := boundedSourceSummary_ok hsamples
  obtain ⟨hrollupCount, hrollupMax, hrollupLe⟩ := boundedSourceSummary_ok hrollups
  rw [saturatingSucc_eq hbudget] at hsampleCount hsampleLe
  rw [saturatingSucc_eq (by omega)] at hrollupCount hrollupLe
  simp only [List.length_map] at hsampleCount hrollupCount
  have hlength := sources_length db query
  rw [List.take_of_length_le (by rw [List.length_map]; omega)] at hsampleLe hrollupLe
  refine ⟨?_, by omega, ?_⟩
  · subst h
    simp only [i64Max] at *
    exact ⟨by omega, by simp only [i64Max]; omega⟩
  · intro c hc
    rw [sources_eq] at hc
    rcases List.mem_append.mp hc with hmem | hmem
    · obtain ⟨s, hs, rfl⟩ := List.mem_map.mp hmem
      exact le_trans (hsampleLe _ (List.mem_map_of_mem hs)) hsampleMax
    · obtain ⟨r, hr, rfl⟩ := List.mem_map.mp hmem
      exact le_trans (hrollupLe _ (List.mem_map_of_mem hr)) hrollupMax

/-- The plan succeeds within the budget, and beyond it the query is too large. -/
theorem planTrafficSources_eq {db : TrafficDb} {query : TrafficQuery} {budget : Nat}
    (hbudget : (budget : Int) < i64Max)
    (hspan : ∀ c ∈ db.sources query, IsI64 (c.endedAtMs - c.startedAtMs)) :
    if (db.sources query).length ≤ budget then
      ∃ resolution, planTrafficSources db query budget = .ok resolution
    else planTrafficSources db query budget = .error (.trafficQueryTooLarge budget) := by
  have hlength := sources_length db query
  rw [sources_eq] at hspan
  have hlimit : ∀ n, n ≤ budget → IsI64 (saturatingSucc n : Nat) := by
    intro n hn
    rw [saturatingSucc_eq (by omega)]
    exact ⟨by simp only [i64Min]; omega, by push_cast; omega⟩
  obtain ⟨samples, hsamples⟩ := boundedSourceSummary_eq
    ((db.sampleSources query).map (fun s => s.endedAtMs - s.startedAtMs))
    (hlimit budget (le_refl _)) (by
      intro d hd
      obtain ⟨s, hs, rfl⟩ := List.mem_map.mp hd
      exact hspan _ (List.mem_append_left _ (List.mem_map_of_mem hs)))
  obtain ⟨rollups, hrollups⟩ := boundedSourceSummary_eq
    ((db.rollupSources query).map (fun r => r.bucketEndMs - r.bucketStartMs))
    (hlimit (budget - samples.rowCount) (by omega)) (by
      intro d hd
      obtain ⟨r, hr, rfl⟩ := List.mem_map.mp hd
      exact hspan _ (List.mem_append_right _ (List.mem_map_of_mem hr)))
  obtain ⟨hsampleCount, _⟩ := boundedSourceSummary_ok hsamples
  obtain ⟨hrollupCount, _⟩ := boundedSourceSummary_ok hrollups
  rw [saturatingSucc_eq hbudget, List.length_map] at hsampleCount
  rw [saturatingSucc_eq (by omega), List.length_map] at hrollupCount
  simp only [planTrafficSources, boundedSampleSummary, boundedRollupSummary]
  rw [hsamples, ok_bind]
  by_cases hsampleRows : samples.rowCount > budget
  · rw [if_neg (by omega), ensure, if_neg (not_not.mpr hsampleRows), error_bind]
  · rw [ensure_of hsampleRows, ok_bind, hrollups, ok_bind]
    by_cases hrollupRows : rollups.rowCount > budget - samples.rowCount
    · rw [if_neg (by omega), ensure, if_neg (not_not.mpr hrollupRows), error_bind]
    · rw [if_pos (by omega), ensure_of hrollupRows, ok_bind]
      exact ⟨_, rfl⟩

/-! ## The number of points -/

/-- Every bucket has its own index on the grid of the range, so there are no
more buckets than indices. -/
theorem Gathered.length_le {query : TrafficQuery} {bucketSizeMs reached : Int}
    {buckets : OrdMap Int TrafficBucketAccumulator} {n : Nat}
    (h : Gathered query bucketSizeMs reached buckets) (hsize : PointSize bucketSizeMs)
    (hreached : reached ≤ query.toMs)
    (hcount : query.toMs - query.fromMs ≤ bucketSizeMs * n) : buckets.entries.length ≤ n := by
  have hpositive := hsize.positive
  let index : Int × TrafficBucketAccumulator → Nat :=
    fun e => ((e.1 - query.fromMs) / bucketSizeMs).toNat
  have hindex : ∀ e ∈ buckets.entries, bucketSizeMs * (index e : Int) = e.1 - query.fromMs := by
    intro e he
    have hfrom := h.from_le e he
    have hnonneg : 0 ≤ (e.1 - query.fromMs) / bucketSizeMs :=
      Int.ediv_nonneg (by omega) (by omega)
    rw [Int.toNat_of_nonneg hnonneg]
    exact Int.mul_ediv_cancel' (h.grid e he)
  have hnodup : (buckets.entries.map index).Nodup := by
    rw [List.nodup_iff_pairwise_ne, List.pairwise_map]
    refine buckets.sorted.imp_of_mem ?_
    intro d e hd he hlt heq
    have hdindex := hindex d hd
    have heindex := hindex e he
    rw [heq] at hdindex
    omega
  have hsubset : buckets.entries.map index ⊆ List.range n := by
    intro i hi
    obtain ⟨e, he, rfl⟩ := List.mem_map.mp hi
    have hlt : bucketSizeMs * (index e : Int) < bucketSizeMs * n := by
      have := h.started e he
      have := hindex e he
      omega
    exact List.mem_range.mpr (by exact_mod_cast lt_of_mul_lt_mul_left hlt (by omega))
  have hle := (List.subperm_of_subset hnodup hsubset).length_le
  rwa [List.length_map, List.length_range] at hle

/-- The number of points that a request may ask for. -/
structure TrafficQuery.Limited (query : TrafficQuery) : Prop where
  positive : 0 < query.maxPoints
  le_limit : query.maxPoints ≤ 50000

theorem minimumBucketSize_pointSize {query : TrafficQuery} (hranged : query.Ranged)
    (hlimited : query.Limited) : PointSize (minimumBucketSizeMs query) := by
  have hpositive := hlimited.positive
  have hincreasing := hranged.increasing
  have hlength := hranged.length_lt
  have hsub : satSub query.toMs query.fromMs = query.toMs - query.fromMs :=
    satSub_eq ⟨by simp only [i64Min]; omega, by omega⟩
  have hnonneg : 0 ≤ satAdd (query.toMs - query.fromMs) ((query.maxPoints : Int) - 1) :=
    satAdd_nonneg (by omega) (by omega)
  have htop := (clampI64_isI64 (query.toMs - query.fromMs + ((query.maxPoints : Int) - 1))).2
  have hdiv := Int.ediv_le_self (query.maxPoints : Int) hnonneg
  simp only [minimumBucketSizeMs, hsub]
  rw [Int.tdiv_eq_ediv_of_nonneg hnonneg]
  simp only [satAdd] at *
  exact ⟨by omega, by simp only [i64Max] at *; omega⟩

/-- The point limit is large enough for the smallest bucket size. -/
theorem length_le_minimumBucketSize {query : TrafficQuery} (hranged : query.Ranged)
    (hlimited : query.Limited) (hshort : query.toMs - query.fromMs + query.maxPoints ≤ i64Max) :
    query.toMs - query.fromMs ≤ minimumBucketSizeMs query * query.maxPoints := by
  have hpositive := hlimited.positive
  have hincreasing := hranged.increasing
  have hlength := hranged.length_lt
  have hsub : satSub query.toMs query.fromMs = query.toMs - query.fromMs :=
    satSub_eq ⟨by simp only [i64Min]; omega, by omega⟩
  have hadd : satAdd (query.toMs - query.fromMs) ((query.maxPoints : Int) - 1) =
      query.toMs - query.fromMs + ((query.maxPoints : Int) - 1) :=
    satAdd_eq ⟨by simp only [i64Min]; omega, by omega⟩
  simp only [minimumBucketSizeMs, hsub, hadd]
  rw [Int.tdiv_eq_ediv_of_nonneg (by omega)]
  have hstep := Int.lt_ediv_add_one_mul_self
    (query.toMs - query.fromMs + ((query.maxPoints : Int) - 1)) (b := query.maxPoints) (by omega)
  rw [add_mul, one_mul] at hstep
  have hmono := mul_le_mul_of_nonneg_right
    (le_max_left ((query.toMs - query.fromMs + ((query.maxPoints : Int) - 1)) /
      (query.maxPoints : Int)) 1)
    (show (0 : Int) ≤ query.maxPoints by omega)
  omega

/-! ## The answer -/

/-- An answer, with the fold that it reports. -/
structure Answer (db : TrafficDb) (query : TrafficQuery) (result : TrafficQueryResult)
    (bucketSizeMs : Int) (state : FoldState) : Prop where
  size : PointSize bucketSizeMs
  rows : (db.sources query).length ≤ maxTrafficSourceRows
  accepted : Accepted none (db.mergedSources query)
  folded : Folded query bucketSizeMs (db.mergedSources query) state
  reached_le : query.reachedBy state.previousEnd ≤ query.toMs
  points_eq : result.points = state.buckets.entries.map (trafficBucket query bucketSizeMs)
  totals_eq : result.totals = trafficTotals state.totals
  exactDuration_eq : result.coverage.exactDurationMs = state.totals.exactDurationMs
  estimatedDuration_eq : result.coverage.estimatedDurationMs = state.totals.estimatedDurationMs
  coveredDuration_eq : result.coverage.coveredDurationMs =
    Quantity.durationMs.ofAccumulator state.totals

theorem reachedBy_le {query : TrafficQuery} (hranged : query.Ranged) (previousEnd : Option Int) :
    query.reachedBy previousEnd ≤ query.toMs := by
  cases previousEnd with
  | none => exact le_of_lt hranged.increasing
  | some stop => exact min_le_right _ _

section

variable {db : TrafficDb} {query : TrafficQuery} {result : TrafficQueryResult}

/-- Within the row budget the fold is the loop over the merged contributions. -/
theorem foldTrafficContributions_eq {budget : Nat} (hrows : (db.sources query).length ≤ budget)
    (bucketSizeMs : Int) :
    foldTrafficContributions db query bucketSizeMs budget =
      foldInOrder query bucketSizeMs (db.mergedSources query) .initial := by
  have hcount : (db.sampleContributions query).length + (db.rollupContributions query).length ≤
      budget := by
    have hmerged := (mergedSources_perm db query).length_eq
    have hsplit := (mergeContributions_perm (db.sampleContributions query)
      (db.rollupContributions query)).length_eq
    rw [List.length_append] at hsplit
    simp only [TrafficDb.mergedSources] at hmerged
    omega
  exact foldMerged_eq query bucketSizeMs budget budget _ _ _ hcount

/-- The fold over the sources of a planned query. -/
theorem foldTrafficContributions_cases {bucketSizeMs : Int} {budget : Nat}
    (hranged : query.Ranged) (hsize : PointSize bucketSizeMs)
    (hbounded : ∀ c ∈ db.sources query, c.Bounded)
    (hrows : (db.sources query).length ≤ budget) :
    (Accepted none (db.mergedSources query) ∧
      ∃ state, foldTrafficContributions db query bucketSizeMs budget = .ok state ∧
        Folded query bucketSizeMs (db.mergedSources query) state) ∨
    (¬ Accepted none (db.mergedSources query) ∧
      ∃ e, IsRejection e ∧ foldTrafficContributions db query bucketSizeMs budget = .error e) := by
  have hperm := mergedSources_perm db query
  rw [foldTrafficContributions_eq hrows]
  exact Folded.run hranged hsize (Folded.initial query bucketSizeMs)
    (fun c hc => hbounded c (hperm.mem_iff.mp hc))
    (fun c hc => meets_of_mem_sources (hperm.mem_iff.mp hc))

/-- The coverage of the totals fits the range, so the result is built. -/
theorem Folded.build {bucketSizeMs : Int} {done : List TrafficContribution} {state : FoldState}
    (h : Folded query bucketSizeMs done state) (hranged : query.Ranged) (gapCount : Nat) :
    ∃ result, buildTrafficQueryResult query bucketSizeMs state.buckets state.totals gapCount =
        .ok result ∧
      result.points = state.buckets.entries.map (trafficBucket query bucketSizeMs) ∧
      result.totals = trafficTotals state.totals ∧
      result.coverage.exactDurationMs = state.totals.exactDurationMs ∧
      result.coverage.estimatedDurationMs = state.totals.estimatedDurationMs ∧
      result.coverage.coveredDurationMs = Quantity.durationMs.ofAccumulator state.totals := by
  have hlength := hranged.length_lt
  have hincreasing := hranged.increasing
  have hreached := reachedBy_le hranged state.previousEnd
  obtain ⟨hexact, hestimated, hcovered⟩ := h.covered
  have hrange : satSub query.toMs query.fromMs = query.toMs - query.fromMs :=
    satSub_eq ⟨by simp only [i64Min]; omega, by omega⟩
  have hadd : satAdd state.totals.exactDurationMs state.totals.estimatedDurationMs =
      state.totals.exactDurationMs + state.totals.estimatedDurationMs :=
    satAdd_eq ⟨by simp only [i64Min]; omega, by omega⟩
  simp only [buildTrafficQueryResult, hrange, hadd]
  rw [ensure_of (by omega), ok_bind]
  exact ⟨_, rfl, rfl, rfl, rfl, rfl, rfl⟩

/-- Everything after the plan, for accepted contributions. -/
theorem Folded.answer {bucketSizeMs : Int} {state : FoldState}
    (h : Folded query bucketSizeMs (db.mergedSources query) state) (hranged : query.Ranged)
    (hsize : PointSize bucketSizeMs)
    (hrows : (db.sources query).length ≤ maxTrafficSourceRows)
    (haccepted : Accepted none (db.mergedSources query)) :
    ∃ result, buildTrafficQueryResult query bucketSizeMs state.buckets state.totals
        (db.gapCount query) = .ok result ∧ Answer db query result bucketSizeMs state := by
  obtain ⟨result, hresult, hpoints, htotals, hexact, hestimated, hcovered⟩ :=
    h.build hranged (db.gapCount query)
  exact ⟨result, hresult, {
    size := hsize
    rows := hrows
    accepted := haccepted
    folded := h
    reached_le := reachedBy_le hranged _
    points_eq := hpoints
    totals_eq := htotals
    exactDuration_eq := hexact
    estimatedDuration_eq := hestimated
    coveredDuration_eq := hcovered }⟩

theorem maxTrafficSourceRows_lt : (maxTrafficSourceRows : Int) < i64Max := by
  norm_num [maxTrafficSourceRows, i64Max]

theorem pointSize_max {a b : Int} (ha : PointSize a) (hb : PointSize b) : PointSize (max a b) :=
  ⟨lt_max_of_lt_left ha.positive, max_le ha.le_max hb.le_max⟩

/-- The ends of the range are 64-bit integers and so is its length. -/
structure TrafficQuery.Fits (query : TrafficQuery) : Prop where
  from_isI64 : IsI64 query.fromMs
  to_isI64 : IsI64 query.toMs
  length_lt : query.toMs - query.fromMs < i64Max

/-- The byte columns of a contribution are 64-bit integers. -/
def TrafficContribution.BytesFit (c : TrafficContribution) : Prop :=
  c.exactDownloadBytes + c.estimatedDownloadBytes < 2 ^ 64 ∧
    c.exactUploadBytes + c.estimatedUploadBytes < 2 ^ 64

/-- What a successful query answers. -/
theorem queryTrafficV4_ok (hfits : query.Fits)
    (hbytes : ∀ c ∈ db.sources query, c.BytesFit) (h : queryTrafficV4 db query = .ok result) :
    ∃ bucketSizeMs state, Answer db query result bucketSizeMs state := by
  unfold queryTrafficV4 queryTrafficV4WithOptions validateTrafficQuery at h
  obtain ⟨hvalid, h⟩ := ensure_bind_eq_ok_iff.mp h
  simp only [not_or, not_le] at hvalid
  have hranged : query.Ranged := ⟨hfits.from_isI64, hfits.to_isI64, hvalid.1, hfits.length_lt⟩
  have hlimited : query.Limited := ⟨by omega, by omega⟩
  unfold queryTrafficV4OnConnection at h
  obtain ⟨_, _, h⟩ := bind_eq_ok_iff.mp h
  obtain ⟨resolution, hplan, h⟩ := bind_eq_ok_iff.mp h
  obtain ⟨state, hfold, h⟩ := bind_eq_ok_iff.mp h
  obtain ⟨_, h⟩ := ensure_bind_eq_ok_iff.mp h
  obtain ⟨hresolution, hrows, hspans⟩ := planTrafficSources_ok maxTrafficSourceRows_lt hplan
  have hsize := pointSize_max (minimumBucketSize_pointSize hranged hlimited) hresolution
  have hbounded : ∀ c ∈ db.sources query, c.Bounded := fun c hc =>
    ⟨hspans c hc, (hbytes c hc).1, (hbytes c hc).2⟩
  rcases foldTrafficContributions_cases hranged hsize hbounded hrows with
    ⟨haccepted, state', hstate', hfolded⟩ | ⟨_, e, _, herror⟩
  · obtain ⟨answer, hanswer, hall⟩ := hfolded.answer hranged hsize hrows haccepted
    have hsame : state' = state := Except.ok.inj (hstate'.symm.trans hfold)
    subst hsame
    have hequal : answer = result := Except.ok.inj (hanswer.symm.trans h)
    subst hequal
    exact ⟨_, _, hall⟩
  · rw [herror] at hfold
    cases hfold

/-- How a query over rows of bounded span ends: it is too large, or it answers,
or it rejects what is stored. -/
theorem queryTrafficV4_cases (hranged : query.Ranged) (hlimited : query.Limited)
    (hshort : query.toMs - query.fromMs + query.maxPoints ≤ i64Max)
    (howned : db.ownsRouterInterface query.routerId (some query.interfaceId) = true)
    (hbounded : ∀ c ∈ db.sources query, c.Bounded) :
    ((db.sources query).length > maxTrafficSourceRows ∧
      queryTrafficV4 db query = .error (.trafficQueryTooLarge maxTrafficSourceRows)) ∨
    ((db.sources query).length ≤ maxTrafficSourceRows ∧
      Accepted none (db.mergedSources query) ∧
      ∃ result bucketSizeMs state, queryTrafficV4 db query = .ok result ∧
        Answer db query result bucketSizeMs state) ∨
    ((db.sources query).length ≤ maxTrafficSourceRows ∧
      ¬ Accepted none (db.mergedSources query) ∧
      ∃ e, IsRejection e ∧ queryTrafficV4 db query = .error e) := by
  have hincreasing := hranged.increasing
  have hpositive := hlimited.positive
  have hlimit := hlimited.le_limit
  have hvalid : ¬ (query.toMs ≤ query.fromMs ∨ query.maxPoints = 0 ∨ query.maxPoints > 50000
      ∨ maxTrafficSourceRows = 0) := by
    simp only [maxTrafficSourceRows]
    omega
  have hspan : ∀ c ∈ db.sources query, IsI64 (c.endedAtMs - c.startedAtMs) := by
    intro c hc
    obtain ⟨hended, hstarted⟩ := meets_of_mem_sources hc
    have := hranged.length_lt
    exact ⟨by simp only [i64Min, i64Max] at *; omega, (hbounded c hc).span_le⟩
  have hplan := planTrafficSources_eq maxTrafficSourceRows_lt hspan
  simp only [queryTrafficV4, queryTrafficV4WithOptions, validateTrafficQuery,
    queryTrafficV4OnConnection, TrafficDb.ensureInterfaceOwner]
  rw [ensure_of hvalid, ok_bind, ensure_of howned, ok_bind]
  split at hplan
  swap
  · rename_i hrows
    rw [hplan, error_bind]
    exact Or.inl ⟨by omega, rfl⟩
  · rename_i hrows
    obtain ⟨resolution, hresolution⟩ := hplan
    have hsize := pointSize_max (minimumBucketSize_pointSize hranged hlimited)
      (planTrafficSources_ok maxTrafficSourceRows_lt hresolution).1
    rw [hresolution, ok_bind]
    rcases foldTrafficContributions_cases hranged hsize hbounded hrows with
      ⟨haccepted, state, hstate, hfolded⟩ | ⟨hnot, e, he, herror⟩
    · obtain ⟨result, hresult, hanswer⟩ := hfolded.answer hranged hsize hrows haccepted
      have hwide := length_le_minimumBucketSize hranged hlimited hshort
      have hmono := mul_le_mul_of_nonneg_right (le_max_left (minimumBucketSizeMs query) resolution)
        (show (0 : Int) ≤ query.maxPoints by omega)
      have hcount := hfolded.gathered.length_le (n := query.maxPoints) hsize
        (reachedBy_le hranged _) (by omega)
      rw [hstate, ok_bind, ensure_of (by omega), ok_bind]
      exact Or.inr (Or.inl ⟨hrows, haccepted, result, _, state, hresult, hanswer⟩)
    · rw [herror, error_bind]
      exact Or.inr (Or.inr ⟨hrows, hnot, e, he, rfl⟩)

end

end RouterView.Db
