/-
  Db/QueryWhole.lean --- queries that cut no contribution.

  When no contribution of an interface straddles the range of a query, the
  totals of an answer are the quantities that are stored inside the range.
-/
import RouterView.Db.QueryAnswer
import RouterView.Db.RollupReach
import RouterView.Db.Store

set_option autoImplicit false

namespace RouterView.Db

open RouterView.Foundation

/-! ## The window of a range -/

/-- The instants of the range. -/
def TrafficQuery.window (query : TrafficQuery) : Int → Bool :=
  fun t => decide (query.fromMs ≤ t ∧ t < query.toMs)

section

variable {query : TrafficQuery} {span : Span Int}

theorem wholeOn_of_inside (hfrom : query.fromMs ≤ span.start) (hto : span.stop ≤ query.toMs) :
    WholeOn query.window span := by
  intro t hlo hhi
  simp only [TrafficQuery.window, decide_eq_decide]
  omega

theorem wholeOn_of_apart (h : span.Apart ⟨query.fromMs, query.toMs⟩) :
    WholeOn query.window span := by
  intro t hlo hhi
  simp only [Span.Apart, Span.Before] at h
  simp only [TrafficQuery.window, decide_eq_decide]
  omega

/-- A span that does not straddle the range and meets it lies inside. -/
theorem WholeOn.inside (h : WholeOn query.window span)
    (hincreasing : query.fromMs < query.toMs) (hfrom : query.fromMs < span.stop)
    (hto : span.start < query.toMs) :
    query.fromMs ≤ span.start ∧ span.stop ≤ query.toMs := by
  have hstart : query.fromMs ≤ span.start := by
    by_contra hlt
    have hsame := h query.fromMs (by omega) hfrom
    simp only [TrafficQuery.window, decide_eq_decide] at hsame
    omega
  refine ⟨hstart, ?_⟩
  by_contra hlt
  have hsame := h query.toMs (by omega) (by omega)
  simp only [TrafficQuery.window, decide_eq_decide] at hsame
  omega

/-- A range between two bucket boundaries is coarse. -/
theorem TrafficQuery.window_coarse {bucketSizeMs : Int} (hsize : 0 < bucketSizeMs)
    (hfrom : bucketSizeMs ∣ query.fromMs) (hto : bucketSizeMs ∣ query.toMs) :
    Coarse bucketSizeMs query.window := by
  intro t
  have hle := bucketFloor_le hsize t
  have hlt := lt_bucketFloor_add hsize t
  have hfloor := dvd_bucketFloor bucketSizeMs t
  simp only [TrafficQuery.window, decide_eq_decide]
  constructor
  · rintro ⟨hlo, hhi⟩
    have := add_le_of_dvd_of_lt hfloor hto hhi
    omega
  · rintro ⟨hlo, hhi⟩
    refine ⟨?_, by omega⟩
    by_contra hbelow
    have := add_le_of_dvd_of_lt hfloor hfrom (by omega)
    omega

end

/-! ## Uncut contributions -/

/-- No contribution of the interface straddles the window. -/
def TrafficDb.Uncut (db : TrafficDb) (routerId interfaceId : Int) (window : Int → Bool) : Prop :=
  ∀ c ∈ db.contributionsOn routerId interfaceId, WholeOn window c.span

theorem TrafficDb.Uncut.wholeIn {db : TrafficDb} {routerId interfaceId : Int}
    {window : Int → Bool} (h : db.Uncut routerId interfaceId window) :
    db.WholeIn routerId interfaceId window := by
  intro s hs hon
  exact h _ (mem_contributionsOn.mpr (Or.inl ⟨s, hs, hon, rfl⟩))

/-- A span inside a bucket does not straddle a coarse window. -/
theorem Coarse.wholeOn_bucket {bucketSizeMs : Int} {window : Int → Bool}
    (h : Coarse bucketSizeMs window) (hsize : 0 < bucketSizeMs) {span : Span Int}
    (hstart : bucketSizeMs ∣ span.start) (hstop : span.stop ≤ span.start + bucketSizeMs) :
    WholeOn window span := by
  intro t hlo hhi
  have hfloor : bucketFloor bucketSizeMs t = span.start := by
    have hle := bucketFloor_le hsize t
    have hlt := lt_bucketFloor_add hsize t
    have hdvd := dvd_bucketFloor bucketSizeMs t
    rcases lt_trichotomy (bucketFloor bucketSizeMs t) span.start with hbelow | heq | habove
    · have := add_le_of_dvd_of_lt hdvd hstart hbelow
      omega
    · exact heq
    · have := add_le_of_dvd_of_lt hstart hdvd habove
      omega
  rw [← h t, hfloor]

/-- A rollup straddles no coarse window that nothing straddled before it. -/
theorem RolledUp.uncut {beforeMs bucketSizeMs : Int} {db db' : TrafficDb}
    {consumed : List Consumed} {buckets : OrdMap BucketKey RollupBucket}
    (h : RolledUp beforeMs bucketSizeMs db consumed buckets db') (htidy : db.Tidy bucketSizeMs)
    {routerId interfaceId : Int} {window : Int → Bool} (hcoarse : Coarse bucketSizeMs window)
    (huncut : db.Uncut routerId interfaceId window) : db'.Uncut routerId interfaceId window := by
  intro c hc
  rcases mem_contributionsOn.mp hc with ⟨s, hs, hon, rfl⟩ | ⟨r, hr, hon, rfl⟩
  · exact h.wholeIn huncut.wholeIn s hs hon
  · rcases h.source hr with hold | hsource
    · exact huncut _ (mem_contributionsOn.mpr (Or.inr ⟨r, hold, hon, rfl⟩))
    · obtain ⟨hstart, ⟨_, _, hend⟩ | ⟨hother, _⟩⟩ := (h.tidy htidy).shaped r hr
      · exact hcoarse.wholeOn_bucket h.size_pos hstart hend
      · exact absurd hsource hother

/-! ## Quantities of the rows -/

theorem ofContribution_ofSample {s : TrafficSample} (h : s.Sound) (q : Quantity) :
    q.ofContribution (.ofSample s) = q.ofSample s := by
  have hduration : IsI64 s.durationMs := by
    rw [h.duration]
    exact clampI64_isI64 _
  cases hquality : s.quality <;> cases q <;>
    simp [Quantity.ofContribution, Quantity.ofSample, TrafficContribution.ofSample, hquality,
      TrafficContribution.coveredDurationMs, satAdd, clampI64_of_isI64 hduration]

theorem ofContribution_ofRollup {r : TrafficRollup} (h : r.Sound)
    (hspan : r.bucketEndMs - r.bucketStartMs ≤ i64Max) (q : Quantity) :
    q.ofContribution (.ofRollup r) = q.ofAccumulator r.accumulator := by
  have hcoverage := h.coverage
  have hexact := h.exactDurationMs
  have hestimated := h.estimatedDurationMs
  cases q with
  | downloadBytes => rfl
  | uploadBytes => rfl
  | durationMs =>
      refine satAdd_eq ⟨?_, ?_⟩
      · simp only [TrafficContribution.ofRollup, i64Min]
        omega
      · simp only [TrafficContribution.ofRollup]
        omega

/-- The quantity of an interface is a sum over its own rows. -/
theorem quantityIn_eq (db : TrafficDb) (q : Quantity) (routerId interfaceId : Int)
    (window : Int → Bool) :
    db.quantityIn q routerId interfaceId window =
      ((db.samplesOn routerId interfaceId).map
        (fun s => if window s.startedAtMs then q.ofSample s else 0)).sum +
      ((db.rollupsOn routerId interfaceId).map
        (fun r => if window r.bucketStartMs then q.ofAccumulator r.accumulator else 0)).sum := by
  unfold TrafficDb.quantityIn Table.total TrafficDb.samplesOn TrafficDb.rollupsOn
  rw [Table.sum_filter_ite, Table.sum_filter_ite]
  refine congrArg₂ (· + ·) (congrArg List.sum (List.map_congr_left ?_))
    (congrArg List.sum (List.map_congr_left ?_))
  · intro s _
    simp only [sampleWeight, Bool.and_eq_true, ite_and]
  · intro r _
    simp only [rollupWeight, Bool.and_eq_true, ite_and]

section

variable {bucketSizeMs : Int} {db : TrafficDb} {query : TrafficQuery}

/-- An uncut contribution is read by the query when it starts in the range. -/
theorem intersects_eq_window {c : TrafficContribution} (hproper : c.span.Proper)
    (hwhole : WholeOn query.window c.span) (hranged : query.Ranged) :
    c.intersects query.fromMs query.toMs = query.window c.startedAtMs := by
  have hincreasing := hranged.increasing
  have hpositive : c.startedAtMs < c.endedAtMs := hproper
  simp only [TrafficContribution.intersects, TrafficQuery.window, decide_eq_decide]
  constructor
  · rintro ⟨hend, hstart⟩
    obtain ⟨hinside, _⟩ := hwhole.inside hincreasing hend hstart
    exact ⟨hinside, hstart⟩
  · rintro ⟨hfrom, hto⟩
    exact ⟨by omega, hto⟩

/-- The quantity that the query reads is what is stored inside the range. -/
theorem TrafficDb.Uncut.sources_sum
    (h : db.Uncut query.routerId query.interfaceId query.window) (htidy : db.Tidy bucketSizeMs)
    (hspan : ∀ r ∈ db.trafficRollups.rows, r.bucketEndMs - r.bucketStartMs ≤ i64Max)
    (hranged : query.Ranged) (q : Quantity) :
    ((db.sources query).map q.ofContribution).sum =
      db.quantityIn q query.routerId query.interfaceId query.window := by
  unfold TrafficDb.sources TrafficDb.contributionsOn TrafficDb.samplesOn TrafficDb.rollupsOn
  rw [Table.sum_filter_ite, List.map_append, List.sum_append, List.map_map, List.map_map,
    Table.sum_filter_ite, Table.sum_filter_ite]
  unfold TrafficDb.quantityIn Table.total
  refine congrArg₂ (· + ·) (congrArg List.sum (List.map_congr_left ?_))
    (congrArg List.sum (List.map_congr_left ?_))
  · intro s hs
    simp only [sampleWeight, Function.comp_apply, Bool.and_eq_true]
    by_cases hon : s.on query.routerId query.interfaceId = true
    · have hsound := htidy.samples s hs
      have hwhole := h _ (mem_contributionsOn.mpr (Or.inl ⟨s, hs, hon, rfl⟩))
      have hreads := intersects_eq_window (c := .ofSample s) hsound.increasing hwhole hranged
      simp only [hreads, ofContribution_ofSample hsound q, hon, if_true, true_and]
      rfl
    · simp only [hon, Bool.false_eq_true, if_false, false_and]
  · intro r hr
    simp only [rollupWeight, Function.comp_apply, Bool.and_eq_true]
    by_cases hon : r.on query.routerId query.interfaceId = true
    · have hsound := htidy.rollups r hr
      have hwhole := h _ (mem_contributionsOn.mpr (Or.inr ⟨r, hr, hon, rfl⟩))
      have hreads := intersects_eq_window (c := .ofRollup r) hsound.increasing hwhole hranged
      simp only [hreads, ofContribution_ofRollup hsound (hspan r hr) q, hon, if_true, true_and]
      rfl
    · simp only [hon, Bool.false_eq_true, if_false, false_and]

/-- The totals of an answer that cuts no contribution are what is stored inside
the range. -/
theorem Answer.ofResult_quantityIn {result : TrafficQueryResult} {size : Int} {state : FoldState}
    (hanswer : Answer db query result size state)
    (h : db.Uncut query.routerId query.interfaceId query.window) (htidy : db.Tidy bucketSizeMs)
    (hspan : ∀ r ∈ db.trafficRollups.rows, r.bucketEndMs - r.bucketStartMs ≤ i64Max)
    (hbytes : db.BytesFit) (hranged : query.Ranged) (q : Quantity) :
    q.ofResult result = db.quantityIn q query.routerId query.interfaceId query.window := by
  rw [hanswer.ofResult_sum q, ← h.sources_sum htidy hspan hranged q]
  refine congrArg List.sum (List.map_congr_left ?_)
  intro c hc
  have hon := List.mem_of_mem_filter hc
  have hvalid := htidy.valid _ _ c hon
  have hchecked : c.Checked := hvalid.checked
    ⟨htidy.span_le hspan hon, (hbytes.contribution hon).1, (hbytes.contribution hon).2⟩
  obtain ⟨hend, hstart⟩ := meets_of_mem_sources hc
  obtain ⟨hfrom, hto⟩ := (h c hon).inside hranged.increasing hend hstart
  simp only [TrafficContribution.span] at hfrom hto
  simp only [TrafficContribution.within, TrafficContribution.clippedStart,
    TrafficContribution.clippedEnd, max_eq_left hfrom, min_eq_left hto]
  exact hchecked.cut_whole q

end

end RouterView.Db
