/-
  Db/QuerySplit.lean --- a range that is cut in two.

  The slices of a contribution on the two sides of a cut telescope to its slice
  of the whole range, so bytes and coverage are additive.  What is exact in one
  of the parts lies in it whole, so it is exact in the range as well; a
  contribution across the cut is exact in neither part.
-/
import RouterView.Db.QueryAnswer

set_option autoImplicit false

namespace RouterView.Db

open RouterView.Foundation

/-! ## Sums of durations -/

/-- A saturating sum of nonnegative numbers whose sum fits never saturates. -/
theorem foldl_satAdd_eq {l : List Int} (hnonneg : ∀ x ∈ l, 0 ≤ x) :
    ∀ acc : Int, 0 ≤ acc → acc + l.sum ≤ i64Max → l.foldl satAdd acc = acc + l.sum := by
  induction l with
  | nil =>
      intro acc _ _
      rw [List.foldl_nil, List.sum_nil, add_zero]
  | cons x rest ih =>
      intro acc hacc hfit
      rw [List.sum_cons] at hfit ⊢
      have hx := hnonneg x List.mem_cons_self
      have hrest : ∀ y ∈ rest, 0 ≤ y := fun y hy => hnonneg y (List.mem_cons_of_mem _ hy)
      have htail := List.sum_nonneg hrest
      have hadd : satAdd acc x = acc + x :=
        satAdd_eq ⟨by simp only [i64Min]; omega, by omega⟩
      rw [List.foldl_cons, hadd, ih hrest (acc + x) (by omega) (by omega), add_assoc]

/-! ## The exact part of the totals -/

namespace TrafficContribution

/-- What the contribution adds to the exact part of the totals. -/
def exactWithin (c : TrafficContribution) (query : TrafficQuery) (q : Quantity) : Int :=
  q.exactOf (c.part (c.clippedStart query) (c.clippedEnd query))

/-- The exact part of a quantity of the contribution. -/
def exactQuantity (c : TrafficContribution) (q : Quantity) : Int :=
  q.exactOf (c.part c.startedAtMs c.endedAtMs)

/-- Only a contribution inside the range stays exact. -/
theorem exactWithin_eq (c : TrafficContribution) (query : TrafficQuery) (q : Quantity) :
    c.exactWithin query q =
      if query.fromMs ≤ c.startedAtMs ∧ c.endedAtMs ≤ query.toMs then c.exactQuantity q else 0 := by
  unfold exactWithin exactQuantity
  split
  · next hinside =>
      rw [clippedStart, clippedEnd, max_eq_left hinside.1, min_eq_left hinside.2]
  · next hinside =>
      have hcut : ¬ (c.clippedStart query = c.startedAtMs ∧ c.clippedEnd query = c.endedAtMs) := by
        simp only [clippedStart, clippedEnd]
        omega
      rw [part, if_neg hcut]
      cases q <;> rfl

theorem Valid.exactQuantity_nonneg {c : TrafficContribution} (h : c.Valid) (q : Quantity) :
    0 ≤ c.exactQuantity q := by
  simp only [Valid, not_or, not_not] at h
  obtain ⟨_, ⟨hdownload, hupload, _, _⟩, ⟨hduration, _, _⟩, _, _⟩ := h
  rw [exactQuantity, part, if_pos ⟨rfl, rfl⟩]
  cases q with
  | downloadBytes => exact hdownload
  | uploadBytes => exact hupload
  | durationMs => exact hduration

end TrafficContribution

/-- The exact part of the totals is the saturating sum of the exact parts. -/
theorem exactDuration_totalsWithin (query : TrafficQuery) (done : List TrafficContribution)
    (acc : TrafficBucketAccumulator) :
    (done.foldl (fun acc c => acc.plus (c.part (c.clippedStart query) (c.clippedEnd query)))
        acc).exactDurationMs =
      (done.map (fun c => c.exactWithin query .durationMs)).foldl satAdd acc.exactDurationMs := by
  induction done generalizing acc with
  | nil => rfl
  | cons c rest ih =>
      rw [List.foldl_cons, List.map_cons, List.foldl_cons, ih]
      rfl

theorem exactBytes_totalsWithin (query : TrafficQuery) (done : List TrafficContribution)
    (acc : TrafficBucketAccumulator) {q : Quantity} (hq : q ≠ .durationMs) :
    q.exactOf (done.foldl
        (fun acc c => acc.plus (c.part (c.clippedStart query) (c.clippedEnd query))) acc) =
      q.exactOf acc + (done.map (fun c => c.exactWithin query q)).sum := by
  induction done generalizing acc with
  | nil => rw [List.foldl_nil, List.map_nil, List.sum_nil, add_zero]
  | cons c rest ih =>
      rw [List.foldl_cons, List.map_cons, List.sum_cons, ih, ← add_assoc]
      cases q with
      | downloadBytes => rfl
      | uploadBytes => rfl
      | durationMs => exact absurd rfl hq

/-- The exact part of a quantity of a result. -/
def Quantity.exactOfResult : Quantity → TrafficQueryResult → Int
  | .downloadBytes, result => decimalValue result.totals.exactDownloadBytes
  | .uploadBytes, result => decimalValue result.totals.exactUploadBytes
  | .durationMs, result => result.coverage.exactDurationMs

section

variable {db : TrafficDb} {query : TrafficQuery} {result : TrafficQueryResult}
  {bucketSizeMs : Int} {state : FoldState}

theorem Answer.exactOfResult_eq (h : Answer db query result bucketSizeMs state) (q : Quantity) :
    q.exactOfResult result = q.exactOf state.totals := by
  cases q with
  | downloadBytes =>
      simp only [Quantity.exactOfResult, h.totals_eq, trafficTotals, decimalValue_toString]
      rfl
  | uploadBytes =>
      simp only [Quantity.exactOfResult, h.totals_eq, trafficTotals, decimalValue_toString]
      rfl
  | durationMs => exact h.exactDuration_eq

/-- The exact duration is at most what is covered. -/
theorem TrafficContribution.Checked.exactWithin_le {c : TrafficContribution} (h : c.Checked)
    (hmeets : c.Meets query) (hranged : query.Ranged) :
    0 ≤ c.exactWithin query .durationMs ∧
      c.exactWithin query .durationMs ≤ c.within query .durationMs := by
  have hlength := hranged.length_lt
  have hrange := hranged.increasing
  have hincreasing := h.increasing
  obtain ⟨hended, hstarted⟩ := hmeets
  have hsegment : c.Segment (c.clippedStart query) (c.clippedEnd query) := by
    simp only [TrafficContribution.clippedStart, TrafficContribution.clippedEnd]
    exact ⟨le_max_left _ _, by omega, min_le_left _ _⟩
  have hshort : c.clippedEnd query - c.clippedStart query < i64Max := by
    simp only [TrafficContribution.clippedStart, TrafficContribution.clippedEnd]
    omega
  have hquantity := h.part_quantity hsegment hshort .durationMs
  obtain ⟨hexact, hestimated⟩ := h.part_durations hsegment
  refine ⟨hexact, ?_⟩
  rw [TrafficContribution.within, ← hquantity]
  exact le_add_of_nonneg_right hestimated

/-- The exact part of the result is the sum of the exact parts. -/
theorem Answer.exactOfResult_sum (h : Answer db query result bucketSizeMs state)
    (hranged : query.Ranged) (hbounded : ∀ c ∈ db.sources query, c.Bounded) (q : Quantity) :
    q.exactOfResult result = ((db.sources query).map (fun c => c.exactWithin query q)).sum := by
  have hperm := mergedSources_perm db query
  rw [h.exactOfResult_eq q, h.folded.totals_eq, totalsWithin]
  refine Eq.trans ?_ (hperm.map _).sum_eq
  by_cases hq : q = .durationMs
  · subst hq
    have hexact := exactDuration_totalsWithin query (db.mergedSources query) .zero
    have hcovered := h.folded.covered.covered_le
    have htotal := h.folded.totals .durationMs
    have hreached := reachedBy_le hranged state.previousEnd
    have hlength := hranged.length_lt
    have hbounds : ∀ c ∈ db.mergedSources query, 0 ≤ c.exactWithin query .durationMs ∧
        c.exactWithin query .durationMs ≤ c.within query .durationMs := by
      intro c hc
      have hmem := hperm.mem_iff.mp hc
      exact ((h.accepted.valid c hc).checked (hbounded c hmem)).exactWithin_le
        (meets_of_mem_sources hmem) hranged
    have hle := List.sum_le_sum (fun c hc => (hbounds c hc).2)
    simp only [Quantity.ofAccumulator, Quantity.exactOf, Quantity.estimatedOf] at htotal
    refine hexact.trans ((foldl_satAdd_eq ?_ 0 (le_refl 0) (by omega)).trans (zero_add _))
    intro x hx
    obtain ⟨c, hc, rfl⟩ := List.mem_map.mp hx
    exact (hbounds c hc).1
  · rw [exactBytes_totalsWithin query _ _ hq]
    have hzero : q.exactOf TrafficBucketAccumulator.zero = 0 := by cases q <;> rfl
    rw [hzero, zero_add]

end

/-! ## A cut -/

namespace TrafficQuery

/-- The part of the range before `midMs`. -/
def before (query : TrafficQuery) (midMs : Int) (maxPoints : Nat) : TrafficQuery :=
  { query with toMs := midMs, maxPoints := maxPoints }

/-- The part of the range from `midMs` on. -/
def onward (query : TrafficQuery) (midMs : Int) (maxPoints : Nat) : TrafficQuery :=
  { query with fromMs := midMs, maxPoints := maxPoints }

/-- The instant is strictly inside the range. -/
structure Cuts (query : TrafficQuery) (midMs : Int) : Prop where
  from_lt : query.fromMs < midMs
  lt_to : midMs < query.toMs

variable {query : TrafficQuery} {midMs : Int} {points : Nat}

theorem Ranged.before (h : query.Ranged) (hcuts : query.Cuts midMs) :
    (query.before midMs points).Ranged := by
  have hfrom := h.from_isI64
  have hto := h.to_isI64
  obtain ⟨hlo, hhi⟩ := hcuts
  exact ⟨hfrom, ⟨le_trans hfrom.1 (le_of_lt hlo), le_trans (le_of_lt hhi) hto.2⟩, hlo,
    lt_trans (Int.sub_lt_sub_right hhi _) h.length_lt⟩

theorem Ranged.onward (h : query.Ranged) (hcuts : query.Cuts midMs) :
    (query.onward midMs points).Ranged := by
  have hfrom := h.from_isI64
  have hto := h.to_isI64
  obtain ⟨hlo, hhi⟩ := hcuts
  exact ⟨⟨le_trans hfrom.1 (le_of_lt hlo), le_trans (le_of_lt hhi) hto.2⟩, hto, hhi,
    lt_trans (Int.sub_lt_sub_left hlo _) h.length_lt⟩

end TrafficQuery

section

variable {db : TrafficDb} {query : TrafficQuery} {midMs : Int} {first second : Nat}

theorem intersects_iff {c : TrafficContribution} {fromMs toMs : Int} :
    c.intersects fromMs toMs = true ↔ c.endedAtMs > fromMs ∧ c.startedAtMs < toMs :=
  decide_eq_true_iff

/-- The sources of the part before a cut are sources of the range. -/
theorem sources_before_eq (hcuts : query.Cuts midMs) :
    db.sources (query.before midMs first) =
      (db.sources query).filter (fun c => c.intersects query.fromMs midMs) := by
  have hhi := hcuts.lt_to
  unfold TrafficDb.sources
  rw [List.filter_filter]
  refine List.filter_congr fun c _ => ?_
  rw [Bool.eq_iff_iff, Bool.and_eq_true, intersects_iff, intersects_iff, intersects_iff]
  dsimp only [TrafficQuery.before]
  omega

/-- The sources of the part from a cut on are sources of the range. -/
theorem sources_onward_eq (hcuts : query.Cuts midMs) :
    db.sources (query.onward midMs second) =
      (db.sources query).filter (fun c => c.intersects midMs query.toMs) := by
  have hlo := hcuts.from_lt
  unfold TrafficDb.sources
  rw [List.filter_filter]
  refine List.filter_congr fun c _ => ?_
  rw [Bool.eq_iff_iff, Bool.and_eq_true, intersects_iff, intersects_iff, intersects_iff]
  dsimp only [TrafficQuery.onward]
  omega

/-- The slices on the two sides of a cut telescope. -/
theorem within_add (hcuts : query.Cuts midMs) {c : TrafficContribution}
    (hproper : c.span.Proper) (hmeets : c.Meets query) (q : Quantity) :
    (if c.intersects query.fromMs midMs then c.within (query.before midMs first) q else 0) +
        (if c.intersects midMs query.toMs then c.within (query.onward midMs second) q else 0) =
      c.within query q := by
  obtain ⟨hlo, hhi⟩ := hcuts
  obtain ⟨hended, hstarted⟩ := hmeets
  have hincreasing : c.startedAtMs < c.endedAtMs := hproper
  simp only [TrafficContribution.intersects, TrafficContribution.within,
    TrafficContribution.clippedStart, TrafficContribution.clippedEnd, TrafficQuery.before,
    TrafficQuery.onward, decide_eq_true_eq, gt_iff_lt]
  rcases le_or_gt c.endedAtMs midMs with hbefore | hafter
  · -- The contribution lies before the cut.
    rw [if_pos ⟨hended, by omega⟩, if_neg (by omega), add_zero,
      show min c.endedAtMs midMs = min c.endedAtMs query.toMs by omega]
  · rcases le_or_gt midMs c.startedAtMs with honward | hstraddles
    · rw [if_neg (by omega), if_pos ⟨hafter, hstarted⟩, zero_add,
        show max c.startedAtMs midMs = max c.startedAtMs query.fromMs by omega]
    · rw [if_pos ⟨hended, hstraddles⟩, if_pos ⟨hafter, hstarted⟩,
        show min c.endedAtMs midMs = midMs by omega, show max c.startedAtMs midMs = midMs by omega,
        TrafficContribution.cut_add]

/-- What is exact in a part is exact in the range, and in one part only. -/
theorem exactWithin_add_le (hcuts : query.Cuts midMs) {c : TrafficContribution} (hvalid : c.Valid)
    (q : Quantity) :
    (if c.intersects query.fromMs midMs then c.exactWithin (query.before midMs first) q else 0) +
        (if c.intersects midMs query.toMs then c.exactWithin (query.onward midMs second) q else 0) ≤
      c.exactWithin query q := by
  obtain ⟨hlo, hhi⟩ := hcuts
  have hincreasing : c.startedAtMs < c.endedAtMs := hvalid.proper
  have hnonneg := hvalid.exactQuantity_nonneg q
  simp only [TrafficContribution.exactWithin_eq, TrafficQuery.before, TrafficQuery.onward]
  split_ifs <;> omega

end

/-! ## Additivity -/

/-- Bytes and coverage of the two parts add up to those of the range, and at least as
much of the range is exact. -/
structure SplitAdditive (whole first second : TrafficQueryResult) : Prop where
  combined : ∀ q : Quantity, q.ofResult whole = q.ofResult first + q.ofResult second
  exact : ∀ q : Quantity, q.exactOfResult first + q.exactOfResult second ≤ q.exactOfResult whole

section

variable {db : TrafficDb} {query : TrafficQuery} {midMs : Int} {first second : Nat}
  {whole before onward : TrafficQueryResult} {size size₁ size₂ : Int}
  {state state₁ state₂ : FoldState}

theorem Answer.splitAdditive (h : Answer db query whole size state) (hranged : query.Ranged)
    (hbounded : ∀ c ∈ db.sources query, c.Bounded) (hcuts : query.Cuts midMs)
    (hbefore : Answer db (query.before midMs first) before size₁ state₁)
    (honward : Answer db (query.onward midMs second) onward size₂ state₂) :
    SplitAdditive whole before onward := by
  have hvalid : ∀ c ∈ db.sources query, c.Valid := fun c hc =>
    h.accepted.valid c ((mergedSources_perm db query).mem_iff.mpr hc)
  constructor
  · intro q
    rw [h.ofResult_sum q, hbefore.ofResult_sum q, honward.ofResult_sum q, sources_before_eq hcuts,
      sources_onward_eq hcuts, Table.sum_filter_ite, Table.sum_filter_ite, ← List.sum_map_add]
    refine (congrArg List.sum (List.map_congr_left ?_)).symm
    intro c hc
    exact within_add hcuts (hvalid c hc).proper (meets_of_mem_sources hc) q
  · intro q
    have hbounded₁ : ∀ c ∈ db.sources (query.before midMs first), c.Bounded := by
      rw [sources_before_eq hcuts]
      exact fun c hc => hbounded c (List.mem_of_mem_filter hc)
    have hbounded₂ : ∀ c ∈ db.sources (query.onward midMs second), c.Bounded := by
      rw [sources_onward_eq hcuts]
      exact fun c hc => hbounded c (List.mem_of_mem_filter hc)
    rw [h.exactOfResult_sum hranged hbounded q,
      hbefore.exactOfResult_sum (hranged.before hcuts) hbounded₁ q,
      honward.exactOfResult_sum (hranged.onward hcuts) hbounded₂ q, sources_before_eq hcuts,
      sources_onward_eq hcuts, Table.sum_filter_ite, Table.sum_filter_ite, ← List.sum_map_add]
    exact List.sum_le_sum (fun c hc => exactWithin_add_le hcuts (hvalid c hc) q)

end

/-- What a range of a stored interface holds: rows whose spans fit the integers, valid and
pairwise disjoint, and no more of them than a query reads. -/
structure TrafficDb.Serves (db : TrafficDb) (query : TrafficQuery) : Prop where
  owned : db.ownsRouterInterface query.routerId (some query.interfaceId) = true
  rows_le : (db.sources query).length ≤ maxTrafficSourceRows
  span_le : ∀ c ∈ db.sources query, c.endedAtMs - c.startedAtMs ≤ i64Max
  valid : ∀ c ∈ db.sources query, c.Valid
  apart : (db.sources query).Pairwise (fun c d => c.span.Apart d.span)

section

variable {db : TrafficDb} {query : TrafficQuery} {midMs : Int}

theorem TrafficDb.Serves.part (h : db.Serves query) {part : TrafficQuery}
    {p : TrafficContribution → Bool} (hpart : db.sources part = (db.sources query).filter p)
    (hrouter : part.routerId = query.routerId)
    (hinterface : part.interfaceId = query.interfaceId) : db.Serves part where
  owned := by rw [hrouter, hinterface]; exact h.owned
  rows_le := by
    rw [hpart]
    exact (List.length_filter_le _ _).trans h.rows_le
  span_le := by
    rw [hpart]
    exact fun c hc => h.span_le c (List.mem_of_mem_filter hc)
  valid := by
    rw [hpart]
    exact fun c hc => h.valid c (List.mem_of_mem_filter hc)
  apart := by
    rw [hpart]
    exact h.apart.sublist List.filter_sublist

/-- Such a range is answered. -/
theorem TrafficDb.Serves.answers (h : db.Serves query) (htyped : db.WellTyped)
    (hranged : query.Ranged) (hlimited : query.Limited)
    (hshort : query.toMs - query.fromMs + query.maxPoints ≤ i64Max) :
    ∃ result, queryTrafficV4 db query = .ok result := by
  have hbounded : ∀ c ∈ db.sources query, c.Bounded := fun c hc =>
    ⟨h.span_le c hc, (htyped.bytesFit hc).1, (htyped.bytesFit hc).2⟩
  have hrows := h.rows_le
  have haccepted := (accepted_mergedSources_iff db query).mpr ⟨h.valid, h.apart⟩
  rcases queryTrafficV4_cases hranged hlimited hshort h.owned hbounded with
    ⟨hlarge, _⟩ | ⟨_, _, result, _, _, hok, _⟩ | ⟨_, hnot, _⟩
  · omega
  · exact ⟨result, hok⟩
  · exact absurd haccepted hnot

/-- The spans of the rows of an answered range fit the integers. -/
theorem spans_of_ok {result : TrafficQueryResult} (h : queryTrafficV4 db query = .ok result) :
    ∀ c ∈ db.sources query, c.endedAtMs - c.startedAtMs ≤ i64Max := by
  unfold queryTrafficV4 queryTrafficV4WithOptions at h
  obtain ⟨_, _, h⟩ := bind_eq_ok_iff.mp h
  unfold queryTrafficV4OnConnection at h
  obtain ⟨_, _, h⟩ := bind_eq_ok_iff.mp h
  obtain ⟨resolution, hplan, _⟩ := bind_eq_ok_iff.mp h
  exact (planTrafficSources_ok maxTrafficSourceRows_lt hplan).2.2

/-- A range whose length fits the integers, cut at any instant inside: whenever the three
queries are answered, combined bytes and covered duration of the parts add up to those of
the range, and at least as much of the range is exact.  Over valid and disjoint rows, as
many as a query reads, the three queries are answered. -/
theorem range_additive (db : TrafficDb) (query : TrafficQuery) (midMs : Int) (first second : Nat)
    (htyped : db.WellTyped) (hfits : query.Fits) (hcuts : query.Cuts midMs) :
    (∀ whole before onward, queryTrafficV4 db query = .ok whole →
      queryTrafficV4 db (query.before midMs first) = .ok before →
      queryTrafficV4 db (query.onward midMs second) = .ok onward →
      SplitAdditive whole before onward) ∧
    (db.Serves query → query.Limited →
      query.toMs - query.fromMs + query.maxPoints ≤ i64Max →
      ∃ whole before onward, queryTrafficV4 db query = .ok whole ∧
        queryTrafficV4 db (query.before midMs query.maxPoints) = .ok before ∧
        queryTrafficV4 db (query.onward midMs query.maxPoints) = .ok onward) := by
  have hlo := hcuts.from_lt
  have hhi := hcuts.lt_to
  have hranged : query.Ranged :=
    ⟨hfits.from_isI64, hfits.to_isI64, lt_trans hlo hhi, hfits.length_lt⟩
  have hfitsOf : ∀ {part : TrafficQuery}, part.Ranged → part.Fits := fun h =>
    ⟨h.from_isI64, h.to_isI64, h.length_lt⟩
  constructor
  · intro whole before onward hwhole hbefore honward
    obtain ⟨size, state, hanswer⟩ :=
      queryTrafficV4_ok hfits (fun c hc => htyped.bytesFit hc) hwhole
    obtain ⟨size₁, state₁, hanswer₁⟩ :=
      queryTrafficV4_ok (hfitsOf (hranged.before hcuts)) (fun c hc => htyped.bytesFit hc) hbefore
    obtain ⟨size₂, state₂, hanswer₂⟩ :=
      queryTrafficV4_ok (hfitsOf (hranged.onward hcuts)) (fun c hc => htyped.bytesFit hc) honward
    have hbounded : ∀ c ∈ db.sources query, c.Bounded := fun c hc =>
      ⟨spans_of_ok hwhole c hc, (htyped.bytesFit hc).1, (htyped.bytesFit hc).2⟩
    exact hanswer.splitAdditive hranged hbounded hcuts hanswer₁ hanswer₂
  · intro hserves hlimited hshort
    obtain ⟨whole, hwhole⟩ := hserves.answers htyped hranged hlimited hshort
    have hserves₁ : db.Serves (query.before midMs query.maxPoints) :=
      hserves.part (sources_before_eq hcuts) rfl rfl
    have hserves₂ : db.Serves (query.onward midMs query.maxPoints) :=
      hserves.part (sources_onward_eq hcuts) rfl rfl
    obtain ⟨before, hbefore⟩ := hserves₁.answers htyped (hranged.before hcuts)
      ⟨hlimited.positive, hlimited.le_limit⟩ (by
        simp only [TrafficQuery.before]
        omega)
    obtain ⟨onward, honward⟩ := hserves₂.answers htyped (hranged.onward hcuts)
      ⟨hlimited.positive, hlimited.le_limit⟩ (by
        simp only [TrafficQuery.onward]
        omega)
    exact ⟨whole, before, onward, hwhole, hbefore, honward⟩

theorem range_additive_withTraffic :
    ∃ whole before onward, queryTrafficV4 TrafficDb.withTraffic ⟨1, 1, 10, 80000, 3⟩ = .ok whole ∧
      queryTrafficV4 TrafficDb.withTraffic ⟨1, 1, 10, 50000, 3⟩ = .ok before ∧
      queryTrafficV4 TrafficDb.withTraffic ⟨1, 1, 50000, 80000, 3⟩ = .ok onward ∧
      SplitAdditive whole before onward := by
  obtain ⟨hadditive, hanswered⟩ := range_additive TrafficDb.withTraffic ⟨1, 1, 10, 80000, 3⟩ 50000
    3 3 withTraffic_wellTyped ⟨by decide, by decide, by decide⟩ ⟨by decide, by decide⟩
  obtain ⟨whole, before, onward, hwhole, hbefore, honward⟩ := hanswered
    ⟨by decide, by decide, by decide, by decide, by decide⟩ ⟨by decide, by decide⟩ (by decide)
  exact ⟨whole, before, onward, hwhole, hbefore, honward,
    hadditive whole before onward hwhole hbefore honward⟩

/-- What covers the range of an answered query. -/
def coveredBy (db : TrafficDb) (query : TrafficQuery) : Option Int :=
  (queryTrafficV4 db query).toOption.map Quantity.durationMs.ofResult

/-- Over the whole time line the covered duration saturates: the two halves are covered
for one millisecond more than the whole. -/
theorem range_additive_fails :
    (∀ c ∈ TrafficDb.withQuarters.sources
        ⟨1, 1, -9223372036854775808, 9223372036854775807, 2⟩, c.Valid) ∧
      (TrafficDb.withQuarters.sources
        ⟨1, 1, -9223372036854775808, 9223372036854775807, 2⟩).Pairwise
          (fun c d => c.span.Apart d.span) ∧
      coveredBy TrafficDb.withQuarters
        ⟨1, 1, -9223372036854775808, 9223372036854775807, 2⟩ = some 9223372036854775807 ∧
      coveredBy TrafficDb.withQuarters
        ⟨1, 1, -9223372036854775808, -4611686018427387904, 2⟩ = some 4611686018427387904 ∧
      coveredBy TrafficDb.withQuarters
        ⟨1, 1, -4611686018427387904, 9223372036854775807, 2⟩ = some 4611686018427387904 := by
  refine ⟨by decide, by decide, ?_, ?_, ?_⟩ <;> decide +kernel

end

end RouterView.Db
