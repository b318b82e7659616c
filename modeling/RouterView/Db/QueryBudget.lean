/-
  Db/QueryBudget.lean --- the row budget of a query.

  The plan counts the rows of a range with two limited statements, the fold
  reads them with two unlimited ones and a counter of its own.  They agree: what
  the plan accepts the fold reads to the end, and its totals miss no row.
-/
import RouterView.Db.QueryAnswer

set_option autoImplicit false

namespace RouterView.Db

open RouterView.Foundation

/-! ## The resolution -/

/-- The longest of some durations, and at least one millisecond. -/
def longest (durations : List Int) : Int := durations.foldr max 1

theorem longest_append (l m : List Int) : longest (l ++ m) = max (longest l) (longest m) := by
  induction l with
  | nil =>
      have hone : ∀ m : List Int, 1 ≤ longest m := by
        intro m
        induction m with
        | nil => exact le_refl 1
        | cons d rest ih => exact le_trans ih (le_max_right _ _)
      exact (max_eq_right (hone m)).symm
  | cons d rest ih =>
      show max d (longest (rest ++ m)) = max (max d (longest rest)) (longest m)
      rw [ih, max_assoc]

/-- `COALESCE(MAX(..), 1)`, raised to one, is the longest duration. -/
theorem max_coalesce_eq_longest (l : List Int) : max (l.max?.getD 1) 1 = longest l := by
  induction l with
  | nil => rfl
  | cons d rest ih =>
      show max (((d :: rest).max?).getD 1) 1 = max d (longest rest)
      rw [← ih, List.max?_cons]
      cases rest.max? with
      | none => simp
      | some m => simp [max_assoc]

theorem max_max_one (a b : Int) : max (max a b) 1 = max (max a 1) (max b 1) := by omega

/-- The resolution of the sources of a range. -/
def TrafficDb.sourceResolution (db : TrafficDb) (query : TrafficQuery) : Int :=
  longest ((db.sources query).map (fun c => c.endedAtMs - c.startedAtMs))

theorem sourceResolution_eq (db : TrafficDb) (query : TrafficQuery) :
    db.sourceResolution query =
      max (longest ((db.sampleSources query).map (fun s => s.endedAtMs - s.startedAtMs)))
        (longest ((db.rollupSources query).map (fun r => r.bucketEndMs - r.bucketStartMs))) := by
  unfold TrafficDb.sourceResolution
  rw [sources_eq, List.map_append, longest_append, List.map_map, List.map_map]
  rfl

/-! ## The plan -/

/-- The longest difference that a statement computes is read as an integer. -/
def Readable (durations : List Int) : Prop := IsI64 (durations.max?.getD 1)

/-- Positive differences are read exactly when each of them is an integer. -/
theorem readable_iff {durations : List Int} (hpositive : ∀ d ∈ durations, 0 < d) :
    Readable durations ↔ ∀ d ∈ durations, d ≤ i64Max := by
  unfold Readable
  cases hcase : durations.max? with
  | none =>
      rw [List.max?_eq_none_iff.mp hcase]
      exact ⟨fun _ d hd => absurd hd List.not_mem_nil, fun _ => by decide⟩
  | some m =>
      obtain ⟨hmem, hle⟩ := List.max?_eq_some_iff.mp hcase
      constructor
      · intro h d hd
        exact le_trans (hle d hd) h.2
      · intro h
        have := hpositive m hmem
        exact ⟨by simp only [Option.getD_some, i64Min]; omega, h m hmem⟩

theorem saturatingSucc_isI64_iff {n : Nat} : IsI64 (saturatingSucc n : Nat) ↔ (n : Int) < i64Max := by
  simp only [IsI64, saturatingSucc, i64Min, i64Max]
  omega

/-- A statement limited to one row more than allowed succeeds without exceeding
what is allowed exactly when it was not cut off, and then it saw every row. -/
theorem boundedSourceSummary_within_iff {durations : List Int} {allowed : Nat}
    {s : TrafficSourceSummary} :
    (boundedSourceSummary durations (saturatingSucc allowed) = .ok s ∧ ¬ s.rowCount > allowed) ↔
      (allowed : Int) < i64Max ∧ durations.length ≤ allowed ∧ Readable durations ∧
        s = ⟨durations.length, durations.max?.getD 1⟩ := by
  rw [boundedSourceSummary_eq_ok_iff, saturatingSucc_isI64_iff]
  constructor
  · rintro ⟨⟨hallowed, hmax, rfl⟩, hrows⟩
    rw [saturatingSucc_eq hallowed] at hmax hrows ⊢
    simp only [List.length_take] at hrows
    rw [List.take_of_length_le (by omega)] at hmax ⊢
    exact ⟨hallowed, by omega, hmax, rfl⟩
  · rintro ⟨hallowed, hrows, hmax, rfl⟩
    rw [saturatingSucc_eq hallowed, List.take_of_length_le (by omega)]
    exact ⟨⟨hallowed, hmax, rfl⟩, by simp only; omega⟩

variable {db : TrafficDb} {query : TrafficQuery} {budget : Nat}

/-- When the plan accepts, and with which resolution: the limit is an integer,
so are both maxima, and the rows of the two tables together are within the
budget. -/
theorem planTrafficSources_eq_ok_iff {resolution : Int} :
    planTrafficSources db query budget = .ok resolution ↔
      (budget : Int) < i64Max ∧ (db.sources query).length ≤ budget ∧
        Readable ((db.sampleSources query).map (fun s => s.endedAtMs - s.startedAtMs)) ∧
        Readable ((db.rollupSources query).map (fun r => r.bucketEndMs - r.bucketStartMs)) ∧
        resolution = db.sourceResolution query := by
  rw [sources_length, sourceResolution_eq, ← max_coalesce_eq_longest, ← max_coalesce_eq_longest]
  unfold planTrafficSources boundedSampleSummary boundedRollupSummary
  constructor
  · intro h
    obtain ⟨samples, hsamples, h⟩ := bind_eq_ok_iff.mp h
    obtain ⟨hsampleRows, h⟩ := ensure_bind_eq_ok_iff.mp h
    obtain ⟨rollups, hrollups, h⟩ := bind_eq_ok_iff.mp h
    obtain ⟨hrollupRows, h⟩ := ensure_bind_eq_ok_iff.mp h
    simp only [pure_eq_ok, Except.ok.injEq] at h
    obtain ⟨hbudget, hsampleCount, hsampleMax, rfl⟩ :=
      boundedSourceSummary_within_iff.mp ⟨hsamples, hsampleRows⟩
    obtain ⟨_, hrollupCount, hrollupMax, rfl⟩ :=
      boundedSourceSummary_within_iff.mp ⟨hrollups, hrollupRows⟩
    simp only [List.length_map] at hsampleCount hrollupCount
    exact ⟨hbudget, by omega, hsampleMax, hrollupMax, h.symm.trans (max_max_one _ _)⟩
  · rintro ⟨hbudget, hrows, hsampleMax, hrollupMax, rfl⟩
    obtain ⟨hsamples, hsampleRows⟩ := boundedSourceSummary_within_iff.mpr
      ⟨hbudget, by rw [List.length_map]; omega, hsampleMax, rfl⟩
    obtain ⟨hrollups, hrollupRows⟩ := boundedSourceSummary_within_iff.mpr
      ⟨show ((budget - (db.sampleSources query).length : Nat) : Int) < i64Max by omega,
        by rw [List.length_map]; omega, hrollupMax, rfl⟩
    simp only [List.length_map] at hsamples hrollups hrollupRows
    rw [hsamples, ok_bind, ensure_of (by simp only; omega), ok_bind]
    simp only
    rw [hrollups, ok_bind, ensure_of (by simp only; omega), ok_bind, pure_eq_ok, Except.ok.injEq]
    exact max_max_one _ _

/-- Of rows that end after they start, the two maxima are read exactly when the
span of every row is an integer. -/
theorem readable_sources_iff (hproper : ∀ c ∈ db.sources query, c.span.Proper) :
    (Readable ((db.sampleSources query).map (fun s => s.endedAtMs - s.startedAtMs)) ∧
      Readable ((db.rollupSources query).map (fun r => r.bucketEndMs - r.bucketStartMs))) ↔
      ∀ c ∈ db.sources query, c.endedAtMs - c.startedAtMs ≤ i64Max := by
  have hpositive : ∀ c ∈ db.sources query, 0 < c.endedAtMs - c.startedAtMs := by
    intro c hc
    have : c.startedAtMs < c.endedAtMs := hproper c hc
    omega
  rw [sources_eq] at hpositive ⊢
  simp only [List.mem_append, List.mem_map, or_imp, forall_and, forall_exists_index, and_imp,
    forall_apply_eq_imp_iff₂, TrafficContribution.ofSample, TrafficContribution.ofRollup]
    at hpositive ⊢
  rw [readable_iff (List.forall_mem_map.mpr hpositive.1),
    readable_iff (List.forall_mem_map.mpr hpositive.2), List.forall_mem_map, List.forall_mem_map]

/-! ## The fold -/

/-- The error with which a query rejects overlapping contributions. -/
def overlapRejection : DatabaseError :=
  .verification "stored traffic contributions overlap for one interface"

/-- A failure that reports stored rows as wrong. -/
def IsVerification (e : DatabaseError) : Prop := ∃ message, e = .verification message

/-- A failure to allocate a contribution: a row is wrong, but not for its overlap. -/
def IsAllocationFailure (e : DatabaseError) : Prop := IsVerification e ∧ e ≠ overlapRejection

theorem proportionalSlice_failsOnly (value durationMs relativeStartMs relativeEndMs : Int) :
    FailsOnly IsAllocationFailure
      (proportionalSlice value durationMs relativeStartMs relativeEndMs) := by
  unfold proportionalSlice
  refine FailsOnly.bind (FailsOnly.ensure fun _ => ⟨⟨_, rfl⟩, by decide⟩) fun _ _ => ?_
  refine FailsOnly.bind (FailsOnly.okOr fun _ => ⟨⟨_, rfl⟩, by decide⟩) fun _ _ => ?_
  exact FailsOnly.bind (FailsOnly.okOr fun _ => ⟨⟨_, rfl⟩, by decide⟩) fun _ _ => FailsOnly.ok _

theorem addSegment_failsOnly (acc : TrafficBucketAccumulator) (c : TrafficContribution)
    (segmentStart segmentEnd : Int) :
    FailsOnly IsAllocationFailure (acc.addSegment c segmentStart segmentEnd) := by
  unfold TrafficBucketAccumulator.addSegment
  dsimp only
  split
  · exact FailsOnly.ok _
  · refine FailsOnly.bind (proportionalSlice_failsOnly _ _ _ _) fun _ _ => ?_
    refine FailsOnly.bind (proportionalSlice_failsOnly _ _ _ _) fun _ _ => ?_
    refine FailsOnly.bind (proportionalSlice_failsOnly _ _ _ _) fun _ _ => ?_
    exact FailsOnly.bind (FailsOnly.okOr fun _ => ⟨⟨_, rfl⟩, by decide⟩) fun _ _ => FailsOnly.ok _

theorem addSegments_failsOnly (query : TrafficQuery) (bucketSizeMs : Int)
    (c : TrafficContribution) (clippedEnd : Int) (left : Nat) :
    ∀ (segmentStart : Int) (buckets : OrdMap Int TrafficBucketAccumulator),
      FailsOnly IsAllocationFailure
        (addSegments query bucketSizeMs c clippedEnd left segmentStart buckets) := by
  induction left with
  | zero => exact fun _ _ => FailsOnly.ok _
  | succ left ih =>
      intro segmentStart buckets
      unfold addSegments
      split
      · refine FailsOnly.bind (FailsOnly.ensure fun _ => ⟨⟨_, rfl⟩, by decide⟩) fun _ _ => ?_
        exact FailsOnly.bind (addSegment_failsOnly _ _ _ _) fun _ _ => ih _ _
      · exact FailsOnly.ok _

theorem accumulateTrafficContribution_failsOnly (query : TrafficQuery) (bucketSizeMs : Int)
    (c : TrafficContribution) (buckets : OrdMap Int TrafficBucketAccumulator)
    (totals : TrafficBucketAccumulator) :
    FailsOnly IsAllocationFailure
      (accumulateTrafficContribution query bucketSizeMs c buckets totals) := by
  unfold accumulateTrafficContribution
  refine FailsOnly.bind (addSegment_failsOnly _ _ _ _) fun _ _ => ?_
  exact FailsOnly.bind (addSegments_failsOnly _ _ _ _ _ _ _) fun _ _ => FailsOnly.ok _

theorem foldTrafficContribution_verifies (query : TrafficQuery) (bucketSizeMs : Int)
    (c : TrafficContribution) (state : FoldState) :
    FailsOnly IsVerification (foldTrafficContribution query bucketSizeMs c state) := by
  unfold foldTrafficContribution validateTrafficContribution
  refine FailsOnly.bind ?_ fun _ _ => FailsOnly.bind ?_ fun _ _ => FailsOnly.ok _
  · exact FailsOnly.bind (FailsOnly.ensure fun _ => ⟨_, rfl⟩)
      fun _ _ => FailsOnly.ensure fun _ => ⟨_, rfl⟩
  · exact (accumulateTrafficContribution_failsOnly _ _ _ _ _).imp fun _ h => h.1

/-- The loop over the rows has no budget of its own: it only rejects rows. -/
theorem foldInOrder_verifies (query : TrafficQuery) (bucketSizeMs : Int)
    (l : List TrafficContribution) :
    ∀ state, FailsOnly IsVerification (foldInOrder query bucketSizeMs l state) := by
  induction l with
  | nil =>
      intro state
      exact .ok _
  | cons c rest ih =>
      intro state
      rw [foldInOrder_cons]
      exact (foldTrafficContribution_verifies _ _ _ _).bind (fun state' _ => ih state')

/-! ## The totals -/

/-- The sums of bytes; durations saturate instead. -/
def Quantity.IsBytes (q : Quantity) : Prop := q ≠ .durationMs

theorem plus_bytes (acc part : TrafficBucketAccumulator) {q : Quantity} (hq : q.IsBytes) :
    q.ofAccumulator (acc.plus part) = q.ofAccumulator acc + q.ofAccumulator part := by
  cases q with
  | downloadBytes =>
      simp only [TrafficBucketAccumulator.plus, Quantity.ofAccumulator, Quantity.exactOf,
        Quantity.estimatedOf]
      omega
  | uploadBytes =>
      simp only [TrafficBucketAccumulator.plus, Quantity.ofAccumulator, Quantity.exactOf,
        Quantity.estimatedOf]
      omega
  | durationMs => exact absurd rfl hq

theorem part_bytes {c : TrafficContribution} (h : c.Checked) (a b : Int) {q : Quantity}
    (hq : q.IsBytes) : q.ofAccumulator (c.part a b) = c.cut q a b := by
  unfold TrafficContribution.part
  split
  · rename_i hwhole
    obtain ⟨rfl, rfl⟩ := hwhole
    rw [h.cut_whole q]
    cases q with
    | downloadBytes => rfl
    | uploadBytes => rfl
    | durationMs => exact absurd rfl hq
  · cases q with
    | downloadBytes => exact zero_add _
    | uploadBytes => exact zero_add _
    | durationMs => exact absurd rfl hq

/-- One pass of the fold adds the part of its row inside the range. -/
theorem foldTrafficContribution_totals {bucketSizeMs : Int} {c : TrafficContribution}
    {state state' : FoldState} (hincreasing : query.fromMs < query.toMs) (hbounded : c.Bounded)
    (hmeets : c.Meets query) (hacc : IsI64 state.totals.exactDurationMs)
    (h : foldTrafficContribution query bucketSizeMs c state = .ok state') :
    c.Checked ∧ state'.totals =
      state.totals.plus (c.part (c.clippedStart query) (c.clippedEnd query)) := by
  obtain ⟨_, hvalidated, h⟩ := bind_eq_ok_iff.mp h
  obtain ⟨⟨buckets, totals⟩, haccumulated, h⟩ := bind_eq_ok_iff.mp h
  obtain ⟨totals', htotals, haccumulated⟩ := bind_eq_ok_iff.mp haccumulated
  obtain ⟨_, _, hpair⟩ := bind_eq_ok_iff.mp haccumulated
  have hchecked := (ensure_bind_eq_ok_iff.mp hvalidated).1.checked hbounded
  have hproper := hchecked.increasing
  obtain ⟨hended, hstarted⟩ := hmeets
  have hsegment : c.Segment (max c.startedAtMs query.fromMs) (min c.endedAtMs query.toMs) :=
    ⟨le_max_left _ _, by omega, min_le_left _ _⟩
  rw [addSegment_eq hchecked hbounded hsegment hacc] at htotals
  cases htotals
  cases hpair
  cases h
  exact ⟨hchecked, rfl⟩

/-- Add the parts of the contributions inside the range, in order. -/
def addWithin (query : TrafficQuery) (acc : TrafficBucketAccumulator)
    (l : List TrafficContribution) : TrafficBucketAccumulator :=
  l.foldl (fun acc c => acc.plus (c.part (c.clippedStart query) (c.clippedEnd query))) acc

/-- The fold adds the parts of all its rows. -/
theorem foldInOrder_totals {bucketSizeMs : Int} (hincreasing : query.fromMs < query.toMs)
    {l : List TrafficContribution} :
    ∀ {state state' : FoldState}, (∀ c ∈ l, c.Bounded) → (∀ c ∈ l, c.Meets query) →
      IsI64 state.totals.exactDurationMs →
      foldInOrder query bucketSizeMs l state = .ok state' →
      (∀ c ∈ l, c.Checked) ∧ state'.totals = addWithin query state.totals l := by
  induction l with
  | nil =>
      intro state state' _ _ _ h
      cases h
      exact ⟨fun c hc => absurd hc List.not_mem_nil, rfl⟩
  | cons c rest ih =>
      intro state state' hbounded hmeets hacc h
      rw [foldInOrder_cons] at h
      obtain ⟨middle, hmiddle, h⟩ := bind_eq_ok_iff.mp h
      obtain ⟨hchecked, htotals⟩ := foldTrafficContribution_totals hincreasing
        (hbounded c List.mem_cons_self) (hmeets c List.mem_cons_self) hacc hmiddle
      obtain ⟨hrest, hfinal⟩ := ih (fun d hd => hbounded d (List.mem_cons_of_mem _ hd))
        (fun d hd => hmeets d (List.mem_cons_of_mem _ hd))
        (by rw [htotals]; exact clampI64_isI64 _) h
      refine ⟨List.forall_mem_cons.mpr ⟨hchecked, hrest⟩, ?_⟩
      rw [hfinal, htotals]
      rfl

/-- The bytes that are added are the slices of all the contributions. -/
theorem addWithin_bytes {q : Quantity} (hq : q.IsBytes) {l : List TrafficContribution} :
    ∀ acc : TrafficBucketAccumulator, (∀ c ∈ l, c.Checked) →
      q.ofAccumulator (addWithin query acc l) =
        q.ofAccumulator acc + (l.map (fun c => c.within query q)).sum := by
  induction l with
  | nil =>
      intro acc _
      exact (add_zero _).symm
  | cons c rest ih =>
      intro acc hchecked
      calc q.ofAccumulator (addWithin query acc (c :: rest))
          = q.ofAccumulator
              (acc.plus (c.part (c.clippedStart query) (c.clippedEnd query))) +
              (rest.map (fun c => c.within query q)).sum :=
            ih _ (fun d hd => hchecked d (List.mem_cons_of_mem _ hd))
        _ = q.ofAccumulator acc + c.within query q +
              (rest.map (fun c => c.within query q)).sum := by
            rw [plus_bytes acc _ hq, part_bytes (hchecked c List.mem_cons_self) _ _ hq]
            rfl
        _ = q.ofAccumulator acc + ((c :: rest).map (fun c => c.within query q)).sum := by
            rw [List.map_cons, List.sum_cons, add_assoc]

/-! ## The agreement -/

/-- The plan accepts exactly the ranges whose rows are within the budget, as far
as the limit of its statements and the span of every row are 64-bit integers,
and its resolution is the longest span.  Where it accepts, the fold is the loop
over all the rows of the range, without a failure of the budget, and the totals
are the sums over all of them. -/
theorem row_budget_agreement (db : TrafficDb) (query : TrafficQuery) (budget : Nat)
    (htyped : db.WellTyped) (hproper : ∀ c ∈ db.sources query, c.span.Proper) :
    (∀ resolution, planTrafficSources db query budget = .ok resolution ↔
      (budget : Int) < i64Max ∧
        (∀ c ∈ db.sources query, c.endedAtMs - c.startedAtMs ≤ i64Max) ∧
        (db.sources query).length ≤ budget ∧ resolution = db.sourceResolution query) ∧
      ((budget : Int) < i64Max →
        (∀ c ∈ db.sources query, c.endedAtMs - c.startedAtMs ≤ i64Max) →
        budget < (db.sources query).length →
        planTrafficSources db query budget = .error (.trafficQueryTooLarge budget)) ∧
      (db.mergedSources query).Perm (db.sources query) ∧
      ∀ resolution, planTrafficSources db query budget = .ok resolution → ∀ bucketSizeMs,
        foldTrafficContributions db query bucketSizeMs budget =
            foldInOrder query bucketSizeMs (db.mergedSources query) .initial ∧
          (∀ limit, foldTrafficContributions db query bucketSizeMs budget ≠
            .error (.trafficQueryTooLarge limit)) ∧
          ∀ state, query.fromMs < query.toMs →
            foldTrafficContributions db query bucketSizeMs budget = .ok state →
            state.totals = totalsWithin query (db.mergedSources query) ∧
              ∀ q : Quantity, q.IsBytes → q.ofAccumulator state.totals =
                ((db.sources query).map (fun c => c.within query q)).sum := by
  have hperm := mergedSources_perm db query
  have hreadable := readable_sources_iff hproper
  have haccepts : ∀ resolution, planTrafficSources db query budget = .ok resolution ↔
      (budget : Int) < i64Max ∧
        (∀ c ∈ db.sources query, c.endedAtMs - c.startedAtMs ≤ i64Max) ∧
        (db.sources query).length ≤ budget ∧ resolution = db.sourceResolution query := by
    intro resolution
    rw [planTrafficSources_eq_ok_iff, ← hreadable]
    constructor
    · rintro ⟨hbudget, hrows, hsamples, hrollups, hresolution⟩
      exact ⟨hbudget, ⟨hsamples, hrollups⟩, hrows, hresolution⟩
    · rintro ⟨hbudget, ⟨hsamples, hrollups⟩, hrows, hresolution⟩
      exact ⟨hbudget, hrows, hsamples, hrollups, hresolution⟩
  refine ⟨haccepts, ?_, hperm, ?_⟩
  · intro hbudget hspans hrows
    have hspan : ∀ c ∈ db.sources query, IsI64 (c.endedAtMs - c.startedAtMs) := by
      intro c hc
      have : c.startedAtMs < c.endedAtMs := hproper c hc
      exact ⟨by simp only [i64Min]; omega, hspans c hc⟩
    have hplan := planTrafficSources_eq hbudget hspan
    rwa [if_neg (by omega)] at hplan
  · intro resolution hplan bucketSizeMs
    obtain ⟨_, hspans, hrows, _⟩ := (haccepts resolution).mp hplan
    rw [foldTrafficContributions_eq hrows]
    refine ⟨rfl, ?_, ?_⟩
    · intro limit herror
      obtain ⟨message, hmessage⟩ := foldInOrder_verifies _ _ _ _ _ herror
      cases hmessage
    · intro state hincreasing hfold
      have hbounded : ∀ c ∈ db.mergedSources query, c.Bounded := by
        intro c hc
        have hmem := hperm.mem_iff.mp hc
        exact ⟨hspans c hmem, (htyped.bytesFit hmem).1, (htyped.bytesFit hmem).2⟩
      obtain ⟨hchecked, htotals⟩ := foldInOrder_totals hincreasing hbounded
        (fun c hc => meets_of_mem_sources (hperm.mem_iff.mp hc)) (by decide) hfold
      refine ⟨htotals, ?_⟩
      intro q hq
      have hzero : q.ofAccumulator FoldState.initial.totals = 0 := by cases q <;> rfl
      rw [htotals, addWithin_bytes hq _ hchecked, hzero, zero_add]
      exact (hperm.map _).sum_eq

/-- Two rows, one in either table, at a budget of two. -/
theorem row_budget_agreement_withTraffic :
    planTrafficSources TrafficDb.withTraffic ⟨1, 1, 10, 80000, 3⟩ 2 = .ok 60000 ∧
      planTrafficSources TrafficDb.withTraffic ⟨1, 1, 10, 80000, 3⟩ 1 =
        .error (.trafficQueryTooLarge 1) := by
  have hproper : ∀ c ∈ TrafficDb.withTraffic.sources ⟨1, 1, 10, 80000, 3⟩, c.span.Proper := by
    decide
  have htwo := row_budget_agreement TrafficDb.withTraffic ⟨1, 1, 10, 80000, 3⟩ 2
    withTraffic_wellTyped hproper
  have hone := row_budget_agreement TrafficDb.withTraffic ⟨1, 1, 10, 80000, 3⟩ 1
    withTraffic_wellTyped hproper
  exact ⟨(htwo.1 60000).mpr ⟨by decide, by decide, by decide, by decide⟩,
    hone.2.1 (by decide) (by decide) (by decide)⟩

/-- A row that spans all the non-negative timestamps and one millisecond more. -/
def TrafficDb.withLongSample : TrafficDb :=
  { TrafficDb.withInterface with
    trafficSamples := ⟨[{
      id := 1
      routerId := 1
      interfaceId := 1
      startedAtMs := -1
      endedAtMs := 9223372036854775807
      durationMs := 9223372036854775807
      downloadBytes := 0
      uploadBytes := 0
      downloadBps := .finite 0
      uploadBps := .finite 0
      quality := .exact
      source := "routeros-counter" }], 1⟩ }

/-- Not every range within the budget is accepted: the limit of the largest
budgets is no 64-bit integer, and nor is the span of the longest rows. -/
theorem row_budget_agreement_fails :
    ((TrafficDb.withTraffic.sources ⟨1, 1, 10, 80000, 3⟩).length ≤ 9223372036854775807 ∧
      planTrafficSources TrafficDb.withTraffic ⟨1, 1, 10, 80000, 3⟩ 9223372036854775807 =
        .error (.invalidCommand "traffic source-row budget cannot be represented")) ∧
      (TrafficDb.withLongSample.sources ⟨1, 1, 10, 80000, 3⟩).length ≤ 1 ∧
      planTrafficSources TrafficDb.withLongSample ⟨1, 1, 10, 80000, 3⟩ 1 = .error .sqlite := by
  decide +kernel

end RouterView.Db
