/-
  Db/QueryFold.lean --- the fold of a query over the merged sources.

  The merge loop visits the rows of both sources in the order of their ends.
  It compares a contribution only with the one before it; because the ends
  grow, that finds every overlap.  The invariant says what totals and points
  hold after any number of contributions.
-/
import RouterView.Db.QuerySegments

set_option autoImplicit false

namespace RouterView.Db

open RouterView.Foundation

/-! ## The merged order -/

/-- The rows of both sources in the order in which the loop visits them. -/
def mergeContributions (samples rollups : List TrafficContribution) : List TrafficContribution :=
  samples.merge rollups (fun c d => decide (c.orderKey ≤ d.orderKey))

theorem nextContribution_none {samples rollups : List TrafficContribution}
    (h : nextContribution samples rollups = none) : mergeContributions samples rollups = [] := by
  cases samples with
  | nil =>
      cases rollups with
      | nil => exact List.nil_merge _
      | cons rollup rollups => simp [nextContribution] at h
  | cons sample samples =>
      cases rollups with
      | nil => simp [nextContribution] at h
      | cons rollup rollups =>
          simp only [nextContribution] at h
          split at h <;> cases h

theorem nextContribution_some {samples rollups samples' rollups' : List TrafficContribution}
    {c : TrafficContribution}
    (h : nextContribution samples rollups = some (c, samples', rollups')) :
    mergeContributions samples rollups = c :: mergeContributions samples' rollups' := by
  unfold mergeContributions
  cases samples with
  | nil =>
      cases rollups with
      | nil => simp [nextContribution] at h
      | cons rollup rollups =>
          simp only [nextContribution, Option.some.injEq, Prod.mk.injEq] at h
          obtain ⟨rfl, rfl, rfl⟩ := h
          simp
  | cons sample samples =>
      cases rollups with
      | nil =>
          simp only [nextContribution, Option.some.injEq, Prod.mk.injEq] at h
          obtain ⟨rfl, rfl, rfl⟩ := h
          simp
      | cons rollup rollups =>
          simp only [nextContribution] at h
          rw [List.cons_merge_cons]
          split at h <;> rename_i hle <;>
            simp only [Option.some.injEq, Prod.mk.injEq] at h <;>
            obtain ⟨rfl, rfl, rfl⟩ := h <;> simp [hle]

theorem mergeContributions_perm (samples rollups : List TrafficContribution) :
    (mergeContributions samples rollups).Perm (samples ++ rollups) :=
  List.merge_perm_append _

theorem mergeContributions_sorted {samples rollups : List TrafficContribution}
    (hsamples : samples.Pairwise (fun c d => c.orderKey ≤ d.orderKey))
    (hrollups : rollups.Pairwise (fun c d => c.orderKey ≤ d.orderKey)) :
    (mergeContributions samples rollups).Pairwise (fun c d => c.orderKey ≤ d.orderKey) := by
  have hmerged : (samples.merge rollups (fun c d => decide (c.orderKey ≤ d.orderKey))).Pairwise
      (fun c d => decide (c.orderKey ≤ d.orderKey) = true) := List.pairwise_merge
    (fun a b c hab hbc => by
      simp only [decide_eq_true_eq] at *
      exact le_trans hab hbc)
    (fun a b => by
      simp only [Bool.or_eq_true, decide_eq_true_eq]
      exact le_total _ _)
    samples rollups (by simpa using hsamples) (by simpa using hrollups)
  simpa [mergeContributions] using hmerged

/-- The loop over all contributions. -/
def foldInOrder (query : TrafficQuery) (bucketSizeMs : Int)
    (contributions : List TrafficContribution) (state : FoldState) : DatabaseResult FoldState :=
  contributions.foldlM (fun state c => foldTrafficContribution query bucketSizeMs c state) state

theorem foldInOrder_cons (query : TrafficQuery) (bucketSizeMs : Int) (c : TrafficContribution)
    (rest : List TrafficContribution) (state : FoldState) :
    foldInOrder query bucketSizeMs (c :: rest) state =
      foldTrafficContribution query bucketSizeMs c state >>=
        foldInOrder query bucketSizeMs rest := List.foldlM_cons

/-- Within the row budget, the merge loop is the loop over the merged rows. -/
theorem foldMerged_eq (query : TrafficQuery) (bucketSizeMs : Int) (sourceRowBudget : Nat) :
    ∀ (allowed : Nat) (samples rollups : List TrafficContribution) (state : FoldState),
      samples.length + rollups.length ≤ allowed →
      foldMerged query bucketSizeMs sourceRowBudget allowed samples rollups state =
        foldInOrder query bucketSizeMs (mergeContributions samples rollups) state := by
  intro allowed
  induction allowed with
  | zero =>
      intro samples rollups state hlength
      have hsamples : samples = [] := List.length_eq_zero_iff.mp (by omega)
      have hrollups : rollups = [] := List.length_eq_zero_iff.mp (by omega)
      subst hsamples hrollups
      rw [nextContribution_none rfl]
      rfl
  | succ allowed ih =>
      intro samples rollups state hlength
      simp only [foldMerged]
      cases hnext : nextContribution samples rollups with
      | none =>
          rw [nextContribution_none hnext]
          rfl
      | some next =>
          obtain ⟨c, samples', rollups'⟩ := next
          have hmerge := nextContribution_some hnext
          have hcount := (mergeContributions_perm samples rollups).length_eq
          have hcount' := (mergeContributions_perm samples' rollups').length_eq
          rw [hmerge] at hcount ⊢
          simp only [List.length_cons, List.length_append] at hcount hcount'
          simp only [foldInOrder, List.foldlM_cons]
          refine congrArg _ ?_
          funext state'
          exact ih samples' rollups' state' (by omega)

/-! ## Acceptance -/

/-- The contribution starts after the previous end. -/
def StartsAfter (previousEnd : Option Int) (c : TrafficContribution) : Prop :=
  ∀ stop, previousEnd = some stop → stop ≤ c.startedAtMs

/-- The contributions are valid and listed in order, after the previous end. -/
structure Accepted (previousEnd : Option Int) (l : List TrafficContribution) : Prop where
  valid : ∀ c ∈ l, c.Valid
  ordered : l.Pairwise (fun c d => c.span.Before d.span)
  after : ∀ c ∈ l, StartsAfter previousEnd c

theorem accepted_nil (previousEnd : Option Int) : Accepted previousEnd [] :=
  ⟨by simp, List.Pairwise.nil, by simp⟩

theorem accepted_cons_iff {previousEnd : Option Int} {c : TrafficContribution}
    {rest : List TrafficContribution} :
    Accepted previousEnd (c :: rest) ↔
      c.Valid ∧ StartsAfter previousEnd c ∧ Accepted (some c.endedAtMs) rest := by
  constructor
  · rintro ⟨hvalid, hordered, hafter⟩
    rw [List.pairwise_cons] at hordered
    refine ⟨hvalid c List.mem_cons_self, hafter c List.mem_cons_self,
      fun d hd => hvalid d (List.mem_cons_of_mem _ hd), hordered.2, ?_⟩
    intro d hd stop hstop
    cases hstop
    exact hordered.1 d hd
  · rintro ⟨hvalid, hafter, hrest⟩
    refine ⟨?_, List.pairwise_cons.mpr ⟨fun d hd => hrest.after d hd _ rfl, hrest.ordered⟩, ?_⟩
    · intro d hd
      rcases List.mem_cons.mp hd with rfl | hd
      · exact hvalid
      · exact hrest.valid d hd
    · intro d hd stop hstop
      rcases List.mem_cons.mp hd with rfl | hd
      · exact hafter stop hstop
      · have hproper : c.startedAtMs < c.endedAtMs := hvalid.proper
        have hnext := hrest.after d hd _ rfl
        have hstart := hafter stop hstop
        omega

/-- Sorted by their ends, contributions are accepted exactly when they are valid
and pairwise disjoint. -/
theorem accepted_iff_disjoint {l : List TrafficContribution}
    (hsorted : l.Pairwise (fun c d => c.orderKey ≤ d.orderKey)) :
    Accepted none l ↔ (∀ c ∈ l, c.Valid) ∧ l.Pairwise (fun c d => c.span.Apart d.span) := by
  have hends : (l.map (fun c => c.span)).Pairwise (fun s t => s.stop ≤ t.stop) := by
    rw [List.pairwise_map]
    refine hsorted.imp ?_
    intro c d hle
    rcases Prod.Lex.le_iff.mp hle with hlt | ⟨heq, _⟩
    · exact le_of_lt hlt
    · exact le_of_eq heq
  have hiff : (∀ c ∈ l, c.Valid) →
      (l.Pairwise (fun c d => c.span.Apart d.span) ↔
        l.Pairwise (fun c d => c.span.Before d.span)) := by
    intro hvalid
    have hproper : ∀ s ∈ l.map (fun c => c.span), s.Proper := by
      intro s hs
      obtain ⟨c, hc, rfl⟩ := List.mem_map.mp hs
      exact (hvalid c hc).proper
    have := Span.pairwise_apart_iff_before hproper hends
    rwa [List.pairwise_map, List.pairwise_map] at this
  constructor
  · intro h
    exact ⟨h.valid, (hiff h.valid).mpr h.ordered⟩
  · rintro ⟨hvalid, hapart⟩
    exact ⟨hvalid, (hiff hvalid).mp hapart, by simp [StartsAfter]⟩

/-- The two errors with which a query rejects stored contributions. -/
def IsRejection (e : DatabaseError) : Prop :=
  e = .verification
      "stored traffic contribution has invalid bytes, duration, or sample count" ∨
    e = .verification "stored traffic contributions overlap for one interface"

theorem validateTrafficContribution_cases (c : TrafficContribution) (previousEnd : Option Int) :
    (c.Valid ∧ StartsAfter previousEnd c ∧ validateTrafficContribution c previousEnd = .ok ()) ∨
      (¬ (c.Valid ∧ StartsAfter previousEnd c) ∧
        ∃ e, IsRejection e ∧ validateTrafficContribution c previousEnd = .error e) := by
  unfold validateTrafficContribution
  by_cases hvalid : c.Valid
  · rw [ensure_of hvalid, ok_bind]
    by_cases hafter : StartsAfter previousEnd c
    · have hall : previousEnd.all (fun stop => !decide (c.startedAtMs < stop)) = true := by
        simpa [Option.all_eq_true, StartsAfter] using hafter
      exact Or.inl ⟨hvalid, hafter, ensure_of hall⟩
    · have hall : ¬ previousEnd.all (fun stop => !decide (c.startedAtMs < stop)) = true := by
        simpa [Option.all_eq_true, StartsAfter] using hafter
      exact Or.inr ⟨fun hboth => hafter hboth.2, _, Or.inr rfl, if_neg hall⟩
  · refine Or.inr ⟨fun hboth => hvalid hboth.1, _, Or.inl rfl, ?_⟩
    rw [ensure, if_neg hvalid, error_bind]

/-! ## The invariant of the fold -/

/-- Up to where the range was visited. -/
def TrafficQuery.reachedBy (query : TrafficQuery) : Option Int → Int
  | none => query.fromMs
  | some previousEnd => min previousEnd query.toMs

namespace TrafficContribution

/-- The start of the contribution inside the range. -/
def clippedStart (c : TrafficContribution) (query : TrafficQuery) : Int :=
  max c.startedAtMs query.fromMs

/-- The end of the contribution inside the range. -/
def clippedEnd (c : TrafficContribution) (query : TrafficQuery) : Int :=
  min c.endedAtMs query.toMs

/-- The slice of a quantity of the contribution inside the range. -/
def within (c : TrafficContribution) (query : TrafficQuery) (q : Quantity) : Int :=
  c.cut q (c.clippedStart query) (c.clippedEnd query)

/-- The contribution intersects the range. -/
def Meets (c : TrafficContribution) (query : TrafficQuery) : Prop :=
  c.endedAtMs > query.fromMs ∧ c.startedAtMs < query.toMs

end TrafficContribution

/-- The totals of a list of contributions inside the range. -/
def totalsWithin (query : TrafficQuery) (done : List TrafficContribution) :
    TrafficBucketAccumulator :=
  done.foldl (fun acc c => acc.plus (c.part (c.clippedStart query) (c.clippedEnd query))) .zero

/-- The state of the fold once the contributions `done` were added. -/
structure Folded (query : TrafficQuery) (bucketSizeMs : Int) (done : List TrafficContribution)
    (state : FoldState) : Prop where
  from_le : query.fromMs ≤ query.reachedBy state.previousEnd
  gathered : Gathered query bucketSizeMs (query.reachedBy state.previousEnd) state.buckets
  covered : state.totals.CoversAtMost (query.reachedBy state.previousEnd - query.fromMs)
  totals_eq : state.totals = totalsWithin query done
  totals : ∀ q : Quantity,
    q.ofAccumulator state.totals = (done.map (fun c => c.within query q)).sum
  points : ∀ q : Quantity,
    pointsTotal q state.buckets = (done.map (fun c => c.within query q)).sum

theorem Folded.initial (query : TrafficQuery) (bucketSizeMs : Int) :
    Folded query bucketSizeMs [] .initial where
  from_le := le_refl _
  gathered := Gathered.empty _ _ _
  covered := .zero (by simp [FoldState.initial, TrafficQuery.reachedBy])
  totals_eq := rfl
  totals := fun q => by cases q <;> rfl
  points := fun q => rfl

/-- One contribution: it is accepted exactly when it is valid and starts after
the previous end, and then it is added. -/
theorem Folded.step {query : TrafficQuery} {bucketSizeMs : Int} {done : List TrafficContribution}
    {state : FoldState} {c : TrafficContribution} (h : Folded query bucketSizeMs done state)
    (hranged : query.Ranged) (hsize : PointSize bucketSizeMs) (hbounded : c.Bounded)
    (hmeets : c.Meets query) :
    (c.Valid ∧ StartsAfter state.previousEnd c ∧
      ∃ state', foldTrafficContribution query bucketSizeMs c state = .ok state' ∧
        state'.previousEnd = some c.endedAtMs ∧ Folded query bucketSizeMs (done ++ [c]) state') ∨
    (¬ (c.Valid ∧ StartsAfter state.previousEnd c) ∧
      ∃ e, IsRejection e ∧ foldTrafficContribution query bucketSizeMs c state = .error e) := by
  unfold foldTrafficContribution
  rcases validateTrafficContribution_cases c state.previousEnd with
    ⟨hvalid, hafter, hok⟩ | ⟨hnot, e, he, herror⟩
  swap
  · rw [herror]
    exact Or.inr ⟨hnot, e, he, rfl⟩
  · have hchecked := hvalid.checked hbounded
    have hincreasing := hchecked.increasing
    obtain ⟨hended, hstarted⟩ := hmeets
    have hrange := hranged.increasing
    have hlength := hranged.length_lt
    -- Everything visited so far lies before the clipped contribution.
    have hreached : query.reachedBy state.previousEnd ≤ c.clippedStart query := by
      unfold TrafficContribution.clippedStart
      cases hprevious : state.previousEnd with
      | none => simp [TrafficQuery.reachedBy]
      | some stop =>
          have := hafter stop hprevious
          simp only [TrafficQuery.reachedBy]
          omega
    have hclip : c.clippedStart query < c.clippedEnd query := by
      simp only [TrafficContribution.clippedStart, TrafficContribution.clippedEnd]
      omega
    have hfrom : query.fromMs ≤ c.clippedStart query := le_max_right _ _
    have hto : c.clippedEnd query ≤ query.toMs := min_le_right _ _
    have hlo : c.startedAtMs ≤ c.clippedStart query := le_max_left _ _
    have hhi : c.clippedEnd query ≤ c.endedAtMs := min_le_left _ _
    have hsegment : c.Segment (c.clippedStart query) (c.clippedEnd query) :=
      ⟨hlo, le_of_lt hclip, hhi⟩
    obtain ⟨buckets, hbuckets, hgathered, hpoints⟩ := addSegments_ok hranged hsize hchecked
      hbounded hhi hto (c.clippedEnd query - c.clippedStart query).toNat (c.clippedStart query)
      state.buckets (by omega) (le_of_lt hclip) hlo hfrom (h.gathered.mono hreached)
    have hpart : (c.part (c.clippedStart query) (c.clippedEnd query)).CoversAtMost
        (c.clippedEnd query - c.clippedStart query) := by
      have hquantity := hchecked.part_quantity hsegment (by omega) .durationMs
      have hwidth := hchecked.cut_duration_le hsegment
      have hdurations := hchecked.part_durations hsegment
      exact ⟨hdurations.1, hdurations.2, by rw [← hquantity] at hwidth; exact hwidth⟩
    have hcovered : state.totals.CoversAtMost (c.clippedStart query - query.fromMs) :=
      h.covered.mono (by omega)
    have hfit : (c.clippedStart query - query.fromMs) +
        (c.clippedEnd query - c.clippedStart query) ≤ i64Max := by omega
    have hexact : IsI64 state.totals.exactDurationMs := by
      obtain ⟨hexact, hestimated, hsum⟩ := hcovered
      exact ⟨by simp only [i64Min]; omega, by omega⟩
    have htotals := addSegment_eq hchecked hbounded hsegment hexact
    refine Or.inl ⟨hvalid, hafter, ⟨some c.endedAtMs, buckets,
      state.totals.plus (c.part (c.clippedStart query) (c.clippedEnd query))⟩, ?_, rfl, ?_⟩
    · simp only [TrafficContribution.clippedStart, TrafficContribution.clippedEnd] at htotals hbuckets
      simp only [hok, ok_bind, accumulateTrafficContribution]
      rw [htotals, ok_bind, hbuckets]
      rfl
    · have hclipped : query.reachedBy (some c.endedAtMs) = c.clippedEnd query := rfl
      refine ⟨?_, ?_, ?_, ?_, ?_, ?_⟩
      · simp only [hclipped]
        omega
      · exact hgathered
      · refine (hcovered.plus hpart hfit).mono ?_
        simp only [hclipped]
        omega
      · simp only [totalsWithin, List.foldl_append, List.foldl_cons, List.foldl_nil]
        rw [h.totals_eq]
        rfl
      · intro q
        simp only [List.map_append, List.map_cons, List.map_nil, List.sum_append, List.sum_cons,
          List.sum_nil, add_zero]
        rw [hcovered.plus_quantity hpart hfit q, h.totals q,
          hchecked.part_quantity hsegment (by omega) q]
        rfl
      · intro q
        simp only [List.map_append, List.map_cons, List.map_nil, List.sum_append, List.sum_cons,
          List.sum_nil, add_zero]
        rw [hpoints q, h.points q]
        rfl

/-- The loop accepts exactly the accepted lists, and fails on the others with
one of the two rejections. -/
theorem Folded.run {query : TrafficQuery} {bucketSizeMs : Int} (hranged : query.Ranged)
    (hsize : PointSize bucketSizeMs) {l : List TrafficContribution} :
    ∀ {done : List TrafficContribution} {state : FoldState},
      Folded query bucketSizeMs done state →
      (∀ c ∈ l, c.Bounded) → (∀ c ∈ l, c.Meets query) →
      (Accepted state.previousEnd l ∧
        ∃ state', foldInOrder query bucketSizeMs l state = .ok state' ∧
          Folded query bucketSizeMs (done ++ l) state') ∨
      (¬ Accepted state.previousEnd l ∧
        ∃ e, IsRejection e ∧ foldInOrder query bucketSizeMs l state = .error e) := by
  induction l with
  | nil =>
      intro done state h _ _
      exact Or.inl ⟨accepted_nil _, state, rfl, by simpa using h⟩
  | cons c rest ih =>
      intro done state h hbounded hmeets
      rw [accepted_cons_iff, foldInOrder_cons]
      rcases h.step hranged hsize (hbounded c List.mem_cons_self) (hmeets c List.mem_cons_self)
        with ⟨hvalid, hafter, state', hstate', hprevious, hfolded⟩ | ⟨hnot, e, he, herror⟩
      · rw [hstate', ok_bind]
        rcases ih hfolded (fun d hd => hbounded d (List.mem_cons_of_mem _ hd))
          (fun d hd => hmeets d (List.mem_cons_of_mem _ hd)) with
          ⟨haccepted, final, hfinal, hdone⟩ | ⟨hnot, e, he, herror⟩
        · rw [hprevious] at haccepted
          rw [List.append_assoc] at hdone
          exact Or.inl ⟨⟨hvalid, hafter, haccepted⟩, final, hfinal, hdone⟩
        · rw [hprevious] at hnot
          exact Or.inr ⟨fun hall => hnot hall.2.2, e, he, herror⟩
      · rw [herror, error_bind]
        exact Or.inr ⟨fun hall => hnot ⟨hall.1, hall.2.1⟩, e, he, rfl⟩

end RouterView.Db
