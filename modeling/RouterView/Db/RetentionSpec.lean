/-
  Db/RetentionSpec.lean --- retention does not touch what is in range.

  A query depends on the rows that intersect its range.  Neither a pruning nor a
  rollup up to the start of the range changes one of them, as long as no sample
  that the query reads starts before the cutoff of the rollup: such a sample
  would be cut there, and the rest of it shared out anew.
-/
import RouterView.Db.Integrity
import RouterView.Db.PruneSpec
import RouterView.Db.QueryAnswer

set_option autoImplicit false

namespace RouterView.Db

open RouterView.Foundation

/-! ## What a query depends on -/

/-- The query reads the sample. -/
def TrafficSample.liveIn (query : TrafficQuery) (s : TrafficSample) : Bool :=
  decide (s.endedAtMs > query.fromMs ∧ s.startedAtMs < query.toMs) &&
    s.on query.routerId query.interfaceId

/-- The query reads the rollup. -/
def TrafficRollup.liveIn (query : TrafficQuery) (r : TrafficRollup) : Bool :=
  decide (r.bucketEndMs > query.fromMs ∧ r.bucketStartMs < query.toMs) &&
    r.on query.routerId query.interfaceId

theorem sampleSources_filter (db : TrafficDb) (query : TrafficQuery) :
    db.sampleSources query = db.trafficSamples.rows.filter (TrafficSample.liveIn query) :=
  List.filter_filter

theorem rollupSources_filter (db : TrafficDb) (query : TrafficQuery) :
    db.rollupSources query = db.trafficRollups.rows.filter (TrafficRollup.liveIn query) :=
  List.filter_filter

/-- The two databases hold the same rows for the query, in the same order. -/
structure SameSources (query : TrafficQuery) (db db' : TrafficDb) : Prop where
  routers : db'.routers = db.routers
  interfaces : db'.routerInterfaces = db.routerInterfaces
  samples : db'.sampleSources query = db.sampleSources query
  rollups : db'.rollupSources query = db.rollupSources query
  gaps : db'.gapCount query = db.gapCount query

theorem SameSources.refl (query : TrafficQuery) (db : TrafficDb) : SameSources query db db :=
  ⟨rfl, rfl, rfl, rfl, rfl⟩

theorem SameSources.trans {query : TrafficQuery} {a b c : TrafficDb} (hab : SameSources query a b)
    (hbc : SameSources query b c) : SameSources query a c where
  routers := hbc.routers.trans hab.routers
  interfaces := hbc.interfaces.trans hab.interfaces
  samples := hbc.samples.trans hab.samples
  rollups := hbc.rollups.trans hab.rollups
  gaps := hbc.gaps.trans hab.gaps

/-- A query answers from these rows. -/
theorem SameSources.query_eq {query : TrafficQuery} {db db' : TrafficDb}
    (h : SameSources query db db') (sourceRowBudget : Nat) :
    queryTrafficV4WithOptions db' query sourceRowBudget =
      queryTrafficV4WithOptions db query sourceRowBudget := by
  have howner : db'.ensureInterfaceOwner query.routerId (some query.interfaceId) =
      db.ensureInterfaceOwner query.routerId (some query.interfaceId) := by
    have howns : db'.ownsRouterInterface query.routerId (some query.interfaceId) =
        db.ownsRouterInterface query.routerId (some query.interfaceId) := by
      simp only [TrafficDb.ownsRouterInterface, TrafficDb.ownsInterface, h.routers, h.interfaces]
    unfold TrafficDb.ensureInterfaceOwner
    rw [howns]
  have hplan : planTrafficSources db' query sourceRowBudget =
      planTrafficSources db query sourceRowBudget := by
    simp only [planTrafficSources, boundedSampleSummary, boundedRollupSummary, h.samples,
      h.rollups]
  have hfold : ∀ bucketSizeMs, foldTrafficContributions db' query bucketSizeMs sourceRowBudget =
      foldTrafficContributions db query bucketSizeMs sourceRowBudget := by
    intro bucketSizeMs
    simp only [foldTrafficContributions, TrafficDb.sampleContributions,
      TrafficDb.rollupContributions, h.samples, h.rollups]
  simp only [queryTrafficV4WithOptions, queryTrafficV4OnConnection, howner, hplan, hfold, h.gaps]

/-! ## Changes to rows that are not read -/

section

variable {α : Type} {t : Table α} {live p : α → Bool} {f : α → α}

theorem filter_deleteWhere (h : ∀ r ∈ t.rows, p r = true → live r = false) :
    (t.deleteWhere p).2.rows.filter live = t.rows.filter live := by
  rw [Table.deleteWhere_rows, List.filter_filter]
  refine List.filter_congr ?_
  intro r hr
  cases hp : p r with
  | false => simp
  | true => simp [h r hr hp]

theorem filter_updateWhere
    (h : ∀ r ∈ t.rows, p r = true → live r = false ∧ live (f r) = false) :
    (t.updateWhere p f).2.rows.filter live = t.rows.filter live := by
  rw [Table.updateWhere_rows]
  generalize t.rows = rows at h
  induction rows with
  | nil => rfl
  | cons r rest ih =>
      have hrest := ih (fun r hr => h r (List.mem_cons_of_mem _ hr))
      cases hp : p r with
      | false => simp only [List.map_cons, hp, Bool.false_eq_true, if_false, List.filter_cons, hrest]
      | true =>
          obtain ⟨hbefore, hafter⟩ := h r List.mem_cons_self hp
          simp only [List.map_cons, hp, if_true, List.filter_cons, hbefore, hafter,
            Bool.false_eq_true, if_false, hrest]

theorem filter_insert {row : Int → α} (h : live (row (t.sequence + 1)) = false) :
    (t.insert row).rows.filter live = t.rows.filter live := by
  rw [Table.insert_rows, List.filter_append, List.filter_cons, h]
  simp

end

/-! ## Pruning -/

section

variable {beforeMs : Int} {query : TrafficQuery} {db db' : TrafficDb}

/-- Rows that a table keeps are kept in their order, so what is kept of the live ones is all of
them. -/
theorem OldestRemoved.filter_eq {α : Type} {endMs id : α → Int} {batchSize removed : Nat}
    {t t' : Table α} {live : α → Bool} (h : OldestRemoved endMs id beforeMs batchSize t removed t')
    (hnodup : t.rows.Nodup) (hlive : ∀ r ∈ t.rows, live r = true → beforeMs < endMs r) :
    t'.rows.filter live = t.rows.filter live := by
  refine List.Sublist.eq_of_length (h.kept.filter live) ?_
  refine List.Perm.length_eq ((List.perm_ext_iff_of_nodup ((h.kept.nodup hnodup).filter _)
    (hnodup.filter _)).mpr ?_)
  intro r
  rw [List.mem_filter, List.mem_filter]
  constructor
  · rintro ⟨hr, hlive⟩
    exact ⟨h.kept.subset hr, hlive⟩
  · rintro ⟨hr, hrlive⟩
    refine ⟨?_, hrlive⟩
    by_contra hgone
    have hexpired := h.expired r hr hgone
    have := hlive r hr hrlive
    omega

/-- The gap counts against the query. -/
def TrafficGap.liveIn (query : TrafficQuery) (g : TrafficGap) : Bool :=
  decide (g.routerId = query.routerId
    ∧ (g.interfaceId = none ∨ g.interfaceId = some query.interfaceId)
    ∧ g.endedAtMs > query.fromMs ∧ g.startedAtMs < query.toMs)

theorem gapCount_filter (db : TrafficDb) (query : TrafficQuery) :
    db.gapCount query = (db.trafficGaps.rows.filter (TrafficGap.liveIn query)).length :=
  List.countP_eq_length_filter

/-- A batch up to the start of the range deletes nothing that the query reads. -/
theorem PrunedBatch.sameSources {batchSize samples rollups gaps : Nat}
    (h : PrunedBatch beforeMs batchSize db samples rollups gaps db') (hkeyed : db.HistoryKeyed)
    (hbefore : beforeMs ≤ query.fromMs) : SameSources query db db' where
  routers := by rw [h.frame]
  interfaces := by rw [h.frame]
  samples := by
    rw [sampleSources_filter, sampleSources_filter]
    refine h.samples.filter_eq (List.Nodup.of_map _ hkeyed.keyed.samples.nodup) ?_
    intro s _ hlive
    simp only [TrafficSample.liveIn, Bool.and_eq_true, decide_eq_true_eq] at hlive
    omega
  rollups := by
    rw [rollupSources_filter, rollupSources_filter]
    refine h.rollups.filter_eq (List.Nodup.of_map _ hkeyed.keyed.rollups.nodup) ?_
    intro r _ hlive
    simp only [TrafficRollup.liveIn, Bool.and_eq_true, decide_eq_true_eq] at hlive
    omega
  gaps := by
    rw [gapCount_filter, gapCount_filter]
    refine congrArg List.length (h.gaps.filter_eq (List.Nodup.of_map _ hkeyed.gaps.nodup) ?_)
    intro g _ hlive
    simp only [TrafficGap.liveIn, decide_eq_true_eq] at hlive
    omega

/-! ## Rollups -/

/-- The buckets all lie before the cutoff. -/
def BucketsBefore (beforeMs : Int) (buckets : OrdMap BucketKey RollupBucket) : Prop :=
  ∀ e ∈ buckets.entries, e.2.batchStartMs ≤ beforeMs ∧ e.2.accumulatedEndMs ≤ beforeMs

/-- What the loop over the batch has put together: buckets that lie before the cutoff, and
samples of the batch. -/
structure Early (beforeMs : Int) (batch : List TrafficSample) (progress : RollupProgress) :
    Prop where
  buckets : BucketsBefore beforeMs progress.buckets
  consumed : ∀ id ∈ progress.fullyConsumed, ∃ s ∈ batch, s.id = id
  remainders : ∀ r ∈ progress.remainders, ∃ s ∈ batch, s.id = r.id

theorem BucketsBefore.cutSegment {bucketSizeMs plannedConsumedEnd : Int} {sample : TrafficSample}
    {segmentStart segmentEnd : Int} {buckets buckets' : OrdMap BucketKey RollupBucket}
    (h : BucketsBefore beforeMs buckets) (hplanned : plannedConsumedEnd ≤ beforeMs)
    (hstart : segmentStart ≤ beforeMs)
    (hcut : cutSegment bucketSizeMs plannedConsumedEnd sample segmentStart buckets =
      .ok (segmentEnd, buckets')) :
    BucketsBefore beforeMs buckets' ∧ segmentEnd ≤ beforeMs := by
  unfold RouterView.Db.cutSegment at hcut
  obtain ⟨_, _, hcut⟩ := bind_eq_ok_iff.mp hcut
  obtain ⟨_, _, hcut⟩ := bind_eq_ok_iff.mp hcut
  obtain ⟨_, hcut⟩ := ensure_bind_eq_ok_iff.mp hcut
  simp only [pure_eq_ok, Except.ok.injEq, Prod.mk.injEq] at hcut
  obtain ⟨hend, rfl⟩ := hcut
  have hle : segmentEnd ≤ beforeMs := by omega
  refine ⟨?_, hle⟩
  intro e he
  rcases OrdMap.mem_alter_iff.mp he with ⟨hold, _⟩ | hnew
  · exact h e hold
  · rw [hnew]
    simp only [RollupBucket.addSegment]
    refine ⟨?_, by omega⟩
    cases hstored : buckets.get? (bucketKey sample.routerId sample.interfaceId
        (wrapI64 (bucketFloor bucketSizeMs segmentStart))) with
    | none => exact hstart
    | some bucket => exact (h _ (OrdMap.mem_entries_iff.mpr hstored)).1

theorem BucketsBefore.consumeSegments {bucketSizeMs plannedConsumedEnd : Int}
    {sample : TrafficSample} (hplanned : plannedConsumedEnd ≤ beforeMs) {budget left : Nat}
    {segmentStart stopped : Int} {buckets buckets' : OrdMap BucketKey RollupBucket}
    (h : BucketsBefore beforeMs buckets) (hstart : segmentStart ≤ beforeMs)
    (hloop : consumeSegments bucketSizeMs plannedConsumedEnd sample budget segmentStart buckets =
      .ok (left, stopped, buckets')) : BucketsBefore beforeMs buckets' := by
  induction budget generalizing segmentStart buckets with
  | zero =>
      simp only [RouterView.Db.consumeSegments, Except.ok.injEq, Prod.mk.injEq] at hloop
      rw [← hloop.2.2]
      exact h
  | succ remaining ih =>
      unfold RouterView.Db.consumeSegments at hloop
      split at hloop
      · obtain ⟨⟨_, _⟩, hcut, hloop⟩ := bind_eq_ok_iff.mp hloop
        obtain ⟨hbuckets, hend⟩ := h.cutSegment hplanned hstart hcut
        exact ih hbuckets hend hloop
      · simp only [Except.ok.injEq, Prod.mk.injEq] at hloop
        rw [← hloop.2.2]
        exact h

theorem remainderOf_id {sample : TrafficSample} {consumedEnd : Int}
    {remainder : RawTrafficRemainder} (h : remainderOf sample consumedEnd = .ok remainder) :
    remainder.id = sample.id := by
  obtain ⟨_, _, h⟩ := bind_eq_ok_iff.mp h
  obtain ⟨_, _, h⟩ := bind_eq_ok_iff.mp h
  simp only [pure_eq_ok, Except.ok.injEq] at h
  rw [← h]

theorem Early.consumeSample {bucketSizeMs : Int} {batch : List TrafficSample}
    {sample : TrafficSample} (hmem : sample ∈ batch) (hbefore : sample.startedAtMs < beforeMs)
    {progress progress' : RollupProgress} (h : Early beforeMs batch progress)
    (hstep : consumeSample beforeMs bucketSizeMs sample progress = .ok progress') :
    Early beforeMs batch progress' := by
  unfold RouterView.Db.consumeSample at hstep
  obtain ⟨_, _, hstep⟩ := bind_eq_ok_iff.mp hstep
  dsimp only at hstep
  split at hstep
  · simp only [pure_eq_ok, Except.ok.injEq] at hstep
    rw [← hstep]
    exact h
  · obtain ⟨⟨_, _, _⟩, hsegments, hstep⟩ := bind_eq_ok_iff.mp hstep
    have hbuckets := BucketsBefore.consumeSegments (min_le_right _ _) h.buckets
      (le_of_lt hbefore) hsegments
    split at hstep
    · simp only [pure_eq_ok, Except.ok.injEq] at hstep
      rw [← hstep]
      refine ⟨hbuckets, ?_, h.remainders⟩
      intro id hid
      rcases List.mem_append.mp hid with hid | hid
      · exact h.consumed id hid
      · exact ⟨sample, hmem, (List.mem_singleton.mp hid).symm⟩
    · obtain ⟨remainder, hremainder, hstep⟩ := bind_eq_ok_iff.mp hstep
      simp only [pure_eq_ok, Except.ok.injEq] at hstep
      rw [← hstep]
      refine ⟨hbuckets, h.consumed, ?_⟩
      intro r hr
      rcases List.mem_append.mp hr with hr | hr
      · exact h.remainders r hr
      · rw [List.mem_singleton.mp hr]
        exact ⟨sample, hmem, (remainderOf_id hremainder).symm⟩

theorem Early.consumeSamples {bucketSizeMs : Int} {batch rest : List TrafficSample}
    (hrest : ∀ s ∈ rest, s ∈ batch) (hbefore : ∀ s ∈ batch, s.startedAtMs < beforeMs)
    {progress progress' : RollupProgress} (h : Early beforeMs batch progress)
    (hloop : consumeSamples beforeMs bucketSizeMs rest progress = .ok progress') :
    Early beforeMs batch progress' := by
  induction rest generalizing progress with
  | nil =>
      simp only [RouterView.Db.consumeSamples, Except.ok.injEq] at hloop
      rw [← hloop]
      exact h
  | cons sample rest ih =>
      unfold RouterView.Db.consumeSamples at hloop
      have hmem := hrest sample List.mem_cons_self
      split at hloop
      · simp only [Except.ok.injEq] at hloop
        rw [← hloop]
        exact h
      · obtain ⟨next, hstep, hloop⟩ := bind_eq_ok_iff.mp hloop
        exact ih (fun s hs => hrest s (List.mem_cons_of_mem _ hs))
          (h.consumeSample hmem (hbefore sample hmem) hstep) hloop

/-- A bucket before the start of the range changes no row that the query reads. -/
theorem writeBucket_filter {bucketSizeMs : Int} {entry : BucketKey × RollupBucket}
    {t t' : Table TrafficRollup} (hstart : entry.2.batchStartMs ≤ query.fromMs)
    (hend : entry.2.accumulatedEndMs ≤ query.fromMs)
    (hwrite : writeBucket bucketSizeMs entry t = .ok t') :
    t'.rows.filter (TrafficRollup.liveIn query) = t.rows.filter (TrafficRollup.liveIn query) := by
  have hupsert : t' = (upsertRollup (rollupRow bucketSizeMs entry.1 entry.2)
      entry.2.batchStartMs t).2 := (congrArg Prod.snd (writeBucket_ok hwrite).2).symm
  have hdead : ∀ r : TrafficRollup, r.bucketEndMs ≤ query.fromMs → r.liveIn query = false := by
    intro r hr
    simp only [TrafficRollup.liveIn, Bool.and_eq_false_iff, decide_eq_false_iff_not]
    omega
  rw [hupsert]
  simp only [upsertRollup]
  split
  · refine filter_updateWhere ?_
    intro r _ hcondition
    simp only [Bool.and_eq_true, TrafficRollup.mergeable, decide_eq_true_eq] at hcondition
    obtain ⟨_, _, hlater, _⟩ := hcondition
    -- the stored row ended before the batch entered the bucket, and the merged one ends with it
    have hmerged : ((rollupRow bucketSizeMs entry.1 entry.2 0).merge r).bucketEndMs ≤
        query.fromMs := by
      simp only [TrafficRollup.merge, rollupRow]
      omega
    exact ⟨hdead r (by omega), hdead _ hmerged⟩
  · exact filter_insert (hdead _ hend)

theorem writeBucket_keyed {bucketSizeMs : Int} {entry : BucketKey × RollupBucket}
    {t t' : Table TrafficRollup} (hkeyed : t.Keyed (fun r => r.id))
    (hwrite : writeBucket bucketSizeMs entry t = .ok t') : t'.Keyed (fun r => r.id) := by
  have hupsert : t' = (upsertRollup (rollupRow bucketSizeMs entry.1 entry.2)
      entry.2.batchStartMs t).2 := (congrArg Prod.snd (writeBucket_ok hwrite).2).symm
  rw [hupsert]
  simp only [upsertRollup]
  split
  · exact hkeyed.useKey.updateWhere _ (fun _ _ => rfl)
  · exact hkeyed.insert (fun _ => rfl)

/-- A stored sample that the query does not read, and no remainder of it. -/
def Unread (query : TrafficQuery) (s : TrafficSample) : Prop :=
  s.on query.routerId query.interfaceId = true → s.endedAtMs ≤ query.fromMs

theorem Unread.liveIn_eq_false {x s : TrafficSample} (h : Unread query s) (hsame : x.sameKey s) :
    x.liveIn query = false := by
  obtain ⟨hrouter, hinterface, hended, _⟩ := hsame
  cases hon : s.on query.routerId query.interfaceId with
  | false =>
      have hx : x.on query.routerId query.interfaceId = false := by
        simpa only [TrafficSampleInput.on, hrouter, hinterface] using hon
      rw [TrafficSample.liveIn, hx, Bool.and_false]
  | true =>
      have := h hon
      simp only [TrafficSample.liveIn, Bool.and_eq_false_iff, decide_eq_false_iff_not]
      omega

/-- The two passes over the samples change none that the query reads, when it reads none of the
batch. -/
theorem samples_filter {t remained kept : Table TrafficSample} {batch : List TrafficSample}
    {remainders : List RawTrafficRemainder} {consumed : List Int}
    (hkeyed : t.Keyed (fun s => s.id)) (hstored : ∀ s ∈ batch, s ∈ t.rows)
    (hunread : ∀ s ∈ batch, Unread query s)
    (hremainders : ∀ r ∈ remainders, ∃ s ∈ batch, s.id = r.id)
    (hconsumed : ∀ id ∈ consumed, ∃ s ∈ batch, s.id = id)
    (hremained : writeAll writeRemainder remainders t = .ok remained)
    (hkept : writeAll deleteConsumed consumed remained = .ok kept) :
    Descends t kept ∧ kept.rows.filter (TrafficSample.liveIn query) =
      t.rows.filter (TrafficSample.liveIn query) := by
  -- a row with the identifier of a sample of the batch descends from that sample
  have horigin : ∀ {mid : Table TrafficSample}, Descends t mid → ∀ x ∈ mid.rows, ∀ s ∈ batch,
      s.id = x.id → x.sameKey s := by
    intro mid hmid x hx s hs hid
    obtain ⟨y, hy, hxy, hsame⟩ := hmid.rows x hx
    rwa [hkeyed.eq_of_key_eq hy (hstored s hs) (hxy.symm.trans hid.symm)] at hsame
  have hfirst : Descends t remained ∧ remained.rows.filter (TrafficSample.liveIn query) =
      t.rows.filter (TrafficSample.liveIn query) := by
    refine writeAll_invariant (fun _ mid => Descends t mid ∧
      mid.rows.filter (TrafficSample.liveIn query) =
        t.rows.filter (TrafficSample.liveIn query)) ?_ ⟨Descends.refl hkeyed, rfl⟩ hremained
    intro done remainder later mid next hsplit hmid hwrite
    refine ⟨hmid.1.writeRemainder hwrite, ?_⟩
    obtain ⟨s, hs, hid⟩ := hremainders remainder (by rw [hsplit]; simp)
    obtain rfl : _ = next := congrArg Prod.snd (writeRemainder_ok hwrite)
    rw [filter_updateWhere ?_, hmid.2]
    intro x hx hxid
    have hsame := horigin hmid.1 x hx s hs (hid.trans (of_decide_eq_true hxid).symm)
    exact ⟨(hunread s hs).liveIn_eq_false hsame, (hunread s hs).liveIn_eq_false hsame⟩
  refine writeAll_invariant (fun _ mid => Descends t mid ∧
    mid.rows.filter (TrafficSample.liveIn query) =
      t.rows.filter (TrafficSample.liveIn query)) ?_ hfirst hkept
  intro done id later mid next hsplit hmid hwrite
  refine ⟨hmid.1.deleteConsumed hwrite, ?_⟩
  obtain ⟨s, hs, hid⟩ := hconsumed id (by rw [hsplit]; simp)
  obtain rfl : _ = next := congrArg Prod.snd (deleteConsumed_ok hwrite)
  rw [filter_deleteWhere ?_, hmid.2]
  intro x hx hxid
  exact (hunread s hs).liveIn_eq_false
    (horigin hmid.1 x hx s hs (hid.trans (of_decide_eq_true hxid).symm))

/-- A rollup up to the start of the range changes nothing that the query reads, when the samples
that it reads start after the cutoff. -/
theorem rollupExactSamplesBatch_sameSources {bucketSizeMs : Int} {batchSize n : Nat}
    (hkeyed : db.HistoryKeyed) (hincreasing : query.fromMs < query.toMs)
    (hbefore : beforeMs ≤ query.fromMs)
    (hread : ∀ s ∈ db.sampleSources query, beforeMs ≤ s.startedAtMs)
    (h : rollupExactSamplesBatch beforeMs bucketSizeMs batchSize db = .ok (n, db')) :
    db'.HistoryKeyed ∧ SameSources query db db' := by
  obtain ⟨progress, rollups, remained, kept, hpasses, _, rfl⟩ :=
    rollupExactSamplesBatch_eq_ok_iff.mp h
  have hbatch : ∀ s ∈ db.rollupSampleBatch beforeMs batchSize,
      s ∈ db.trafficSamples.rows ∧ s.startedAtMs < beforeMs :=
    fun s hs => mem_rollupSampleBatch hs
  have hunread : ∀ s ∈ db.rollupSampleBatch beforeMs batchSize, Unread query s := by
    intro s hs hon
    obtain ⟨hmem, hstarted⟩ := hbatch s hs
    by_contra hended
    have hsource : s ∈ db.sampleSources query := by
      rw [sampleSources_filter]
      refine List.mem_filter.mpr ⟨hmem, ?_⟩
      rw [TrafficSample.liveIn, hon, Bool.and_true, decide_eq_true_eq]
      omega
    have := hread s hsource
    omega
  have hearly : Early beforeMs (db.rollupSampleBatch beforeMs batchSize) progress :=
    Early.consumeSamples (fun s hs => hs) (fun s hs => (hbatch s hs).2)
      ⟨by simp [BucketsBefore], by simp, by simp⟩ hpasses.loop
  obtain ⟨hdescends, hsamples⟩ := samples_filter hkeyed.keyed.samples
    (fun s hs => (hbatch s hs).1) hunread hearly.remainders hearly.consumed hpasses.remainders
    hpasses.deletions
  obtain ⟨hrollupKeys, hrollupRows⟩ : rollups.Keyed (fun r => r.id) ∧
      rollups.rows.filter (TrafficRollup.liveIn query) =
        db.trafficRollups.rows.filter (TrafficRollup.liveIn query) := by
    refine writeAll_invariant (fun _ mid => mid.Keyed (fun r => r.id) ∧
      mid.rows.filter (TrafficRollup.liveIn query) =
        db.trafficRollups.rows.filter (TrafficRollup.liveIn query)) ?_
      ⟨hkeyed.keyed.rollups, rfl⟩ hpasses.buckets
    intro done entry later mid next hsplit hmid hwrite
    obtain ⟨hstart, hend⟩ := hearly.buckets entry (by rw [hsplit]; simp)
    exact ⟨writeBucket_keyed hmid.1 hwrite, (writeBucket_filter (le_trans hstart hbefore)
      (le_trans hend hbefore) hwrite).trans hmid.2⟩
  refine ⟨⟨⟨hdescends.keyed, hrollupKeys⟩, hkeyed.gaps⟩, rfl, rfl, ?_, ?_, rfl⟩
  · rw [sampleSources_filter, sampleSources_filter]
    exact hsamples
  · rw [rollupSources_filter, rollupSources_filter]
    exact hrollupRows

end

/-! ## Runs -/

/-- A call of the maintenance. -/
inductive RetentionCall where
  | prune (beforeMs : Int) (batchSize : Nat)
  | rollup (beforeMs bucketSizeMs : Int) (batchSize : Nat)

/-- One call. -/
def retentionStep (db : TrafficDb) : RetentionCall → TrafficDb
  | .prune beforeMs batchSize => committed (pruneExactHistoryBatch beforeMs batchSize db) db
  | .rollup beforeMs bucketSizeMs batchSize =>
      committed (rollupExactSamplesBatch beforeMs bucketSizeMs batchSize db) db

/-- The call reaches no further than the start of the range; a rollup cuts no sample that the
query reads. -/
def RetentionCall.Outside (query : TrafficQuery) (db : TrafficDb) : RetentionCall → Prop
  | .prune beforeMs _ => beforeMs ≤ query.fromMs
  | .rollup beforeMs _ _ => beforeMs ≤ query.fromMs ∧
      ∀ s ∈ db.sampleSources query, beforeMs ≤ s.startedAtMs

instance (query : TrafficQuery) (db : TrafficDb) (call : RetentionCall) :
    Decidable (call.Outside query db) := by
  cases call
  · exact inferInstanceAs (Decidable (_ ≤ _))
  · exact inferInstanceAs (Decidable (_ ∧ _))

theorem RetentionCall.Outside.congr {query : TrafficQuery} {db db' : TrafficDb}
    {call : RetentionCall} (h : call.Outside query db) (hsame : SameSources query db db') :
    call.Outside query db' := by
  cases call with
  | prune beforeMs batchSize => exact h
  | rollup beforeMs bucketSizeMs batchSize => exact ⟨h.1, by rw [hsame.samples]; exact h.2⟩

/-- One call keeps what the query reads. -/
theorem retentionStep_sameSources {query : TrafficQuery} {db : TrafficDb} {call : RetentionCall}
    (hincreasing : query.fromMs < query.toMs) (hkeyed : db.HistoryKeyed)
    (houtside : call.Outside query db) :
    (retentionStep db call).HistoryKeyed ∧ SameSources query db (retentionStep db call) := by
  cases call with
  | prune beforeMs batchSize =>
      refine committed_cases (P := fun db' => db'.HistoryKeyed ∧ SameSources query db db')
        ⟨hkeyed, .refl query db⟩ ?_
      intro removed db' hok
      obtain ⟨_, _, _, hbatch, _⟩ := pruneExactHistoryBatch_batch hkeyed hok
      exact ⟨(pruneExactHistoryBatch_ok hok).historyKeyed hkeyed,
        hbatch.sameSources hkeyed houtside⟩
  | rollup beforeMs bucketSizeMs batchSize =>
      refine committed_cases (P := fun db' => db'.HistoryKeyed ∧ SameSources query db db')
        ⟨hkeyed, .refl query db⟩ ?_
      intro n db' hok
      exact rollupExactSamplesBatch_sameSources hkeyed hincreasing houtside.1 houtside.2 hok

/-- Any number of calls keep what the query reads. -/
theorem retention_sameSources {query : TrafficQuery} {db : TrafficDb} {calls : List RetentionCall}
    (hincreasing : query.fromMs < query.toMs) (hkeyed : db.HistoryKeyed)
    (houtside : ∀ call ∈ calls, call.Outside query db) :
    SameSources query db (run retentionStep db calls) := by
  induction calls generalizing db with
  | nil => exact .refl query db
  | cons call rest ih =>
      obtain ⟨hnext, hsame⟩ :=
        retentionStep_sameSources hincreasing hkeyed (houtside call List.mem_cons_self)
      exact hsame.trans (ih hnext
        (fun c hc => (houtside c (List.mem_cons_of_mem _ hc)).congr hsame))

/-- A batch of the retention deletes only what ended at or before the cutoff, the oldest first
and no more than the batch size of each table, and nothing else, or nothing at all when it
fails; enough batches leave no such row; and a query over a later range answers the same after
any calls, rollups included as long as they cut no sample that the query reads. -/
theorem retention_out_of_range (db : TrafficDb) (hkeyed : db.HistoryKeyed) :
    (∀ (failing : PruneStatement → Bool) (beforeMs : Int) (batchSize : Nat),
      (∃ e, pruneExactHistoryFailing failing beforeMs batchSize db = .error e ∧
        committed (pruneExactHistoryFailing failing beforeMs batchSize db) db = db) ∨
      ∃ removed db', pruneExactHistoryFailing failing beforeMs batchSize db =
          .ok (removed, db') ∧
        ∃ samples rollups gaps, PrunedBatch beforeMs batchSize db samples rollups gaps db' ∧
          removed = min (samples + rollups + gaps) (2 ^ 64 - 1)) ∧
    (∀ (beforeMs : Int) (batchSize calls : Nat), batchSize ≠ 0 → IsI64 batchSize →
      db.expired beforeMs ≤ calls * batchSize →
      (pruneCalls beforeMs batchSize calls db).NoneExpired beforeMs) ∧
    ∀ (query : TrafficQuery) (calls : List RetentionCall) (sourceRowBudget : Nat),
      (∀ call ∈ calls, call.Outside query db) →
      queryTrafficV4WithOptions (run retentionStep db calls) query sourceRowBudget =
        queryTrafficV4WithOptions db query sourceRowBudget := by
  refine ⟨?_, ?_, ?_⟩
  · intro failing beforeMs batchSize
    rcases pruneExactHistoryFailing_cases failing db with herror | hsame
    · exact Or.inl herror
    · rw [hsame]
      cases hok : pruneExactHistoryBatch beforeMs batchSize db with
      | error e => exact Or.inl ⟨e, rfl, rfl⟩
      | ok result => exact Or.inr ⟨result.1, result.2, rfl, pruneExactHistoryBatch_batch hkeyed hok⟩
  · intro beforeMs batchSize calls hsome hfits henough
    rw [noneExpired_iff, pruneCalls_expired hsome hfits calls db hkeyed]
    omega
  · intro query calls sourceRowBudget houtside
    by_cases hincreasing : query.fromMs < query.toMs
    · exact (retention_sameSources hincreasing hkeyed houtside).query_eq sourceRowBudget
    · -- an empty range is refused before anything is read
      simp only [queryTrafficV4WithOptions, validateTrafficQuery]
      rw [ensure, if_neg (by omega)]
      rfl

theorem withTraffic_historyKeyed : TrafficDb.withTraffic.HistoryKeyed :=
  ⟨⟨⟨by decide, by decide⟩, ⟨by decide, by decide⟩⟩, ⟨by decide, by decide⟩⟩

/-- The rollup row ended at the cutoff and goes; the sample that the query reads stays. -/
theorem retention_out_of_range_withTraffic :
    (pruneCalls 60000 1 1 TrafficDb.withTraffic).NoneExpired 60000 ∧
      queryTrafficV4WithOptions (run retentionStep TrafficDb.withTraffic
        [.prune 60000 1, .rollup 60000 60000 10, .prune 50000 7]) ⟨1, 1, 60000, 80000, 3⟩ 10 =
        queryTrafficV4WithOptions TrafficDb.withTraffic ⟨1, 1, 60000, 80000, 3⟩ 10 := by
  obtain ⟨_, hempty, hsame⟩ := retention_out_of_range TrafficDb.withTraffic
    withTraffic_historyKeyed
  exact ⟨hempty 60000 1 1 (by decide) (by decide) (by decide), hsame _ _ _ (by decide)⟩

/-- A sample over the cutoff of a rollup and over the start of a later range. -/
def TrafficDb.withStraddler : TrafficDb :=
  { TrafficDb.withInterface with
    trafficSamples := ⟨[{
      id := 1
      routerId := 1
      interfaceId := 1
      startedAtMs := 0
      endedAtMs := 10000
      durationMs := 10000
      downloadBytes := 3
      uploadBytes := 0
      downloadBps := .finite 0
      uploadBps := .finite 0
      quality := .exact
      source := "routeros-counter" }], 1⟩ }

/-- A rollup at a cutoff before the range changes the totals of the range, because what it leaves
of a sample is shared out anew; and a batch size beyond SQLite's integers never deletes anything. -/
theorem retention_out_of_range_fails :
    ((queryTrafficV4 TrafficDb.withStraddler ⟨1, 1, 7000, 20000, 10⟩).toOption.map
        (fun result => result.totals.downloadBytes) = some "1" ∧
      (queryTrafficV4 (retentionStep TrafficDb.withStraddler (.rollup 5000 60000 10))
          ⟨1, 1, 7000, 20000, 10⟩).toOption.map
        (fun result => result.totals.downloadBytes) = some "2") ∧
      ¬ TrafficDb.withTraffic.NoneExpired 60000 ∧
      pruneExactHistoryBatch 60000 (2 ^ 63) TrafficDb.withTraffic =
        .error (.invalidCommand "retention batch size exceeds SQLite limits") := by
  refine ⟨⟨by decide +kernel, by decide +kernel⟩, ?_, by decide +kernel⟩
  rw [noneExpired_iff]
  decide

end RouterView.Db
