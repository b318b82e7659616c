/-
  Db/LegacyQueries.lean --- queries over migrated history.

  A query rejects a contribution for overlap only when it starts before the end
  of the one before it in the merge.  Disjoint rows are merged in the order of
  their ends, so no query rejects them.  An import leaves such rows, and every
  write after it keeps them.
-/
import RouterView.Db.Migrated
import RouterView.Db.QueryBudget

set_option autoImplicit false

namespace RouterView.Db

open RouterView.Foundation

/-! ## Rejections for overlap -/

section

variable {query : TrafficQuery} {bucketSizeMs : Int}

/-- A contribution that starts after the previous end is not rejected for overlap. -/
theorem foldTrafficContribution_failsOnly {c : TrafficContribution} {state : FoldState}
    (hafter : StartsAfter state.previousEnd c) :
    FailsOnly (fun e => e ≠ overlapRejection)
      (foldTrafficContribution query bucketSizeMs c state) := by
  have hnext : state.previousEnd.all (fun stop => !decide (c.startedAtMs < stop)) = true := by
    cases hprevious : state.previousEnd with
    | none => rfl
    | some stop =>
        have hle := hafter stop hprevious
        simp only [Option.all_some, Bool.not_eq_true', decide_eq_false_iff_not]
        omega
  unfold foldTrafficContribution validateTrafficContribution
  refine FailsOnly.bind ?_ fun _ _ => FailsOnly.bind ?_ fun _ _ => FailsOnly.ok _
  · exact FailsOnly.bind (FailsOnly.ensure fun _ => by decide)
      fun _ _ => FailsOnly.ensure fun hnot => absurd hnext hnot
  · exact (accumulateTrafficContribution_failsOnly _ _ _ _ _).imp fun _ h => h.2

/-- The previous end is that of the contribution before. -/
theorem foldTrafficContribution_previousEnd {c : TrafficContribution} {state state' : FoldState}
    (h : foldTrafficContribution query bucketSizeMs c state = .ok state') :
    state'.previousEnd = some c.endedAtMs := by
  unfold foldTrafficContribution at h
  obtain ⟨_, _, h⟩ := bind_eq_ok_iff.mp h
  obtain ⟨_, _, h⟩ := bind_eq_ok_iff.mp h
  simp only [pure_eq_ok, Except.ok.injEq] at h
  rw [← h]

/-- The merge of accepted lists is not rejected for overlap. -/
theorem foldMerged_failsOnly (budget : Nat) (allowed : Nat) :
    ∀ (samples rollups : List TrafficContribution) (state : FoldState),
      Accepted state.previousEnd (mergeContributions samples rollups) →
      FailsOnly (fun e => e ≠ overlapRejection)
        (foldMerged query bucketSizeMs budget allowed samples rollups state) := by
  induction allowed with
  | zero =>
      intro samples rollups state _
      unfold foldMerged
      split
      · exact FailsOnly.ok _
      · exact FailsOnly.error (by simp [overlapRejection])
  | succ allowed ih =>
      intro samples rollups state haccepted
      unfold foldMerged
      split
      · exact FailsOnly.ok _
      · rename_i c samples' rollups' hnext
        rw [nextContribution_some hnext, accepted_cons_iff] at haccepted
        obtain ⟨_, hafter, hrest⟩ := haccepted
        refine FailsOnly.bind (foldTrafficContribution_failsOnly hafter) ?_
        intro state' hstate'
        apply ih
        rw [foldTrafficContribution_previousEnd hstate']
        exact hrest

theorem boundedSourceSummary_failsOnly (durations : List Int) (limit : Nat) :
    FailsOnly (fun e => e ≠ overlapRejection) (boundedSourceSummary durations limit) := by
  unfold boundedSourceSummary
  refine FailsOnly.bind (FailsOnly.ensure fun _ => by decide) fun _ _ => ?_
  exact FailsOnly.bind (FailsOnly.ensure fun _ => by decide) fun _ _ => FailsOnly.ok _

theorem planTrafficSources_failsOnly (db : TrafficDb) (budget : Nat) :
    FailsOnly (fun e => e ≠ overlapRejection) (planTrafficSources db query budget) := by
  unfold planTrafficSources
  refine FailsOnly.bind (boundedSourceSummary_failsOnly _ _) fun _ _ => ?_
  refine FailsOnly.bind (FailsOnly.ensure fun _ => by simp [overlapRejection]) fun _ _ => ?_
  refine FailsOnly.bind (boundedSourceSummary_failsOnly _ _) fun _ _ => ?_
  exact FailsOnly.bind (FailsOnly.ensure fun _ => by simp [overlapRejection])
    fun _ _ => FailsOnly.ok _

/-- A message that starts otherwise is another one. -/
theorem ne_overlapRejection {message : String} (h : message.toList.head? = some 't') :
    DatabaseError.verification message ≠ overlapRejection := by
  intro heq
  have hmessage : message = "stored traffic contributions overlap for one interface" :=
    DatabaseError.verification.inj heq
  rw [hmessage] at h
  revert h
  decide

/-- No query rejects valid and disjoint contributions for overlap. -/
theorem queryTrafficV4_noOverlap {db : TrafficDb}
    (hvalid : ∀ c ∈ db.contributionsOn query.routerId query.interfaceId, c.Valid)
    (hdisjoint : db.DisjointOn query.routerId query.interfaceId) :
    queryTrafficV4 db query ≠ .error overlapRejection := by
  have haccepted : Accepted none (db.mergedSources query) := by
    rw [accepted_mergedSources_iff]
    exact ⟨fun c hc => hvalid c (List.mem_of_mem_filter hc),
      hdisjoint.sublist List.filter_sublist⟩
  have hfails : FailsOnly (fun e => e ≠ overlapRejection) (queryTrafficV4 db query) := by
    unfold queryTrafficV4 queryTrafficV4WithOptions validateTrafficQuery
      queryTrafficV4OnConnection TrafficDb.ensureInterfaceOwner buildTrafficQueryResult
    refine FailsOnly.bind (FailsOnly.ensure fun _ => by decide) fun _ _ => ?_
    refine FailsOnly.bind (FailsOnly.ensure fun _ => by decide) fun _ _ => ?_
    refine FailsOnly.bind (planTrafficSources_failsOnly db _) fun _ _ => ?_
    refine FailsOnly.bind (foldMerged_failsOnly _ _ _ _ _ haccepted) fun _ _ => ?_
    refine FailsOnly.bind (FailsOnly.ensure fun _ => ne_overlapRejection ?_) fun _ _ => ?_
    · simp only [toString, String.append_assoc]
      exact head_append (by decide)
    refine FailsOnly.bind (FailsOnly.ensure fun _ => ne_overlapRejection ?_)
      fun _ _ => FailsOnly.ok _
    simp only [toString, String.append_assoc]
    exact head_append (by decide)
  exact fun h => hfails _ h rfl

end

/-! ## The import -/

/-- Every legacy row ends no later than the instant. -/
structure LegacyTraffic.EndsBy (firstCheckpointMs : Int) (legacy : LegacyTraffic) : Prop where
  points : ∀ p ∈ legacy.points, p.ts ≤ firstCheckpointMs
  minutes : ∀ m ∈ legacy.minutes, m.bucket + 60000 ≤ firstCheckpointMs

/-- No row claims to be measured. -/
structure TrafficDb.AllEstimated (db : TrafficDb) : Prop where
  samples : ∀ s ∈ db.trafficSamples.rows, s.quality = .estimated
  rollups : ∀ r ∈ db.trafficRollups.rows,
    r.exactDownloadBytes = 0 ∧ r.exactUploadBytes = 0 ∧ r.exactDurationMs = 0

theorem castNonnegative_le (x : F64) : castNonnegative x ≤ i64Max := by
  unfold castNonnegative
  split
  · decide
  · decide
  · exact le_refl _
  · exact (clampI64_isI64 _).2

section

variable {firstCheckpointMs nowMs routerId : Int} {legacy : LegacyTraffic}
  {interfaceOf : Option String → Int} {db : TrafficDb}

theorem ImportsExactly.allEstimated (h : ImportsExactly legacy routerId interfaceOf db) :
    db.AllEstimated := by
  constructor
  · intro s hs
    obtain ⟨p, _, _, _, hsample⟩ := h.sample_origin hs
    rw [hsample]
    rfl
  · intro r hr
    obtain ⟨m, _, _, hrollup⟩ := h.rollup_origin hr
    rw [hrollup]
    exact ⟨rfl, rfl, rfl⟩

theorem ImportsExactly.bytesFit (h : ImportsExactly legacy routerId interfaceOf db) :
    db.BytesFit := by
  constructor
  · intro s hs
    obtain ⟨p, _, _, _, hsample⟩ := h.sample_origin hs
    rw [hsample]
    exact ⟨castNonnegative_le _, castNonnegative_le _⟩
  · intro r hr
    obtain ⟨m, _, _, hrollup⟩ := h.rollup_origin hr
    rw [hrollup]
    have hzero : (0 : Int) ≤ i64Max := by decide
    exact ⟨hzero, hzero, castNonnegative_le _, castNonnegative_le _⟩

/-- The imported rows end where the legacy ones do. -/
theorem ImportsExactly.ended_le (h : ImportsExactly legacy routerId interfaceOf db)
    (hends : legacy.EndsBy firstCheckpointMs) {r i : Int} {c : TrafficContribution}
    (hc : c ∈ db.contributionsOn r i) : c.endedAtMs ≤ firstCheckpointMs := by
  rcases mem_contributionsOn.mp hc with ⟨s, hs, _, rfl⟩ | ⟨a, ha, _, rfl⟩
  · obtain ⟨p, hp, _, _, hsample⟩ := h.sample_origin hs
    have hended : s.endedAtMs = p.ts := by
      rw [hsample]
      rfl
    simp only [TrafficContribution.ofSample, hended]
    exact hends.points p hp
  · obtain ⟨m, hm, _, hrollup⟩ := h.rollup_origin ha
    have hended : a.bucketEndMs = m.bucket + 60000 := by
      rw [hrollup]
      rfl
    simp only [TrafficContribution.ofRollup, hended]
    exact hends.minutes m hm

/-- An import that ends before the first checkpoint is the start of a migrated
database. -/
theorem ImportsExactly.migrated (h : ImportsExactly legacy routerId interfaceOf db)
    (himport : importLegacyTraffic nowMs legacy TrafficDb.empty = .ok db)
    (haligned : legacy.Aligned 60000) (hends : legacy.EndsBy firstCheckpointMs) :
    Migrated firstCheckpointMs db := by
  have hintact : db.Intact := importLegacyTraffic_intact TrafficDb.Intact.empty himport
  have htidy := importLegacyTraffic_tidy haligned himport
  constructor
  · exact hintact
  · exact htidy
  · exact h.bytesFit
  · intro r hr
    obtain ⟨m, _, _, hrollup⟩ := h.rollup_origin hr
    have hspan : r.bucketEndMs - r.bucketStartMs = 60000 := by
      rw [hrollup]
      simp only [legacyRollup]
      omega
    rw [hspan]
    decide
  · exact importLegacyTraffic_apart himport
  · intro l hl _
    refine ⟨?_, h.checkpoints⟩
    intro r hr
    rw [importLegacyTraffic_mem himport hr, importLegacyTraffic_mem himport hl]
  · exact fun r i => h.rowsApart hintact htidy.unique (fun m hm => (haligned.minutes m hm).1)
  · intro r i c hc
    have hfrontier : db.frontier firstCheckpointMs r i = firstCheckpointMs := by
      rw [TrafficDb.frontier, TrafficDb.checkpointFor, h.checkpoints]
      rfl
    rw [hfrontier]
    exact h.ended_le hends hc
  · rw [h.checkpoints]
    exact fun c hc => absurd hc List.not_mem_nil

end

/-! ## Queries -/

/-- The contributions of every interface are valid and disjoint, no query is rejected
for overlap, and those of an ordinary request answer. -/
structure TrafficDb.Queryable (db : TrafficDb) : Prop where
  valid : ∀ routerId interfaceId, ∀ c ∈ db.contributionsOn routerId interfaceId, c.Valid
  disjoint : ∀ routerId interfaceId, db.DisjointOn routerId interfaceId
  noOverlap : ∀ query, queryTrafficV4 db query ≠ .error overlapRejection
  answers : ∀ query : TrafficQuery, query.Ranged → query.Limited →
    query.toMs - query.fromMs + query.maxPoints ≤ i64Max →
    db.ownsRouterInterface query.routerId (some query.interfaceId) = true →
    (db.sources query).length ≤ maxTrafficSourceRows →
    ∃ result, queryTrafficV4 db query = .ok result

theorem Migrated.queryable {firstCheckpointMs : Int} {db : TrafficDb}
    (h : Migrated firstCheckpointMs db) : db.Queryable := by
  have hvalid := h.tidy.valid
  have hdisjoint : ∀ routerId interfaceId, db.DisjointOn routerId interfaceId :=
    fun r i => (TrafficDb.disjointOn_iff_rowsApart h.tidy.keyed r i).mpr (h.apart r i)
  refine ⟨hvalid, hdisjoint, ?_, ?_⟩
  · exact fun query => queryTrafficV4_noOverlap (hvalid _ _) (hdisjoint _ _)
  · intro query hranged hlimited hshort howned hrows
    rcases h.tidy.answers h.bytes h.spans (hdisjoint _ _) howned hranged hlimited hshort with
      ⟨hlarge, _⟩ | ⟨result, _, _, hok, _⟩
    · omega
    · exact ⟨result, hok⟩

/-- The import of a legacy database stores every point and exactly the minutes that
meet none, all estimated, and whatever is written afterwards the history can be
queried. -/
theorem legacyImport_queryable (nowMs firstCheckpointMs : Int) {legacy : LegacyTraffic}
    (hkeyed : legacy.Keyed) (haligned : legacy.Aligned 60000)
    (hends : legacy.EndsBy firstCheckpointMs) :
    ∃ imported routerId interfaceOf,
      importLegacyTraffic nowMs legacy TrafficDb.empty = .ok imported ∧
        ImportsExactly legacy routerId interfaceOf imported ∧ imported.AllEstimated ∧
        ∀ writes, Along trafficStep (fun db write => write.AfterImport firstCheckpointMs db)
            imported writes → (run trafficStep imported writes).Queryable := by
  obtain ⟨imported, routerId, interfaceOf, himport, hexact⟩ :=
    importLegacyTraffic_exact nowMs hkeyed
  refine ⟨imported, routerId, interfaceOf, himport, hexact, hexact.allEstimated, ?_⟩
  intro writes hwrites
  have hstep : ∀ db write, Migrated firstCheckpointMs db →
      write.AfterImport firstCheckpointMs db → Migrated firstCheckpointMs (trafficStep db write) :=
    fun db write h hafter => h.step hafter
  exact (run_invariant hstep (hexact.migrated himport haligned hends) hwrites).queryable

/-- Points of two interfaces, one of them under both spellings of its name, and three
minutes, one of which meets a point. -/
def irregularLegacy : LegacyTraffic where
  points :=
    [⟨130000, .finite 9, .finite 7, none⟩, ⟨95000, .finite 9, .finite 7, some "ether1"⟩,
      ⟨131500, .finite 9, .finite 7, some ""⟩]
  minutes :=
    [⟨60000, .finite 8000, .finite 800, none⟩, ⟨120000, .finite 8000, .finite 800, none⟩,
      ⟨120000, .finite 1, .finite 1, some "ether1"⟩]

/-- A router adopts an import, measures one interval from its first checkpoint on and
everything is rolled up. -/
def adoptedWrites (startedAtMs endedAtMs : Int) : List TrafficWrite :=
  [.resolveRouter firstCall,
    .initializeCheckpoint ⟨2, 1, "10", "20", startedAtMs, none⟩,
    .commitSample { plainSample startedAtMs endedAtMs 7 7 with routerId := 2 }
      ⟨2, 1, "17", "27", endedAtMs, none⟩,
    .rollup 300000 60000 9]

theorem legacyImport_queryable_irregular :
    (run trafficStep (stored (importLegacyTraffic 5 irregularLegacy TrafficDb.empty))
      (adoptedWrites 185000 250000)).Queryable := by
  have hkeyed : irregularLegacy.Keyed := ⟨by decide, by decide⟩
  have haligned : irregularLegacy.Aligned 60000 := ⟨by decide, by decide⟩
  obtain ⟨imported, _, _, himport, _, _, hqueryable⟩ :=
    legacyImport_queryable 5 180000 hkeyed haligned ⟨by decide, by decide⟩
  have hstored : stored (importLegacyTraffic 5 irregularLegacy TrafficDb.empty) = imported := by
    rw [himport]
    rfl
  rw [hstored]
  apply hqueryable
  rw [← hstored]
  decide +kernel

/-- A minute that only starts before the first checkpoint meets the first new sample: the
query over the adopted history is rejected for overlap. -/
theorem legacyImport_queryable_fails :
    (legacyMinuteAt 0).Keyed ∧ (legacyMinuteAt 0).Aligned 60000 ∧
      (∀ m ∈ (legacyMinuteAt 0).minutes, m.bucket ≤ 30000) ∧
      ∃ imported, importLegacyTraffic 5 (legacyMinuteAt 0) TrafficDb.empty = .ok imported ∧
        Along trafficStep (fun db write => write.AfterImport 30000 db) imported
          (adoptedWrites 30000 35000) ∧
        ¬ (run trafficStep imported (adoptedWrites 30000 35000)).DisjointOn 2 1 ∧
        queryTrafficV4 (run trafficStep imported (adoptedWrites 30000 35000))
          ⟨2, 1, 0, 60000, 10⟩ = .error overlapRejection := by
  refine ⟨⟨by decide, by decide⟩, ⟨by decide, by decide⟩, by decide, _,
    eq_ok_stored (by decide +kernel), by decide +kernel, by decide +kernel, by decide +kernel⟩

end RouterView.Db
