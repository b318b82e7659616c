/-
  Db/RollupReach.lean --- how far the contributions of an interface reach.

  A rollup moves time from samples to rollup rows, but the latest end of an
  interface's contributions stays where it is, every row keeps its 64-bit byte
  columns, and every new row says that it comes from a rollup.
-/
import RouterView.Db.RollupDisjoint
import RouterView.Db.QuerySegments
import RouterView.Db.QuerySpec

set_option autoImplicit false

namespace RouterView.Db

open RouterView.Foundation

theorem mem_contributionsOn {db : TrafficDb} {routerId interfaceId : Int}
    {c : TrafficContribution} :
    c ∈ db.contributionsOn routerId interfaceId ↔
      (∃ s ∈ db.trafficSamples.rows, s.on routerId interfaceId = true ∧ c = .ofSample s) ∨
        ∃ r ∈ db.trafficRollups.rows, r.on routerId interfaceId = true ∧ c = .ofRollup r := by
  simp only [TrafficDb.contributionsOn, TrafficDb.samplesOn, TrafficDb.rollupsOn,
    List.mem_append, List.mem_map, List.mem_filter]
  constructor
  · rintro (⟨s, ⟨hs, hon⟩, rfl⟩ | ⟨r, ⟨hr, hon⟩, rfl⟩)
    · exact Or.inl ⟨s, hs, hon, rfl⟩
    · exact Or.inr ⟨r, hr, hon, rfl⟩
  · rintro (⟨s, hs, hon, rfl⟩ | ⟨r, hr, hon, rfl⟩)
    · exact Or.inl ⟨s, ⟨hs, hon⟩, rfl⟩
    · exact Or.inr ⟨r, ⟨hr, hon⟩, rfl⟩

/-- Every byte column of the samples and rollups is a 64-bit integer. -/
structure TrafficDb.BytesFit (db : TrafficDb) : Prop where
  samples : ∀ s ∈ db.trafficSamples.rows, s.downloadBytes ≤ i64Max ∧ s.uploadBytes ≤ i64Max
  rollups : ∀ r ∈ db.trafficRollups.rows, r.accumulator.Fits

theorem TrafficDb.BytesFit.congr {db db' : TrafficDb} (h : db.BytesFit)
    (hsamples : db'.trafficSamples = db.trafficSamples)
    (hrollups : db'.trafficRollups = db.trafficRollups) : db'.BytesFit :=
  ⟨hsamples ▸ h.samples, hrollups ▸ h.rollups⟩

theorem TrafficDb.BytesFit.contribution {db : TrafficDb} (h : db.BytesFit)
    {routerId interfaceId : Int} {c : TrafficContribution}
    (hc : c ∈ db.contributionsOn routerId interfaceId) :
    c.exactDownloadBytes + c.estimatedDownloadBytes < 2 ^ 64 ∧
      c.exactUploadBytes + c.estimatedUploadBytes < 2 ^ 64 := by
  rcases mem_contributionsOn.mp hc with ⟨s, hs, _, rfl⟩ | ⟨r, hr, _, rfl⟩
  · obtain ⟨hdownload, hupload⟩ := h.samples s hs
    simp only [i64Max] at hdownload hupload
    cases hquality : s.quality <;>
      simp only [TrafficContribution.ofSample, hquality, if_true, reduceCtorEq, if_false] <;>
      omega
  · obtain ⟨hexactDownload, hexactUpload, hestimatedDownload, hestimatedUpload⟩ := h.rollups r hr
    simp only [TrafficRollup.accumulator, i64Max] at *
    simp only [TrafficContribution.ofRollup]
    omega

section

variable {beforeMs bucketSizeMs : Int} {db db' : TrafficDb} {consumed : List Consumed}
  {buckets : OrdMap BucketKey RollupBucket} {routerId interfaceId : Int}

theorem RolledUp.bytesFit (h : RolledUp beforeMs bucketSizeMs db consumed buckets db')
    (hfit : db.BytesFit) : db'.BytesFit where
  samples := h.samples_fit hfit.samples
  rollups := by
    intro r hr
    rcases h.rollups.rows r hr with hold | ⟨entry, hentry, hby⟩
    · exact hfit.rollups r hold
    · have hentryFit := h.rollups.fits entry hentry
      rcases hby with hby | ⟨stored, _, _, hmergeable, hby⟩
      · rw [hby]
        exact ⟨hentryFit.exactDownloadBytes, hentryFit.exactUploadBytes,
          hentryFit.estimatedDownloadBytes, hentryFit.estimatedUploadBytes⟩
      · rw [hby]
        simp only [TrafficRollup.mergeable, decide_eq_true_eq] at hmergeable
        obtain ⟨_, _, hexactDownload, hexactUpload, hestimatedDownload, hestimatedUpload, _⟩ :=
          hmergeable
        constructor <;> simp only [TrafficRollup.accumulator, TrafficRollup.merge] <;> omega

/-- A rollup leaves the other tables alone. -/
theorem RolledUp.others (h : RolledUp beforeMs bucketSizeMs db consumed buckets db') :
    db'.routers = db.routers ∧ db'.routerInterfaces = db.routerInterfaces ∧
      db'.counterCheckpoints = db.counterCheckpoints := by
  rw [h.frame]
  exact ⟨rfl, rfl, rfl⟩

/-- Every new row comes from a rollup. -/
theorem RolledUp.source (h : RolledUp beforeMs bucketSizeMs db consumed buckets db')
    {r : TrafficRollup} (hr : r ∈ db'.trafficRollups.rows) :
    r ∈ db.trafficRollups.rows ∨ r.source = "raw-rollup" := by
  rcases h.rollups.rows r hr with hold | ⟨entry, _, hby⟩
  · exact Or.inl hold
  · obtain ⟨_, _, _, _, hsource⟩ := hby.ofBucket
    exact Or.inr hsource

/-- A rollup row is no longer than a 64-bit integer can say. -/
theorem RolledUp.span_le (h : RolledUp beforeMs bucketSizeMs db consumed buckets db')
    (htidy : db.Tidy bucketSizeMs) (hsize : IsI64 bucketSizeMs)
    (hspan : ∀ r ∈ db.trafficRollups.rows, r.bucketEndMs - r.bucketStartMs ≤ i64Max) :
    ∀ r ∈ db'.trafficRollups.rows, r.bucketEndMs - r.bucketStartMs ≤ i64Max := by
  intro r hr
  rcases h.source hr with hold | hsource
  · exact hspan r hold
  · have hle := hsize.2
    rcases ((h.tidy htidy).shaped r hr).2 with ⟨_, _, hend⟩ | ⟨hother, _⟩
    · omega
    · exact absurd hsource hother

theorem TrafficDb.Tidy.span_le (htidy : db.Tidy bucketSizeMs)
    (hspan : ∀ r ∈ db.trafficRollups.rows, r.bucketEndMs - r.bucketStartMs ≤ i64Max)
    {c : TrafficContribution} (hc : c ∈ db.contributionsOn routerId interfaceId) :
    c.endedAtMs - c.startedAtMs ≤ i64Max := by
  rcases mem_contributionsOn.mp hc with ⟨s, hs, _, rfl⟩ | ⟨r, hr, _, rfl⟩
  · exact ((htidy.ended s hs).sub_isI64 (htidy.started s hs)).2
  · exact hspan r hr

/-- No contribution ends later than one before the rollup. -/
theorem RolledUp.ended_le (h : RolledUp beforeMs bucketSizeMs db consumed buckets db')
    {limit : Int} (hlimit : ∀ c ∈ db.contributionsOn routerId interfaceId, c.endedAtMs ≤ limit) :
    ∀ c ∈ db'.contributionsOn routerId interfaceId, c.endedAtMs ≤ limit := by
  intro c hc
  rcases mem_contributionsOn.mp hc with ⟨s, hs, hon, rfl⟩ | ⟨r, hr, hon, rfl⟩
  · obtain ⟨origin, horigin, horiginOn, _, _, hended⟩ := h.sample_origin hs hon
    have hbefore := hlimit _ (mem_contributionsOn.mpr (Or.inl ⟨origin, horigin, horiginOn, rfl⟩))
    simp only [TrafficContribution.ofSample] at hbefore ⊢
    omega
  · rcases h.rollups.rows r hr with hold | ⟨entry, hentry, hby⟩
    · exact hlimit _ (mem_contributionsOn.mpr (Or.inr ⟨r, hold, hon, rfl⟩))
    · have he := h.covers.entries entry hentry
      have hend := hby.bucketEnd he
      obtain ⟨hrouter, hinterface, _⟩ := hby.ofBucket
      obtain ⟨c, hc', hcOn, hstart, hlt⟩ := he.closed
      have hle := (h.proper c hc').le_ended
      have hon' : c.sample.on routerId interfaceId = true := by
        simp only [TrafficRollup.on, decide_eq_true_eq] at hon
        rw [← hon.1, ← hon.2, hrouter, hinterface]
        exact hcOn
      have hbefore := hlimit _ (mem_contributionsOn.mpr
        (Or.inl ⟨c.sample, h.stored c hc', hon', rfl⟩))
      simp only [TrafficContribution.ofSample, TrafficContribution.ofRollup] at hbefore ⊢
      omega

/-- Every contribution before the rollup is reached by one after it. -/
theorem RolledUp.reaches (h : RolledUp beforeMs bucketSizeMs db consumed buckets db')
    (hkeyed : db.Keyed) {c : TrafficContribution} (hc : c ∈ db.contributionsOn routerId interfaceId) :
    ∃ c' ∈ db'.contributionsOn routerId interfaceId, c.endedAtMs ≤ c'.endedAtMs := by
  have hmem : ∀ d, d ∈ consumed.filter (fun d => !d.complete) ++ consumed.filter Consumed.complete ↔
      d ∈ consumed := by
    intro d
    rw [List.mem_append, List.mem_filter, List.mem_filter]
    cases d.complete <;> simp
  rcases mem_contributionsOn.mp hc with ⟨s, hs, hon, rfl⟩ | ⟨r, hr, hon, rfl⟩
  · by_cases htouched : ∃ d ∈ consumed, d.sample.id = s.id
    · obtain ⟨d, hd, hid⟩ := htouched
      have hsame : d.sample = s := hkeyed.samples.eq_of_key_eq (h.stored d hd) hs hid
      subst hsame
      cases hcomplete : d.complete with
      | false =>
          -- what is left of the sample still ends where it ended
          have hleft : d.left = some (d.remainder.applyTo d.sample) := by
            simp [Consumed.left, hcomplete]
          exact ⟨_, mem_contributionsOn.mpr (Or.inl ⟨_, h.samples.remains d ((hmem d).mpr hd) _
            hleft, hon, rfl⟩), le_refl _⟩
      | true =>
          have hend : d.consumedEnd = d.sample.endedAtMs := of_decide_eq_true hcomplete
          obtain ⟨entry, hentry, hentryOn, hreaches⟩ :=
            h.covers.filed d hd (h.proper d hd).advances
          obtain ⟨r, hr, hrouter, hinterface, hle⟩ := h.rollups.written entry hentry
          refine ⟨.ofRollup r, mem_contributionsOn.mpr (Or.inr ⟨r, hr, ?_, rfl⟩), ?_⟩
          · simp only [TrafficSampleInput.on, decide_eq_true_eq] at hon hentryOn
            simp only [TrafficRollup.on, decide_eq_true_eq, hrouter, hinterface]
            exact ⟨hentryOn.1.symm.trans hon.1, hentryOn.2.symm.trans hon.2⟩
          · simp only [TrafficContribution.ofSample, TrafficContribution.ofRollup]
            omega
    · refine ⟨.ofSample s, mem_contributionsOn.mpr (Or.inl ⟨s, ?_, hon, rfl⟩), le_refl _⟩
      exact h.samples.pending s hs (fun d hd hid => htouched ⟨d, (hmem d).mp hd, hid⟩)
  · obtain ⟨r', hr', hrouter, hinterface, hle⟩ := h.rollups.kept r hr
    refine ⟨.ofRollup r', mem_contributionsOn.mpr (Or.inr ⟨r', hr', ?_, rfl⟩), hle⟩
    simp only [TrafficRollup.on, hrouter, hinterface] at hon ⊢
    exact hon

/-- A query over valid and disjoint rows answers, unless it reads too many of them. -/
theorem TrafficDb.Tidy.answers (htidy : db.Tidy bucketSizeMs) (hbytes : db.BytesFit)
    (hspans : ∀ r ∈ db.trafficRollups.rows, r.bucketEndMs - r.bucketStartMs ≤ i64Max)
    {query : TrafficQuery} (hdisjoint : db.DisjointOn query.routerId query.interfaceId)
    (howned : db.ownsRouterInterface query.routerId (some query.interfaceId) = true)
    (hranged : query.Ranged) (hlimited : query.Limited)
    (hshort : query.toMs - query.fromMs + query.maxPoints ≤ i64Max) :
    ((db.sources query).length > maxTrafficSourceRows ∧
      queryTrafficV4 db query = .error (.trafficQueryTooLarge maxTrafficSourceRows)) ∨
      ∃ result size state, queryTrafficV4 db query = .ok result ∧
        Answer db query result size state := by
  have hbounded : ∀ c ∈ db.sources query, c.Bounded := fun c hc =>
    ⟨htidy.span_le hspans (List.mem_of_mem_filter hc),
      (hbytes.contribution (List.mem_of_mem_filter hc)).1,
      (hbytes.contribution (List.mem_of_mem_filter hc)).2⟩
  have hvalid : ∀ c ∈ db.contributionsOn query.routerId query.interfaceId, c.Valid := by
    intro c hc
    rcases mem_contributionsOn.mp hc with ⟨s, hs, _, rfl⟩ | ⟨r, hr, _, rfl⟩
    · exact (htidy.samples s hs).valid
    · exact (htidy.rollups r hr).valid
  have haccepted : Accepted none (db.mergedSources query) := by
    rw [accepted_mergedSources_iff]
    exact ⟨fun c hc => hvalid c (List.mem_of_mem_filter hc),
      hdisjoint.sublist List.filter_sublist⟩
  rcases queryTrafficV4_cases hranged hlimited hshort howned hbounded with
    hlarge | ⟨_, _, hanswer⟩ | ⟨_, hnot, _⟩
  · exact Or.inl hlarge
  · exact Or.inr hanswer
  · exact absurd haccepted hnot

end

end RouterView.Db
