/-
  Db/RollupDisjoint.lean --- a rollup keeps the contributions disjoint.

  The rows that a rollup leaves are sound again, and if the contributions of an
  interface were pairwise disjoint before it, they are after it.  A new rollup
  row reaches from its bucket boundary to the end of the last segment put into
  it; what else could lie in that stretch was consumed before, because the
  batch takes the oldest samples first.
-/
import RouterView.Db.RollupSpec

set_option autoImplicit false

namespace RouterView.Db

open RouterView.Foundation

/-! ## Sound rows -/

section Rows

variable {beforeMs bucketSizeMs : Int} {db db' : TrafficDb} {consumed : List Consumed}
  {buckets : OrdMap BucketKey RollupBucket}

/-- Where a sample of the result comes from: an untouched sample, or what is
left of a consumed one. -/
theorem RolledUp.sample_cases (h : RolledUp beforeMs bucketSizeMs db consumed buckets db')
    {x : TrafficSample} (hx : x ∈ db'.trafficSamples.rows) :
    (x ∈ db.trafficSamples.rows ∧ ∀ c ∈ consumed, c.sample.id ≠ x.id) ∨
      ∃ c ∈ consumed, c.consumedEnd < c.sample.endedAtMs ∧
        x = c.remainder.applyTo c.sample := by
  have hmem : ∀ c, c ∈ consumed.filter (fun c => !c.complete) ++ consumed.filter Consumed.complete ↔
      c ∈ consumed := by
    intro c
    rw [List.mem_append, List.mem_filter, List.mem_filter]
    cases c.complete <;> simp
  rcases h.samples.rows x hx with ⟨hold, hids⟩ | ⟨c, hc, hleft⟩
  · exact Or.inl ⟨hold, fun c hc => hids c ((hmem c).mpr hc)⟩
  · right
    unfold Consumed.left at hleft
    split at hleft
    · cases hleft
    · rename_i hcomplete
      have hc' := (hmem c).mp hc
      have hle := (h.proper c hc').le_ended
      have hne : ¬ c.consumedEnd = c.sample.endedAtMs := by
        simpa [Consumed.complete] using hcomplete
      exact ⟨c, hc', by omega, (Option.some.inj hleft).symm⟩

theorem Consumed.Proper.remainder_sound {c : Consumed} (h : c.Proper beforeMs)
    (hlt : c.consumedEnd < c.sample.endedAtMs) : (c.remainder.applyTo c.sample).Sound where
  increasing := hlt
  duration := rfl
  downloadBytes := by
    have := (h.quantity_bounds .downloadBytes).2
    simp only [Quantity.ofSample] at this
    simp only [RawTrafficRemainder.applyTo, Consumed.remainder]
    omega
  uploadBytes := by
    have := (h.quantity_bounds .uploadBytes).2
    simp only [Quantity.ofSample] at this
    simp only [RawTrafficRemainder.applyTo, Consumed.remainder]
    omega

theorem EntryOf.rollupRow_sound {entry : BucketKey × RollupBucket}
    (h : EntryOf bucketSizeMs consumed entry) (id : Int) :
    (rollupRow bucketSizeMs entry.1 entry.2 id).Sound where
  increasing := lt_of_le_of_lt h.start_le h.batch_lt
  exactDownloadBytes := h.exact_nonneg .downloadBytes
  exactUploadBytes := h.exact_nonneg .uploadBytes
  estimatedDownloadBytes := h.estimated_nonneg .downloadBytes
  estimatedUploadBytes := h.estimated_nonneg .uploadBytes
  exactDurationMs := h.exact_nonneg .durationMs
  estimatedDurationMs := h.estimated_nonneg .durationMs
  covered := h.covered
  coverage := by
    have hcoverage := h.coverage
    have hstart := h.start_le
    simp only [Quantity.ofAccumulator, Quantity.exactOf, Quantity.estimatedOf] at hcoverage
    simp only [rollupRow]
    omega
  sampleCount := h.sampleCount

theorem mergeable_ordered {excluded stored : TrafficRollup} {batchStartMs : Int}
    (h : excluded.mergeable batchStartMs stored = true) : stored.bucketEndMs ≤ batchStartMs := by
  simp only [TrafficRollup.mergeable, decide_eq_true_eq] at h
  exact h.2.1

theorem EntryOf.merge_sound {entry : BucketKey × RollupBucket}
    (h : EntryOf bucketSizeMs consumed entry) {stored : TrafficRollup} (hstored : stored.Sound)
    (hmergeable : (rollupRow bucketSizeMs entry.1 entry.2 0).mergeable entry.2.batchStartMs
      stored = true) :
    ((rollupRow bucketSizeMs entry.1 entry.2 0).merge stored).Sound := by
  have hrow := h.rollupRow_sound 0
  have hordered := mergeable_ordered hmergeable
  have hbatch := h.batch_lt
  have hincreasing := hstored.increasing
  have hcoverage := h.coverage
  have hcoverage' := hstored.coverage
  have hcovered := hstored.covered
  have hcovered' := hrow.covered
  simp only [Quantity.ofAccumulator, Quantity.exactOf, Quantity.estimatedOf] at hcoverage
  simp only [rollupRow] at hcovered'
  exact {
    increasing := lt_of_lt_of_le hincreasing (le_max_left _ _)
    exactDownloadBytes := add_nonneg hstored.exactDownloadBytes hrow.exactDownloadBytes
    exactUploadBytes := add_nonneg hstored.exactUploadBytes hrow.exactUploadBytes
    estimatedDownloadBytes := add_nonneg hstored.estimatedDownloadBytes hrow.estimatedDownloadBytes
    estimatedUploadBytes := add_nonneg hstored.estimatedUploadBytes hrow.estimatedUploadBytes
    exactDurationMs := add_nonneg hstored.exactDurationMs hrow.exactDurationMs
    estimatedDurationMs := add_nonneg hstored.estimatedDurationMs hrow.estimatedDurationMs
    covered := by
      simp only [TrafficRollup.merge, rollupRow]
      omega
    coverage := by
      simp only [TrafficRollup.merge, rollupRow]
      omega
    sampleCount := add_pos hstored.sampleCount hrow.sampleCount }

/-- A row that a bucket left ends with the bucket's last segment. -/
theorem WrittenBy.bucketEnd {entry : BucketKey × RollupBucket}
    (hentry : EntryOf bucketSizeMs consumed entry) {t : Table TrafficRollup} {r : TrafficRollup}
    (h : WrittenBy bucketSizeMs t entry r) : r.bucketEndMs = entry.2.accumulatedEndMs := by
  rcases h with h | ⟨stored, _, _, hmergeable, h⟩
  · rw [h]
    rfl
  · have hordered := mergeable_ordered hmergeable
    have hbatch := hentry.batch_lt
    rw [h]
    simp only [TrafficRollup.merge, rollupRow]
    omega

theorem RolledUp.samples_sound (h : RolledUp beforeMs bucketSizeMs db consumed buckets db')
    (hsound : ∀ s ∈ db.trafficSamples.rows, s.Sound) : ∀ x ∈ db'.trafficSamples.rows, x.Sound := by
  intro x hx
  rcases h.sample_cases hx with ⟨hold, _⟩ | ⟨c, hc, hlt, rfl⟩
  · exact hsound x hold
  · exact (h.proper c hc).remainder_sound hlt

theorem RolledUp.samples_started (h : RolledUp beforeMs bucketSizeMs db consumed buckets db')
    (hstarted : ∀ s ∈ db.trafficSamples.rows, IsTimestamp s.startedAtMs) :
    ∀ x ∈ db'.trafficSamples.rows, IsTimestamp x.startedAtMs := by
  intro x hx
  rcases h.sample_cases hx with ⟨hold, _⟩ | ⟨c, hc, hlt, rfl⟩
  · exact hstarted x hold
  · have hstart := (h.proper c hc).started
    have hended := (h.proper c hc).ended
    have hadvances := (h.proper c hc).advances
    simp only [IsTimestamp, RawTrafficRemainder.applyTo, Consumed.remainder] at *
    omega

theorem RolledUp.samples_ended (h : RolledUp beforeMs bucketSizeMs db consumed buckets db')
    (hended : ∀ s ∈ db.trafficSamples.rows, IsTimestamp s.endedAtMs) :
    ∀ x ∈ db'.trafficSamples.rows, IsTimestamp x.endedAtMs := by
  intro x hx
  rcases h.sample_cases hx with ⟨hold, _⟩ | ⟨c, hc, _, rfl⟩
  · exact hended x hold
  · exact (h.proper c hc).ended

theorem RolledUp.samples_fit (h : RolledUp beforeMs bucketSizeMs db consumed buckets db')
    (hfit : ∀ s ∈ db.trafficSamples.rows, s.BytesFit) :
    ∀ x ∈ db'.trafficSamples.rows, x.BytesFit := by
  intro x hx
  rcases h.sample_cases hx with ⟨hold, _⟩ | ⟨c, hc, _, rfl⟩
  · exact hfit x hold
  · have hdownload := (h.proper c hc).quantity_bounds .downloadBytes
    have hupload := (h.proper c hc).quantity_bounds .uploadBytes
    obtain ⟨hdownloadFit, huploadFit⟩ := hfit c.sample (h.stored c hc)
    simp only [Quantity.ofSample] at hdownload hupload
    simp only [TrafficSample.BytesFit, RawTrafficRemainder.applyTo, Consumed.remainder]
    omega

/-- The rows that a rollup leaves are sound, and shaped by the bucket size. -/
theorem RolledUp.tidy (h : RolledUp beforeMs bucketSizeMs db consumed buckets db')
    (htidy : db.Tidy bucketSizeMs) : db'.Tidy bucketSizeMs where
  keyed := ⟨h.samples.keyed, h.rollups.keyed⟩
  unique := h.rollups.unique
  samples := h.samples_sound htidy.samples
  started := h.samples_started htidy.started
  ended := h.samples_ended htidy.ended
  rollups := by
    intro r hr
    rcases h.rollups.rows r hr with hold | ⟨entry, hentry, hby⟩
    · exact htidy.rollups r hold
    · have he := h.covers.entries entry hentry
      rcases hby with hby | ⟨stored, hstored, _, hmergeable, hby⟩
      · rw [hby]
        exact he.rollupRow_sound _
      · rw [hby]
        exact he.merge_sound (htidy.rollups stored hstored) hmergeable
  shaped := by
    intro r hr
    rcases h.rollups.rows r hr with hold | ⟨entry, hentry, hby⟩
    · exact htidy.shaped r hold
    · have he := h.covers.entries entry hentry
      have hend := hby.bucketEnd he
      have hle := he.end_le
      obtain ⟨_, _, hsize, hstart, hsource⟩ := hby.ofBucket
      exact ⟨hstart ▸ he.floor, Or.inl ⟨hsource, hsize, by omega⟩⟩

/-- A rollup leaves no sample that straddles a window which none straddled. -/
theorem RolledUp.wholeIn (h : RolledUp beforeMs bucketSizeMs db consumed buckets db')
    {routerId interfaceId : Int} {window : Int → Bool}
    (hwhole : db.WholeIn routerId interfaceId window) :
    db'.WholeIn routerId interfaceId window := by
  intro x hx hon
  rcases h.sample_cases hx with ⟨hold, _⟩ | ⟨c, hc, hlt, rfl⟩
  · exact hwhole x hold hon
  · have hc' := hwhole c.sample (h.stored c hc) hon
    have hadvances := (h.proper c hc).advances
    intro t hlo hhi
    have hlo' : c.consumedEnd ≤ t := hlo
    have hhi' : t < c.sample.endedAtMs := hhi
    have hstart : window c.consumedEnd = window c.sample.startedAtMs :=
      hc' c.consumedEnd (le_of_lt hadvances) hlt
    have ht : window t = window c.sample.startedAtMs :=
      hc' t (by simp only [TrafficSampleInput.span]; omega) hhi'
    exact ht.trans hstart.symm

end Rows

/-! ## Disjointness -/

section Disjoint

variable {beforeMs bucketSizeMs : Int} {db db' : TrafficDb} {consumed : List Consumed}
  {buckets : OrdMap BucketKey RollupBucket} {routerId interfaceId : Int}

/-- Every sample of the result is a part of a sample before. -/
theorem RolledUp.sample_origin (h : RolledUp beforeMs bucketSizeMs db consumed buckets db')
    {x : TrafficSample} (hx : x ∈ db'.trafficSamples.rows)
    (hon : x.on routerId interfaceId = true) :
    ∃ s ∈ db.trafficSamples.rows, s.on routerId interfaceId = true ∧ s.id = x.id ∧
      s.startedAtMs ≤ x.startedAtMs ∧ x.endedAtMs = s.endedAtMs := by
  rcases h.sample_cases hx with ⟨hold, _⟩ | ⟨c, hc, _, rfl⟩
  · exact ⟨x, hold, hon, rfl, le_refl _, rfl⟩
  · exact ⟨c.sample, h.stored c hc, hon, rfl, le_of_lt (h.proper c hc).advances, rfl⟩

/-- A proper sample that starts no later than another one, from which it is
apart, ends before that one starts. -/
theorem TrafficDb.RowsApart.ended_le_started (hapart : db.RowsApart routerId interfaceId)
    (htidy : db.Tidy bucketSizeMs) {s t : TrafficSample} (hs : s ∈ db.trafficSamples.rows)
    (ht : t ∈ db.trafficSamples.rows) (hson : s.on routerId interfaceId = true)
    (hton : t.on routerId interfaceId = true) (hne : s.id ≠ t.id)
    (hle : s.startedAtMs ≤ t.startedAtMs) : s.endedAtMs ≤ t.startedAtMs :=
  (hapart.samples s hs t ht hson hton hne).before_of_start_le (htidy.samples t ht).increasing hle

/-- The samples of the interface come one after the other. -/
def TrafficDb.SamplesInTurn (db : TrafficDb) (routerId interfaceId : Int) : Prop :=
  ∀ s ∈ db.trafficSamples.rows, ∀ t ∈ db.trafficSamples.rows,
    s.on routerId interfaceId = true → t.on routerId interfaceId = true → s.id ≠ t.id →
    s.startedAtMs ≤ t.startedAtMs → s.endedAtMs ≤ t.startedAtMs

theorem TrafficDb.RowsApart.inTurn (hapart : db.RowsApart routerId interfaceId)
    (htidy : db.Tidy bucketSizeMs) : db.SamplesInTurn routerId interfaceId :=
  fun _ hs _ ht => hapart.ended_le_started htidy hs ht

/-- What was consumed ended before any sample that is left starts. -/
theorem RolledUp.consumed_le_next (h : RolledUp beforeMs bucketSizeMs db consumed buckets db')
    (hturn : db.SamplesInTurn routerId interfaceId)
    {c : Consumed} (hc : c ∈ consumed) (hcon : c.sample.on routerId interfaceId = true)
    {x : TrafficSample} (hx : x ∈ db'.trafficSamples.rows)
    (hxon : x.on routerId interfaceId = true) : c.consumedEnd ≤ x.startedAtMs := by
  have hproper := h.proper c hc
  have hcended := hproper.le_ended
  rcases h.sample_cases hx with ⟨hold, hids⟩ | ⟨d, hd, hlt, rfl⟩
  · by_cases hbefore : x.startedAtMs < beforeMs
    · have hstart := h.oldest c hc x hold hids hbefore
      have := hturn _ (h.stored c hc) _ hold hcon hxon (hids c hc) hstart
      omega
    · have := hproper.le_before
      omega
  · have hdproper := h.proper d hd
    by_cases hsame : c.sample.id = d.sample.id
    · have hcd : c = d := List.inj_on_of_nodup_map h.distinct hc hd hsame
      rw [hcd]
      exact le_refl _
    · have hdon : d.sample.on routerId interfaceId = true := hxon
      have hstart : c.sample.startedAtMs ≤ d.sample.startedAtMs := by
        -- otherwise `c` came after `d`, which was then exhausted up to the cutoff
        by_contra hgt
        have hafter : d.Exhausted beforeMs := by
          have hne : c ≠ d := fun heq => hsame (by rw [heq])
          rcases Table.pairwise_either (h.exhausted.and h.ordered) hc hd hne with hcd | hdc
          · exact absurd hcd.2 hgt
          · exact hdc.1
        have hcstart := h.before c hc
        have hended := hturn _ (h.stored d hd) _ (h.stored c hc) hdon hcon (Ne.symm hsame)
          (by omega)
        simp only [Consumed.Exhausted] at hafter
        omega
      have hended := hturn _ (h.stored c hc) _ (h.stored d hd) hcon hdon hsame hstart
      have hadvances := hdproper.advances
      have hleft : (d.remainder.applyTo d.sample).startedAtMs = d.consumedEnd := rfl
      omega

/-- A stored row is apart from the row that a bucket left, unless it has the
bucket's key. -/
theorem RolledUp.stored_apart_written
    (h : RolledUp beforeMs bucketSizeMs db consumed buckets db')
    (htidy : db.Tidy bucketSizeMs) (hapart : db.RowsApart routerId interfaceId)
    {a b : TrafficRollup} (ha : a ∈ db.trafficRollups.rows)
    (haon : a.on routerId interfaceId = true) (hbon : b.on routerId interfaceId = true)
    {entry : BucketKey × RollupBucket} (hentry : entry ∈ buckets.entries)
    (hby : WrittenBy bucketSizeMs db.trafficRollups entry b)
    (hother : ¬ a.ofBucket bucketSizeMs entry.1) : a.span.Apart b.span := by
  have he := h.covers.entries entry hentry
  have hend := hby.bucketEnd he
  have hle := he.end_le
  obtain ⟨hrouter, hinterface, _, hstart, _⟩ := hby.ofBucket
  obtain ⟨hdvd, hraw | himported⟩ := htidy.shaped a ha
  · -- both are rows of one bucket size, with different starts
    obtain ⟨hsource, hsize, haend⟩ := hraw
    have hne : a.bucketStartMs ≠ entry.1.startMs := by
      intro heq
      simp only [TrafficRollup.on, decide_eq_true_eq] at haon hbon
      exact hother ⟨haon.1.trans (hbon.1.symm.trans hrouter),
        haon.2.trans (hbon.2.symm.trans hinterface), hsize, heq, hsource⟩
    simp only [Span.Apart, Span.Before, TrafficRollup.span]
    rcases lt_or_gt_of_ne hne with hlt | hgt
    · have := add_le_of_dvd_of_lt hdvd he.floor hlt
      omega
    · have := add_le_of_dvd_of_lt he.floor hdvd hgt
      omega
  · -- an imported row that met the bucket would cover it, and the sample in it
    by_contra hmeets
    rw [Span.not_apart_iff_meets] at hmeets
    obtain ⟨hlo, hhi⟩ := hmeets
    simp only [TrafficRollup.span] at hlo hhi
    obtain ⟨c, hc, hon, hcstart, hcend⟩ := he.opened
    have hcon : c.sample.on routerId interfaceId = true := by
      simp only [TrafficSampleInput.on, TrafficRollup.on, decide_eq_true_eq] at hon hbon ⊢
      exact ⟨hon.1.trans (hrouter.symm.trans hbon.1), hon.2.trans (hinterface.symm.trans hbon.2)⟩
    have hproper := h.proper c hc
    have hended := hproper.le_ended
    have hbatch := he.start_le
    have hbatch' := he.batch_lt
    have hastart : a.bucketStartMs ≤ entry.1.startMs := by
      by_contra hgt
      have := add_le_of_dvd_of_lt he.floor hdvd (not_le.mp hgt)
      omega
    have haend : entry.1.startMs + bucketSizeMs ≤ a.bucketEndMs :=
      add_le_of_dvd_of_lt he.floor himported.2 (by omega)
    have hacross := hapart.across c.sample (h.stored c hc) a ha hcon haon
    simp only [Span.Apart, Span.Before, TrafficRollup.span, TrafficSampleInput.span] at hacross
    omega

/-- A sample of the result is apart from the row that a bucket left. -/
theorem RolledUp.next_apart_written
    (h : RolledUp beforeMs bucketSizeMs db consumed buckets db')
    (hturn : db.SamplesInTurn routerId interfaceId)
    {x : TrafficSample} (hx : x ∈ db'.trafficSamples.rows)
    (hxon : x.on routerId interfaceId = true) {b : TrafficRollup}
    (hbon : b.on routerId interfaceId = true)
    {entry : BucketKey × RollupBucket} (hentry : entry ∈ buckets.entries)
    (hby : WrittenBy bucketSizeMs db.trafficRollups entry b) : x.span.Apart b.span := by
  have he := h.covers.entries entry hentry
  have hend := hby.bucketEnd he
  obtain ⟨hrouter, hinterface, _, _, _⟩ := hby.ofBucket
  obtain ⟨c, hc, hon, _, hcend⟩ := he.closed
  have hcon : c.sample.on routerId interfaceId = true := by
    simp only [TrafficSampleInput.on, TrafficRollup.on, decide_eq_true_eq] at hon hbon ⊢
    exact ⟨hon.1.trans (hrouter.symm.trans hbon.1), hon.2.trans (hinterface.symm.trans hbon.2)⟩
  have hleft := h.consumed_le_next hturn hc hcon hx hxon
  right
  simp only [Span.Before, TrafficRollup.span, TrafficSampleInput.span]
  omega

theorem RolledUp.sample_apart_written
    (h : RolledUp beforeMs bucketSizeMs db consumed buckets db')
    (htidy : db.Tidy bucketSizeMs) (hapart : db.RowsApart routerId interfaceId)
    {x : TrafficSample} (hx : x ∈ db'.trafficSamples.rows)
    (hxon : x.on routerId interfaceId = true) {b : TrafficRollup}
    (hbon : b.on routerId interfaceId = true)
    {entry : BucketKey × RollupBucket} (hentry : entry ∈ buckets.entries)
    (hby : WrittenBy bucketSizeMs db.trafficRollups entry b) : x.span.Apart b.span :=
  h.next_apart_written (hapart.inTurn htidy) hx hxon hbon hentry hby

/-- If the rows of an interface were pairwise apart before a rollup, they are
after it. -/
theorem RolledUp.rowsApart (h : RolledUp beforeMs bucketSizeMs db consumed buckets db')
    (htidy : db.Tidy bucketSizeMs) (hapart : db.RowsApart routerId interfaceId) :
    db'.RowsApart routerId interfaceId where
  samples := by
    intro x hx y hy hxon hyon hne
    obtain ⟨s, hs, hson, hsid, hsstart, hsend⟩ := h.sample_origin hx hxon
    obtain ⟨t, ht, hton, htid, htstart, htend⟩ := h.sample_origin hy hyon
    have hst := hapart.samples s hs t ht hson hton (by rw [hsid, htid]; exact hne)
    have hxt : x.span.Apart t.span := hst.mono hsstart (le_of_eq hsend)
    have hyx : y.span.Apart x.span := hxt.symm.mono htstart (le_of_eq htend)
    exact hyx.symm
  rollups := by
    intro a ha b hb haon hbon hne
    have hunique : ∀ {entry : BucketKey × RollupBucket}, a.ofBucket bucketSizeMs entry.1 →
        ¬ b.ofBucket bucketSizeMs entry.1 := by
      rintro entry ⟨har, hai, hasize, hastart, hasource⟩ ⟨hbr, hbi, hbsize, hbstart, hbsource⟩
      refine hne (h.rollups.unique a ha b hb ?_)
      simp only [TrafficRollup.conflicts, decide_eq_true_eq]
      exact ⟨hbr.trans har.symm, hbi.trans hai.symm, hbsize.trans hasize.symm,
        hbstart.trans hastart.symm, hbsource.trans hasource.symm⟩
    rcases h.rollups.rows a ha with haold | ⟨e, he, hea⟩ <;>
      rcases h.rollups.rows b hb with hbold | ⟨f, hf, hfb⟩
    · exact hapart.rollups a haold b hbold haon hbon hne
    · exact h.stored_apart_written htidy hapart haold haon hbon hf hfb
        (fun hof => hunique hof hfb.ofBucket)
    · exact (h.stored_apart_written htidy hapart hbold hbon haon he hea
        (fun hof => hunique hea.ofBucket hof)).symm
    · -- two buckets of one interface have different starts
      have hea' := h.covers.entries e he
      have hfb' := h.covers.entries f hf
      have haend := hea.bucketEnd hea'
      have hbend := hfb.bucketEnd hfb'
      have hale := hea'.end_le
      have hble := hfb'.end_le
      obtain ⟨har, hai, _, hastart, _⟩ := hea.ofBucket
      obtain ⟨hbr, hbi, _, hbstart, _⟩ := hfb.ofBucket
      have hstarts : e.1.startMs ≠ f.1.startMs := by
        intro heq
        simp only [TrafficRollup.on, decide_eq_true_eq] at haon hbon
        have hkey : e.1 = f.1 := BucketKey.ext
          (har.symm.trans (haon.1.trans (hbon.1.symm.trans hbr)))
          (hai.symm.trans (haon.2.trans (hbon.2.symm.trans hbi))) heq
        exact hunique hea.ofBucket (hkey ▸ hfb.ofBucket)
      simp only [Span.Apart, Span.Before, TrafficRollup.span]
      rcases lt_or_gt_of_ne hstarts with hlt | hgt
      · have := add_le_of_dvd_of_lt hea'.floor hfb'.floor hlt
        omega
      · have := add_le_of_dvd_of_lt hfb'.floor hea'.floor hgt
        omega
  across := by
    intro x hx b hb hxon hbon
    rcases h.rollups.rows b hb with hbold | ⟨f, hf, hfb⟩
    · obtain ⟨s, hs, hson, _, hsstart, hsend⟩ := h.sample_origin hx hxon
      exact (hapart.across s hs b hbold hson hbon).mono hsstart (le_of_eq hsend)
    · exact h.sample_apart_written htidy hapart hx hxon hbon hf hfb

end Disjoint

end RouterView.Db
