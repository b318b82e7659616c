/-
  Poller/MonthBudget.lean --- the rows that the usage of a month is read from.

  Every sample ends at a sample time of its own, and every rollup row fills a
  minute of its own.  When polls are three seconds or more apart, a month has no
  room for more rows of an interface than a query reads, whether the maintenance
  runs or not, and whether it succeeds or fails.

  A run is any order of answers, ticks without an answer and restarts; each storage
  call of a tick may take effect, fail, or lose its acknowledgement.  The only
  assumption on a run is that its sample times are an interval apart.

  Left out: the number of rows that a query without the aggregate interface reads,
  and the time that a query takes.
-/
import RouterView.Db.Migrated
import RouterView.Foundation.Instants
import RouterView.Poller.History
import RouterView.Poller.PollSpec

set_option autoImplicit false

namespace RouterView.Poller

open RouterView.Config
open RouterView.Foundation
open RouterView.Db

/-! ## The invariant -/

/-- Each sample of an interface ends at a sample time of its own, and the rollup rows come
from samples. -/
structure Paced (times : List Int) (s : PollerState) : Prop where
  stored : Stored maintenanceBucketMs s
  plain : s.db.Plain
  unique : ∀ a ∈ s.db.trafficSamples.rows, ∀ b ∈ s.db.trafficSamples.rows, a.sameKey b → a = b
  samples : ∀ x ∈ s.db.trafficSamples.rows, x.endedAtMs ∈ times ∧ x.source = exactTrafficSource
  rollups : ∀ r ∈ s.db.trafficRollups.rows, r.source = "raw-rollup"

namespace Paced

variable {times : List Int} {s : PollerState} {db' : TrafficDb}

theorem empty : Paced [] ⟨TrafficDb.empty, Baselines.empty⟩ where
  stored := ⟨TrafficDb.Tidy.empty _, ⟨by simp [TrafficDb.empty], by simp [TrafficDb.empty]⟩,
    by simp [TrafficDb.empty], by simp [Baselines.empty]⟩
  plain := by simp [TrafficDb.Plain, TrafficDb.empty]
  unique := by simp [TrafficDb.empty]
  samples := by simp [TrafficDb.empty]
  rollups := by simp [TrafficDb.empty]

theorem mono (h : Paced times s) {times' : List Int} (hsub : ∀ t ∈ times, t ∈ times') :
    Paced times' s :=
  { h with samples := fun x hx => ⟨hsub _ (h.samples x hx).1, (h.samples x hx).2⟩ }

/-- Fewer baselines are as good. -/
theorem forget (h : Paced times s) {baselines : Baselines}
    (hle : ∀ id baseline, baselines id = some baseline → s.baselines id = some baseline) :
    Paced times { s with baselines := baselines } :=
  { h with
    stored := ⟨h.stored.tidy, h.stored.bytes, h.stored.spans,
      fun id baseline hbaseline => h.stored.baselines id baseline (hle id baseline hbaseline)⟩ }

/-- A database with the same samples and rollups. -/
theorem congr (h : Paced times s) (hplain : db'.Plain)
    (hsamples : db'.trafficSamples = s.db.trafficSamples)
    (hrollups : db'.trafficRollups = s.db.trafficRollups) : Paced times { s with db := db' } where
  stored := ⟨h.stored.tidy.congr hsamples hrollups, h.stored.bytes.congr hsamples hrollups,
    hrollups ▸ h.stored.spans, h.stored.baselines⟩
  plain := hplain
  unique := hsamples ▸ h.unique
  samples := hsamples ▸ h.samples
  rollups := hrollups ▸ h.rollups

/-- A new sample has a key that no stored one has. -/
theorem record (h : Paced times s) {observation : CounterObservation}
    {outcome : CounterPersistenceOutcome} {marker : Option String}
    (hrecorded : Recorded observation s outcome marker db')
    (hstored : Stored maintenanceBucketMs { s with db := db' })
    (htime : observation.observedAtMs ∈ times) : Paced times { s with db := db' } := by
  have hplain : db'.Plain := by
    unfold TrafficDb.Plain
    rw [hrecorded.owns.1]
    exact h.plain
  rcases hrecorded.contributionsOn_cases with
    ⟨hsamples, hrollups⟩ | ⟨previous, deltas, _, _, hnew, _⟩
  · exact h.congr hplain hsamples hrollups
  · have hresult := hnew.result
    have hrows : db'.trafficSamples.rows = s.db.trafficSamples.rows ++
        [{ exactSample previous observation deltas with
          id := s.db.trafficSamples.sequence + 1 }] := by
      rw [hresult]
      rfl
    have hfresh := TrafficDb.existingSample_eq_none hnew.fresh
    refine ⟨hstored, hplain, ?_, ?_, ?_⟩
    · intro a ha b hb hkey
      rw [hrows, List.mem_append, List.mem_singleton] at ha hb
      rcases ha with ha | rfl <;> rcases hb with hb | rfl
      · exact h.unique a ha b hb hkey
      · exact absurd hkey (hfresh a ha _)
      · obtain ⟨hrouter, hinterface, hended, hsource⟩ := hkey
        exact absurd ⟨hrouter.symm, hinterface.symm, hended.symm, hsource.symm⟩ (hfresh b hb _)
      · rfl
    · intro x hx
      rw [hrows, List.mem_append, List.mem_singleton] at hx
      rcases hx with hx | rfl
      · exact h.samples x hx
      · exact ⟨htime, rfl⟩
    · intro r hr
      apply h.rollups r
      rw [hresult] at hr
      exact hr

theorem observe (h : Paced times s) {s' : PollerState} {outcomes : StorageOutcomes}
    {observation : CounterObservation} {result : DatabaseResult CounterPersistenceOutcome}
    (htime : observation.observedAtMs ∈ times) (htimestamp : IsTimestamp observation.observedAtMs)
    (hpersist : persistCounterObservation outcomes observation s = (result, s')) :
    Paced times s' := by
  have hbucket : IsI64 maintenanceBucketMs := by decide
  have hstep : Stored maintenanceBucketMs s' := by
    have htimely : (HistoryEvent.poll (.observe outcomes observation)).TimelyOn
        observation.routerId observation.interfaceId := ⟨htimestamp, fun _ => rfl⟩
    have hkept := h.stored.step hbucket htimely
    simp only [historyStep, pollerStep, hpersist] at hkept
    exact hkept
  have hbaselines : ∀ db, s'.db = db → Stored maintenanceBucketMs { s with db := db } :=
    fun db hdb => ⟨hdb ▸ hstep.tidy, hdb ▸ hstep.bytes, hdb ▸ hstep.spans, h.stored.baselines⟩
  rcases persistCounterObservation_cases hpersist with
    ⟨_, hsame⟩ | ⟨outcome, marker, db', hrecorded, ⟨_, hstate⟩ | ⟨_, _, hstate⟩⟩
  · exact hsame ▸ h
  · have hpaced := h.record hrecorded (hbaselines db' (by rw [hstate]; rfl)) htime
    exact { hpaced with
      stored := hstep
      plain := by rw [hstate]; exact hpaced.plain
      unique := by rw [hstate]; exact hpaced.unique
      samples := by rw [hstate]; exact hpaced.samples
      rollups := by rw [hstate]; exact hpaced.rollups }
  · rw [hstate]
    exact h.record hrecorded (hbaselines db' (by rw [hstate])) htime

theorem rollup (h : Paced times s) {beforeMs : Int} {n : Nat}
    (hok : rollupExactSamples beforeMs maintenanceBucketMs s.db = .ok (n, db')) :
    Paced times { s with db := db' } := by
  have hbucket : IsI64 maintenanceBucketMs := by decide
  obtain ⟨consumed, buckets, hrolled⟩ := rollupExactSamplesBatch_ok h.stored.tidy hbucket hok
  have hstored : Stored maintenanceBucketMs { s with db := db' } :=
    ⟨hrolled.tidy h.stored.tidy, hrolled.bytesFit h.stored.bytes,
      hrolled.span_le h.stored.tidy hbucket h.stored.spans, h.stored.baselines⟩
  -- what is left of a sample keeps its key and its identifier
  have horigin : ∀ x ∈ db'.trafficSamples.rows, ∃ y ∈ s.db.trafficSamples.rows,
      y.id = x.id ∧ y.sameKey x := by
    intro x hx
    rcases hrolled.sample_cases hx with ⟨hold, _⟩ | ⟨c, hc, _, rfl⟩
    · exact ⟨x, hold, rfl, rfl, rfl, rfl, rfl⟩
    · exact ⟨c.sample, hrolled.stored c hc, rfl, rfl, rfl, rfl, rfl⟩
  refine ⟨hstored, ?_, ?_, ?_, ?_⟩
  · unfold TrafficDb.Plain
    rw [hrolled.others.1]
    exact h.plain
  · intro a ha b hb hkey
    obtain ⟨x, hx, hxid, hxr, hxi, hxe, hxs⟩ := horigin a ha
    obtain ⟨y, hy, hyid, hyr, hyi, hye, hys⟩ := horigin b hb
    obtain ⟨hr, hi, he, hs⟩ := hkey
    have hxy := h.unique x hx y hy ⟨hxr.trans (hr.trans hyr.symm), hxi.trans (hi.trans hyi.symm),
      hxe.trans (he.trans hye.symm), hxs.trans (hs.trans hys.symm)⟩
    exact hstored.tidy.keyed.samples.eq_of_key_eq ha hb (by rw [← hxid, hxy, hyid])
  · intro x hx
    obtain ⟨y, hy, _, _, _, hended, hsource⟩ := horigin x hx
    rw [← hended, ← hsource]
    exact h.samples y hy
  · intro r hr
    rcases hrolled.source hr with hold | hsource
    · exact h.rollups r hold
    · exact hsource

theorem retention (h : Paced times s) {beforeMs : Int} {n : Nat}
    (hok : pruneExactHistory beforeMs s.db = .ok (n, db')) :
    Paced times { s with db := db' } := by
  have hpruned : Pruned s.db db' := pruneExactHistoryBatch_ok hok
  refine ⟨⟨hpruned.tidy h.stored.tidy, hpruned.bytesFit h.stored.bytes,
    fun r hr => h.stored.spans r (hpruned.rollup_mem hr), h.stored.baselines⟩, ?_, ?_, ?_, ?_⟩
  · unfold TrafficDb.Plain
    rw [hpruned.frame]
    exact h.plain
  · exact fun a ha b hb => h.unique a (hpruned.sample_mem ha) b (hpruned.sample_mem hb)
  · exact fun x hx => h.samples x (hpruned.sample_mem hx)
  · exact fun r hr => h.rollups r (hpruned.rollup_mem hr)

end Paced

theorem paced_maintenance (times : List Int) : PollEngine.MaintenanceRule (Paced times) where
  rollup := fun hs hok => hs.rollup hok
  retention := fun hs hok => hs.retention hok

/-- A sample time is a timestamp. -/
theorem Poll.isTimestamp (poll : Poll) : IsTimestamp poll.sampledAtMs := by
  have hdated := poll.dated
  simp only [minUtcMs, maxUtcMs] at hdated
  simp only [IsTimestamp, Poll.sampledAtMs]
  omega

/-- The calls of a poll keep the invariant. -/
theorem paced_poll {config : MergedConfig} {poll : Poll} {times : List Int}
    (hhost : trim config.routerHost ≠ legacyTarget) (htime : poll.sampledAtMs ∈ times) :
    PollEngine.PollRule config poll (Paced times) where
  resolve := by
    intro s router db' hs hok
    have hcall : (PollEngine.routerCall config poll).target ≠ legacyTarget := hhost
    obtain ⟨hselect, hplain⟩ := resolveRouter_plain hcall hs.plain hok
    have hframe := hselect.frame
    exact hs.congr hplain (by rw [hframe]) (by rw [hframe])
  tick := fun routerId => {
    upsert := by
      intro s interfaceKey name kind hardwareId record db' hs hok
      have hsame := (upsertRouterInterface_ok hok).sameTraffic
      refine hs.congr ?_ hsame.samples hsame.rollups
      unfold TrafficDb.Plain
      rw [hsame.routers]
      exact hs.plain
    observe := by
      intro s s' outcomes observation result hs hat hpersist
      exact hs.observe (hat ▸ htime) (hat ▸ poll.isTimestamp) hpersist
    forget := fun hs hle => hs.forget hle }

/-! ## The rows of a month -/

/-- The rows that the usage of the month is read from. -/
def monthSources (db : TrafficDb) (routerId aggregateInterfaceId nowMs : Int) :
    List TrafficContribution :=
  db.sources (monthQuery routerId aggregateInterfaceId nowMs)

section

variable {times : List Int} {s : PollerState} (routerId interfaceId : Int) {nowMs : Int}

/-- The samples of an interface end at different instants of the month, three seconds apart. -/
theorem Paced.samples_le (h : Paced times s) {gap : Int} (hgap : 3000 ≤ gap)
    (hspaced : Spaced gap times) (hpast : ∀ t ∈ times, t ≤ nowMs) :
    (s.db.sampleSources (monthQuery routerId interfaceId nowMs)).length ≤ 892800 := by
  have hmonth := lt_monthStartMs_add nowMs
  simp only [dayMs] at hmonth
  have hmem : ∀ x ∈ s.db.sampleSources (monthQuery routerId interfaceId nowMs),
      x ∈ s.db.trafficSamples.rows ∧ x.on routerId interfaceId = true ∧
        monthStartMs nowMs < x.endedAtMs := by
    intro x hx
    simp only [TrafficDb.sampleSources, TrafficDb.samplesOn, monthQuery, List.mem_filter] at hx
    exact ⟨hx.1.1, hx.1.2, (of_decide_eq_true hx.2).1⟩
  have hdistinct : (s.db.sampleSources (monthQuery routerId interfaceId nowMs)).Nodup :=
    ((h.stored.tidy.keyed.samples.nodup.of_map).filter _).filter _
  have hlength := length_le_of_apart (fun x : TrafficSample => x.endedAtMs) 3000
    (monthStartMs nowMs + 1) (nowMs + 1) (by decide) (hdistinct.imp_of_mem ?_) ?_
  · omega
  · intro a b ha hb hne
    obtain ⟨ha, haon, _⟩ := hmem a ha
    obtain ⟨hb, hbon, _⟩ := hmem b hb
    simp only [TrafficSampleInput.on, decide_eq_true_eq] at haon hbon
    obtain ⟨hatime, hasource⟩ := h.samples a ha
    obtain ⟨hbtime, hbsource⟩ := h.samples b hb
    have hended : a.endedAtMs ≠ b.endedAtMs := fun hended => hne (h.unique a ha b hb
      ⟨haon.1.trans hbon.1.symm, haon.2.trans hbon.2.symm, hended, hasource.trans hbsource.symm⟩)
    rcases hspaced.apart (by omega) hatime hbtime hended with hle | hle
    · exact Or.inl (by omega)
    · exact Or.inr (by omega)
  · intro x hx
    obtain ⟨hx, _, hstart⟩ := hmem x hx
    have hle := hpast _ (h.samples x hx).1
    exact ⟨by omega, by omega⟩

/-- The rollup rows of an interface fill different minutes of the month. -/
theorem Paced.rollups_le (h : Paced times s) (nowMs : Int) :
    (s.db.rollupSources (monthQuery routerId interfaceId nowMs)).length ≤ 44640 := by
  have hmonth := lt_monthStartMs_add nowMs
  simp only [dayMs] at hmonth
  have hmem : ∀ r ∈ s.db.rollupSources (monthQuery routerId interfaceId nowMs),
      r ∈ s.db.trafficRollups.rows ∧ r.on routerId interfaceId = true ∧
        monthStartMs nowMs < r.bucketEndMs ∧ r.bucketStartMs < nowMs := by
    intro r hr
    simp only [TrafficDb.rollupSources, TrafficDb.rollupsOn, monthQuery, List.mem_filter] at hr
    exact ⟨hr.1.1, hr.1.2, of_decide_eq_true hr.2⟩
  have hshape : ∀ r ∈ s.db.trafficRollups.rows, (60000 : Int) ∣ r.bucketStartMs ∧
      r.bucketSizeMs = 60000 ∧ r.bucketEndMs ≤ r.bucketStartMs + 60000 := by
    intro r hr
    obtain ⟨hstart, ⟨_, hsize, hstop⟩ | ⟨hother, _⟩⟩ := h.stored.tidy.shaped r hr
    · exact ⟨hstart, hsize, hstop⟩
    · exact absurd (h.rollups r hr) hother
  have hdistinct : (s.db.rollupSources (monthQuery routerId interfaceId nowMs)).Nodup :=
    ((h.stored.tidy.keyed.rollups.nodup.of_map).filter _).filter _
  obtain ⟨day, hday⟩ := dvd_monthStartMs nowMs
  simp only [dayMs] at hday
  have hlength := length_le_of_apart (fun r : TrafficRollup => r.bucketStartMs) 60000
    (monthStartMs nowMs) nowMs (by decide) (hdistinct.imp_of_mem ?_) ?_
  · omega
  · intro a b ha hb hne
    obtain ⟨ha, haon, _⟩ := hmem a ha
    obtain ⟨hb, hbon, _⟩ := hmem b hb
    simp only [TrafficRollup.on, decide_eq_true_eq] at haon hbon
    obtain ⟨⟨i, hi⟩, hasize, _⟩ := hshape a ha
    obtain ⟨⟨j, hj⟩, hbsize, _⟩ := hshape b hb
    have hstart : a.bucketStartMs ≠ b.bucketStartMs := by
      intro hstart
      have hconflict : a.conflicts b = true := by
        simp only [TrafficRollup.conflicts, decide_eq_true_eq]
        exact ⟨hbon.1.trans haon.1.symm, hbon.2.trans haon.2.symm, hbsize.trans hasize.symm,
          hstart.symm, (h.rollups b hb).trans (h.rollups a ha).symm⟩
      exact hne (h.stored.tidy.keyed.rollups.eq_of_key_eq ha hb
        (h.stored.tidy.unique a ha b hb hconflict))
    omega
  · intro r hr
    obtain ⟨hr, _, hstart, hstop⟩ := hmem r hr
    obtain ⟨⟨i, hi⟩, _, hend⟩ := hshape r hr
    exact ⟨by omega, hstop⟩

theorem Paced.monthSources_le (h : Paced times s) {gap : Int} (hgap : 3000 ≤ gap)
    (hspaced : Spaced gap times) (hpast : ∀ t ∈ times, t ≤ nowMs) :
    (monthSources s.db routerId interfaceId nowMs).length ≤ maxTrafficSourceRows := by
  have hsamples := h.samples_le routerId interfaceId hgap hspaced hpast
  have hrollups := h.rollups_le routerId interfaceId nowMs
  rw [monthSources, sources_length, maxTrafficSourceRows]
  omega

end

/-! ## The query -/

/-- The error is not that a query reads too many rows. -/
def InBudget (error : DatabaseError) : Prop := ∀ n, error ≠ .trafficQueryTooLarge n

section

variable {times : List Int} {s : PollerState} {routerId interfaceId nowMs : Int}

theorem IsRejection.inBudget {error : DatabaseError} (h : IsRejection error) : InBudget error := by
  rintro n rfl
  rcases h with h | h <;> cases h

/-- A query of an interface that the router does not own fails for that reason. -/
theorem unowned_failsOnly {db : TrafficDb} {query : TrafficQuery}
    (hunowned : ¬ db.ownsRouterInterface query.routerId (some query.interfaceId) = true) :
    FailsOnly InBudget (queryTrafficV4 db query) := by
  refine FailsOnly.bind (FailsOnly.ensure (fun _ _ h => by cases h)) (fun _ _ => ?_)
  intro error herror n hlarge
  unfold queryTrafficV4OnConnection TrafficDb.ensureInterfaceOwner at herror
  rcases ensure_bind_eq_error herror with ⟨_, rfl⟩ | ⟨howned, _⟩
  · cases hlarge
  · exact hunowned howned

/-- The query of the month fails for the number of its rows exactly if there are too many. -/
theorem Paced.query_cases (h : Paced times s)
    (howned : s.db.ownsRouterInterface routerId (some interfaceId) = true)
    (hdated : minUtcMs ≤ nowMs ∧ nowMs ≤ maxUtcMs) (hstarted : monthStartMs nowMs < nowMs) :
    (maxTrafficSourceRows < (monthSources s.db routerId interfaceId nowMs).length ∧
      queryTrafficV4 s.db (monthQuery routerId interfaceId nowMs) =
        .error (.trafficQueryTooLarge maxTrafficSourceRows)) ∨
    ((monthSources s.db routerId interfaceId nowMs).length ≤ maxTrafficSourceRows ∧
      FailsOnly InBudget (queryTrafficV4 s.db (monthQuery routerId interfaceId nowMs))) := by
  have hmonth := lt_monthStartMs_add nowMs
  simp only [dayMs] at hmonth
  simp only [minUtcMs, maxUtcMs] at hdated
  have hranged : (monthQuery routerId interfaceId nowMs).Ranged := by
    constructor <;> simp only [monthQuery, IsI64, i64Min, i64Max] <;> omega
  have hlimited : (monthQuery routerId interfaceId nowMs).Limited :=
    ⟨by simp [monthQuery], by simp [monthQuery]⟩
  have hshort : (monthQuery routerId interfaceId nowMs).toMs -
      (monthQuery routerId interfaceId nowMs).fromMs +
      (monthQuery routerId interfaceId nowMs).maxPoints ≤ i64Max := by
    simp only [monthQuery, i64Max]
    omega
  have hbounded : ∀ c ∈ s.db.sources (monthQuery routerId interfaceId nowMs), c.Bounded :=
    fun c hc =>
      ⟨h.stored.tidy.span_le h.stored.spans (List.mem_of_mem_filter hc),
        (h.stored.bytes.contribution (List.mem_of_mem_filter hc)).1,
        (h.stored.bytes.contribution (List.mem_of_mem_filter hc)).2⟩
  rcases queryTrafficV4_cases hranged hlimited hshort howned hbounded with
    ⟨hlarge, hanswer⟩ | ⟨hlength, _, result, _, _, hanswer, _⟩ |
    ⟨hlength, _, rejection, hrejection, hanswer⟩
  · exact Or.inl ⟨hlarge, hanswer⟩
  · refine Or.inr ⟨hlength, ?_⟩
    intro error herror
    rw [hanswer] at herror
    cases herror
  · refine Or.inr ⟨hlength, ?_⟩
    intro error herror
    rw [hanswer] at herror
    cases herror
    exact IsRejection.inBudget hrejection

theorem Paced.query_failsOnly (h : Paced times s)
    (hlength : (monthSources s.db routerId interfaceId nowMs).length ≤ maxTrafficSourceRows)
    (hdated : minUtcMs ≤ nowMs ∧ nowMs ≤ maxUtcMs) (hstarted : monthStartMs nowMs < nowMs) :
    FailsOnly InBudget (queryTrafficV4 s.db (monthQuery routerId interfaceId nowMs)) := by
  by_cases howned : s.db.ownsRouterInterface routerId (some interfaceId) = true
  · rcases h.query_cases howned hdated hstarted with ⟨hlarge, _⟩ | ⟨_, hfails⟩
    · exact absurd hlength (not_le.mpr hlarge)
    · exact hfails
  · exact unowned_failsOnly howned

theorem Paced.monthlyUsage_failsOnly (h : Paced times s) {poll : Poll}
    (hlength : (monthSources s.db routerId interfaceId poll.sampledAtMs).length ≤
      maxTrafficSourceRows) :
    FailsOnly InBudget (PollEngine.monthlyUsage poll routerId interfaceId s.db) := by
  have hother : ∀ message, InBudget (.verification message) := fun _ _ h => by cases h
  unfold PollEngine.monthlyUsage
  split
  · exact FailsOnly.error (fun _ h => by cases h)
  · unfold monthlyUsageGbV4
    refine FailsOnly.bind (FailsOnly.ensure (fun _ => hother _)) (fun _ _ => ?_)
    split
    · exact FailsOnly.ok _
    · rename_i hstarted
      refine FailsOnly.bind (h.query_failsOnly hlength poll.dated (not_le.mp hstarted)) ?_
      intro result _
      refine FailsOnly.bind (FailsOnly.okOr (fun _ => hother _)) (fun download _ => ?_)
      exact FailsOnly.bind (FailsOnly.okOr (fun _ => hother _)) (fun upload _ => FailsOnly.ok _)

/-- The usage of a month with too many rows fails for their number. -/
theorem Paced.monthlyUsage_large (h : Paced times s) {poll : Poll}
    (hreads : poll.queryFails = false)
    (howned : s.db.ownsRouterInterface routerId (some interfaceId) = true)
    (hstarted : monthStartMs poll.sampledAtMs < poll.sampledAtMs)
    (hlarge : maxTrafficSourceRows <
      (monthSources s.db routerId interfaceId poll.sampledAtMs).length) :
    PollEngine.monthlyUsage poll routerId interfaceId s.db =
      .error (.trafficQueryTooLarge maxTrafficSourceRows) := by
  have hquery : queryTrafficV4 s.db (monthQuery routerId interfaceId poll.sampledAtMs) =
      .error (.trafficQueryTooLarge maxTrafficSourceRows) := by
    rcases h.query_cases howned poll.dated hstarted with ⟨_, herror⟩ | ⟨hlength, _⟩
    · exact herror
    · exact absurd hlength (not_le.mpr hlarge)
  have hdated : minUtcMs ≤ poll.sampledAtMs ∧ poll.sampledAtMs ≤ maxUtcMs := poll.dated
  unfold PollEngine.monthlyUsage monthlyUsageGbV4
  rw [hreads, if_neg (by decide), ensure_of hdated, ok_bind, if_neg (not_le.mpr hstarted),
    hquery]
  rfl

end

/-! ## The budget -/

namespace PollEngine

/-- A run whose polls are at least the configured interval apart. -/
def PacedRun (config : MergedConfig) (events : List Event) : Prop :=
  Spaced (1000 * (config.pollIntervalSecs.toNat : Int)) (sampleTimes events)

/-- At a tick, the rows of the aggregate interface in the current month are no more than a
query reads; the usage of the month does not fail for their number, and the readiness does
not report that it did. -/
structure WithinBudget (config : MergedConfig) (poll : Poll) (e : PollEngine) : Prop where
  rows : ∀ routerId aggregateId,
    (storePoll config poll e).1.aggregate = some (routerId, aggregateId) →
      (monthSources (storePoll config poll e).2.poller.db routerId aggregateId
        poll.sampledAtMs).length ≤ maxTrafficSourceRows
  usage : ∀ routerId aggregateId,
    (storePoll config poll e).1.aggregate = some (routerId, aggregateId) →
      ∀ n, monthlyUsage poll routerId aggregateId (storePoll config poll e).2.poller.db ≠
        .error (.trafficQueryTooLarge n)
  readiness : ∀ errors, (pollTick config poll e).1 = .storageFailure errors →
    ∀ n, .monthlyQuery (.trafficQueryTooLarge n) ∉ errors

/-- Every tick of every paced run of the poller stays within the budget. -/
def MonthlyBudget (connects : String → Bool) (config : MergedConfig) : Prop :=
  connects config.routerHost = true →
    ∀ (before : List Event) (poll : Poll), PacedRun config (before ++ [.poll poll]) →
      WithinBudget config poll (after connects config before)

theorem sampleTimes_append (first second : List Event) :
    sampleTimes (first ++ second) = sampleTimes first ++ sampleTimes second :=
  List.filterMap_append

variable (connects : String → Bool) {config : MergedConfig}

theorem after_append (before : List Event) (event : Event) :
    after connects config (before ++ [event]) =
      step connects config (after connects config before) event := by
  rw [after, run_append]
  rfl

/-- Every run keeps the invariant. -/
theorem paced_after (hhost : trim config.routerHost ≠ legacyTarget) (events : List Event) :
    Paced (sampleTimes events) (after connects config events).poller := by
  induction events using List.reverseRecOn with
  | nil => exact Paced.empty
  | append_singleton before event ih =>
      rw [after_append, sampleTimes_append]
      have hmono : Paced (sampleTimes before ++ sampleTimes [event])
          (after connects config before).poller :=
        ih.mono (fun t ht => List.mem_append_left _ ht)
      cases event with
      | missed => exact hmono
      | restart => exact hmono.forget (fun _ _ hbaseline => by cases hbaseline)
      | poll poll =>
          simp only [step]
          split
          · have htime : poll.sampledAtMs ∈ sampleTimes before ++ sampleTimes [.poll poll] :=
              List.mem_append_right _ (List.mem_singleton.mpr rfl)
            exact (paced_poll hhost htime).ticked (paced_maintenance _) hmono
          · exact hmono

variable {connects}

/-- No report is about the usage of the month. -/
def AboutMaintenance (errors : List StorageError) : Prop :=
  ∀ error, .monthlyQuery error ∉ errors

theorem storePoll_maintenanceErrors (config : MergedConfig) (poll : Poll) (e : PollEngine) :
    (storePoll config poll e).2.maintenanceErrors = e.maintenanceErrors := by
  have hleave : ∀ e' : PollEngine, (leaveRouterScope e').maintenanceErrors =
      e'.maintenanceErrors := by
    intro e'
    unfold leaveRouterScope
    split <;> rfl
  have henter : ∀ routerId (e' : PollEngine),
      (switchRouterScope routerId e').maintenanceErrors = e'.maintenanceErrors := by
    intro routerId e'
    unfold switchRouterScope
    split <;> rfl
  unfold storePoll
  split
  · exact hleave _
  · dsimp only
    split
    · exact henter _ _
    · exact henter _ _

/-- A maintenance pass reports on the rollup and on the retention. -/
theorem countSnapshot_aboutMaintenance {poll : Poll} {e : PollEngine}
    (h : AboutMaintenance e.maintenanceErrors) :
    AboutMaintenance (countSnapshot config poll e).maintenanceErrors := by
  have hreported : ∀ {report : DatabaseError → StorageError} {α : Type}
      (result : DatabaseResult α), (∀ failure error, report failure ≠ .monthlyQuery error) →
      AboutMaintenance (reported report result) := by
    intro report α result hreport error hmem
    cases result with
    | ok _ => cases hmem
    | error failure => exact hreport failure error (List.mem_singleton.mp hmem).symm
  unfold countSnapshot
  dsimp only
  split
  · unfold maintain
    intro error hmem
    rcases List.mem_append.mp hmem with hmem | hmem
    · exact hreported _ (fun _ _ h => by cases h) error hmem
    · exact hreported _ (fun _ _ h => by cases h) error hmem
  · exact h

theorem fetchAndTransform_maintenanceErrors (config : MergedConfig) (poll : Poll)
    (e : PollEngine) :
    (fetchAndTransform config poll e).2.maintenanceErrors = e.maintenanceErrors :=
  storePoll_maintenanceErrors config poll e

theorem pollTick_aboutMaintenance {poll : Poll} {e : PollEngine}
    (h : AboutMaintenance e.maintenanceErrors) :
    AboutMaintenance (pollTick config poll e).2.maintenanceErrors := by
  have hfetched := fetchAndTransform_maintenanceErrors config poll e
  unfold pollTick
  split
  · rename_i e' hfetch
    rw [hfetch] at hfetched
    exact hfetched ▸ h
  · rename_i snapshot e' hfetch
    rw [hfetch] at hfetched
    exact countSnapshot_aboutMaintenance (hfetched ▸ h)

/-- In every run, what the maintenance reports is not about the usage of the month. -/
theorem after_aboutMaintenance (connects : String → Bool) (config : MergedConfig)
    (events : List Event) : AboutMaintenance (after connects config events).maintenanceErrors := by
  have hnone : AboutMaintenance [] := fun _ hmem => by cases hmem
  have hstep : ∀ (e : PollEngine) (event : Event), AboutMaintenance e.maintenanceErrors →
      AboutMaintenance (step connects config e event).maintenanceErrors := by
    intro e event he
    cases event with
    | missed => exact he
    | restart => exact hnone
    | poll poll =>
        simp only [step]
        split
        · exact pollTick_aboutMaintenance he
        · exact he
  exact run_preserves hstep hnone events

/-- What recording a poll reports is about the router or its counters. -/
theorem storePoll_errors {poll : Poll} {e : PollEngine} (error : DatabaseError) :
    .monthlyQuery error ∉ (storePoll config poll e).1.errors := by
  unfold storePoll
  split
  · simp
  · dsimp only
    split
    · simp
    · simp

/-- The query of the month is reported when it fails. -/
theorem fetchAndTransform_errors {poll : Poll} {e e' : PollEngine} {snapshot : PollSnapshot}
    (h : fetchAndTransform config poll e = (some snapshot, e')) {error : DatabaseError}
    (hmem : .monthlyQuery error ∈ snapshot.storageErrors) :
    ∃ routerId aggregateId,
      (storePoll config poll e).1.aggregate = some (routerId, aggregateId) ∧
      monthlyUsage poll routerId aggregateId (storePoll config poll e).2.poller.db =
        .error error := by
  have hstored : .monthlyQuery error ∉ (storePoll config poll e).1.errors := storePoll_errors error
  unfold fetchAndTransform at h
  dsimp only at h
  split at h
  · simp only [Prod.mk.injEq, Option.some.injEq] at h
    rw [← h.1] at hmem
    rcases List.mem_append.mp hmem with hmem | hmem
    · exact absurd hmem hstored
    · cases haggregate : (storePoll config poll e).1.aggregate with
      | none =>
          rw [haggregate] at hmem
          cases hmem
      | some aggregate =>
          rw [haggregate] at hmem
          refine ⟨aggregate.1, aggregate.2, rfl, ?_⟩
          simp only [Option.map_some, Option.elim_some] at hmem
          cases husage : monthlyUsage poll aggregate.1 aggregate.2
              (storePoll config poll e).2.poller.db with
          | ok usage =>
              rw [husage] at hmem
              cases hmem
          | error failure =>
              rw [husage] at hmem
              rw [StorageError.monthlyQuery.inj (List.mem_singleton.mp hmem)]
  · simp at h

/-- Three seconds between polls keep a tick of a paced run within the budget. -/
theorem withinBudget_of_le (hhost : trim config.routerHost ≠ legacyTarget)
    (hinterval : 3 ≤ config.pollIntervalSecs.toNat) {before : List Event} {poll : Poll}
    (hproper : PacedRun config (before ++ [.poll poll])) :
    WithinBudget config poll (after connects config before) := by
  have hspaced := hproper
  rw [PacedRun, sampleTimes_append] at hspaced
  have htime : poll.sampledAtMs ∈ sampleTimes before ++ sampleTimes [.poll poll] :=
    List.mem_append_right _ (List.mem_singleton.mpr rfl)
  have hpaced := (paced_poll hhost htime).stored
    ((paced_after connects hhost before).mono (fun t ht => List.mem_append_left _ ht))
  have hpast : ∀ t ∈ sampleTimes before ++ sampleTimes [.poll poll], t ≤ poll.sampledAtMs := by
    intro t ht
    rcases List.mem_append.mp ht with ht | ht
    · have hle := hspaced.before_last (by omega) ht
      omega
    · rw [List.mem_singleton.mp ht]
  have hrows : ∀ routerId aggregateId, (monthSources
      (storePoll config poll (after connects config before)).2.poller.db routerId aggregateId
      poll.sampledAtMs).length ≤ maxTrafficSourceRows :=
    fun routerId aggregateId =>
      hpaced.monthSources_le routerId aggregateId (by omega) hspaced hpast
  have husage : ∀ routerId aggregateId, FailsOnly InBudget (monthlyUsage poll routerId
      aggregateId (storePoll config poll (after connects config before)).2.poller.db) :=
    fun routerId aggregateId => hpaced.monthlyUsage_failsOnly (hrows routerId aggregateId)
  have hbefore := after_aboutMaintenance connects config before
  refine ⟨fun r i _ => hrows r i, fun r i _ n herror => husage r i _ herror n rfl, ?_⟩
  intro errors hreadiness n hmem
  have hfetched := fetchAndTransform_maintenanceErrors config poll (after connects config before)
  unfold pollTick at hreadiness
  split at hreadiness
  · cases hreadiness
  · rename_i snapshot e' hfetch
    rw [hfetch] at hfetched
    dsimp only at hreadiness
    unfold readinessOf at hreadiness
    split at hreadiness
    · cases hreadiness
    · cases hreadiness
      rcases List.mem_append.mp hmem with hmem | hmem
      · obtain ⟨routerId, aggregateId, _, herror⟩ := fetchAndTransform_errors hfetch hmem
        exact husage routerId aggregateId _ herror n rfl
      · exact countSnapshot_aboutMaintenance (hfetched ▸ hbefore) _ hmem

end PollEngine

end RouterView.Poller
