/-
  Poller/History.lean --- the poller and the rollup on one store.

  A history interleaves observations, lost baselines and rollup batches.  The
  rows it leaves are sound whatever happens to the storage calls, and a query
  over rows that are also disjoint answers.
-/
import RouterView.Db.QuerySpec
import RouterView.Db.RollupReach
import RouterView.Db.Store
import RouterView.Poller.Tiling

set_option autoImplicit false

namespace RouterView.Poller

open RouterView.Foundation
open RouterView.Db

/-! ## Events -/

/-- An event of the poller, or one rollup batch. -/
inductive HistoryEvent where
  | poll (event : PollerEvent)
  | rollup (beforeMs : Int) (batchSize : Nat)

/-- One event; the rollups share one bucket size. -/
def historyStep (bucketSizeMs : Int) (s : PollerState) : HistoryEvent → PollerState
  | .poll event => pollerStep s event
  | .rollup beforeMs batchSize =>
      { s with db := committed (rollupExactSamplesBatch beforeMs bucketSizeMs batchSize s.db) s.db }

/-- An observation carries a timestamp, and one of the interface is one of the
router that owns it. -/
def HistoryEvent.TimelyOn (routerId interfaceId : Int) : HistoryEvent → Prop
  | .poll (.observe _ observation) =>
      IsTimestamp observation.observedAtMs ∧
        (observation.interfaceId = interfaceId → observation.routerId = routerId)
  | _ => True

/-! ## Sound rows -/

/-- What holds of the store and the baselines of every history. -/
structure Stored (bucketSizeMs : Int) (s : PollerState) : Prop where
  tidy : s.db.Tidy bucketSizeMs
  bytes : s.db.BytesFit
  spans : ∀ r ∈ s.db.trafficRollups.rows, r.bucketEndMs - r.bucketStartMs ≤ i64Max
  baselines : ∀ id baseline, s.baselines id = some baseline → IsTimestamp baseline.observedAtMs

/-- A record keeps the rows sound. -/
theorem Recorded.stored {bucketSizeMs : Int} {observation : CounterObservation} {s : PollerState}
    {outcome : CounterPersistenceOutcome} {marker : Option String} {db' : TrafficDb}
    (h : Recorded observation s outcome marker db') (hs : Stored bucketSizeMs s)
    (htime : IsTimestamp observation.observedAtMs) :
    db'.Tidy bucketSizeMs ∧ db'.BytesFit ∧ db'.trafficRollups = s.db.trafficRollups := by
  cases h with
  | initialized => exact ⟨hs.tidy.congr rfl rfl, hs.bytes.congr rfl rfl, rfl⟩
  | reobserved => exact ⟨hs.tidy, hs.bytes, rfl⟩
  | restartGap existing _ _ hcommit =>
      rw [hcommit.result]
      exact ⟨hs.tidy.congr rfl rfl, hs.bytes.congr rfl rfl, rfl⟩
  | sample previous deltas hbaseline hclass hcommit =>
      rw [hcommit.result]
      have hvalid := hcommit.valid
      have hsound : ∀ id, TrafficSample.Sound
          { exactSample previous observation deltas with id := id } :=
        fun id => ⟨hvalid.increasing, hvalid.duration, hvalid.downloadBytes, hvalid.uploadBytes⟩
      refine ⟨(hs.tidy.insertSample hsound (hs.baselines _ _ hbaseline) htime).congr rfl rfl,
        ⟨?_, hs.bytes.rollups⟩, rfl⟩
      intro x hx
      rcases List.mem_append.mp hx with hx | hx
      · exact hs.bytes.samples x hx
      · rw [List.mem_singleton.mp hx]
        exact classifyInterval_fits hclass
  | repeatedSample => exact ⟨hs.tidy, hs.bytes, rfl⟩
  | gap previous _ _ hcommit =>
      rw [hcommit.result]
      exact ⟨hs.tidy.congr rfl rfl, hs.bytes.congr rfl rfl, rfl⟩
  | repeatedGap => exact ⟨hs.tidy, hs.bytes, rfl⟩

/-- A successful rollup of a stored state, as the relation of its specification. -/
theorem Stored.rollup_cases {bucketSizeMs : Int} {s : PollerState} (hs : Stored bucketSizeMs s)
    (hsize : IsI64 bucketSizeMs) (beforeMs : Int) (batchSize : Nat) :
    historyStep bucketSizeMs s (.rollup beforeMs batchSize) = s ∨
      ∃ consumed buckets db', RolledUp beforeMs bucketSizeMs s.db consumed buckets db' ∧
        historyStep bucketSizeMs s (.rollup beforeMs batchSize) = { s with db := db' } := by
  cases hroll : rollupExactSamplesBatch beforeMs bucketSizeMs batchSize s.db with
  | error e =>
      left
      simp [historyStep, committed, hroll]
  | ok answer =>
      obtain ⟨n, db'⟩ := answer
      obtain ⟨consumed, buckets, hrolled⟩ := rollupExactSamplesBatch_ok hs.tidy hsize hroll
      refine Or.inr ⟨consumed, buckets, db', hrolled, ?_⟩
      simp [historyStep, committed, hroll]

theorem Stored.step {bucketSizeMs routerId interfaceId : Int} {s : PollerState}
    (hs : Stored bucketSizeMs s) (hsize : IsI64 bucketSizeMs) {event : HistoryEvent}
    (htimely : event.TimelyOn routerId interfaceId) :
    Stored bucketSizeMs (historyStep bucketSizeMs s event) := by
  cases event with
  | poll event =>
      cases event with
      | dropBaselines keep =>
          refine ⟨hs.tidy, hs.bytes, hs.spans, ?_⟩
          intro id baseline hbaseline
          simp only [historyStep, pollerStep, Baselines.retain] at hbaseline
          split at hbaseline
          · exact hs.baselines id baseline hbaseline
          · cases hbaseline
      | observe outcomes observation =>
          simp only [historyStep, pollerStep]
          cases hpersist : persistCounterObservation outcomes observation s with
          | mk result s' =>
              rcases persistCounterObservation_cases hpersist with
                ⟨_, hsame⟩ | ⟨outcome, marker, db', hrecorded, ⟨_, hstate⟩ | ⟨_, _, hstate⟩⟩
              · rw [hsame]
                exact hs
              · obtain ⟨htidy, hbytes, hrollups⟩ := hrecorded.stored hs htimely.1
                rw [hstate]
                refine ⟨htidy, hbytes, hrollups ▸ hs.spans, ?_⟩
                intro id baseline hbaseline
                simp only [advancedTo, Baselines.insert] at hbaseline
                split at hbaseline
                · rw [← Option.some.inj hbaseline]
                  exact htimely.1
                · exact hs.baselines id baseline hbaseline
              · obtain ⟨htidy, hbytes, hrollups⟩ := hrecorded.stored hs htimely.1
                rw [hstate]
                exact ⟨htidy, hbytes, hrollups ▸ hs.spans, hs.baselines⟩
  | rollup beforeMs batchSize =>
      rcases hs.rollup_cases hsize beforeMs batchSize with
        hsame | ⟨consumed, buckets, db', hrolled, hstate⟩
      · rw [hsame]
        exact hs
      · rw [hstate]
        exact ⟨hrolled.tidy hs.tidy, hrolled.bytesFit hs.bytes,
          hrolled.span_le hs.tidy hsize hs.spans, hs.baselines⟩

theorem stored_withInterface (bucketSizeMs : Int) :
    Stored bucketSizeMs ⟨TrafficDb.withInterface, Baselines.empty⟩ where
  tidy := (TrafficDb.Tidy.empty bucketSizeMs).congr rfl rfl
  bytes := ⟨by decide, fun r hr => by cases hr⟩
  spans := by decide
  baselines := by simp [Baselines.empty]

/-! ## Disjoint contributions -/

theorem contributionsOn_insertSample (db : TrafficDb) {s : TrafficSampleInput}
    {routerId interfaceId : Int} (hon : s.on routerId interfaceId = true) :
    ((db.insertSample s).contributionsOn routerId interfaceId).Perm
      (.ofSample { s with id := db.trafficSamples.sequence + 1 } ::
        db.contributionsOn routerId interfaceId) := by
  unfold TrafficDb.contributionsOn
  rw [TrafficDb.samplesOn_insertSample, if_pos hon, List.map_append, List.append_assoc]
  exact List.perm_middle

/-- A sample that starts after every contribution keeps them disjoint. -/
theorem disjointOn_insertSample {db : TrafficDb} {s : TrafficSampleInput}
    {routerId interfaceId : Int} (h : db.DisjointOn routerId interfaceId)
    (hon : s.on routerId interfaceId = true)
    (hlater : ∀ c ∈ db.contributionsOn routerId interfaceId, c.endedAtMs ≤ s.startedAtMs) :
    (db.insertSample s).DisjointOn routerId interfaceId := by
  unfold TrafficDb.DisjointOn
  rw [(contributionsOn_insertSample db hon).pairwise_iff (fun h => Span.Apart.symm h),
    List.pairwise_cons]
  refine ⟨?_, h⟩
  intro c hc
  exact Or.inr (hlater c hc)

/-- An observation of another interface leaves its contributions alone. -/
theorem Recorded.contributionsOn_other {observation : CounterObservation} {s : PollerState}
    {outcome : CounterPersistenceOutcome} {marker : Option String} {db' : TrafficDb}
    (h : Recorded observation s outcome marker db') (routerId : Int) {interfaceId : Int}
    (hne : observation.interfaceId ≠ interfaceId) :
    db'.contributionsOn routerId interfaceId = s.db.contributionsOn routerId interfaceId := by
  obtain ⟨_, hsamples, hrollups, _⟩ := h.other_interface routerId hne
  simp only [TrafficDb.contributionsOn, hsamples, hrollups]

/-- What a record does to the contributions of its interface: nothing, or one
more exact sample from the baseline to the observation. -/
theorem Recorded.contributionsOn_cases {observation : CounterObservation} {s : PollerState}
    {outcome : CounterPersistenceOutcome} {marker : Option String} {db' : TrafficDb}
    (h : Recorded observation s outcome marker db') :
    (db'.trafficSamples = s.db.trafficSamples ∧ db'.trafficRollups = s.db.trafficRollups) ∨
      ∃ previous deltas, s.baselines observation.interfaceId = some previous ∧
        classifyInterval previous observation = .sample deltas ∧
        NewSample s.db (exactSample previous observation deltas)
          (checkpointOf observation marker) db' ∧ outcome = .exactSample := by
  cases h with
  | initialized => exact Or.inl ⟨rfl, rfl⟩
  | reobserved => exact Or.inl ⟨rfl, rfl⟩
  | restartGap existing _ _ hcommit =>
      rw [hcommit.result]
      exact Or.inl ⟨rfl, rfl⟩
  | sample previous deltas hbaseline hclass hcommit =>
      exact Or.inr ⟨previous, deltas, hbaseline, hclass, hcommit, rfl⟩
  | repeatedSample => exact Or.inl ⟨rfl, rfl⟩
  | gap previous _ _ hcommit =>
      rw [hcommit.result]
      exact Or.inl ⟨rfl, rfl⟩
  | repeatedGap => exact Or.inl ⟨rfl, rfl⟩

/-! ## Queries -/

/-- A record leaves the routers and their interfaces alone. -/
theorem Recorded.owns {observation : CounterObservation} {s : PollerState}
    {outcome : CounterPersistenceOutcome} {marker : Option String} {db' : TrafficDb}
    (h : Recorded observation s outcome marker db') :
    db'.routers = s.db.routers ∧ db'.routerInterfaces = s.db.routerInterfaces := by
  cases h with
  | initialized => exact ⟨rfl, rfl⟩
  | reobserved => exact ⟨rfl, rfl⟩
  | restartGap existing _ _ hcommit =>
      rw [hcommit.result]
      exact ⟨rfl, rfl⟩
  | sample previous deltas _ _ hcommit =>
      rw [hcommit.result]
      exact ⟨rfl, rfl⟩
  | repeatedSample => exact ⟨rfl, rfl⟩
  | gap previous _ _ hcommit =>
      rw [hcommit.result]
      exact ⟨rfl, rfl⟩
  | repeatedGap => exact ⟨rfl, rfl⟩

theorem historyStep_owns {bucketSizeMs : Int} {s : PollerState} (hs : Stored bucketSizeMs s)
    (hsize : IsI64 bucketSizeMs) (event : HistoryEvent) :
    (historyStep bucketSizeMs s event).db.routers = s.db.routers ∧
      (historyStep bucketSizeMs s event).db.routerInterfaces = s.db.routerInterfaces := by
  cases event with
  | poll event =>
      cases event with
      | dropBaselines keep => exact ⟨rfl, rfl⟩
      | observe outcomes observation =>
          simp only [historyStep, pollerStep]
          cases hpersist : persistCounterObservation outcomes observation s with
          | mk result s' =>
              rcases persistCounterObservation_cases hpersist with
                ⟨_, hsame⟩ | ⟨outcome, marker, db', hrecorded, ⟨_, hstate⟩ | ⟨_, _, hstate⟩⟩
              · rw [hsame]
                exact ⟨rfl, rfl⟩
              · rw [hstate]
                exact hrecorded.owns
              · rw [hstate]
                exact hrecorded.owns
  | rollup beforeMs batchSize =>
      rcases hs.rollup_cases hsize beforeMs batchSize with
        hsame | ⟨consumed, buckets, db', hrolled, hstate⟩
      · rw [hsame]
        exact ⟨rfl, rfl⟩
      · rw [hstate]
        exact ⟨hrolled.others.1, hrolled.others.2.1⟩

section

variable {bucketSizeMs routerId interfaceId : Int} {s : PollerState} {events : List HistoryEvent}

/-- A history keeps the rows sound. -/
theorem Stored.runs (hs : Stored bucketSizeMs s) (hsize : IsI64 bucketSizeMs)
    (htimely : ∀ e ∈ events, e.TimelyOn routerId interfaceId) :
    Stored bucketSizeMs (run (historyStep bucketSizeMs) s events) := by
  have hguard : Along (historyStep bucketSizeMs) (fun _ e => e.TimelyOn routerId interfaceId) s
      events := Along.of_forall (fun e he _ => htimely e he) s
  exact run_invariant (fun _ _ hs he => hs.step hsize he) hs hguard

/-- A history leaves the routers and their interfaces alone. -/
theorem Stored.runs_owns (hs : Stored bucketSizeMs s) (hsize : IsI64 bucketSizeMs)
    (htimely : ∀ e ∈ events, e.TimelyOn routerId interfaceId) :
    (run (historyStep bucketSizeMs) s events).db.ownsRouterInterface routerId
      (some interfaceId) = s.db.ownsRouterInterface routerId (some interfaceId) := by
  induction events generalizing s with
  | nil => rfl
  | cons e rest ih =>
      obtain ⟨hrouters, hinterfaces⟩ := historyStep_owns hs hsize e
      rw [run_cons, ih (hs.step hsize (htimely e List.mem_cons_self))
        (fun x hx => htimely x (List.mem_cons_of_mem _ hx))]
      simp only [TrafficDb.ownsRouterInterface, TrafficDb.ownsInterface, hrouters, hinterfaces]

end

/-- A query over the router's interface whose range, with the points added, has
a 64-bit length. -/
structure QueriedOn (routerId interfaceId : Int) (query : TrafficQuery) : Prop where
  router : query.routerId = routerId
  interface : query.interfaceId = interfaceId
  ranged : query.Ranged
  limited : query.Limited
  short : query.toMs - query.fromMs + query.maxPoints ≤ i64Max

/-- A query over disjoint rows answers, unless it reads too many of them. -/
theorem Stored.answers {bucketSizeMs routerId interfaceId : Int} {s : PollerState}
    (hs : Stored bucketSizeMs s) (hdisjoint : s.db.DisjointOn routerId interfaceId)
    (howned : s.db.ownsRouterInterface routerId (some interfaceId) = true)
    {query : TrafficQuery} (hquery : QueriedOn routerId interfaceId query) :
    ((s.db.sources query).length > maxTrafficSourceRows ∧
      queryTrafficV4 s.db query = .error (.trafficQueryTooLarge maxTrafficSourceRows)) ∨
      ∃ result size state, queryTrafficV4 s.db query = .ok result ∧
        Answer s.db query result size state := by
  obtain ⟨hrouter, hinterface, hranged, hlimited, hshort⟩ := hquery
  subst hrouter hinterface
  exact hs.tidy.answers hs.bytes hs.spans hdisjoint howned hranged hlimited hshort

end RouterView.Poller
