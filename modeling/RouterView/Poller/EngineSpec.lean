/-
  Poller/EngineSpec.lean --- what one counter observation can do.

  `persist_counter_observation` has seven ways to record an observation and
  many ways to refuse it.  `Recorded` lists the seven with their guards;
  `persistCounterObservation_cases` says that a call either changed nothing and
  returned an error, or recorded, and then the baseline advanced exactly when
  the caller saw the success.
-/
import RouterView.Db.CommitSpec
import RouterView.Poller.Engine

set_option autoImplicit false

namespace RouterView.Poller

open RouterView.Foundation
open RouterView.Db

/-! ## Storage calls -/

theorem StorageOutcome.run_cases {α : Type} {outcome : StorageOutcome}
    {transaction : TrafficDb → DatabaseResult (α × TrafficDb)} {db db' : TrafficDb}
    {r : DatabaseResult α} (h : outcome.run transaction db = (r, db')) :
    ((∃ e, r = .error e) ∧ db' = db) ∨
      ∃ a, transaction db = .ok (a, db') ∧
        (r = .ok a ∨ (outcome = .acknowledgementLost ∧ ∃ e, r = .error e)) := by
  cases outcome with
  | failed =>
      simp only [StorageOutcome.run, Prod.mk.injEq] at h
      exact Or.inl ⟨⟨_, h.1.symm⟩, h.2.symm⟩
  | committed =>
      cases htransaction : transaction db with
      | error e =>
          simp only [StorageOutcome.run, htransaction, Prod.mk.injEq] at h
          exact Or.inl ⟨⟨_, h.1.symm⟩, h.2.symm⟩
      | ok result =>
          obtain ⟨a, committed⟩ := result
          simp only [StorageOutcome.run, htransaction, Prod.mk.injEq] at h
          exact Or.inr ⟨a, by rw [h.2], Or.inl h.1.symm⟩
  | acknowledgementLost =>
      cases htransaction : transaction db with
      | error e =>
          simp only [StorageOutcome.run, htransaction, Prod.mk.injEq] at h
          exact Or.inl ⟨⟨_, h.1.symm⟩, h.2.symm⟩
      | ok result =>
          obtain ⟨a, committed⟩ := result
          simp only [StorageOutcome.run, htransaction, Prod.mk.injEq] at h
          exact Or.inr ⟨a, by rw [h.2], Or.inr ⟨rfl, _, h.1.symm⟩⟩

/-- The state after an acknowledged record of an observation. -/
def advancedTo (observation : CounterObservation) (marker : Option String) (db : TrafficDb)
    (s : PollerState) : PollerState where
  db := db
  baselines := s.baselines.insert observation.interfaceId
    (baselineFromObservation observation marker)

theorem recordObservation_cases {α : Type} {outcome : StorageOutcome}
    {transaction : TrafficDb → DatabaseResult (α × TrafficDb)}
    {observation : CounterObservation} {marker : Option String}
    {result : CounterPersistenceOutcome} {s s' : PollerState}
    {r : DatabaseResult CounterPersistenceOutcome}
    (h : recordObservation outcome transaction observation marker result s = (r, s')) :
    ((∃ e, r = .error e) ∧ s' = s) ∨
      ∃ a db', transaction s.db = .ok (a, db') ∧
        ((r = .ok result ∧ s' = advancedTo observation marker db' s) ∨
          (outcome = .acknowledgementLost ∧ (∃ e, r = .error e) ∧
            s' = { s with db := db' })) := by
  unfold recordObservation at h
  cases hrun : outcome.run transaction s.db with
  | mk answer db' =>
      rw [hrun] at h
      rcases StorageOutcome.run_cases hrun with ⟨⟨e, he⟩, hdb⟩ | ⟨a, hok, hanswer⟩
      · subst he hdb
        simp only [Prod.mk.injEq] at h
        exact Or.inl ⟨⟨e, h.1.symm⟩, h.2.symm⟩
      · rcases hanswer with ha | ⟨hlost, e, he⟩
        · subst ha
          simp only [Prod.mk.injEq] at h
          exact Or.inr ⟨a, db', hok, Or.inl ⟨h.1.symm, h.2.symm⟩⟩
        · subst he
          simp only [Prod.mk.injEq] at h
          exact Or.inr ⟨a, db', hok, Or.inr ⟨hlost, ⟨e, h.1.symm⟩, h.2.symm⟩⟩

/-! ## The ways to record -/

/-- The ways in which an observation is recorded: the outcome, the boot marker
of the checkpoint and the database afterwards. -/
inductive Recorded (observation : CounterObservation) (s : PollerState) :
    CounterPersistenceOutcome → Option String → TrafficDb → Prop where
  | initialized
      (hbaseline : s.baselines observation.interfaceId = none)
      (hcheckpoint : s.db.checkpointFor observation.routerId observation.interfaceId = none) :
      Recorded observation s .initialized (currentMarker observation)
        (s.db.putCheckpoint (checkpointOf observation (currentMarker observation)))
  | reobserved
      (hbaseline : s.baselines observation.interfaceId = none)
      (hcheckpoint : s.db.checkpointFor observation.routerId observation.interfaceId =
        some (checkpointOf observation (currentMarker observation))) :
      Recorded observation s .initialized (currentMarker observation) s.db
  | restartGap (existing : CounterCheckpoint) {db' : TrafficDb}
      (hbaseline : s.baselines observation.interfaceId = none)
      (hcheckpoint : s.db.checkpointFor observation.routerId observation.interfaceId =
        some existing)
      (hcommit : NewGap s.db (restartGap existing observation)
        (checkpointOf observation (currentMarker observation)) db') :
      Recorded observation s .gap (currentMarker observation) db'
  | sample (previous : CounterBaseline) (deltas : ExactDeltas) {db' : TrafficDb}
      (hbaseline : s.baselines observation.interfaceId = some previous)
      (hclass : classifyInterval previous observation = .sample deltas)
      (hcommit : NewSample s.db (exactSample previous observation deltas)
        (checkpointOf observation (nextMarker previous observation)) db') :
      Recorded observation s .exactSample (nextMarker previous observation) db'
  | repeatedSample (previous : CounterBaseline) (deltas : ExactDeltas)
      (hbaseline : s.baselines observation.interfaceId = some previous)
      (hclass : classifyInterval previous observation = .sample deltas)
      (hlater : previous.observedAtMs < observation.observedAtMs)
      (hcommit : RepeatedSample s.db (exactSample previous observation deltas)
        (checkpointOf observation (nextMarker previous observation))) :
      Recorded observation s .exactSample (nextMarker previous observation) s.db
  | gap (previous : CounterBaseline) {db' : TrafficDb}
      (hbaseline : s.baselines observation.interfaceId = some previous)
      (hclass : classifyInterval previous observation = .gap)
      (hcommit : NewGap s.db (intervalGap previous observation)
        (checkpointOf observation (nextMarker previous observation)) db') :
      Recorded observation s .gap (nextMarker previous observation) db'
  | repeatedGap (previous : CounterBaseline)
      (hbaseline : s.baselines observation.interfaceId = some previous)
      (hclass : classifyInterval previous observation = .gap)
      (hlater : previous.observedAtMs < observation.observedAtMs)
      (hcommit : RepeatedGap s.db (intervalGap previous observation)
        (checkpointOf observation (nextMarker previous observation))) :
      Recorded observation s .gap (nextMarker previous observation) s.db

/-- What a call did: nothing, or one of the ways to record, acknowledged or not. -/
def Effect (outcomes : StorageOutcomes) (observation : CounterObservation)
    (s : PollerState) (r : DatabaseResult CounterPersistenceOutcome) (s' : PollerState) :
    Prop :=
  ((∃ e, r = .error e) ∧ s' = s) ∨
    ∃ outcome marker db', Recorded observation s outcome marker db' ∧
      ((r = .ok outcome ∧ s' = advancedTo observation marker db' s) ∨
        (¬ outcomes.Acknowledged ∧ (∃ e, r = .error e) ∧ s' = { s with db := db' }))

theorem not_acknowledged_of_commit {outcomes : StorageOutcomes}
    (h : outcomes.commit = .acknowledgementLost) : ¬ outcomes.Acknowledged := by
  intro hacknowledged
  exact hacknowledged.2 h

theorem not_acknowledged_of_initialization {outcomes : StorageOutcomes}
    (h : outcomes.initialization = .acknowledgementLost) : ¬ outcomes.Acknowledged := by
  intro hacknowledged
  exact hacknowledged.1 h

theorem reobserves_iff {existing : CounterCheckpoint} {observation : CounterObservation}
    (hrouter : existing.routerId = observation.routerId)
    (hinterface : existing.interfaceId = observation.interfaceId) :
    reobserves existing observation = true ↔
      existing = checkpointOf observation (currentMarker observation) := by
  obtain ⟨routerId, interfaceId, rxCounter, txCounter, observedAtMs, rebootMarker⟩ := existing
  simp only at hrouter hinterface
  subst hrouter hinterface
  simp only [reobserves, checkpointOf, decide_eq_true_eq, CounterCheckpoint.mk.injEq, true_and]
  constructor
  · rintro ⟨htime, hrx, htx, hmarker⟩
    exact ⟨hrx, htx, htime.symm, hmarker⟩
  · rintro ⟨hrx, htx, htime, hmarker⟩
    exact ⟨htime.symm, hrx, htx, hmarker⟩

theorem resumeFromCheckpoint_cases {outcomes : StorageOutcomes}
    {observation : CounterObservation} {s s' : PollerState}
    {r : DatabaseResult CounterPersistenceOutcome}
    (hbaseline : s.baselines observation.interfaceId = none)
    (h : resumeFromCheckpoint outcomes observation s = (r, s')) :
    Effect outcomes observation s r s' := by
  unfold resumeFromCheckpoint at h
  split at h
  · simp only [Prod.mk.injEq] at h
    exact Or.inl ⟨⟨_, h.1.symm⟩, h.2.symm⟩
  · cases hcheckpoint : s.db.checkpointFor observation.routerId observation.interfaceId with
    | none =>
        simp only [hcheckpoint, Prod.mk.injEq] at h
        exact Or.inl ⟨⟨_, h.1.symm⟩, h.2.symm⟩
    | some existing =>
        obtain ⟨hrouter, hinterface⟩ := TrafficDb.checkpointFor_key hcheckpoint
        simp only [hcheckpoint] at h
        split at h
        · rename_i hreobserves
          have heq := (reobserves_iff hrouter hinterface).mp hreobserves
          rw [heq] at hcheckpoint
          simp only [Prod.mk.injEq] at h
          exact Or.inr ⟨.initialized, currentMarker observation, s.db,
            .reobserved hbaseline hcheckpoint, Or.inl ⟨h.1.symm, h.2.symm⟩⟩
        · split at h
          · simp only [Prod.mk.injEq] at h
            exact Or.inl ⟨⟨_, h.1.symm⟩, h.2.symm⟩
          · rename_i hstale
            rcases recordObservation_cases h with hnone | ⟨a, db', hok, hseen⟩
            · exact Or.inl hnone
            · have hnew : NewGap s.db (restartGap existing observation)
                  (checkpointOf observation (currentMarker observation)) db' := by
                rcases commitGapAndCheckpoint_cases hok with ⟨_, hnew⟩ | ⟨_, hrepeated, _⟩
                · exact hnew
                · -- the stored checkpoint is older than the observation
                  obtain ⟨current, hcurrent, hnewer⟩ := hrepeated.checkpoint
                  have hsame : current = existing :=
                    Option.some.inj (hcurrent.symm.trans hcheckpoint)
                  subst hsame
                  rcases hnewer with hlt | heq
                  · simp only [checkpointOf] at hlt
                    omega
                  · rw [heq] at hstale
                    simp [checkpointOf] at hstale
              refine Or.inr ⟨.gap, currentMarker observation, db',
                .restartGap existing hbaseline hcheckpoint hnew, ?_⟩
              rcases hseen with hack | ⟨hlost, herror, hstate⟩
              · exact Or.inl hack
              · exact Or.inr ⟨not_acknowledged_of_commit hlost, herror, hstate⟩

theorem persistFirstObservation_cases {outcomes : StorageOutcomes}
    {observation : CounterObservation} {s s' : PollerState}
    {r : DatabaseResult CounterPersistenceOutcome}
    (hbaseline : s.baselines observation.interfaceId = none)
    (h : persistFirstObservation outcomes observation s = (r, s')) :
    Effect outcomes observation s r s' := by
  unfold persistFirstObservation at h
  cases hrun : outcomes.initialization.run
      (initializeCheckpointIfAbsent (checkpointOf observation (currentMarker observation)))
      s.db with
  | mk answer db' =>
      rw [hrun] at h
      rcases StorageOutcome.run_cases hrun with ⟨⟨e, he⟩, hdb⟩ | ⟨a, hok, hanswer⟩
      · subst he hdb
        simp only [Prod.mk.injEq] at h
        exact Or.inl ⟨⟨e, h.1.symm⟩, h.2.symm⟩
      · rcases initializeCheckpointIfAbsent_cases hok with
          ⟨ha, habsent, hdb⟩ | ⟨ha, _, hdb⟩
        · subst ha hdb
          have hrecorded : Recorded observation s .initialized (currentMarker observation)
              (s.db.putCheckpoint (checkpointOf observation (currentMarker observation))) :=
            .initialized hbaseline habsent
          rcases hanswer with hr | ⟨hlost, e, hr⟩
          · subst hr
            simp only [Prod.mk.injEq] at h
            exact Or.inr ⟨_, _, _, hrecorded, Or.inl ⟨h.1.symm, h.2.symm⟩⟩
          · subst hr
            simp only [Prod.mk.injEq] at h
            exact Or.inr ⟨_, _, _, hrecorded,
              Or.inr ⟨not_acknowledged_of_initialization hlost, ⟨e, h.1.symm⟩, h.2.symm⟩⟩
        · subst ha hdb
          rcases hanswer with hr | ⟨_, e, hr⟩
          · subst hr
            exact resumeFromCheckpoint_cases hbaseline h
          · subst hr
            simp only [Prod.mk.injEq] at h
            exact Or.inl ⟨⟨e, h.1.symm⟩, h.2.symm⟩

theorem persistNextObservation_cases {outcomes : StorageOutcomes} {previous : CounterBaseline}
    {observation : CounterObservation} {s s' : PollerState}
    {r : DatabaseResult CounterPersistenceOutcome}
    (hbaseline : s.baselines observation.interfaceId = some previous)
    (h : persistNextObservation outcomes previous observation s = (r, s')) :
    Effect outcomes observation s r s' := by
  unfold persistNextObservation at h
  split at h
  · simp only [Prod.mk.injEq] at h
    exact Or.inl ⟨⟨_, h.1.symm⟩, h.2.symm⟩
  · rename_i hstale
    have hlater : previous.observedAtMs < observation.observedAtMs := not_le.mp hstale
    cases hclass : classifyInterval previous observation with
    | sample deltas =>
        simp only [hclass] at h
        rcases recordObservation_cases h with hnone | ⟨a, db', hok, hseen⟩
        · exact Or.inl hnone
        · have hrecorded : Recorded observation s .exactSample
              (nextMarker previous observation) db' := by
            rcases commitSampleAndCheckpoint_cases hok with ⟨_, hnew⟩ | ⟨_, hrepeated, rfl⟩
            · exact .sample previous deltas hbaseline hclass hnew
            · exact .repeatedSample previous deltas hbaseline hclass hlater hrepeated
          refine Or.inr ⟨_, _, _, hrecorded, ?_⟩
          rcases hseen with hack | ⟨hlost, herror, hstate⟩
          · exact Or.inl hack
          · exact Or.inr ⟨not_acknowledged_of_commit hlost, herror, hstate⟩
    | gap =>
        simp only [hclass] at h
        rcases recordObservation_cases h with hnone | ⟨a, db', hok, hseen⟩
        · exact Or.inl hnone
        · have hrecorded : Recorded observation s .gap
              (nextMarker previous observation) db' := by
            rcases commitGapAndCheckpoint_cases hok with ⟨_, hnew⟩ | ⟨_, hrepeated, rfl⟩
            · exact .gap previous hbaseline hclass hnew
            · exact .repeatedGap previous hbaseline hclass hlater hrepeated
          refine Or.inr ⟨_, _, _, hrecorded, ?_⟩
          rcases hseen with hack | ⟨hlost, herror, hstate⟩
          · exact Or.inl hack
          · exact Or.inr ⟨not_acknowledged_of_commit hlost, herror, hstate⟩

/-- The inversion of `persist_counter_observation`. -/
theorem persistCounterObservation_cases {outcomes : StorageOutcomes}
    {observation : CounterObservation} {s s' : PollerState}
    {r : DatabaseResult CounterPersistenceOutcome}
    (h : persistCounterObservation outcomes observation s = (r, s')) :
    Effect outcomes observation s r s' := by
  unfold persistCounterObservation at h
  cases hbaseline : s.baselines observation.interfaceId with
  | none =>
      simp only [hbaseline] at h
      exact persistFirstObservation_cases hbaseline h
  | some previous =>
      simp only [hbaseline] at h
      exact persistNextObservation_cases hbaseline h

/-- When the final commit fails, an observation against a baseline changes
nothing. -/
theorem persistCounterObservation_failed {outcomes : StorageOutcomes}
    {observation : CounterObservation} {s : PollerState} {previous : CounterBaseline}
    (hbaseline : s.baselines observation.interfaceId = some previous)
    (hfailed : outcomes.commit = .failed) :
    ∃ e, persistCounterObservation outcomes observation s = (.error e, s) := by
  simp only [persistCounterObservation, hbaseline, persistNextObservation]
  split
  · exact ⟨_, rfl⟩
  · split <;> exact ⟨.sqlite, by simp [recordObservation, StorageOutcome.run, hfailed]⟩

/-! ## Exact intervals -/

/-- An interval classified as exact was watched, both transitions were
continuous, and its bytes are the counter differences modulo `2 ^ 64`. -/
theorem classifyInterval_sample {previous : CounterBaseline}
    {observation : CounterObservation} {deltas : ExactDeltas}
    (h : classifyInterval previous observation = .sample deltas) :
    watched previous observation = true ∧
      (rxRate previous observation).transition.Continuous ∧
      (txRate previous observation).transition.Continuous ∧
      deltas.downloadBytes = ((observation.rxCounter - previous.rxCounter).toNat : Int) ∧
      deltas.uploadBytes = ((observation.txCounter - previous.txCounter).toNat : Int) := by
  unfold classifyInterval at h
  split at h
  · rename_i hwatched
    cases hdeltas : exactDeltas (rxRate previous observation) (txRate previous observation) with
    | none => simp [hdeltas] at h
    | some exact =>
        simp only [hdeltas, IntervalRecord.sample.injEq] at h
        subst h
        simp only [exactDeltas, Option.bind_eq_bind, Option.bind_eq_some_iff, Option.pure_def,
          Option.some.injEq] at hdeltas
        obtain ⟨rxDelta, hrxDelta, txDelta, htxDelta, rxBps, hrxBps, txBps, htxBps,
          download, hdownload, upload, hupload, heq⟩ := hdeltas
        obtain ⟨hrx, hrxEq⟩ := calculateCounterRate_continuous hrxDelta hrxBps
        obtain ⟨htx, htxEq⟩ := calculateCounterRate_continuous htxDelta htxBps
        rw [toI64?_eq_some_iff] at hdownload hupload
        subst heq hrxEq htxEq
        exact ⟨hwatched, hrx, htx, hdownload.2.symm, hupload.2.symm⟩
  · cases h

/-- The bytes of an exact interval fit their columns. -/
theorem classifyInterval_fits {previous : CounterBaseline} {observation : CounterObservation}
    {deltas : ExactDeltas} (h : classifyInterval previous observation = .sample deltas) :
    deltas.downloadBytes ≤ i64Max ∧ deltas.uploadBytes ≤ i64Max := by
  unfold classifyInterval at h
  split at h
  · cases hdeltas : exactDeltas (rxRate previous observation) (txRate previous observation) with
    | none => simp [hdeltas] at h
    | some exact =>
        simp only [hdeltas, IntervalRecord.sample.injEq] at h
        subst h
        simp only [exactDeltas, Option.bind_eq_bind, Option.bind_eq_some_iff, Option.pure_def,
          Option.some.injEq] at hdeltas
        obtain ⟨_, _, _, _, _, _, _, _, download, hdownload, upload, hupload, rfl⟩ := hdeltas
        rw [toI64?_eq_some_iff] at hdownload hupload
        exact ⟨hdownload.2 ▸ hdownload.1.2, hupload.2 ▸ hupload.1.2⟩
  · cases h

/-! ## Calls that take effect -/

/-- A transaction that takes effect and is acknowledged. -/
theorem StorageOutcome.run_committed {α : Type}
    {transaction : TrafficDb → DatabaseResult (α × TrafficDb)} {db db' : TrafficDb} {a : α}
    (h : transaction db = .ok (a, db')) :
    StorageOutcome.committed.run transaction db = (.ok a, db') := by
  unfold StorageOutcome.run
  rw [h]

/-- An exact interval that is committed. -/
theorem persistCounterObservation_sample {observation : CounterObservation}
    {previous : CounterBaseline} {deltas : ExactDeltas} {s : PollerState} {db' : TrafficDb}
    (hbaseline : s.baselines observation.interfaceId = some previous)
    (hlater : previous.observedAtMs < observation.observedAtMs)
    (hclass : classifyInterval previous observation = .sample deltas)
    (hcommit : commitSampleAndCheckpoint (exactSample previous observation deltas)
      (checkpointOf observation (nextMarker previous observation)) s.db = .ok (true, db')) :
    persistCounterObservation .allCommitted observation s =
      (.ok .exactSample, advancedTo observation (nextMarker previous observation) db' s) := by
  unfold persistCounterObservation
  rw [hbaseline]
  simp only [persistNextObservation, not_le.mpr hlater, if_false, hclass]
  simp only [recordObservation, StorageOutcomes.allCommitted, StorageOutcome.run, hcommit]
  rfl

/-- The first observation of a process, without a checkpoint. -/
theorem persistCounterObservation_initialized {observation : CounterObservation} {s : PollerState}
    (hbaseline : s.baselines observation.interfaceId = none)
    (hvalid : validateCheckpoint (checkpointOf observation (currentMarker observation)) = .ok ())
    (howned : s.db.ownsRouterInterface observation.routerId (some observation.interfaceId) = true)
    (habsent : s.db.checkpointFor observation.routerId observation.interfaceId = none) :
    persistCounterObservation .allCommitted observation s =
      (.ok .initialized, advancedTo observation (currentMarker observation)
        (s.db.putCheckpoint (checkpointOf observation (currentMarker observation))) s) := by
  have hinitialize := initializeCheckpointIfAbsent_of_absent hvalid howned habsent
  unfold persistCounterObservation
  rw [hbaseline]
  simp only [persistFirstObservation, StorageOutcomes.allCommitted, StorageOutcome.run, hinitialize]
  rfl

/-- The first observation of a process, after an older checkpoint. -/
theorem persistCounterObservation_restarted {observation : CounterObservation} {s : PollerState}
    {existing : CounterCheckpoint} {db' : TrafficDb}
    (hbaseline : s.baselines observation.interfaceId = none)
    (hvalid : validateCheckpoint (checkpointOf observation (currentMarker observation)) = .ok ())
    (howned : s.db.ownsRouterInterface observation.routerId (some observation.interfaceId) = true)
    (hexisting : s.db.checkpointFor observation.routerId observation.interfaceId = some existing)
    (hlater : existing.observedAtMs < observation.observedAtMs)
    (hcommit : commitGapAndCheckpoint (restartGap existing observation)
      (checkpointOf observation (currentMarker observation)) s.db = .ok (true, db')) :
    persistCounterObservation .allCommitted observation s =
      (.ok .gap, advancedTo observation (currentMarker observation) db' s) := by
  have hinitialize := initializeCheckpointIfAbsent_of_stored hvalid howned hexisting
  have hother : reobserves existing observation = false := by
    simp [reobserves, (ne_of_gt hlater)]
  unfold persistCounterObservation
  rw [hbaseline]
  simp only [persistFirstObservation, StorageOutcomes.allCommitted, StorageOutcome.run, hinitialize,
    resumeFromCheckpoint, hexisting, hother, not_le.mpr hlater, recordObservation, hcommit]
  rfl

end RouterView.Poller
