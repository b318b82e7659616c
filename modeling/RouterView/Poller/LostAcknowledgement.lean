/-
  Poller/LostAcknowledgement.lean --- histories that hold back.

  `HoldsBack` is the condition on the steps: while the in-memory baseline of the
  interface is older than a sample whose commit was not acknowledged, no later
  observation is committed as an exact sample.  The observation may come again,
  the process may restart, the storage may fail, and an interrupted interval may
  be recorded as a gap.

  The invariant is `Ledger.Current`: what is stored ends by the checkpoint, and
  it ends by the baseline or with the sample that was not acknowledged.  Along
  every history that holds back, `caught_up_disjoint` keeps the samples disjoint
  and the queries answered; `lostCommitRun` does not hold back.

  Left out: the time a storage call takes, and the texts of its errors.
-/
import RouterView.Poller.Ledger

set_option autoImplicit false

namespace RouterView.Poller

open RouterView.Foundation
open RouterView.Db

/-! ## Lost acknowledgements -/

/-- While the baseline of the interface is older than a sample whose commit was
not acknowledged, no later observation is committed as an exact sample: the
storage fails, or the interval is interrupted. -/
def HoldsBack (interfaceId : Int) (l : Ledger) : HistoryEvent → Prop
  | .poll (.observe outcomes observation) =>
      observation.interfaceId = interfaceId →
        ∀ previous ∈ l.state.baselines interfaceId, ∀ lostAt ∈ l.lost,
          previous.observedAtMs < lostAt → lostAt < observation.observedAtMs →
            outcomes.commit = .failed ∨ classifyInterval previous observation = .gap
  | _ => True

instance HoldsBack.decidable (interfaceId : Int) (l : Ledger) :
    (event : HistoryEvent) → Decidable (HoldsBack interfaceId l event)
  | .poll (.observe outcomes observation) =>
      inferInstanceAs (Decidable (observation.interfaceId = interfaceId →
        ∀ previous ∈ l.state.baselines interfaceId, ∀ lostAt ∈ l.lost,
          previous.observedAtMs < lostAt → lostAt < observation.observedAtMs →
            outcomes.commit = .failed ∨ classifyInterval previous observation = .gap))
  | .poll (.dropBaselines _) => isTrue trivial
  | .rollup _ _ => isTrue trivial

/-- The checkpoint of the interface is stored, at the time or later. -/
def CheckpointFrom (routerId interfaceId : Int) (db : TrafficDb) (t : Int) : Prop :=
  ∃ current, db.checkpointFor routerId interfaceId = some current ∧ t ≤ current.observedAtMs

/-- No contribution of the interface ends after its checkpoint. -/
def Checkpointed (routerId interfaceId : Int) (db : TrafficDb) : Prop :=
  ∀ c ∈ db.contributionsOn routerId interfaceId,
    CheckpointFrom routerId interfaceId db c.endedAtMs

/-- The baseline of the interface is as new as what is stored, or what is stored
ends with the sample that was not acknowledged. -/
structure Ledger.Current (routerId interfaceId : Int) (l : Ledger) : Prop where
  checkpointed : Checkpointed routerId interfaceId l.state.db
  baseline : ∀ baseline, l.state.baselines interfaceId = some baseline →
    EndsBy routerId interfaceId l.state.db baseline.observedAtMs ∨
      ∃ lostAt, l.lost = some lostAt ∧ baseline.observedAtMs < lostAt ∧
        CheckpointFrom routerId interfaceId l.state.db lostAt ∧
        EndsBy routerId interfaceId l.state.db lostAt

/-- A record leaves a checkpoint that is as new as the observation and as the
checkpoint before it. -/
theorem Recorded.checkpointFrom {observation : CounterObservation} {s : PollerState}
    {outcome : CounterPersistenceOutcome} {marker : Option String} {db' : TrafficDb}
    (h : Recorded observation s outcome marker db') {t : Int}
    (ht : t = observation.observedAtMs ∨
      CheckpointFrom observation.routerId observation.interfaceId s.db t) :
    CheckpointFrom observation.routerId observation.interfaceId db' t := by
  -- a new checkpoint, after every one before it
  have hput : ∀ (db : TrafficDb) (marker : Option String),
      (∀ current, s.db.checkpointFor observation.routerId observation.interfaceId = some current →
        current.observedAtMs ≤ observation.observedAtMs) →
      CheckpointFrom observation.routerId observation.interfaceId
        (db.putCheckpoint (checkpointOf observation marker)) t := by
    intro db marker hadvances
    refine ⟨_, TrafficDb.checkpointFor_putCheckpoint_self db (checkpointOf observation marker), ?_⟩
    rcases ht with rfl | ⟨current, hcurrent, hle⟩
    · exact le_refl _
    · exact le_trans hle (hadvances current hcurrent)
  -- the checkpoint that is stored, as new as the observation
  have hkept : ∀ stored, s.db.checkpointFor observation.routerId observation.interfaceId =
      some stored → observation.observedAtMs ≤ stored.observedAtMs →
      CheckpointFrom observation.routerId observation.interfaceId s.db t := by
    intro stored hstored hle
    rcases ht with rfl | hfrom
    · exact ⟨stored, hstored, hle⟩
    · exact hfrom
  cases h with
  | initialized _ habsent => exact hput _ _ (by simp [habsent])
  | reobserved _ hstored => exact hkept _ hstored (le_refl _)
  | restartGap existing _ _ hcommit =>
      rw [hcommit.result]
      exact hput _ _ (fun current hcurrent => le_of_lt (hcommit.advances current hcurrent))
  | sample previous deltas _ _ hcommit =>
      rw [hcommit.result]
      exact hput _ _ (fun current hcurrent => le_of_lt (hcommit.advances current hcurrent))
  | gap previous _ _ hcommit =>
      rw [hcommit.result]
      exact hput _ _ (fun current hcurrent => le_of_lt (hcommit.advances current hcurrent))
  | repeatedSample previous deltas _ _ _ hcommit =>
      obtain ⟨stored, hstored, hnewer⟩ := hcommit.checkpoint
      refine hkept stored hstored ?_
      rcases hnewer with hlt | rfl
      · exact le_of_lt hlt
      · exact le_refl _
  | repeatedGap previous _ _ _ hcommit =>
      obtain ⟨stored, hstored, hnewer⟩ := hcommit.checkpoint
      refine hkept stored hstored ?_
      rcases hnewer with hlt | rfl
      · exact le_of_lt hlt
      · exact le_refl _

/-- A record follows the baseline, or the checkpoint where there is none. -/
theorem Recorded.follows {observation : CounterObservation} {s : PollerState}
    {outcome : CounterPersistenceOutcome} {marker : Option String} {db' : TrafficDb}
    (h : Recorded observation s outcome marker db') :
    (∃ previous, s.baselines observation.interfaceId = some previous ∧
        previous.observedAtMs < observation.observedAtMs) ∨
      ∀ current, s.db.checkpointFor observation.routerId observation.interfaceId = some current →
        current.observedAtMs ≤ observation.observedAtMs := by
  cases h with
  | initialized _ habsent => exact Or.inr (by simp [habsent])
  | reobserved _ hstored =>
      refine Or.inr ?_
      intro current hcurrent
      rw [hstored, Option.some.injEq] at hcurrent
      exact le_of_eq (by rw [← hcurrent]; rfl)
  | restartGap existing _ _ hcommit =>
      exact Or.inr (fun current hcurrent => le_of_lt (hcommit.advances current hcurrent))
  | sample previous deltas hbaseline _ hcommit =>
      exact Or.inl ⟨previous, hbaseline, hcommit.valid.increasing⟩
  | gap previous hbaseline _ hcommit => exact Or.inl ⟨previous, hbaseline, hcommit.increasing⟩
  | repeatedSample previous deltas hbaseline _ hlater _ => exact Or.inl ⟨previous, hbaseline, hlater⟩
  | repeatedGap previous hbaseline _ hlater _ => exact Or.inl ⟨previous, hbaseline, hlater⟩

/-- The ledger of a process that starts without a baseline. -/
theorem Ledger.Current.start {routerId interfaceId : Int} {s : PollerState}
    (hcheckpointed : Checkpointed routerId interfaceId s.db)
    (hfresh : s.baselines interfaceId = none) :
    (Ledger.start s).Current routerId interfaceId where
  checkpointed := hcheckpointed
  baseline := by simp [Ledger.start, hfresh]

/-- A step that holds back stores a new sample only where the baseline is caught
up. -/
theorem Ledger.Current.caughtUp {routerId interfaceId : Int} {l : Ledger}
    (h : l.Current routerId interfaceId) {event : HistoryEvent}
    (htimely : event.TimelyOn routerId interfaceId) (hback : HoldsBack interfaceId l event) :
    CaughtUp routerId interfaceId l.state event := by
  match event with
  | .rollup _ _ => trivial
  | .poll (.dropBaselines _) => trivial
  | .poll (.observe outcomes observation) =>
      intro hinterface previous deltas hprevious hstores
      rcases h.baseline previous hprevious with
        hends | ⟨lostAt, hlost, hbehind, ⟨current, hcurrent, hle⟩, _⟩
      · exact hends
      · obtain rfl := htimely.2 hinterface
        subst hinterface
        have hahead : lostAt < observation.observedAtMs :=
          lt_of_le_of_lt hle (hstores.advances current hcurrent)
        rcases hback rfl previous hprevious lostAt hlost hbehind hahead with hfailed | hgap
        · exact absurd hfailed hstores.attempted
        · rw [hstores.exact] at hgap
          cases hgap

/-- A record without a new sample leaves the baseline where it is, or takes it
from the observation. -/
theorem Ledger.Current.unsampled {observation : CounterObservation} {l : Ledger}
    (h : l.Current observation.routerId observation.interfaceId)
    {outcome : CounterPersistenceOutcome} {marker : Option String} {s' : PollerState}
    (hrecorded : Recorded observation l.state outcome marker s'.db)
    (hrows : s'.db.contributionsOn observation.routerId observation.interfaceId =
      l.state.db.contributionsOn observation.routerId observation.interfaceId)
    (hbaseline : s'.baselines observation.interfaceId =
        l.state.baselines observation.interfaceId ∨
      s'.baselines observation.interfaceId =
        some (baselineFromObservation observation marker)) (readings baselineReading : Nat) :
    Ledger.Current observation.routerId observation.interfaceId
      ⟨s', readings, baselineReading, l.counted, l.lost⟩ := by
  refine ⟨?_, ?_⟩
  · intro c hc
    rw [hrows] at hc
    exact hrecorded.checkpointFrom (Or.inr (h.checkpointed c hc))
  · intro baseline hsome
    rcases hbaseline with hsame | hnew
    · rw [hsame] at hsome
      rcases h.baseline baseline hsome with hends | ⟨lostAt, hlost, hbehind, hfrom, hends⟩
      · exact Or.inl (hends.congr hrows)
      · exact Or.inr ⟨lostAt, hlost, hbehind, hrecorded.checkpointFrom (Or.inr hfrom),
          hends.congr hrows⟩
    · rw [hnew, Option.some.injEq] at hsome
      subst hsome
      rcases hrecorded.follows with ⟨previous, hprevious, hlater⟩ | hreached
      · rcases h.baseline previous hprevious with hends | ⟨lostAt, hlost, _, hfrom, hends⟩
        · exact Or.inl ((hends.mono (le_of_lt hlater)).congr hrows)
        · -- the observation is the lost one or newer, or is still behind it
          rcases le_or_gt lostAt observation.observedAtMs with hle | hgt
          · exact Or.inl ((hends.mono hle).congr hrows)
          · exact Or.inr ⟨lostAt, hlost, hgt, hrecorded.checkpointFrom (Or.inr hfrom),
              hends.congr hrows⟩
      · refine Or.inl ?_
        intro c hc
        rw [hrows] at hc
        obtain ⟨current, hcurrent, hle⟩ := h.checkpointed c hc
        exact le_trans hle (hreached current hcurrent)

/-- A new sample is the last contribution; the baseline is taken from its
observation, or the sample is the one that was not acknowledged. -/
theorem Ledger.Current.sampled {observation : CounterObservation} {db : TrafficDb}
    {previous : CounterBaseline} {deltas : ExactDeltas} {marker : Option String}
    {s' : PollerState} {lost : Option Int}
    (hnew : NewSample db (exactSample previous observation deltas)
      (checkpointOf observation marker) s'.db)
    (hcaught : EndsBy observation.routerId observation.interfaceId db previous.observedAtMs)
    (hbaseline : s'.baselines observation.interfaceId = some previous ∧
        lost = some observation.observedAtMs ∨
      s'.baselines observation.interfaceId = some (baselineFromObservation observation marker))
    (readings baselineReading : Nat) (counted : List Counted) :
    Ledger.Current observation.routerId observation.interfaceId
      ⟨s', readings, baselineReading, counted, lost⟩ := by
  have hlater : previous.observedAtMs < observation.observedAtMs := hnew.valid.increasing
  have hends : EndsBy observation.routerId observation.interfaceId s'.db
      observation.observedAtMs := by
    have hon : (exactSample previous observation deltas).on observation.routerId
        observation.interfaceId = true := by simp [TrafficSampleInput.on, exactSample]
    rw [hnew.result]
    intro c hc
    rcases List.mem_cons.mp ((contributionsOn_insertSample _ hon).mem_iff.mp hc) with rfl | hc
    · exact le_refl _
    · exact le_trans (hcaught c hc) (le_of_lt hlater)
  have hfrom : ∀ t ≤ observation.observedAtMs,
      CheckpointFrom observation.routerId observation.interfaceId s'.db t := by
    intro t ht
    rw [hnew.result]
    exact ⟨_, TrafficDb.checkpointFor_putCheckpoint_self _ (checkpointOf observation marker), ht⟩
  refine ⟨fun c hc => hfrom _ (hends c hc), ?_⟩
  intro baseline hsome
  rcases hbaseline with ⟨hsame, rfl⟩ | htaken
  · rw [hsame, Option.some.injEq] at hsome
    subst hsome
    exact Or.inr ⟨_, rfl, hlater, hfrom _ (le_refl _), hends⟩
  · rw [htaken, Option.some.injEq] at hsome
    subst hsome
    exact Or.inl hends

theorem Ledger.Current.observe {outcomes : StorageOutcomes} {observation : CounterObservation}
    {l l' : Ledger} (h : l.Current observation.routerId observation.interfaceId)
    (hcaught : CaughtUp observation.routerId observation.interfaceId l.state
      (.poll (.observe outcomes observation))) (hobserved : Observed outcomes observation l l') :
    l'.Current observation.routerId observation.interfaceId := by
  cases hobserved with
  | refused => exact ⟨h.checkpointed, h.baseline⟩
  | unsampled hrecorded hrows hbaseline =>
      exact h.unsampled hrecorded hrows (hbaseline.imp And.left And.left) _ _
  | sampled hprevious hstores hnew hbaseline =>
      refine Ledger.Current.sampled hnew (hcaught rfl _ _ hprevious hstores) ?_ _ _ _
      rcases hbaseline with ⟨hsame, _, hlost⟩ | ⟨htaken, _⟩
      · exact Or.inl ⟨hsame, hlost⟩
      · exact Or.inr htaken

/-- A step that leaves the checkpoint of the interface and what its contributions
reach alone, and takes no new baseline. -/
theorem Ledger.Current.congr {routerId interfaceId : Int} {l l' : Ledger}
    (h : l.Current routerId interfaceId) (hlost : l'.lost = l.lost)
    (hcheckpoint : l'.state.db.checkpointFor routerId interfaceId =
      l.state.db.checkpointFor routerId interfaceId)
    (hends : ∀ t, EndsBy routerId interfaceId l.state.db t →
      EndsBy routerId interfaceId l'.state.db t)
    (hbaseline : ∀ baseline, l'.state.baselines interfaceId = some baseline →
      l.state.baselines interfaceId = some baseline) :
    l'.Current routerId interfaceId where
  checkpointed := by
    intro c hc
    cases hcurrent : l.state.db.checkpointFor routerId interfaceId with
    | none =>
        -- nothing was stored, so nothing is
        have hnone : EndsBy routerId interfaceId l.state.db (c.endedAtMs - 1) := by
          intro d hd
          obtain ⟨_, hsome, _⟩ := h.checkpointed d hd
          rw [hcurrent] at hsome
          cases hsome
        have := hends _ hnone c hc
        omega
    | some current =>
        refine ⟨current, hcheckpoint.trans hcurrent, hends _ ?_ c hc⟩
        intro d hd
        obtain ⟨_, hsome, hle⟩ := h.checkpointed d hd
        rw [hcurrent, Option.some.injEq] at hsome
        rw [hsome]
        exact hle
  baseline := by
    intro baseline hsome
    rcases h.baseline baseline (hbaseline baseline hsome) with
      hbefore | ⟨lostAt, hsomeLost, hbehind, ⟨current, hcurrent, hle⟩, hbefore⟩
    · exact Or.inl (hends _ hbefore)
    · exact Or.inr ⟨lostAt, hlost.trans hsomeLost, hbehind,
        ⟨current, hcheckpoint.trans hcurrent, hle⟩, hends _ hbefore⟩

theorem Ledger.Current.step {bucketSizeMs routerId interfaceId : Int} {l : Ledger}
    (h : l.Current routerId interfaceId) (hs : Stored bucketSizeMs l.state)
    (hsize : IsI64 bucketSizeMs) {event : HistoryEvent}
    (htimely : event.TimelyOn routerId interfaceId)
    (hcaught : CaughtUp routerId interfaceId l.state event) :
    (ledgerStep bucketSizeMs interfaceId l event).Current routerId interfaceId := by
  cases event with
  | rollup beforeMs batchSize =>
      simp only [ledgerStep]
      rcases hs.rollup_cases hsize beforeMs batchSize with
        hsame | ⟨consumed, buckets, db', hrolled, hstate⟩
      · rw [hsame]
        exact h
      · rw [hstate]
        refine h.congr rfl ?_ (fun t ht => hrolled.ended_le ht) (fun _ hsome => hsome)
        simp only [TrafficDb.checkpointFor, hrolled.others.2.2]
  | poll event =>
      cases event with
      | dropBaselines keep =>
          refine h.congr rfl rfl (fun _ ht => ht) ?_
          intro baseline hsome
          simp only [ledgerStep, historyStep, pollerStep, Baselines.retain] at hsome
          split at hsome
          · exact hsome
          · cases hsome
      | observe outcomes observation =>
          by_cases hinterface : observation.interfaceId = interfaceId
          · obtain rfl := htimely.2 hinterface
            subst hinterface
            exact h.observe hcaught (ledgerStep_observed bucketSizeMs outcomes observation l)
          · simp only [ledgerStep, if_neg hinterface, historyStep, pollerStep]
            cases hpersist : persistCounterObservation outcomes observation l.state with
            | mk result s' =>
                rcases persistCounterObservation_cases hpersist with
                  ⟨_, hsame⟩ | ⟨outcome, marker, db', hrecorded, hseen⟩
                · rw [hsame]
                  exact h
                · have hrows := hrecorded.contributionsOn_other routerId hinterface
                  obtain ⟨hcheckpoint, _⟩ := hrecorded.other_interface routerId hinterface
                  rcases hseen with ⟨_, hstate⟩ | ⟨_, _, hstate⟩
                  · rw [hstate]
                    refine h.congr rfl hcheckpoint (fun t ht => ht.congr hrows) ?_
                    intro baseline hsome
                    exact (Baselines.insert_ne _ _ (Ne.symm hinterface)).symm.trans hsome
                  · rw [hstate]
                    exact h.congr rfl hcheckpoint (fun t ht => ht.congr hrows)
                      (fun _ hsome => hsome)

/-! ## Runs -/

section

variable {bucketSizeMs routerId interfaceId : Int} {events : List HistoryEvent}

/-- The ledger of a process that starts on disjoint rows. -/
theorem Ledger.Disjoint.start {s : PollerState} (hdisjoint : s.db.DisjointOn routerId interfaceId) :
    (Ledger.start s).Disjoint routerId interfaceId where
  contributions := hdisjoint
  counted := List.Pairwise.nil
  read := by simp [Ledger.start]
  reached := by simp [Ledger.start]
  baseline := by simp [Ledger.start]

/-- A history that holds back keeps its ledger disjoint and current. -/
theorem Ledger.Disjoint.run {l : Ledger} (h : l.Disjoint routerId interfaceId)
    (hcurrent : l.Current routerId interfaceId) (hs : Stored bucketSizeMs l.state)
    (hsize : IsI64 bucketSizeMs) (htimely : ∀ e ∈ events, e.TimelyOn routerId interfaceId)
    (hback : Along (ledgerStep bucketSizeMs interfaceId) (HoldsBack interfaceId) l events) :
    (run (ledgerStep bucketSizeMs interfaceId) l events).Disjoint routerId interfaceId := by
  induction events generalizing l with
  | nil => exact h
  | cons e rest ih =>
      have he := htimely e List.mem_cons_self
      have hcaught := hcurrent.caughtUp he hback.1
      refine ih (h.step hs hsize he hcaught) (hcurrent.step hs hsize he hcaught) ?_
        (fun x hx => htimely x (List.mem_cons_of_mem _ hx)) hback.2
      rw [ledgerStep_state]
      exact hs.step hsize he

end

/-- In every history of a process that starts without a baseline, on rows that
end by their checkpoint, whichever commits lose their acknowledgement: when no
later observation is committed as an exact sample while the baseline is older
than a sample that was not acknowledged, the contributions stay disjoint, no
reading-to-reading increment is counted in two samples, and queries are not
rejected. -/
theorem caught_up_disjoint (bucketSizeMs routerId interfaceId : Int) (s : PollerState)
    (events : List HistoryEvent) (hsize : IsI64 bucketSizeMs) (hs : Stored bucketSizeMs s)
    (hdisjoint : s.db.DisjointOn routerId interfaceId)
    (hcheckpointed : Checkpointed routerId interfaceId s.db)
    (hfresh : s.baselines interfaceId = none)
    (howned : s.db.ownsRouterInterface routerId (some interfaceId) = true)
    (htimely : ∀ e ∈ events, e.TimelyOn routerId interfaceId)
    (hback : Along (ledgerStep bucketSizeMs interfaceId) (HoldsBack interfaceId)
      (Ledger.start s) events) :
    let s' := run (historyStep bucketSizeMs) s events
    let l := run (ledgerStep bucketSizeMs interfaceId) (Ledger.start s) events
    s'.db.DisjointOn routerId interfaceId ∧
      l.state = s' ∧
      l.counted.Pairwise (fun c d => c.readings.Apart d.readings) ∧
      ∀ query, QueriedOn routerId interfaceId query →
        (s'.db.sources query).length ≤ maxTrafficSourceRows →
        ∃ result, queryTrafficV4 s'.db query = .ok result := by
  have hledger : (run (ledgerStep bucketSizeMs interfaceId) (Ledger.start s) events).Disjoint
      routerId interfaceId :=
    (Ledger.Disjoint.start hdisjoint).run (Ledger.Current.start hcheckpointed hfresh) hs hsize
      htimely hback
  have hstate := run_ledgerStep_state bucketSizeMs interfaceId (Ledger.start s) events
  have hcontributions := hledger.contributions
  rw [hstate] at hcontributions
  refine ⟨hcontributions, hstate, hledger.counted, ?_⟩
  intro query hquery hrows
  have howned' := (hs.runs_owns hsize htimely).trans howned
  rcases (hs.runs hsize htimely).answers hcontributions howned' hquery with
    ⟨hlarge, _⟩ | ⟨result, _, _, hok, _⟩
  · omega
  · exact ⟨result, hok⟩

/-- A commit whose acknowledgement is lost, the same observation again, another
lost acknowledgement, a storage failure, the restart after it, and a rollup of
what is stored. -/
def restartedAfterLostCommit : List HistoryEvent :=
  [.poll (.observe .allCommitted (observationAt 1 10 500 70)),
    .poll (.observe ⟨.committed, false, .acknowledgementLost⟩ (observationAt 1 20 600 80)),
    .poll (.observe .allCommitted (observationAt 1 20 600 80)),
    .poll (.observe ⟨.committed, false, .acknowledgementLost⟩ (observationAt 1 30 900 95)),
    .poll (.observe ⟨.committed, false, .failed⟩ (observationAt 1 40 950 99)),
    .poll (.dropBaselines (fun _ => false)),
    .poll (.observe .allCommitted (observationAt 1 50 960 99)),
    .poll (.observe .allCommitted (observationAt 1 60 990 110)),
    .rollup 55000 10]

theorem caught_up_disjoint_restartedAfterLostCommit :
    (run (historyStep 60000) ⟨TrafficDb.withInterface, Baselines.empty⟩
      restartedAfterLostCommit).db.DisjointOn 1 1 := by
  refine (caught_up_disjoint 60000 1 1 ⟨TrafficDb.withInterface, Baselines.empty⟩
    restartedAfterLostCommit (by decide) (stored_withInterface 60000) (by decide)
    ?_ rfl (by decide) ?_ (by decide +kernel)).1
  · have hnone : TrafficDb.withInterface.contributionsOn 1 1 = [] := rfl
    simp [Checkpointed, hnone]
  · simp [restartedAfterLostCommit, HistoryEvent.TimelyOn, observationAt, IsTimestamp]

/-- A commit whose acknowledgement is lost, and the next observation. -/
def lostCommitRun : List HistoryEvent :=
  [.poll (.observe .allCommitted (observationAt 1 10 500 70)),
    .poll (.observe ⟨.committed, false, .acknowledgementLost⟩ (observationAt 1 20 600 80)),
    .poll (.observe .allCommitted (observationAt 1 30 900 95))]

/-- The increment of the lost commit is counted again, and queries over the
period are rejected. -/
theorem caught_up_disjoint_fails :
    let s' := run (historyStep 60000) ⟨TrafficDb.withInterface, Baselines.empty⟩ lostCommitRun
    let l := run (ledgerStep 60000 1)
      (Ledger.start ⟨TrafficDb.withInterface, Baselines.empty⟩) lostCommitRun
    ¬ (s'.db.trafficSamples.rows.Pairwise (fun a b => a.span.Apart b.span)) ∧
      ¬ (l.counted.Pairwise (fun c d => c.readings.Apart d.readings)) ∧
      queryTrafficV4 s'.db ⟨1, 1, 0, 60000, 10⟩ =
        .error (.verification "stored traffic contributions overlap for one interface") := by
  decide +kernel

end RouterView.Poller
