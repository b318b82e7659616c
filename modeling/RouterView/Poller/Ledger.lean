/-
  Poller/Ledger.lean --- the readings of one interface, numbered.

  A commit may take effect and still answer with an error.  The in-memory
  baseline then stays behind the store, and the next sample would reach back
  over what is already counted.

  A ledger numbers the readings of an interface beside its history, says which
  readings every stored sample counted between, and keeps the end of the last
  sample whose commit was not acknowledged.  `Observed` is the inversion of an
  observation of the interface.  As long as a new sample is stored only against
  a baseline that is caught up, samples stay disjoint, in time and in the
  readings between which they count; when that is so is for
  `Poller/LostAcknowledgement.lean` to say.
-/
import RouterView.Poller.History

set_option autoImplicit false

namespace RouterView.Poller

open RouterView.Foundation
open RouterView.Db

/-! ## Baselines that are caught up -/

/-- A new sample is about to be stored against the baseline. -/
structure StoresSample (outcomes : StorageOutcomes) (observation : CounterObservation)
    (previous : CounterBaseline) (deltas : ExactDeltas) (db : TrafficDb) : Prop where
  exact : classifyInterval previous observation = .sample deltas
  attempted : outcomes.commit ≠ .failed
  fresh : db.existingSample (exactSample previous observation deltas) = none
  advances : ∀ current, db.checkpointFor observation.routerId observation.interfaceId =
    some current → current.observedAtMs < observation.observedAtMs

/-- No contribution of the interface ends after the time. -/
def EndsBy (routerId interfaceId : Int) (db : TrafficDb) (t : Int) : Prop :=
  ∀ c ∈ db.contributionsOn routerId interfaceId, c.endedAtMs ≤ t

theorem EndsBy.mono {routerId interfaceId : Int} {db : TrafficDb} {t u : Int}
    (h : EndsBy routerId interfaceId db t) (hle : t ≤ u) : EndsBy routerId interfaceId db u :=
  fun c hc => le_trans (h c hc) hle

theorem EndsBy.congr {routerId interfaceId : Int} {db db' : TrafficDb} {t : Int}
    (h : EndsBy routerId interfaceId db t)
    (hrows : db'.contributionsOn routerId interfaceId = db.contributionsOn routerId interfaceId) :
    EndsBy routerId interfaceId db' t := by
  rw [EndsBy, hrows]
  exact h

/-- When a new sample is about to be stored against a baseline, no contribution
of the interface ends after the baseline. -/
def CaughtUp (routerId interfaceId : Int) (s : PollerState) : HistoryEvent → Prop
  | .poll (.observe outcomes observation) =>
      observation.interfaceId = interfaceId →
        ∀ previous deltas, s.baselines interfaceId = some previous →
          StoresSample outcomes observation previous deltas s.db →
          EndsBy routerId interfaceId s.db previous.observedAtMs
  | _ => True

theorem NewSample.storesSample {outcomes : StorageOutcomes} {observation : CounterObservation}
    {previous : CounterBaseline} {deltas : ExactDeltas} {marker : Option String}
    {db db' : TrafficDb} (hclass : classifyInterval previous observation = .sample deltas)
    (hattempted : outcomes.commit ≠ .failed)
    (hnew : NewSample db (exactSample previous observation deltas)
      (checkpointOf observation marker) db') :
    StoresSample outcomes observation previous deltas db :=
  ⟨hclass, hattempted, hnew.fresh, hnew.advances⟩

/-! ## Readings -/

/-- A stored sample: the readings between which it counted, and when it ended. -/
structure Counted where
  readings : Span Nat
  endedAtMs : Int
  deriving DecidableEq, Repr

/-- A history of one interface with its readings numbered: the reading that the
baseline was taken from, what every stored sample counted, and the end of the
last sample that was stored without an acknowledgement. -/
structure Ledger where
  state : PollerState
  readings : Nat
  baselineReading : Nat
  counted : List Counted
  lost : Option Int

/-- The ledger of a process that has not read anything. -/
def Ledger.start (s : PollerState) : Ledger := ⟨s, 0, 0, [], none⟩

/-- The reading of the baseline after an observation: the baseline is taken from
the observation when the call answers, and stays otherwise. -/
def Ledger.baselineReadingAfter (l : Ledger) : DatabaseResult CounterPersistenceOutcome → Nat
  | .ok _ => l.readings + 1
  | .error _ => l.baselineReading

/-- The last lost acknowledgement after a sample was stored: it is lost when the
call answers an error nevertheless. -/
def Ledger.lostAfter (l : Ledger) (observation : CounterObservation) :
    DatabaseResult CounterPersistenceOutcome → Option Int
  | .ok _ => l.lost
  | .error _ => some observation.observedAtMs

/-- One event, with the readings of the interface written down.  A sample was
stored when the sample table handed out an identifier. -/
def ledgerStep (bucketSizeMs interfaceId : Int) (l : Ledger) (event : HistoryEvent) : Ledger :=
  let s' := historyStep bucketSizeMs l.state event
  match event with
  | .poll (.observe outcomes observation) =>
      if observation.interfaceId = interfaceId then
        { state := s'
          readings := l.readings + 1
          baselineReading :=
            l.baselineReadingAfter (persistCounterObservation outcomes observation l.state).1
          counted :=
            if s'.db.trafficSamples.sequence = l.state.db.trafficSamples.sequence then l.counted
            else l.counted ++
              [⟨⟨l.baselineReading, l.readings + 1⟩, observation.observedAtMs⟩]
          lost :=
            if s'.db.trafficSamples.sequence = l.state.db.trafficSamples.sequence then l.lost
            else l.lostAfter observation
              (persistCounterObservation outcomes observation l.state).1 }
      else { l with state := s' }
  | _ => { l with state := s' }

@[simp] theorem ledgerStep_state (bucketSizeMs interfaceId : Int) (l : Ledger)
    (event : HistoryEvent) :
    (ledgerStep bucketSizeMs interfaceId l event).state =
      historyStep bucketSizeMs l.state event := by
  simp only [ledgerStep]
  split
  · split <;> rfl
  · rfl

/-- A ledger is written along a history. -/
theorem run_ledgerStep_state (bucketSizeMs interfaceId : Int) (l : Ledger)
    (events : List HistoryEvent) :
    (run (ledgerStep bucketSizeMs interfaceId) l events).state =
      run (historyStep bucketSizeMs) l.state events := by
  induction events generalizing l with
  | nil => rfl
  | cons e rest ih => rw [run_cons, run_cons, ih, ledgerStep_state]

/-- The contributions of the interface are disjoint, the stored samples counted
between disjoint pairs of readings, and what ended by the time of the baseline
was counted by its reading. -/
structure Ledger.Disjoint (routerId interfaceId : Int) (l : Ledger) : Prop where
  contributions : l.state.db.DisjointOn routerId interfaceId
  counted : l.counted.Pairwise (fun c d => c.readings.Apart d.readings)
  read : ∀ c ∈ l.counted, c.readings.stop ≤ l.readings
  reached : ∀ c ∈ l.counted, ∃ d ∈ l.state.db.contributionsOn routerId interfaceId,
    c.endedAtMs ≤ d.endedAtMs
  baseline : ∀ baseline, l.state.baselines interfaceId = some baseline →
    ∀ c ∈ l.counted, c.endedAtMs ≤ baseline.observedAtMs → c.readings.stop ≤ l.baselineReading

/-- The ledger after an observation of the interface. -/
theorem ledgerStep_observe {bucketSizeMs interfaceId : Int} {l : Ledger}
    {outcomes : StorageOutcomes} {observation : CounterObservation}
    {result : DatabaseResult CounterPersistenceOutcome} {s' : PollerState}
    (hinterface : observation.interfaceId = interfaceId)
    (hpersist : persistCounterObservation outcomes observation l.state = (result, s')) :
    ledgerStep bucketSizeMs interfaceId l (.poll (.observe outcomes observation)) =
      { state := s'
        readings := l.readings + 1
        baselineReading := l.baselineReadingAfter result
        counted :=
          if s'.db.trafficSamples.sequence = l.state.db.trafficSamples.sequence then l.counted
          else l.counted ++
            [⟨⟨l.baselineReading, l.readings + 1⟩, observation.observedAtMs⟩]
        lost :=
          if s'.db.trafficSamples.sequence = l.state.db.trafficSamples.sequence then l.lost
          else l.lostAfter observation result } := by
  simp only [ledgerStep, historyStep, pollerStep, hinterface, if_true, hpersist]

/-- What an observation of the interface makes of the ledger: it is refused, it
is recorded without a new sample, or a new sample is stored.  The baseline stays
with its reading, or is taken from this one. -/
inductive Observed (outcomes : StorageOutcomes) (observation : CounterObservation) (l : Ledger) :
    Ledger → Prop where
  | refused :
      Observed outcomes observation l
        ⟨l.state, l.readings + 1, l.baselineReading, l.counted, l.lost⟩
  | unsampled {outcome : CounterPersistenceOutcome} {marker : Option String} {s' : PollerState}
      {baselineReading : Nat}
      (hrecorded : Recorded observation l.state outcome marker s'.db)
      (hrows : s'.db.contributionsOn observation.routerId observation.interfaceId =
        l.state.db.contributionsOn observation.routerId observation.interfaceId)
      (hbaseline : s'.baselines observation.interfaceId =
            l.state.baselines observation.interfaceId ∧ baselineReading = l.baselineReading ∨
          s'.baselines observation.interfaceId =
            some (baselineFromObservation observation marker) ∧
            baselineReading = l.readings + 1) :
      Observed outcomes observation l ⟨s', l.readings + 1, baselineReading, l.counted, l.lost⟩
  | sampled {previous : CounterBaseline} {deltas : ExactDeltas} {marker : Option String}
      {s' : PollerState} {baselineReading : Nat} {lost : Option Int}
      (hprevious : l.state.baselines observation.interfaceId = some previous)
      (hstores : StoresSample outcomes observation previous deltas l.state.db)
      (hnew : NewSample l.state.db (exactSample previous observation deltas)
        (checkpointOf observation marker) s'.db)
      (hbaseline : s'.baselines observation.interfaceId = some previous ∧
            baselineReading = l.baselineReading ∧ lost = some observation.observedAtMs ∨
          s'.baselines observation.interfaceId =
            some (baselineFromObservation observation marker) ∧
            baselineReading = l.readings + 1) :
      Observed outcomes observation l
        ⟨s', l.readings + 1, baselineReading,
          l.counted ++ [⟨⟨l.baselineReading, l.readings + 1⟩, observation.observedAtMs⟩], lost⟩

/-- The inversion of an observation of the interface. -/
theorem ledgerStep_observed (bucketSizeMs : Int) (outcomes : StorageOutcomes)
    (observation : CounterObservation) (l : Ledger) :
    Observed outcomes observation l (ledgerStep bucketSizeMs observation.interfaceId l
      (.poll (.observe outcomes observation))) := by
  cases hpersist : persistCounterObservation outcomes observation l.state with
  | mk result s' =>
      rw [ledgerStep_observe rfl hpersist]
      rcases persistCounterObservation_cases hpersist with
        ⟨⟨e, he⟩, hsame⟩ | ⟨outcome, marker, db', hrecorded, hseen⟩
      · subst he hsame
        rw [if_pos rfl, if_pos rfl]
        exact .refused
      · have hdb : s'.db = db' := by
          rcases hseen with ⟨_, hstate⟩ | ⟨_, _, hstate⟩
          · rw [hstate]
            rfl
          · rw [hstate]
        subst hdb
        rcases hrecorded.contributionsOn_cases with
          ⟨hsamples, hrollups⟩ | ⟨previous, deltas, hprevious, hclass, hnew, _⟩
        · rw [if_pos (by rw [hsamples]), if_pos (by rw [hsamples])]
          refine .unsampled hrecorded ?_ ?_
          · simp only [TrafficDb.contributionsOn, TrafficDb.samplesOn, TrafficDb.rollupsOn,
              hsamples, hrollups]
          · rcases hseen with ⟨hok, hstate⟩ | ⟨_, ⟨e, he⟩, hstate⟩
            · rw [hok, hstate]
              exact Or.inr ⟨Baselines.insert_self _ _ _, rfl⟩
            · rw [he, hstate]
              exact Or.inl ⟨rfl, rfl⟩
        · have hsequence : ¬ s'.db.trafficSamples.sequence =
              l.state.db.trafficSamples.sequence := by
            rw [hnew.result]
            simp [TrafficDb.insertSample, TrafficDb.putCheckpoint, Table.insert]
          have hattempted : outcomes.commit ≠ .failed := by
            intro hfailed
            obtain ⟨e, hunchanged⟩ := persistCounterObservation_failed hprevious hfailed
            rw [hunchanged] at hpersist
            exact hsequence (by rw [(Prod.mk.inj hpersist).2])
          rw [if_neg hsequence, if_neg hsequence]
          refine .sampled hprevious (NewSample.storesSample hclass hattempted hnew) hnew ?_
          rcases hseen with ⟨hok, hstate⟩ | ⟨_, ⟨e, he⟩, hstate⟩
          · rw [hok, hstate]
            exact Or.inr ⟨Baselines.insert_self _ _ _, rfl⟩
          · rw [he, hstate]
            exact Or.inl ⟨hprevious, rfl, rfl⟩

/-- An observation that stores no sample. -/
theorem Ledger.Disjoint.unsampled {routerId interfaceId : Int} {l : Ledger}
    (h : l.Disjoint routerId interfaceId) {s' : PollerState} {baselineReading : Nat}
    {lost : Option Int}
    (hcontributions : s'.db.contributionsOn routerId interfaceId =
      l.state.db.contributionsOn routerId interfaceId)
    (hbaseline : s'.baselines interfaceId = l.state.baselines interfaceId ∧
        baselineReading = l.baselineReading ∨
      baselineReading = l.readings + 1) :
    Ledger.Disjoint routerId interfaceId
      ⟨s', l.readings + 1, baselineReading, l.counted, lost⟩ where
  contributions := by
    simp only [TrafficDb.DisjointOn, hcontributions]
    exact h.contributions
  counted := h.counted
  read := fun c hc => Nat.le_succ_of_le (h.read c hc)
  reached := by
    simp only [hcontributions]
    exact h.reached
  baseline := by
    intro baseline hsome c hc hle
    rcases hbaseline with ⟨hsame, hreading⟩ | hreading
    · rw [hsame] at hsome
      simp only [hreading]
      exact h.baseline baseline hsome c hc hle
    · simp only [hreading]
      exact Nat.le_succ_of_le (h.read c hc)

/-- An observation that stores a sample after every contribution. -/
theorem Ledger.Disjoint.sampled {observation : CounterObservation} {l : Ledger}
    (h : l.Disjoint observation.routerId observation.interfaceId) {previous : CounterBaseline}
    {deltas : ExactDeltas} {marker : Option String} {s' : PollerState} {baselineReading : Nat}
    {lost : Option Int}
    (hprevious : l.state.baselines observation.interfaceId = some previous)
    (hnew : NewSample l.state.db (exactSample previous observation deltas)
      (checkpointOf observation marker) s'.db)
    (hcaught : EndsBy observation.routerId observation.interfaceId l.state.db
      previous.observedAtMs)
    (hbaseline : s'.baselines observation.interfaceId = some previous ∧
        baselineReading = l.baselineReading ∨
      baselineReading = l.readings + 1) :
    Ledger.Disjoint observation.routerId observation.interfaceId
      ⟨s', l.readings + 1, baselineReading,
        l.counted ++ [⟨⟨l.baselineReading, l.readings + 1⟩, observation.observedAtMs⟩],
        lost⟩ := by
  have hon : (exactSample previous observation deltas).on observation.routerId
      observation.interfaceId = true := by simp [TrafficSampleInput.on, exactSample]
  have hincreasing : previous.observedAtMs < observation.observedAtMs := hnew.valid.increasing
  have hcounted : ∀ c ∈ l.counted, c.readings.stop ≤ l.baselineReading := by
    intro c hc
    obtain ⟨d, hd, hle⟩ := h.reached c hc
    exact h.baseline previous hprevious c hc (le_trans hle (hcaught d hd))
  have hrows := contributionsOn_insertSample l.state.db hon
  refine ⟨?_, ?_, ?_, ?_, ?_⟩
  · rw [hnew.result]
    exact disjointOn_insertSample h.contributions hon hcaught
  · rw [List.pairwise_append]
    refine ⟨h.counted, List.pairwise_singleton _ _, ?_⟩
    intro c hc d hd
    rw [List.mem_singleton.mp hd]
    exact Or.inl (hcounted c hc)
  · intro c hc
    rcases List.mem_append.mp hc with hc | hc
    · exact Nat.le_succ_of_le (h.read c hc)
    · rw [List.mem_singleton.mp hc]
  · intro c hc
    rw [hnew.result]
    rcases List.mem_append.mp hc with hc | hc
    · obtain ⟨d, hd, hle⟩ := h.reached c hc
      exact ⟨d, hrows.mem_iff.mpr (List.mem_cons_of_mem _ hd), hle⟩
    · rw [List.mem_singleton.mp hc]
      exact ⟨_, hrows.mem_iff.mpr List.mem_cons_self, le_refl _⟩
  · intro baseline hsome c hc hle
    rcases hbaseline with ⟨hsame, hreading⟩ | hreading
    · rw [hsame] at hsome
      cases hsome
      simp only [hreading]
      rcases List.mem_append.mp hc with hc | hc
      · exact hcounted c hc
      · -- the new sample ends after the baseline
        rw [List.mem_singleton.mp hc] at hle
        exact absurd hincreasing (not_lt.mpr hle)
    · simp only [hreading]
      rcases List.mem_append.mp hc with hc | hc
      · exact Nat.le_succ_of_le (h.read c hc)
      · rw [List.mem_singleton.mp hc]

theorem Ledger.Disjoint.observe {outcomes : StorageOutcomes} {observation : CounterObservation}
    {l l' : Ledger} (h : l.Disjoint observation.routerId observation.interfaceId)
    (hcaught : CaughtUp observation.routerId observation.interfaceId l.state
      (.poll (.observe outcomes observation))) (hobserved : Observed outcomes observation l l') :
    l'.Disjoint observation.routerId observation.interfaceId := by
  cases hobserved with
  | refused => exact h.unsampled rfl (Or.inl ⟨rfl, rfl⟩)
  | unsampled _ hrows hbaseline => exact h.unsampled hrows (hbaseline.imp_right And.right)
  | sampled hprevious hstores hnew hbaseline =>
      refine h.sampled hprevious hnew (hcaught rfl _ _ hprevious hstores) ?_
      rcases hbaseline with ⟨hsame, hreading, _⟩ | ⟨_, hreading⟩
      · exact Or.inl ⟨hsame, hreading⟩
      · exact Or.inr hreading

theorem Ledger.Disjoint.step {bucketSizeMs routerId interfaceId : Int} {l : Ledger}
    (h : l.Disjoint routerId interfaceId) (hs : Stored bucketSizeMs l.state)
    (hsize : IsI64 bucketSizeMs) {event : HistoryEvent}
    (htimely : event.TimelyOn routerId interfaceId)
    (hcaught : CaughtUp routerId interfaceId l.state event) :
    (ledgerStep bucketSizeMs interfaceId l event).Disjoint routerId interfaceId := by
  cases event with
  | rollup beforeMs batchSize =>
      simp only [ledgerStep]
      rcases hs.rollup_cases hsize beforeMs batchSize with
        hsame | ⟨consumed, buckets, db', hrolled, hstate⟩
      · rw [hsame]
        exact h
      · rw [hstate]
        refine ⟨(hrolled.keeps hs.tidy).disjoint _ _ h.contributions, h.counted, h.read, ?_,
          h.baseline⟩
        intro c hc
        obtain ⟨d, hd, hle⟩ := h.reached c hc
        obtain ⟨d', hd', hle'⟩ := hrolled.reaches hs.tidy.keyed hd
        exact ⟨d', hd', le_trans hle hle'⟩
  | poll event =>
      cases event with
      | dropBaselines keep =>
          refine ⟨h.contributions, h.counted, h.read, h.reached, ?_⟩
          intro baseline hbaseline
          simp only [ledgerStep, historyStep, pollerStep, Baselines.retain] at hbaseline
          split at hbaseline
          · exact h.baseline baseline hbaseline
          · cases hbaseline
      | observe outcomes observation =>
          by_cases hinterface : observation.interfaceId = interfaceId
          · obtain rfl := htimely.2 hinterface
            subst hinterface
            exact h.observe hcaught (ledgerStep_observed bucketSizeMs outcomes observation l)
          · simp only [ledgerStep, if_neg hinterface, historyStep, pollerStep]
            cases hpersist : persistCounterObservation outcomes observation l.state with
            | mk result s' =>
                rcases persistCounterObservation_cases hpersist with
                  ⟨_, hsame⟩ | ⟨outcome, marker, db', hrecorded, hseen⟩
                · rw [hsame]
                  exact h
                · have hrows := hrecorded.contributionsOn_other routerId hinterface
                  have hdb : s'.db = db' := by
                    rcases hseen with ⟨_, hstate⟩ | ⟨_, _, hstate⟩
                    · rw [hstate]
                      rfl
                    · rw [hstate]
                  have hbaseline : s'.baselines interfaceId = l.state.baselines interfaceId := by
                    rcases hseen with ⟨_, hstate⟩ | ⟨_, _, hstate⟩ <;> rw [hstate]
                    exact Baselines.insert_ne _ _ (Ne.symm hinterface)
                  rw [← hdb] at hrows
                  refine ⟨?_, h.counted, h.read, ?_, ?_⟩
                  · simp only [TrafficDb.DisjointOn, hrows]
                    exact h.contributions
                  · simp only [hrows]
                    exact h.reached
                  · simp only [hbaseline]
                    exact h.baseline

end RouterView.Poller
