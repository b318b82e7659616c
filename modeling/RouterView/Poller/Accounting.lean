/-
  Poller/Accounting.lean --- what a query answers about the counters.

  The readings of an interface are the observations that the poller accepted.
  Between two consecutive readings there is an exact sample or there is none,
  and what is stored inside a window is what the readings with a sample between
  them counted there.  A query that cuts no contribution answers that sum.
-/
import RouterView.Db.QueryWhole
import RouterView.Poller.History

set_option autoImplicit false

namespace RouterView.Poller

open RouterView.Foundation
open RouterView.Db

/-! ## Readings -/

/-- An accepted observation, and what was recorded with it. -/
structure Reading where
  outcome : CounterPersistenceOutcome
  observation : CounterObservation
  deriving DecidableEq, Repr

/-- The reading of the interface that an event makes. -/
def readingOf (interfaceId : Int) (s : PollerState) : HistoryEvent → Option Reading
  | .poll (.observe outcomes observation) =>
      if observation.interfaceId = interfaceId then
        match (persistCounterObservation outcomes observation s).1 with
        | .ok outcome => some ⟨outcome, observation⟩
        | .error _ => none
      else none
  | _ => none

/-- The readings of the interface along a history. -/
def readings (bucketSizeMs interfaceId : Int) (s : PollerState) (events : List HistoryEvent) :
    List Reading :=
  emitted (historyStep bucketSizeMs) (readingOf interfaceId) s events

/-- Two consecutive readings. -/
structure Interval where
  previous : CounterObservation
  current : CounterObservation
  deriving DecidableEq, Repr

/-- The time between the readings. -/
def Interval.span (interval : Interval) : Span Int :=
  ⟨interval.previous.observedAtMs, interval.current.observedAtMs⟩

/-- What was counted between the readings, modulo `2 ^ 64`. -/
def Interval.quantity (interval : Interval) : Quantity → Int
  | .downloadBytes => ((interval.current.rxCounter - interval.previous.rxCounter).toNat : Int)
  | .uploadBytes => ((interval.current.txCounter - interval.previous.txCounter).toNat : Int)
  | .durationMs => interval.current.observedAtMs - interval.previous.observedAtMs

/-- What was counted between the readings, when they start in the window. -/
def Interval.weight (q : Quantity) (window : Int → Bool) (interval : Interval) : Int :=
  if window interval.span.start then interval.quantity q else 0

/-- The observation that the next reading follows. -/
def lastReading : Option CounterObservation → List Reading → Option CounterObservation
  | last, [] => last
  | _, reading :: rest => lastReading (some reading.observation) rest

/-- The intervals between consecutive readings with an exact sample between
them; `last` is the observation before the first reading. -/
def exactIntervals : Option CounterObservation → List Reading → List Interval
  | _, [] => []
  | none, reading :: rest => exactIntervals (some reading.observation) rest
  | some previous, reading :: rest =>
      if reading.outcome = .exactSample then
        ⟨previous, reading.observation⟩ :: exactIntervals (some reading.observation) rest
      else exactIntervals (some reading.observation) rest

theorem exactIntervals_append (last : Option CounterObservation) (first second : List Reading) :
    exactIntervals last (first ++ second) =
      exactIntervals last first ++ exactIntervals (lastReading last first) second := by
  induction first generalizing last with
  | nil => rfl
  | cons reading rest ih =>
      cases last with
      | none => exact ih _
      | some previous =>
          simp only [List.cons_append, exactIntervals, lastReading, ih]
          split <;> rfl

theorem lastReading_append (last : Option CounterObservation) (first second : List Reading) :
    lastReading last (first ++ second) = lastReading (lastReading last first) second := by
  induction first generalizing last with
  | nil => rfl
  | cons reading rest ih => exact ih _

/-! ## An interface that is up to date -/

/-- The checkpoint and the baseline of the interface are those of the last
reading, and no contribution ends after it. -/
structure UpToDate (routerId interfaceId : Int) (s : PollerState)
    (last : Option CounterObservation) : Prop where
  checkpoint : (s.db.checkpointFor routerId interfaceId).map (fun c => c.observedAtMs) =
    last.map (fun o => o.observedAtMs)
  baseline : ∀ baseline, s.baselines interfaceId = some baseline →
    ∃ previous marker, last = some previous ∧ baseline = baselineFromObservation previous marker
  ended : ∀ c ∈ s.db.contributionsOn routerId interfaceId,
    ∃ previous, last = some previous ∧ c.endedAtMs ≤ previous.observedAtMs
  disjoint : s.db.DisjointOn routerId interfaceId
  timestamp : ∀ previous, last = some previous → IsTimestamp previous.observedAtMs

/-- What a record adds to the rows of its interface after the last reading:
nothing, or one exact sample that counts from it. -/
def Adds (observation : CounterObservation) (db : TrafficDb) (last : Option CounterObservation)
    (outcome : CounterPersistenceOutcome) (db' : TrafficDb) : Prop :=
  (outcome ≠ .exactSample ∧ db'.trafficSamples = db.trafficSamples ∧
      db'.trafficRollups = db.trafficRollups) ∨
    ∃ previous marker deltas marker', last = some previous ∧ outcome = .exactSample ∧
      classifyInterval (baselineFromObservation previous marker) observation = .sample deltas ∧
      NewSample db (exactSample (baselineFromObservation previous marker) observation deltas)
        (checkpointOf observation marker') db'

/-- A record after the last reading. -/
structure Follows (observation : CounterObservation) (db : TrafficDb)
    (last : Option CounterObservation) (outcome : CounterPersistenceOutcome) (db' : TrafficDb) :
    Prop where
  later : ∀ previous, last = some previous → previous.observedAtMs ≤ observation.observedAtMs
  checkpoint : (db'.checkpointFor observation.routerId observation.interfaceId).map
    (fun c => c.observedAtMs) = some observation.observedAtMs
  adds : Adds observation db last outcome db'

theorem UpToDate.not_repeated {observation : CounterObservation} {s : PollerState}
    {last : Option CounterObservation}
    (h : UpToDate observation.routerId observation.interfaceId s last)
    {baseline : CounterBaseline} (hbaseline : s.baselines observation.interfaceId = some baseline)
    (hlater : baseline.observedAtMs < observation.observedAtMs) {marker : Option String}
    {stored : CounterCheckpoint}
    (hstored : s.db.checkpointFor observation.routerId observation.interfaceId = some stored)
    (hnewer : (checkpointOf observation marker).observedAtMs < stored.observedAtMs ∨
      stored = checkpointOf observation marker) : False := by
  obtain ⟨previous, _, rfl, rfl⟩ := h.baseline baseline hbaseline
  have hcheckpoint := h.checkpoint
  simp only [hstored, Option.map_some, Option.some.injEq] at hcheckpoint
  simp only [baselineFromObservation] at hlater
  rcases hnewer with hlt | heq
  · simp only [checkpointOf] at hlt
    omega
  · rw [heq] at hcheckpoint
    simp only [checkpointOf] at hcheckpoint
    omega

/-- Every record of an up-to-date interface follows its last reading. -/
theorem UpToDate.recorded {observation : CounterObservation} {s : PollerState}
    {last : Option CounterObservation}
    (h : UpToDate observation.routerId observation.interfaceId s last)
    {outcome : CounterPersistenceOutcome} {marker : Option String} {db' : TrafficDb}
    (hrecorded : Recorded observation s outcome marker db') :
    Follows observation s.db last outcome db' := by
  have hput : ∀ (db : TrafficDb) (marker : Option String),
      ((db.putCheckpoint (checkpointOf observation marker)).checkpointFor observation.routerId
        observation.interfaceId).map (fun c => c.observedAtMs) =
          some observation.observedAtMs := by
    intro db marker
    have hself := TrafficDb.checkpointFor_putCheckpoint_self db (checkpointOf observation marker)
    simp only [checkpointOf] at hself ⊢
    rw [hself]
    rfl
  have hcheckpoint := h.checkpoint
  cases hrecorded with
  | initialized _ habsent =>
      rw [habsent] at hcheckpoint
      refine ⟨?_, hput _ _, Or.inl ⟨by decide, rfl, rfl⟩⟩
      intro previous hlast
      rw [hlast] at hcheckpoint
      cases hcheckpoint
  | reobserved _ hstored =>
      rw [hstored] at hcheckpoint
      refine ⟨?_, by rw [hstored]; rfl, Or.inl ⟨by decide, rfl, rfl⟩⟩
      intro previous hlast
      rw [hlast] at hcheckpoint
      exact le_of_eq (Option.some.inj hcheckpoint).symm
  | restartGap existing _ hexisting hcommit =>
      rw [hexisting] at hcheckpoint
      have hincreasing : existing.observedAtMs < observation.observedAtMs := hcommit.increasing
      rw [hcommit.result]
      refine ⟨?_, hput _ _, Or.inl ⟨by decide, rfl, rfl⟩⟩
      intro previous hlast
      rw [hlast] at hcheckpoint
      have hsame : existing.observedAtMs = previous.observedAtMs := Option.some.inj hcheckpoint
      omega
  | sample baseline deltas hbaseline hclass hcommit =>
      obtain ⟨previous, marker, hlast, rfl⟩ := h.baseline baseline hbaseline
      have hincreasing : previous.observedAtMs < observation.observedAtMs :=
        hcommit.valid.increasing
      refine ⟨?_, by rw [hcommit.result]; exact hput _ _,
        Or.inr ⟨previous, marker, deltas, _, hlast, rfl, hclass, hcommit⟩⟩
      intro last' hlast'
      rw [hlast, Option.some.injEq] at hlast'
      subst hlast'
      exact le_of_lt hincreasing
  | gap baseline hbaseline _ hcommit =>
      obtain ⟨previous, _, hlast, rfl⟩ := h.baseline baseline hbaseline
      have hincreasing : previous.observedAtMs < observation.observedAtMs := hcommit.increasing
      rw [hcommit.result]
      refine ⟨?_, hput _ _, Or.inl ⟨by decide, rfl, rfl⟩⟩
      intro last' hlast'
      rw [hlast, Option.some.injEq] at hlast'
      subst hlast'
      exact le_of_lt hincreasing
  | repeatedSample baseline deltas hbaseline _ hlater hcommit =>
      obtain ⟨stored, hstored, hnewer⟩ := hcommit.checkpoint
      exact (h.not_repeated hbaseline hlater hstored hnewer).elim
  | repeatedGap baseline hbaseline _ hlater hcommit =>
      obtain ⟨stored, hstored, hnewer⟩ := hcommit.checkpoint
      exact (h.not_repeated hbaseline hlater hstored hnewer).elim

theorem Follows.ended {observation : CounterObservation} {s : PollerState}
    {last : Option CounterObservation} {outcome : CounterPersistenceOutcome} {db' : TrafficDb}
    (hfollows : Follows observation s.db last outcome db')
    (h : UpToDate observation.routerId observation.interfaceId s last) :
    ∀ c ∈ db'.contributionsOn observation.routerId observation.interfaceId,
      c.endedAtMs ≤ observation.observedAtMs := by
  have hold : ∀ c ∈ s.db.contributionsOn observation.routerId observation.interfaceId,
      c.endedAtMs ≤ observation.observedAtMs := by
    intro c hc
    obtain ⟨previous, hlast, hle⟩ := h.ended c hc
    exact le_trans hle (hfollows.later previous hlast)
  rcases hfollows.adds with ⟨_, hsamples, hrollups⟩ | ⟨previous, marker, deltas, _, _, _, _, hnew⟩
  · simp only [TrafficDb.contributionsOn, TrafficDb.samplesOn, TrafficDb.rollupsOn, hsamples,
      hrollups]
    exact hold
  · have hon : (exactSample (baselineFromObservation previous marker) observation deltas).on
        observation.routerId observation.interfaceId = true := by
      simp [TrafficSampleInput.on, exactSample]
    rw [hnew.result]
    intro c hc
    rcases List.mem_cons.mp ((contributionsOn_insertSample _ hon).mem_iff.mp hc) with rfl | hc
    · exact le_refl _
    · exact hold c hc

theorem Follows.disjoint {observation : CounterObservation} {s : PollerState}
    {last : Option CounterObservation} {outcome : CounterPersistenceOutcome} {db' : TrafficDb}
    (hfollows : Follows observation s.db last outcome db')
    (h : UpToDate observation.routerId observation.interfaceId s last) :
    db'.DisjointOn observation.routerId observation.interfaceId := by
  rcases hfollows.adds with
    ⟨_, hsamples, hrollups⟩ | ⟨previous, marker, deltas, _, hlast, _, _, hnew⟩
  · simp only [TrafficDb.DisjointOn, TrafficDb.contributionsOn, TrafficDb.samplesOn,
      TrafficDb.rollupsOn, hsamples, hrollups]
    exact h.disjoint
  · rw [hnew.result]
    refine disjointOn_insertSample h.disjoint (by simp [TrafficSampleInput.on, exactSample]) ?_
    intro c hc
    obtain ⟨previous', hlast', hle⟩ := h.ended c hc
    rw [hlast, Option.some.injEq] at hlast'
    subst hlast'
    exact hle

/-- The interface after an acknowledged observation: as before, or up to date
with the observation. -/
theorem UpToDate.observe {observation : CounterObservation} {s s' : PollerState}
    {last : Option CounterObservation} {outcomes : StorageOutcomes}
    {result : DatabaseResult CounterPersistenceOutcome}
    (h : UpToDate observation.routerId observation.interfaceId s last)
    (hacknowledged : outcomes.Acknowledged) (htime : IsTimestamp observation.observedAtMs)
    (hpersist : persistCounterObservation outcomes observation s = (result, s')) :
    ((∃ e, result = .error e) ∧ s' = s) ∨
      ∃ outcome, result = .ok outcome ∧ Follows observation s.db last outcome s'.db ∧
        UpToDate observation.routerId observation.interfaceId s' (some observation) := by
  rcases persistCounterObservation_cases hpersist with
    hnone | ⟨outcome, marker, db', hrecorded, ⟨hok, hstate⟩ | ⟨hlost, _⟩⟩
  · exact Or.inl hnone
  · have hfollows := h.recorded hrecorded
    subst hstate
    refine Or.inr ⟨outcome, hok, hfollows, hfollows.checkpoint, ?_, ?_, hfollows.disjoint h, ?_⟩
    · intro baseline hbaseline
      simp only [advancedTo, Baselines.insert_self, Option.some.injEq] at hbaseline
      exact ⟨observation, marker, rfl, hbaseline.symm⟩
    · intro c hc
      exact ⟨observation, rfl, hfollows.ended h c hc⟩
    · intro previous hlast
      rw [← Option.some.inj hlast]
      exact htime
  · exact absurd hacknowledged hlost

/-- An interface that is left alone stays up to date. -/
theorem UpToDate.congr {routerId interfaceId : Int} {s s' : PollerState}
    {last : Option CounterObservation} (h : UpToDate routerId interfaceId s last)
    (hcheckpoint : s'.db.checkpointFor routerId interfaceId =
      s.db.checkpointFor routerId interfaceId)
    (hrows : s'.db.contributionsOn routerId interfaceId =
      s.db.contributionsOn routerId interfaceId)
    (hbaseline : ∀ baseline, s'.baselines interfaceId = some baseline →
      s.baselines interfaceId = some baseline) :
    UpToDate routerId interfaceId s' last where
  checkpoint := by
    rw [hcheckpoint]
    exact h.checkpoint
  baseline := fun baseline hsome => h.baseline baseline (hbaseline baseline hsome)
  ended := by
    rw [hrows]
    exact h.ended
  disjoint := by
    simp only [TrafficDb.DisjointOn, hrows]
    exact h.disjoint
  timestamp := h.timestamp

theorem UpToDate.rollup {beforeMs bucketSizeMs routerId interfaceId : Int} {s : PollerState}
    {last : Option CounterObservation} {consumed : List Consumed}
    {buckets : OrdMap BucketKey RollupBucket} {db' : TrafficDb}
    (h : UpToDate routerId interfaceId s last)
    (hrolled : RolledUp beforeMs bucketSizeMs s.db consumed buckets db')
    (htidy : s.db.Tidy bucketSizeMs) : UpToDate routerId interfaceId { s with db := db' } last where
  checkpoint := by
    simp only [TrafficDb.checkpointFor, hrolled.others.2.2]
    exact h.checkpoint
  baseline := h.baseline
  ended := by
    intro c hc
    cases hlast : last with
    | none =>
        -- nothing was stored, so nothing is
        have hnone : ∀ d ∈ s.db.contributionsOn routerId interfaceId,
            d.endedAtMs ≤ c.endedAtMs - 1 := by
          intro d hd
          obtain ⟨_, hsome, _⟩ := h.ended d hd
          rw [hlast] at hsome
          cases hsome
        have := hrolled.ended_le hnone c hc
        omega
    | some previous =>
        refine ⟨previous, rfl, hrolled.ended_le ?_ c hc⟩
        intro d hd
        obtain ⟨previous', hsome, hle⟩ := h.ended d hd
        rw [hlast, Option.some.injEq] at hsome
        rw [hsome]
        exact hle
  disjoint := (hrolled.keeps htidy).disjoint _ _ h.disjoint
  timestamp := h.timestamp

/-! ## What is counted -/

/-- Between two databases the interface counted the intervals inside the window,
and nothing straddles it. -/
structure Counts (routerId interfaceId : Int) (window : Int → Bool) (intervals : List Interval)
    (db db' : TrafficDb) : Prop where
  uncut : db'.Uncut routerId interfaceId window
  quantityIn : ∀ q, db'.quantityIn q routerId interfaceId window =
    db.quantityIn q routerId interfaceId window + (intervals.map (Interval.weight q window)).sum

theorem Counts.same {routerId interfaceId : Int} {window : Int → Bool} {db db' : TrafficDb}
    (huncut : db.Uncut routerId interfaceId window)
    (hsamples : db'.samplesOn routerId interfaceId = db.samplesOn routerId interfaceId)
    (hrollups : db'.rollupsOn routerId interfaceId = db.rollupsOn routerId interfaceId) :
    Counts routerId interfaceId window [] db db' where
  uncut := by
    simp only [TrafficDb.Uncut, TrafficDb.contributionsOn, hsamples, hrollups]
    exact huncut
  quantityIn := by
    intro q
    rw [quantityIn_eq, quantityIn_eq, hsamples, hrollups, List.map_nil, List.sum_nil, add_zero]

theorem Counts.trans {routerId interfaceId : Int} {window : Int → Bool}
    {first second : List Interval} {db db' db'' : TrafficDb}
    (h : Counts routerId interfaceId window first db db')
    (h' : Counts routerId interfaceId window second db' db'') :
    Counts routerId interfaceId window (first ++ second) db db'' where
  uncut := h'.uncut
  quantityIn := by
    intro q
    rw [h'.quantityIn, h.quantityIn, List.map_append, List.sum_append, add_assoc]

theorem Counts.rollup {beforeMs bucketSizeMs routerId interfaceId : Int} {window : Int → Bool}
    {db db' : TrafficDb} {consumed : List Consumed} {buckets : OrdMap BucketKey RollupBucket}
    (hrolled : RolledUp beforeMs bucketSizeMs db consumed buckets db')
    (htidy : db.Tidy bucketSizeMs) (hcoarse : Coarse bucketSizeMs window)
    (huncut : db.Uncut routerId interfaceId window) :
    Counts routerId interfaceId window [] db db' where
  uncut := hrolled.uncut htidy hcoarse huncut
  quantityIn := by
    intro q
    rw [hrolled.quantityIn_eq q hcoarse huncut.wholeIn, List.map_nil, List.sum_nil, add_zero]

/-- The exact sample between two readings holds what was counted between them. -/
theorem ofSample_exactSample {previous observation : CounterObservation} {marker : Option String}
    {deltas : ExactDeltas} {id : Int}
    (hclass : classifyInterval (baselineFromObservation previous marker) observation =
      .sample deltas)
    (hprevious : IsTimestamp previous.observedAtMs) (htime : IsTimestamp observation.observedAtMs)
    (q : Quantity) :
    q.ofSample { exactSample (baselineFromObservation previous marker) observation deltas with
      id := id } = (Interval.mk previous observation).quantity q := by
  obtain ⟨_, _, _, hdownload, hupload⟩ := classifyInterval_sample hclass
  cases q with
  | downloadBytes => exact hdownload
  | uploadBytes => exact hupload
  | durationMs => exact htime.satSub_eq hprevious

/-- A record counts the interval since the last reading, when it is exact. -/
theorem Follows.counts {observation : CounterObservation} {s : PollerState}
    {last : Option CounterObservation} {outcome : CounterPersistenceOutcome} {db' : TrafficDb}
    {window : Int → Bool} (hfollows : Follows observation s.db last outcome db')
    (h : UpToDate observation.routerId observation.interfaceId s last)
    (htime : IsTimestamp observation.observedAtMs)
    (huncut : s.db.Uncut observation.routerId observation.interfaceId window)
    (hwhole : ∀ interval ∈ exactIntervals last [⟨outcome, observation⟩],
      WholeOn window interval.span) :
    Counts observation.routerId observation.interfaceId window
      (exactIntervals last [⟨outcome, observation⟩]) s.db db' := by
  rcases hfollows.adds with
    ⟨hother, hsamples, hrollups⟩ | ⟨previous, marker, deltas, _, rfl, rfl, hclass, hnew⟩
  · have hnil : exactIntervals last [⟨outcome, observation⟩] = [] := by
      cases last <;> simp [exactIntervals, hother]
    rw [hnil]
    exact Counts.same huncut (by simp only [TrafficDb.samplesOn, hsamples])
      (by simp only [TrafficDb.rollupsOn, hrollups])
  · have hone : exactIntervals (some previous) [⟨.exactSample, observation⟩] =
        [⟨previous, observation⟩] := rfl
    rw [hone] at hwhole ⊢
    have hinterval := hwhole _ (List.mem_singleton.mpr rfl)
    have hon : (exactSample (baselineFromObservation previous marker) observation deltas).on
        observation.routerId observation.interfaceId = true := by
      simp [TrafficSampleInput.on, exactSample]
    rw [hnew.result]
    constructor
    · intro c hc
      rcases List.mem_cons.mp ((contributionsOn_insertSample _ hon).mem_iff.mp hc) with rfl | hc
      · exact hinterval
      · exact huncut c hc
    · intro q
      have hweight : (if window (exactSample (baselineFromObservation previous marker) observation
            deltas).startedAtMs then
          q.ofSample { exactSample (baselineFromObservation previous marker) observation deltas with
            id := s.db.trafficSamples.sequence + 1 }
          else 0) = Interval.weight q window ⟨previous, observation⟩ := by
        rw [ofSample_exactSample hclass (h.timestamp previous rfl) htime q]
        rfl
      rw [quantityIn_eq, quantityIn_eq, TrafficDb.samplesOn_putCheckpoint,
        TrafficDb.rollupsOn_putCheckpoint, TrafficDb.samplesOn_insertSample,
        TrafficDb.rollupsOn_insertSample, if_pos hon, List.map_append, List.sum_append]
      simp only [List.map_cons, List.map_nil, List.sum_cons, List.sum_nil, hweight]
      omega

/-! ## Histories -/

/-- The storage acknowledges what it does for the interface. -/
def HistoryEvent.AcknowledgedOn (interfaceId : Int) : HistoryEvent → Prop
  | .poll (.observe outcomes observation) =>
      observation.interfaceId = interfaceId → outcomes.Acknowledged
  | _ => True

/-- The event is a rollup batch. -/
def HistoryEvent.isRollup : HistoryEvent → Bool
  | .rollup _ _ => true
  | .poll _ => false

/-- A stretch of a history with the given readings: the interface stays up to
date, and counts what the readings count. -/
structure Stretch (routerId interfaceId : Int) (window : Int → Bool)
    (last : Option CounterObservation) (read : List Reading) (s s' : PollerState) : Prop where
  upToDate : UpToDate routerId interfaceId s' (lastReading last read)
  counts : Counts routerId interfaceId window (exactIntervals last read) s.db s'.db

section

variable {bucketSizeMs routerId interfaceId : Int} {window : Int → Bool}

theorem Stretch.quiet {s s' : PollerState} {last : Option CounterObservation}
    (h : UpToDate routerId interfaceId s last)
    (huncut : s.db.Uncut routerId interfaceId window)
    (hcheckpoint : s'.db.checkpointFor routerId interfaceId =
      s.db.checkpointFor routerId interfaceId)
    (hsamples : s'.db.samplesOn routerId interfaceId = s.db.samplesOn routerId interfaceId)
    (hrollups : s'.db.rollupsOn routerId interfaceId = s.db.rollupsOn routerId interfaceId)
    (hbaseline : ∀ baseline, s'.baselines interfaceId = some baseline →
      s.baselines interfaceId = some baseline) :
    Stretch routerId interfaceId window last [] s s' where
  upToDate := h.congr hcheckpoint
    (by simp only [TrafficDb.contributionsOn, hsamples, hrollups]) hbaseline
  counts := by
    have hnil : exactIntervals last [] = [] := by cases last <;> rfl
    rw [hnil]
    exact Counts.same huncut hsamples hrollups

variable (window) in
theorem Stretch.step {s : PollerState} {last : Option CounterObservation} {event : HistoryEvent}
    (hs : Stored bucketSizeMs s) (hsize : IsI64 bucketSizeMs)
    (h : UpToDate routerId interfaceId s last) (htimely : event.TimelyOn routerId interfaceId)
    (hacknowledged : event.AcknowledgedOn interfaceId)
    (hcoarse : event.isRollup = true → 0 < bucketSizeMs → Coarse bucketSizeMs window)
    (huncut : s.db.Uncut routerId interfaceId window)
    (hwhole : ∀ interval ∈ exactIntervals last (readingOf interfaceId s event).toList,
      WholeOn window interval.span) :
    Stretch routerId interfaceId window last (readingOf interfaceId s event).toList s
      (historyStep bucketSizeMs s event) := by
  cases event with
  | rollup beforeMs batchSize =>
      rcases hs.rollup_cases hsize beforeMs batchSize with
        hsame | ⟨consumed, buckets, db', hrolled, hstate⟩
      · rw [hsame]
        exact Stretch.quiet h huncut rfl rfl rfl (fun _ hsome => hsome)
      · rw [hstate]
        refine ⟨h.rollup hrolled hs.tidy, ?_⟩
        have hnil : exactIntervals last [] = [] := by cases last <;> rfl
        simp only [readingOf, Option.toList_none, hnil]
        exact Counts.rollup hrolled hs.tidy (hcoarse rfl hrolled.size_pos) huncut
  | poll event =>
      cases event with
      | dropBaselines keep =>
          refine Stretch.quiet h huncut rfl rfl rfl ?_
          intro baseline hsome
          simp only [historyStep, pollerStep, Baselines.retain] at hsome
          split at hsome
          · exact hsome
          · cases hsome
      | observe outcomes observation =>
          simp only [historyStep, pollerStep]
          cases hpersist : persistCounterObservation outcomes observation s with
          | mk result s' =>
              by_cases hinterface : observation.interfaceId = interfaceId
              · obtain rfl := htimely.2 hinterface
                subst hinterface
                simp only [readingOf, if_true, hpersist] at hwhole ⊢
                rcases h.observe (hacknowledged rfl) htimely.1 hpersist with
                  ⟨⟨e, he⟩, hsame⟩ | ⟨outcome, hok, hfollows, hupToDate⟩
                · subst he hsame
                  exact Stretch.quiet h huncut rfl rfl rfl (fun _ hsome => hsome)
                · subst hok
                  exact ⟨hupToDate, hfollows.counts h htimely.1 huncut hwhole⟩
              · simp only [readingOf, if_neg hinterface, Option.toList_none]
                rcases persistCounterObservation_cases hpersist with
                  ⟨_, hsame⟩ | ⟨outcome, marker, db', hrecorded, hseen⟩
                · rw [hsame]
                  exact Stretch.quiet h huncut rfl rfl rfl (fun _ hsome => hsome)
                · obtain ⟨hcheckpoint, hsamples, hrollups, _⟩ :=
                    hrecorded.other_interface routerId hinterface
                  rcases hseen with ⟨_, hstate⟩ | ⟨_, _, hstate⟩
                  · subst hstate
                    refine Stretch.quiet h huncut hcheckpoint hsamples hrollups ?_
                    intro baseline hsome
                    exact (Baselines.insert_ne _ _ (Ne.symm hinterface)).symm.trans hsome
                  · subst hstate
                    exact Stretch.quiet h huncut hcheckpoint hsamples hrollups
                      (fun _ hsome => hsome)

variable (window) in
/-- A history counts what its readings count. -/
theorem Stretch.runs {s : PollerState} {last : Option CounterObservation}
    {events : List HistoryEvent} (hs : Stored bucketSizeMs s) (hsize : IsI64 bucketSizeMs)
    (h : UpToDate routerId interfaceId s last)
    (htimely : ∀ e ∈ events, e.TimelyOn routerId interfaceId)
    (hacknowledged : ∀ e ∈ events, e.AcknowledgedOn interfaceId)
    (hcoarse : ∀ e ∈ events, e.isRollup = true → 0 < bucketSizeMs → Coarse bucketSizeMs window)
    (huncut : s.db.Uncut routerId interfaceId window)
    (hwhole : ∀ interval ∈ exactIntervals last (readings bucketSizeMs interfaceId s events),
      WholeOn window interval.span) :
    Stretch routerId interfaceId window last (readings bucketSizeMs interfaceId s events) s
      (run (historyStep bucketSizeMs) s events) := by
  induction events generalizing s last with
  | nil => exact Stretch.quiet h huncut rfl rfl rfl (fun _ hsome => hsome)
  | cons e rest ih =>
      have he := htimely e List.mem_cons_self
      simp only [readings, emitted] at hwhole ⊢
      rw [exactIntervals_append] at hwhole
      have hstep := Stretch.step window hs hsize h he (hacknowledged e List.mem_cons_self)
        (hcoarse e List.mem_cons_self) huncut
        (fun interval hmem => hwhole interval (List.mem_append_left _ hmem))
      have hrest := ih (hs.step hsize he) hstep.upToDate
        (fun x hx => htimely x (List.mem_cons_of_mem _ hx))
        (fun x hx => hacknowledged x (List.mem_cons_of_mem _ hx))
        (fun x hx => hcoarse x (List.mem_cons_of_mem _ hx)) hstep.counts.uncut
        (fun interval hmem => hwhole interval (List.mem_append_right _ hmem))
      refine ⟨?_, ?_⟩
      · rw [lastReading_append]
        exact hrest.upToDate
      · rw [exactIntervals_append]
        exact hstep.counts.trans hrest.counts

end

end RouterView.Poller
