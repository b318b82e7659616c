/-
  Poller/Tiling.lean --- the history of an interface has no hole.

  Over any run of observations in which every storage call that takes effect is
  acknowledged, the exact samples and the gaps of an interface tile the time
  from the first stored checkpoint to the current one.  The invariant also ties
  the in-memory baseline to the stored checkpoint: that is what makes the next
  record start where the previous one ended.
-/
import RouterView.Foundation.Run
import RouterView.Db.Interfaces
import RouterView.Poller.EngineSpec

set_option autoImplicit false

namespace RouterView.Poller

open RouterView.Foundation
open RouterView.Db

/-! ## Runs -/

/-- What happens to the poller: an observation under storage outcomes, or the
loss of the baselines that `keep` does not hold (a restart, a router switch, an
interface that left). -/
inductive PollerEvent where
  | observe (outcomes : StorageOutcomes) (observation : CounterObservation)
  | dropBaselines (keep : Int → Bool)

/-- One event. -/
def pollerStep (s : PollerState) : PollerEvent → PollerState
  | .observe outcomes observation => (persistCounterObservation outcomes observation s).2
  | .dropBaselines keep => { s with baselines := s.baselines.retain keep }

/-- The event is acknowledged, and an observation of the interface is one of
the router that owns it. -/
def PollerEvent.AcknowledgedOn (routerId interfaceId : Int) : PollerEvent → Prop
  | .observe outcomes observation =>
      outcomes.Acknowledged ∧
        (observation.interfaceId = interfaceId → observation.routerId = routerId)
  | .dropBaselines _ => True

/-! ## Records of an interface -/

/-- The spans of the exact samples and of the gaps of an interface. -/
def recordSpans (db : TrafficDb) (routerId interfaceId : Int) : List (Span Int) :=
  ((db.samplesOn routerId interfaceId).filter (fun s => decide (s.quality = .exact))).map
      (fun s => s.span) ++
    (db.gapsOn routerId interfaceId).map (fun g => g.span)

@[simp] theorem recordSpans_putCheckpoint (db : TrafficDb) (c : CounterCheckpoint)
    (routerId interfaceId : Int) :
    recordSpans (db.putCheckpoint c) routerId interfaceId =
      recordSpans db routerId interfaceId := rfl

theorem recordSpans_insertSample {db : TrafficDb} {s : TrafficSampleInput}
    {routerId interfaceId : Int} (hon : s.on routerId interfaceId = true)
    (hquality : s.quality = .exact) :
    (recordSpans (db.insertSample s) routerId interfaceId).Perm
      (recordSpans db routerId interfaceId ++ [s.span]) := by
  unfold recordSpans
  rw [TrafficDb.samplesOn_insertSample, TrafficDb.gapsOn_insertSample, if_pos hon,
    List.filter_append, List.map_append, List.append_assoc, List.append_assoc]
  have hkept : List.filter (fun x : TrafficSample => decide (x.quality = .exact))
      [{ s with id := db.trafficSamples.sequence + 1 }] =
      [{ s with id := db.trafficSamples.sequence + 1 }] := by
    simp [hquality]
  rw [hkept]
  exact List.Perm.append_left _ List.perm_append_comm

theorem recordSpans_insertGap {db : TrafficDb} {g : TrafficGapInput}
    {routerId interfaceId : Int} (hon : g.on routerId interfaceId = true) :
    recordSpans (db.insertGap g) routerId interfaceId =
      recordSpans db routerId interfaceId ++ [g.span] := by
  unfold recordSpans
  rw [TrafficDb.samplesOn_insertGap, TrafficDb.gapsOn_insertGap, if_pos hon,
    List.map_append, List.append_assoc]
  rfl

/-- An observation of another interface leaves the interface alone. -/
theorem Recorded.other_interface {observation : CounterObservation} {s : PollerState}
    {outcome : CounterPersistenceOutcome} {marker : Option String} {db' : TrafficDb}
    (h : Recorded observation s outcome marker db') (routerId : Int) {interfaceId : Int}
    (hne : observation.interfaceId ≠ interfaceId) :
    db'.checkpointFor routerId interfaceId = s.db.checkpointFor routerId interfaceId ∧
      db'.samplesOn routerId interfaceId = s.db.samplesOn routerId interfaceId ∧
      db'.rollupsOn routerId interfaceId = s.db.rollupsOn routerId interfaceId ∧
      db'.gapsOn routerId interfaceId = s.db.gapsOn routerId interfaceId := by
  have hkey : ∀ m, ¬ ((checkpointOf observation m).routerId = routerId ∧
      (checkpointOf observation m).interfaceId = interfaceId) := by
    rintro m ⟨_, hi⟩
    exact hne hi
  have hsample : ∀ smp : TrafficSampleInput, smp.interfaceId = observation.interfaceId →
      smp.on routerId interfaceId = false := by
    intro smp hsmp
    simp [TrafficSampleInput.on, hsmp, hne]
  have hgap : ∀ g : TrafficGapInput, g.interfaceId = some observation.interfaceId →
      g.on routerId interfaceId = false := by
    intro g hg
    simp [TrafficGapInput.on, hg, hne]
  cases h with
  | initialized => exact ⟨TrafficDb.checkpointFor_putCheckpoint_ne _ _ (hkey _), rfl, rfl, rfl⟩
  | reobserved => exact ⟨rfl, rfl, rfl, rfl⟩
  | restartGap existing _ _ hcommit =>
      rw [hcommit.result]
      refine ⟨TrafficDb.checkpointFor_putCheckpoint_ne _ _ (hkey _), rfl, rfl, ?_⟩
      simp [TrafficDb.gapsOn_insertGap, hgap _ hcommit.interfaceId]
  | sample previous deltas _ _ hcommit =>
      rw [hcommit.result]
      refine ⟨TrafficDb.checkpointFor_putCheckpoint_ne _ _ (hkey _), ?_, rfl, rfl⟩
      simp [TrafficDb.samplesOn_insertSample, hsample _ hcommit.interfaceId]
  | repeatedSample => exact ⟨rfl, rfl, rfl, rfl⟩
  | gap previous _ _ hcommit =>
      rw [hcommit.result]
      refine ⟨TrafficDb.checkpointFor_putCheckpoint_ne _ _ (hkey _), rfl, rfl, ?_⟩
      simp [TrafficDb.gapsOn_insertGap, hgap _ hcommit.interfaceId]
  | repeatedGap => exact ⟨rfl, rfl, rfl, rfl⟩

/-! ## The invariant -/

/-- The baseline holds the time and the counters of the stored checkpoint. -/
def CounterBaseline.Agrees (baseline : CounterBaseline) (current : CounterCheckpoint) : Prop :=
  baseline.observedAtMs = current.observedAtMs ∧
    toString baseline.rxCounter = current.rxCounter ∧
    toString baseline.txCounter = current.txCounter

/-- The interface has no checkpoint, no record and no baseline. -/
structure Unobserved (routerId interfaceId : Int) (s : PollerState) : Prop where
  checkpoint : s.db.checkpointFor routerId interfaceId = none
  records : recordSpans s.db routerId interfaceId = []
  baseline : s.baselines interfaceId = none

/-- The records of the interface tile the time from `first` to the current
checkpoint, with which the baseline agrees. -/
structure Tiled (routerId interfaceId : Int) (first : CounterCheckpoint) (s : PollerState)
    (current : CounterCheckpoint) (history : List (Span Int)) : Prop where
  checkpoint : s.db.checkpointFor routerId interfaceId = some current
  records : history.Perm (recordSpans s.db routerId interfaceId)
  tiles : Span.Tiles first.observedAtMs history current.observedAtMs
  baseline : ∀ baseline, s.baselines interfaceId = some baseline → baseline.Agrees current

/-- The history of the interface after a run whose first stored checkpoint is
`first`. -/
def HistoryOf (routerId interfaceId : Int) (s : PollerState) :
    Option CounterCheckpoint → Prop
  | none => Unobserved routerId interfaceId s
  | some first => ∃ current history, Tiled routerId interfaceId first s current history

/-- Recording a new interval `[current, observed)` prolongs the tiling. -/
theorem Tiled.prolong {routerId interfaceId : Int} {first current : CounterCheckpoint}
    {s : PollerState} {history : List (Span Int)}
    (h : Tiled routerId interfaceId first s current history)
    {observation : CounterObservation} {marker : Option String} {db' : TrafficDb}
    (hinterface : observation.interfaceId = interfaceId)
    (hlater : current.observedAtMs < observation.observedAtMs)
    (hcheckpoint : db'.checkpointFor routerId interfaceId =
      some (checkpointOf observation marker))
    (hrecords : (recordSpans db' routerId interfaceId).Perm
      (recordSpans s.db routerId interfaceId ++
        [⟨current.observedAtMs, observation.observedAtMs⟩])) :
    Tiled routerId interfaceId first (advancedTo observation marker db' s)
      (checkpointOf observation marker)
      (history ++ [⟨current.observedAtMs, observation.observedAtMs⟩]) where
  checkpoint := hcheckpoint
  records := (h.records.append_right _).trans hrecords.symm
  tiles := h.tiles.snoc hlater
  baseline := by
    intro baseline hbaseline
    subst hinterface
    simp only [advancedTo, Baselines.insert_self, Option.some.injEq] at hbaseline
    subst hbaseline
    exact ⟨rfl, rfl, rfl⟩

/-- An observation whose checkpoint is already current only renews the baseline. -/
theorem Tiled.renew {routerId interfaceId : Int} {first current : CounterCheckpoint}
    {s : PollerState} {history : List (Span Int)}
    (h : Tiled routerId interfaceId first s current history)
    {observation : CounterObservation} {marker : Option String}
    (hinterface : observation.interfaceId = interfaceId)
    (hsame : current = checkpointOf observation marker) :
    Tiled routerId interfaceId first (advancedTo observation marker s.db s) current history where
  checkpoint := h.checkpoint
  records := h.records
  tiles := h.tiles
  baseline := by
    intro baseline hbaseline
    subst hinterface hsame
    simp only [advancedTo, Baselines.insert_self, Option.some.injEq] at hbaseline
    subst hbaseline
    exact ⟨rfl, rfl, rfl⟩

/-- A baseline of a tiled history is as new as the stored checkpoint. -/
theorem Tiled.not_newer_than_baseline {routerId interfaceId : Int}
    {first current : CounterCheckpoint} {s : PollerState} {history : List (Span Int)}
    (h : Tiled routerId interfaceId first s current history) {previous : CounterBaseline}
    (hbaseline : s.baselines interfaceId = some previous)
    {submitted stored : CounterCheckpoint}
    (hstored : s.db.checkpointFor routerId interfaceId = some stored)
    (hnewer : submitted.observedAtMs < stored.observedAtMs ∨ stored = submitted) :
    ¬ previous.observedAtMs < submitted.observedAtMs := by
  have hsame := Option.some.inj (h.checkpoint.symm.trans hstored)
  have hagrees := h.baseline previous hbaseline
  rw [hagrees.1, hsame]
  rcases hnewer with hlt | heq
  · exact not_lt.mpr (le_of_lt hlt)
  · rw [heq]
    exact lt_irrefl _

/-- The first checkpoint starts an empty history. -/
theorem Unobserved.start {observation : CounterObservation} {s : PollerState}
    (h : Unobserved observation.routerId observation.interfaceId s) :
    Tiled observation.routerId observation.interfaceId
      (checkpointOf observation (currentMarker observation))
      (advancedTo observation (currentMarker observation)
        (s.db.putCheckpoint (checkpointOf observation (currentMarker observation))) s)
      (checkpointOf observation (currentMarker observation)) [] where
  checkpoint := TrafficDb.checkpointFor_putCheckpoint_self _ _
  records := by
    simp only [advancedTo, recordSpans_putCheckpoint, h.records]
    exact List.Perm.refl _
  tiles := rfl
  baseline := by
    intro baseline hbaseline
    simp only [advancedTo, Baselines.insert_self, Option.some.injEq] at hbaseline
    subst hbaseline
    exact ⟨rfl, rfl, rfl⟩

/-- An acknowledged record of an observation of the interface keeps its history. -/
theorem Recorded.tiled {observation : CounterObservation} {s : PollerState}
    {outcome : CounterPersistenceOutcome} {marker : Option String} {db' : TrafficDb}
    (h : Recorded observation s outcome marker db') {first current : CounterCheckpoint}
    {history : List (Span Int)}
    (htiled : Tiled observation.routerId observation.interfaceId first s current history) :
    ∃ current' history', Tiled observation.routerId observation.interfaceId first
      (advancedTo observation marker db' s) current' history' := by
  cases h with
  | initialized _ habsent =>
      rw [htiled.checkpoint] at habsent
      cases habsent
  | reobserved _ hcheckpoint =>
      have hsame := Option.some.inj (htiled.checkpoint.symm.trans hcheckpoint)
      exact ⟨current, history, htiled.renew rfl hsame⟩
  | restartGap existing _ hexisting hcommit =>
      have hsame := Option.some.inj (htiled.checkpoint.symm.trans hexisting)
      subst hsame
      rw [hcommit.result]
      refine ⟨_, _, htiled.prolong rfl hcommit.increasing
        (TrafficDb.checkpointFor_putCheckpoint_self _ _) ?_⟩
      rw [recordSpans_putCheckpoint, recordSpans_insertGap (by simp [TrafficGapInput.on, Poller.restartGap])]
      exact List.Perm.refl _
  | sample previous deltas hbaseline _ hcommit =>
      have hagrees := htiled.baseline previous hbaseline
      have hlater : current.observedAtMs < observation.observedAtMs := by
        rw [← hagrees.1]
        exact hcommit.valid.increasing
      rw [hcommit.result]
      refine ⟨_, _, htiled.prolong rfl hlater
        (TrafficDb.checkpointFor_putCheckpoint_self _ _) ?_⟩
      rw [recordSpans_putCheckpoint, ← hagrees.1]
      exact recordSpans_insertSample (by simp [TrafficSampleInput.on, exactSample]) rfl
  | gap previous hbaseline _ hcommit =>
      have hagrees := htiled.baseline previous hbaseline
      have hlater : current.observedAtMs < observation.observedAtMs := by
        rw [← hagrees.1]
        exact hcommit.increasing
      rw [hcommit.result]
      refine ⟨_, _, htiled.prolong rfl hlater
        (TrafficDb.checkpointFor_putCheckpoint_self _ _) ?_⟩
      rw [recordSpans_putCheckpoint, recordSpans_insertGap (by simp [TrafficGapInput.on, intervalGap]),
        ← hagrees.1]
      exact List.Perm.refl _
  | repeatedSample previous deltas hbaseline _ hlater hcommit =>
      -- the stored checkpoint would have to be newer than the observation
      obtain ⟨stored, hstored, hnewer⟩ := hcommit.checkpoint
      exact absurd hlater (htiled.not_newer_than_baseline hbaseline hstored hnewer)
  | repeatedGap previous hbaseline _ hlater hcommit =>
      obtain ⟨stored, hstored, hnewer⟩ := hcommit.checkpoint
      exact absurd hlater (htiled.not_newer_than_baseline hbaseline hstored hnewer)

/-! ## One event -/

/-- Losing baselines leaves the history as it is. -/
theorem HistoryOf.dropBaselines {routerId interfaceId : Int} {s : PollerState}
    {first : Option CounterCheckpoint} (h : HistoryOf routerId interfaceId s first)
    (keep : Int → Bool) :
    HistoryOf routerId interfaceId { s with baselines := s.baselines.retain keep } first := by
  cases first with
  | none =>
      obtain ⟨hcheckpoint, hrecords, hbaseline⟩ := h
      exact ⟨hcheckpoint, hrecords, by simp [Baselines.retain, hbaseline]⟩
  | some first =>
      obtain ⟨current, history, htiled⟩ := h
      refine ⟨current, history, htiled.checkpoint, htiled.records, htiled.tiles, ?_⟩
      intro baseline hbaseline
      simp only [Baselines.retain] at hbaseline
      split at hbaseline
      · exact htiled.baseline baseline hbaseline
      · cases hbaseline

/-- A change that leaves the interface's rows, checkpoint and baseline alone
leaves its history alone. -/
theorem HistoryOf.congr {routerId interfaceId : Int} {s s' : PollerState}
    {first : Option CounterCheckpoint} (h : HistoryOf routerId interfaceId s first)
    (hcheckpoint : s'.db.checkpointFor routerId interfaceId =
      s.db.checkpointFor routerId interfaceId)
    (hrecords : recordSpans s'.db routerId interfaceId =
      recordSpans s.db routerId interfaceId)
    (hbaseline : s'.baselines interfaceId = s.baselines interfaceId) :
    HistoryOf routerId interfaceId s' first := by
  cases first with
  | none =>
      exact ⟨hcheckpoint.trans h.checkpoint, hrecords.trans h.records, hbaseline.trans h.baseline⟩
  | some first =>
      obtain ⟨current, history, htiled⟩ := h
      refine ⟨current, history, hcheckpoint.trans htiled.checkpoint, ?_, htiled.tiles, ?_⟩
      · rw [hrecords]
        exact htiled.records
      · intro baseline hb
        exact htiled.baseline baseline (hbaseline.symm.trans hb)

/-- The first checkpoint seen once this state follows a history from `first`. -/
def firstAfter (routerId interfaceId : Int) (first : Option CounterCheckpoint)
    (s : PollerState) : Option CounterCheckpoint :=
  first.or (s.db.checkpointFor routerId interfaceId)

theorem HistoryOf.observe {routerId interfaceId : Int} {s s' : PollerState}
    {first : Option CounterCheckpoint} (h : HistoryOf routerId interfaceId s first)
    {outcomes : StorageOutcomes} {observation : CounterObservation}
    (hacknowledged : outcomes.Acknowledged)
    (hrouter : observation.interfaceId = interfaceId → observation.routerId = routerId)
    {r : DatabaseResult CounterPersistenceOutcome}
    (hstep : persistCounterObservation outcomes observation s = (r, s')) :
    HistoryOf routerId interfaceId s' (firstAfter routerId interfaceId first s') := by
  have hunchanged : HistoryOf routerId interfaceId s (firstAfter routerId interfaceId first s) := by
    cases first with
    | none => simpa only [firstAfter, Option.none_or, h.checkpoint] using h
    | some first => exact h
  rcases persistCounterObservation_cases hstep with
    ⟨_, hs'⟩ | ⟨outcome, marker, db', hrecorded, ⟨_, hs'⟩ | ⟨hlost, _⟩⟩
  · rw [hs']
    exact hunchanged
  · subst hs'
    by_cases hinterface : observation.interfaceId = interfaceId
    · obtain rfl := hrouter hinterface
      subst hinterface
      cases first with
      | some first =>
          obtain ⟨current, history, htiled⟩ := h
          exact hrecorded.tiled htiled
      | none =>
          -- without a checkpoint or a baseline only the first record is possible
          cases hrecorded with
          | initialized =>
              have hstart := Unobserved.start h
              simp only [firstAfter, hstart.checkpoint, Option.none_or]
              exact ⟨_, _, hstart⟩
          | reobserved _ hcheckpoint => exact absurd (h.checkpoint.symm.trans hcheckpoint) (by simp)
          | restartGap existing _ hcheckpoint =>
              exact absurd (h.checkpoint.symm.trans hcheckpoint) (by simp)
          | sample previous deltas hbaseline =>
              exact absurd (h.baseline.symm.trans hbaseline) (by simp)
          | repeatedSample previous deltas hbaseline =>
              exact absurd (h.baseline.symm.trans hbaseline) (by simp)
          | gap previous hbaseline => exact absurd (h.baseline.symm.trans hbaseline) (by simp)
          | repeatedGap previous hbaseline =>
              exact absurd (h.baseline.symm.trans hbaseline) (by simp)
    · obtain ⟨hcheckpoint, hsamples, _, hgaps⟩ :=
        hrecorded.other_interface routerId hinterface
      have hfirst : firstAfter routerId interfaceId first (advancedTo observation marker db' s) =
          firstAfter routerId interfaceId first s := by
        simp only [firstAfter, advancedTo, hcheckpoint]
      rw [hfirst]
      refine hunchanged.congr hcheckpoint ?_ ?_
      · simp only [recordSpans, advancedTo, hsamples, hgaps]
      · exact Baselines.insert_ne _ _ (Ne.symm hinterface)
  · exact absurd hacknowledged hlost

theorem HistoryOf.step {routerId interfaceId : Int} {s : PollerState}
    {first : Option CounterCheckpoint} (h : HistoryOf routerId interfaceId s first)
    {event : PollerEvent} (hevent : event.AcknowledgedOn routerId interfaceId) :
    HistoryOf routerId interfaceId (pollerStep s event)
      (firstAfter routerId interfaceId first (pollerStep s event)) := by
  cases event with
  | observe outcomes observation => exact h.observe hevent.1 hevent.2 rfl
  | dropBaselines keep =>
      have hdrop := h.dropBaselines keep
      cases first with
      | none => simpa only [firstAfter, Option.none_or, pollerStep, hdrop.checkpoint] using hdrop
      | some first => exact hdrop

/-! ## Runs -/

/-- The first checkpoint ever stored for the interface along a run. -/
def firstCheckpoint (routerId interfaceId : Int) (s : PollerState)
    (events : List PollerEvent) : Option CounterCheckpoint :=
  firstSeen pollerStep (fun s => s.db.checkpointFor routerId interfaceId) s events

theorem HistoryOf.run {routerId interfaceId : Int} {s : PollerState}
    {first : Option CounterCheckpoint} (h : HistoryOf routerId interfaceId s first)
    {events : List PollerEvent}
    (hevents : ∀ e ∈ events, e.AcknowledgedOn routerId interfaceId) :
    HistoryOf routerId interfaceId (run pollerStep s events)
      (first.or (firstCheckpoint routerId interfaceId s events)) := by
  induction events generalizing s first with
  | nil =>
      cases first with
      | none => simpa only [run_nil, firstCheckpoint, firstSeen, Option.none_or, h.checkpoint] using h
      | some first => exact h
  | cons e rest ih =>
      have hstep := h.step (hevents e List.mem_cons_self)
      have hrest := ih hstep (fun x hx => hevents x (List.mem_cons_of_mem _ hx))
      cases first with
      | some first => exact hrest
      | none =>
          have hlook : firstCheckpoint routerId interfaceId s (e :: rest) =
              firstCheckpoint routerId interfaceId (pollerStep s e) rest := by
            simp only [firstCheckpoint, firstSeen, h.checkpoint]
          rw [run_cons, Option.none_or, hlook]
          have hor : ∀ events,
              (firstAfter routerId interfaceId none (pollerStep s e)).or
                  (firstCheckpoint routerId interfaceId (pollerStep s e) events) =
                firstCheckpoint routerId interfaceId (pollerStep s e) events := by
            intro events
            cases hfound : (pollerStep s e).db.checkpointFor routerId interfaceId with
            | none => simp [firstAfter, hfound]
            | some c => cases events <;> simp [firstAfter, firstCheckpoint, firstSeen, hfound]
          rw [hor] at hrest
          exact hrest

/-- The records of an interface form a chain from the first checkpoint ever
stored to the current one, no two of them overlap, and the baseline, when there
is one, holds the time and the counters of the current checkpoint. -/
def ChainedHistory (routerId interfaceId : Int) (first : CounterCheckpoint)
    (s : PollerState) : Prop :=
  ∃ current history,
    s.db.checkpointFor routerId interfaceId = some current ∧
    history.Perm (recordSpans s.db routerId interfaceId) ∧
    Span.Tiles first.observedAtMs history current.observedAtMs ∧
    (recordSpans s.db routerId interfaceId).Pairwise Span.Apart ∧
    ∀ baseline, s.baselines interfaceId = some baseline → baseline.Agrees current

/-- Over every run of acknowledged observations the history of the interface is
a chain; before its first checkpoint it has no record and no baseline. -/
theorem history_tiles (routerId interfaceId : Int) (s : PollerState)
    (events : List PollerEvent) (hfresh : Unobserved routerId interfaceId s)
    (hevents : ∀ e ∈ events, e.AcknowledgedOn routerId interfaceId) :
    match firstCheckpoint routerId interfaceId s events with
    | none => Unobserved routerId interfaceId (run pollerStep s events)
    | some first => ChainedHistory routerId interfaceId first (run pollerStep s events) := by
  have hhistory : HistoryOf routerId interfaceId s none := hfresh
  have hrun := hhistory.run hevents
  rw [Option.none_or] at hrun
  cases hfirst : firstCheckpoint routerId interfaceId s events with
  | none =>
      rw [hfirst] at hrun
      exact hrun
  | some first =>
      rw [hfirst] at hrun
      obtain ⟨current, history, htiled⟩ := hrun
      exact ⟨current, history, htiled.checkpoint, htiled.records, htiled.tiles,
        (htiled.records.pairwise_iff Span.Apart.symm).mp htiled.tiles.pairwise_apart,
        htiled.baseline⟩

/-- An observation of interface `interfaceId` of router `1`, `seconds` after the
router's start, with both clocks in agreement. -/
def observationAt (interfaceId : Int) (seconds : Nat) (rxCounter txCounter : UInt64) :
    CounterObservation where
  routerId := 1
  interfaceId := interfaceId
  rxCounter := rxCounter
  txCounter := txCounter
  observedAtMs := 1000 * seconds
  monotonic := 1000000000 * seconds
  uptimeSeconds := some (UInt64.ofNat seconds)
  memberSignature := none
  forcedGap := none

/-- A failed first write, a sample, a restart and the gap after it. -/
def restartedRun : List PollerEvent :=
  [.observe ⟨.failed, false, .committed⟩ (observationAt 1 10 500 70),
    .observe .allCommitted (observationAt 1 20 600 80),
    .observe .allCommitted (observationAt 1 80 900 95),
    .dropBaselines (fun _ => false),
    .observe .allCommitted (observationAt 1 140 40 5)]

theorem history_tiles_restartedRun :
    ChainedHistory 1 1 ⟨1, 1, "600", "80", 20000, some "boot-epoch:0"⟩
      (run pollerStep ⟨TrafficDb.withInterface, Baselines.empty⟩ restartedRun) := by
  have hevents : ∀ e ∈ restartedRun, e.AcknowledgedOn 1 1 := by
    simp [restartedRun, PollerEvent.AcknowledgedOn, StorageOutcomes.Acknowledged,
      StorageOutcomes.allCommitted, observationAt]
  have hfirst : firstCheckpoint 1 1 ⟨TrafficDb.withInterface, Baselines.empty⟩ restartedRun =
      some ⟨1, 1, "600", "80", 20000, some "boot-epoch:0"⟩ := by decide
  have hhistory := history_tiles 1 1 ⟨TrafficDb.withInterface, Baselines.empty⟩ restartedRun
    ⟨by decide, by decide, rfl⟩ hevents
  simp only [hfirst] at hhistory
  exact hhistory

end RouterView.Poller
