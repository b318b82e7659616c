/-
  Poller/ProbesSpec.lean --- what the latency probes report.

  The results that are shown answer one list of targets that passed the check, one
  result for each target in its order, whatever answers first and however often the
  targets are replaced meanwhile; never more than a few targets are pinged at a time.
  The assessments that are kept are the newest ones, and the last of them is that of
  the results that are shown.
-/
import RouterView.Poller.PollTick
import RouterView.Poller.Probes

set_option autoImplicit false

namespace RouterView.Poller

open RouterView.Api (Listed ProbeServer ProbeTarget maxProbeTargets runtimeProbeTargets)
open RouterView.Foundation
open RouterView.Ws (IspStability LatencyProbe)

/-! ## The assessment of a batch -/

theorem reachable_le (results : List LatencyProbe) : reachable results ≤ results.length :=
  List.countP_le_length

/-- A batch is assessed as down when most of its targets gave no latency. -/
theorem classifyProbeQuality_down_iff (results : List LatencyProbe) :
    classifyProbeQuality results = .down ↔
      results.length < 2 * (results.length - reachable results) := by
  have hle := reachable_le results
  unfold classifyProbeQuality
  simp only
  split
  · rename_i hempty
    refine ⟨fun h => (nomatch h), fun h => ?_⟩
    omega
  · split
    · rename_i hsome hdown
      refine ⟨fun _ => ?_, fun _ => rfl⟩
      omega
    · rename_i hsome hup
      refine ⟨fun h => ?_, fun h => ?_⟩
      · split at h <;> cases h
      · omega

/-! ## The window of assessments -/

theorem maxEntries_bounds (config : CheckedConfig) :
    10 ≤ maxEntries config ∧ maxEntries config ≤ 120 := by
  unfold maxEntries
  omega

/-- The assessments that are kept are the newest, between ten and a hundred and twenty if
there were as many. -/
structure Windowed (assessed kept : List ProbeQuality) : Prop where
  newest : kept <:+ assessed
  bounded : kept.length ≤ 120
  enough : min 10 assessed.length ≤ kept.length

theorem Windowed.push {assessed kept : List ProbeQuality} (h : Windowed assessed kept)
    (quality : ProbeQuality) {entries : Nat} (hentries : 10 ≤ entries ∧ entries ≤ 120) :
    Windowed (assessed ++ [quality])
      ((kept ++ [quality]).drop ((kept ++ [quality]).length - entries)) := by
  obtain ⟨older, rfl⟩ := h.newest
  have henough := h.enough
  rw [List.length_append] at henough
  refine ⟨?_, ?_, ?_⟩
  · rw [List.append_assoc]
    exact (List.drop_suffix _ _).trans (List.suffix_append older _)
  · rw [List.length_drop]
    omega
  · rw [List.length_drop, List.length_append, List.length_append, List.length_append,
      List.length_singleton]
    omega

theorem getLast?_window (kept : List ProbeQuality) (quality : ProbeQuality) {entries : Nat}
    (hentries : 10 ≤ entries) :
    ((kept ++ [quality]).drop ((kept ++ [quality]).length - entries)).getLast? = some quality := by
  rw [List.getLast?_drop, if_neg, List.getLast?_append, List.getLast?_singleton]
  · rfl
  · rw [List.length_append, List.length_singleton]
    omega

/-! ## The stability -/

/-- Every assessment is one of the three. -/
theorem count_assessments (history : List ProbeQuality) :
    history.count .good + history.count .degraded + history.count .down = history.length := by
  induction history with
  | nil => rfl
  | cons quality rest ih =>
      cases quality <;> simp only [List.count_cons, List.length_cons, ← ih] <;> simp <;> omega

theorem probeIntervalSecs_le (config : CheckedConfig) :
    config.val.probeIntervalSecs.toNat ≤ 600 := by
  obtain ⟨_, h⟩ := ensure_bind_eq_ok_iff.mp config.property
  obtain ⟨_, h⟩ := ensure_bind_eq_ok_iff.mp h
  obtain ⟨hinterval, _⟩ := ensure_bind_eq_ok_iff.mp h
  exact UInt64.le_iff_toNat_le.mp hinterval.2

/-- The share of a part in percent, which is everything if the rest is nothing. -/
theorem percent_bounds {part total : Nat} (hpos : 0 < total) (hpart : part ≤ total) :
    0 ≤ (part : Rat) / total * 100 ∧ (part : Rat) / total * 100 ≤ 100 ∧
      ((part : Rat) / total * 100 = 100 ↔ part = total) := by
  have htotal : (0 : Rat) < total := Nat.cast_pos.mpr hpos
  have hle : (part : Rat) ≤ total := Nat.cast_le.mpr hpart
  refine ⟨by positivity, ?_, ?_⟩
  · have hshare : (part : Rat) / total ≤ 1 := (div_le_one htotal).mpr hle
    linarith
  · have hone : (part : Rat) / total * 100 = 100 ↔ (part : Rat) / total = 1 := by
      constructor <;> intro h <;> linarith
    rw [hone, div_eq_one_iff_eq htotal.ne', Nat.cast_inj]

/-- What the stability says of the assessments that are kept: the rate is that of those
which are not down, and the window is one of at most twenty hours. -/
structure Reports (history : List ProbeQuality) (stability : IspStability) : Prop where
  rate : ∃ rate : Rat, stability.onlineRate = .finite rate ∧ 0 ≤ rate ∧ rate ≤ 100 ∧
    (rate = 100 ↔ .down ∉ history)
  window : 1 ≤ stability.windowMinutes.toNat ∧ stability.windowMinutes.toNat ≤ 1200

theorem Prober.buildStability_reports (printed : Nat → F64 → String) {s : Prober}
    (hbounded : s.stabilityHistory.length ≤ 120) :
    Reports s.stabilityHistory (s.buildStability printed) := by
  have hcounts := count_assessments s.stabilityHistory
  have hinterval := probeIntervalSecs_le s.config
  unfold Prober.buildStability
  simp only
  split
  · rename_i hempty
    rw [List.length_eq_zero_iff.mp hempty]
    exact ⟨⟨100, rfl, by norm_num, le_refl _, fun _ => List.not_mem_nil, fun _ => rfl⟩, by decide⟩
  · rename_i hsome
    obtain ⟨hlow, hhigh, hall⟩ := percent_bounds (Nat.pos_of_ne_zero hsome)
      (show s.stabilityHistory.count .good + s.stabilityHistory.count .degraded ≤ _ by omega)
    refine ⟨⟨_, rfl, hlow, hhigh, hall.trans ?_⟩, ?_⟩
    · rw [← List.count_eq_zero]
      omega
    · have hminutes : s.stabilityHistory.length * s.config.val.probeIntervalSecs.toNat / 60 ≤
          1200 := by
        have hproduct := Nat.mul_le_mul hbounded hinterval
        omega
      have hfits : max (s.stabilityHistory.length * s.config.val.probeIntervalSecs.toNat / 60) 1 <
          UInt32.size :=
        lt_of_le_of_lt (max_le hminutes (by decide)) (by decide)
      rw [UInt32.toNat_ofNat_of_lt' hfits]
      omega

/-! ## The engine -/

/-- The result is what the probe of the target gives, whatever it meets. -/
def Answers (goodMs poorMs : Rat) (target : ProbeTarget) (result : LatencyProbe) : Prop :=
  ∃ observation, result = probeOne goodMs poorMs observation target

namespace Prober

/-- What the steps of the engine keep, given the lists of targets that it read and those
that it started batches with. -/
structure Kept (offers : List ProbeTarget → Prop) (launches : List ProbeTarget → Rat → Rat → Prop)
    (s : Prober) : Prop where
  offered : ∀ targets, s.offered = some targets → offers targets
  batch : ∀ batch, s.batch = some batch →
    launches batch.probes.items batch.goodMs batch.poorMs ∧
      batch.probes.Sound (Answers batch.goodMs batch.poorMs) maxConcurrentProbes
  shown : (s.lastProbeResults = [] ∧ s.stabilityHistory = []) ∨
    (∃ targets goodMs poorMs, launches targets goodMs poorMs ∧
      List.Forall₂ (Answers goodMs poorMs) targets s.lastProbeResults) ∧
      s.stabilityHistory.getLast? = some (classifyProbeQuality s.lastProbeResults)
  window : Windowed s.assessed s.stabilityHistory

variable {offers : List ProbeTarget → Prop} {launches : List ProbeTarget → Rat → Rat → Prop}
  {s : Prober}

theorem Kept.new (config : CheckedConfig) : Kept offers launches (new config) :=
  ⟨fun _ h => (nomatch h), fun _ h => (nomatch h), Or.inl ⟨rfl, rfl⟩,
    ⟨List.suffix_refl _, Nat.zero_le _, Nat.zero_le _⟩⟩

/-- More lists may have been read, and more batches started. -/
theorem Kept.imp (h : Kept offers launches s) {offers' : List ProbeTarget → Prop}
    {launches' : List ProbeTarget → Rat → Rat → Prop} (hoffers : ∀ targets, offers targets →
    offers' targets) (hlaunches : ∀ targets goodMs poorMs, launches targets goodMs poorMs →
    launches' targets goodMs poorMs) : Kept offers' launches' s := by
  refine ⟨fun targets hoffered => hoffers targets (h.offered targets hoffered), ?_, ?_, h.window⟩
  · intro batch hbatch
    exact (h.batch batch hbatch).imp_left (hlaunches _ _ _)
  · refine h.shown.imp_right (And.imp_left ?_)
    rintro ⟨targets, goodMs, poorMs, hlaunched, hresults⟩
    exact ⟨targets, goodMs, poorMs, hlaunches _ _ _ hlaunched, hresults⟩

theorem Kept.configure (h : Kept offers launches s) (config : CheckedConfig) :
    Kept offers launches { s with config := config } :=
  ⟨h.offered, h.batch, h.shown, h.window⟩

theorem Kept.withoutBatch (h : Kept offers launches s) (stopped : Bool) :
    Kept offers launches { s with batch := none, stopped := stopped } :=
  ⟨h.offered, fun _ hbatch => (nomatch hbatch), h.shown, h.window⟩

theorem Kept.sweep (h : Kept offers launches s) {targets : List ProbeTarget}
    (hoffers : offers (targets.take maxProbeTargets)) : Kept offers launches (s.sweep targets) := by
  rw [Prober.sweep]
  split
  · refine ⟨?_, h.batch, h.shown, h.window⟩
    rintro _ ⟨rfl⟩
    exact hoffers
  · exact h

/-- The batch that is started is one of the targets that were read, of which there are
not too many. -/
theorem Kept.launch (h : Kept offers launches s)
    (hbounded : ∀ targets, offers targets → targets.length ≤ maxProbeTargets)
    (hlaunches : ∀ targets, s.offered = some targets →
      launches targets (latencyGoodMs s.config) (latencyPoorMs s.config)) :
    Kept offers launches s.launch := by
  rw [Prober.launch]
  split
  · rename_i targets hoffered
    have hwhole : targets.take maxProbeTargets = targets :=
      List.take_of_length_le (hbounded targets (h.offered targets hoffered))
    rw [startProbeBatch]
    split
    · exact ⟨fun _ hnone => (nomatch hnone), h.batch, h.shown, h.window⟩
    · refine ⟨fun _ hnone => (nomatch hnone), ?_, h.shown, h.window⟩
      rintro _ ⟨rfl⟩
      rw [hwhole]
      exact ⟨hlaunches targets hoffered, Collection.Sound.new targets⟩
  · exact h

theorem Kept.advance (h : Kept offers launches s)
    {progress : ProbeBatch → Collection ProbeTarget LatencyProbe}
    (hitems : ∀ batch, (progress batch).items = batch.probes.items)
    (hsound : ∀ batch, batch.probes.Sound (Answers batch.goodMs batch.poorMs) maxConcurrentProbes →
      (progress batch).Sound (Answers batch.goodMs batch.poorMs) maxConcurrentProbes) :
    Kept offers launches (s.advance progress) := by
  refine ⟨h.offered, ?_, h.shown, h.window⟩
  intro moved hmoved
  obtain ⟨batch, hbatch, rfl⟩ := Option.map_eq_some_iff.mp hmoved
  obtain ⟨hlaunched, hkept⟩ := h.batch batch hbatch
  exact ⟨(hitems batch).symm ▸ hlaunched, hsound batch hkept⟩

theorem Kept.join (h : Kept offers launches s) : Kept offers launches s.join := by
  rw [Prober.join]
  split
  · rename_i batch _ hbatch
    split
    · rename_i hfinished
      obtain ⟨hlaunched, hsound⟩ := h.batch batch hbatch
      have hentries := maxEntries_bounds s.config
      refine ⟨h.offered, fun _ hnone => (nomatch hnone), Or.inr ⟨?_, ?_⟩,
        h.window.push _ hentries⟩
      · exact ⟨batch.probes.items, batch.goodMs, batch.poorMs, hlaunched, hsound.results hfinished⟩
      · exact getLast?_window _ _ hentries.1
    · exact h
  · exact h

theorem Kept.lose (h : Kept offers launches s) : Kept offers launches s.lose := by
  rw [Prober.lose]
  split
  · exact h.withoutBatch s.stopped
  · exact h

theorem Kept.shutdown (h : Kept offers launches s) : Kept offers launches s.shutdown := by
  rw [Prober.shutdown]
  split
  · exact h.withoutBatch true
  · exact h

end Prober

/-! ## The process -/

namespace ProbeSystem

/-- The process does not start again. -/
def NoRestart (events : List ProbeEvent) : Prop :=
  ∀ event ∈ events, event ≠ .server .restart

theorem NoRestart.snoc {events : List ProbeEvent} (h : NoRestart events) {event : ProbeEvent}
    (hevent : event ≠ .server .restart) : NoRestart (events ++ [event]) := by
  intro e he
  obtain he | he := List.mem_append.mp he
  · exact h e he
  · rw [List.mem_singleton.mp he]
    exact hevent

section

variable (lastId : Int) (config : CheckedConfig)

/-- The engine read the targets, since the process started last. -/
def Offered (events : List ProbeEvent) (targets : List ProbeTarget) : Prop :=
  ∃ earlier later, events = earlier ++ .sweep :: later ∧ NoRestart later ∧
    targets = (after lastId config earlier).server.live

/-- The engine started a batch with the targets and the thresholds, since the process
started last. -/
def Launched (events : List ProbeEvent) (targets : List ProbeTarget) (goodMs poorMs : Rat) : Prop :=
  ∃ earlier later, events = earlier ++ .launch :: later ∧ NoRestart later ∧
    Offered lastId config earlier targets ∧
    goodMs = latencyGoodMs (after lastId config earlier).prober.config ∧
    poorMs = latencyPoorMs (after lastId config earlier).prober.config

end

variable {lastId : Int} {config : CheckedConfig} {events : List ProbeEvent}
  {targets : List ProbeTarget} {goodMs poorMs : Rat}

theorem after_snoc (event : ProbeEvent) :
    after lastId config (events ++ [event]) = (after lastId config events).step event := by
  rw [after, run_append]
  rfl

theorem Offered.snoc (h : Offered lastId config events targets) {event : ProbeEvent}
    (hevent : event ≠ .server .restart) : Offered lastId config (events ++ [event]) targets := by
  obtain ⟨earlier, later, rfl, hlater, htargets⟩ := h
  exact ⟨earlier, later ++ [event], List.append_assoc _ _ _, hlater.snoc hevent, htargets⟩

theorem Launched.snoc (h : Launched lastId config events targets goodMs poorMs)
    {event : ProbeEvent} (hevent : event ≠ .server .restart) :
    Launched lastId config (events ++ [event]) targets goodMs poorMs := by
  obtain ⟨earlier, later, rfl, hlater, hlaunched⟩ := h
  exact ⟨earlier, later ++ [event], List.append_assoc _ _ _, hlater.snoc hevent, hlaunched⟩

theorem server_sound (lastId : Int) (config : CheckedConfig) (events : List ProbeEvent) :
    (after lastId config events).server.Sound := by
  have hstart : (new lastId config).server.Sound := ProbeServer.Sound.start (Or.inl rfl)
  have hstep : ∀ (s : ProbeSystem) (event : ProbeEvent), s.server.Sound →
      (s.step event).server.Sound := by
    intro s event h
    cases event with
    | server event =>
        cases event with
        | restart => exact h.step .restart
        | arrive i request => exact h.step (.arrive i request)
        | acquire i => exact h.step (.acquire i)
        | store i outcome => exact h.step (.store i outcome)
        | publish i => exact h.step (.publish i)
        | drop i => exact h.step (.drop i)
    | sweep =>
        rw [step]
        split <;> exact h
    | configure config => exact h
    | launch => exact h
    | start => exact h
    | answer index observation => exact h
    | join => exact h
    | lose => exact h
    | shutdown => exact h
  exact run_preserves hstep hstart events

/-- A list that the engine read is one that passed the check. -/
theorem Offered.listed (h : Offered lastId config events targets) :
    ∃ rows, Listed rows ∧ targets = runtimeProbeTargets rows := by
  obtain ⟨earlier, _, _, _, rfl⟩ := h
  exact (server_sound lastId config earlier).live

theorem Offered.bounded (h : Offered lastId config events targets) :
    targets.length ≤ maxProbeTargets := by
  obtain ⟨rows, hlisted, rfl⟩ := h.listed
  rw [runtimeProbeTargets, List.length_map]
  exact hlisted.bounded

theorem Launched.listed (h : Launched lastId config events targets goodMs poorMs) :
    ∃ rows, Listed rows ∧ targets = runtimeProbeTargets rows := by
  obtain ⟨_, _, _, _, hoffered, _⟩ := h
  exact hoffered.listed

/-- The engine keeps its promises over a run. -/
theorem kept_after (lastId : Int) (config : CheckedConfig) (events : List ProbeEvent) :
    (after lastId config events).prober.Kept (Offered lastId config events)
      (Launched lastId config events) := by
  induction events using List.reverseRecOn with
  | nil => exact Prober.Kept.new config
  | append_singleton events event ih =>
      have hlater (hevent : event ≠ .server .restart) :
          (after lastId config events).prober.Kept (Offered lastId config (events ++ [event]))
            (Launched lastId config (events ++ [event])) :=
        ih.imp (fun _ h => h.snoc hevent) (fun _ _ _ h => h.snoc hevent)
      rw [after_snoc]
      cases event with
      | server event =>
          cases event with
          | restart => exact Prober.Kept.new _
          | arrive i request => exact hlater (by simp)
          | acquire i => exact hlater (by simp)
          | store i outcome => exact hlater (by simp)
          | publish i => exact hlater (by simp)
          | drop i => exact hlater (by simp)
      | configure next => exact (hlater (by simp)).configure next
      | sweep =>
          have hread : Offered lastId config (events ++ [.sweep])
              (after lastId config events).server.live :=
            ⟨events, [], rfl, fun _ h => absurd h List.not_mem_nil, rfl⟩
          rw [step]
          split
          · refine (hlater (by simp)).sweep ?_
            rw [List.take_of_length_le hread.bounded]
            exact hread
          · exact hlater (by simp)
      | launch =>
          refine (hlater (by simp)).launch (fun _ h => h.bounded) ?_
          intro targets hoffered
          exact ⟨events, [], rfl, fun _ h => absurd h List.not_mem_nil, ih.offered targets hoffered,
            rfl, rfl⟩
      | start =>
          exact (hlater (by simp)).advance (fun _ => Collection.start_items) (fun _ h => h.start)
      | answer index observation =>
          exact (hlater (by simp)).advance (fun _ => Collection.finish_items)
            (fun _ h => h.finish (fun _ => ⟨observation, rfl⟩))
      | join => exact (hlater (by simp)).join
      | lose => exact (hlater (by simp)).lose
      | shutdown => exact (hlater (by simp)).shutdown

/-! ## A batch comes to its end -/

/-- The steps of a batch and of the loop that waits for it, what the probes meet being
given. -/
def Progress (observe : Nat → ProbeObservation) : ProbeEvent → Prop
  | .launch => True
  | .start => True
  | .answer index observation => observation = observe index
  | .join => True
  | _ => False

/-- The steps of the collection are steps of the process. -/
theorem run_moves {s : ProbeSystem} {batch : ProbeBatch} (hbatch : s.prober.batch = some batch)
    {observe : Nat → ProbeObservation} {probes : Collection ProbeTarget LatencyProbe}
    (hmoves : Relation.ReflTransGen (Collection.Moves maxConcurrentProbes
      (fun index => probeOne batch.goodMs batch.poorMs (observe index))) batch.probes probes) :
    ∃ more, (∀ event ∈ more, Progress observe event) ∧ run step s more =
      { s with prober := { s.prober with batch := some { batch with probes := probes } } } := by
  induction hmoves with
  | refl => exact ⟨[], fun _ h => absurd h List.not_mem_nil, by rw [← hbatch]; rfl⟩
  | tail _ hmove ih =>
      obtain ⟨more, hprogress, hrun⟩ := ih
      obtain rfl | ⟨index, rfl⟩ := hmove
      · refine ⟨more ++ [.start], ?_, ?_⟩
        · exact List.forall_mem_append.mpr ⟨hprogress, List.forall_mem_singleton.mpr trivial⟩
        · rw [run_append, hrun]
          rfl
      · refine ⟨more ++ [.answer index (observe index)], ?_, ?_⟩
        · exact List.forall_mem_append.mpr ⟨hprogress, List.forall_mem_singleton.mpr rfl⟩
        · rw [run_append, hrun]
          rfl

/-- Starting a batch while one is running only forgets the targets that were read. -/
theorem step_launch {s : ProbeSystem} {batch : ProbeBatch} (hbatch : s.prober.batch = some batch) :
    s.step .launch = { s with prober := { s.prober with offered := none } } := by
  rw [step, Prober.launch]
  split
  · rw [Prober.startProbeBatch, hbatch]
  · rename_i hnone
    rw [← hnone]

theorem step_join {s : ProbeSystem} {batch : ProbeBatch} (hoffered : s.prober.offered = none)
    (hbatch : s.prober.batch = some batch) (hend : batch.probes.Finished) :
    s.step .join = { s with prober := s.prober.recordProbeResults batch.probes.results } := by
  simp only [step, Prober.join, hoffered, hbatch, if_pos hend]

/-- Whatever its probes meet, a batch that is running can come to its end. -/
theorem batch_ends {batch : ProbeBatch}
    (hbatch : (after lastId config events).prober.batch = some batch)
    (observe : Nat → ProbeObservation) :
    ∃ more, (∀ event ∈ more, Progress observe event) ∧
      (after lastId config (events ++ more)).prober.batch = none ∧
      List.Forall₂ (Answers batch.goodMs batch.poorMs) batch.probes.items
        (after lastId config (events ++ more)).prober.lastProbeResults := by
  obtain ⟨_, hsound⟩ := (kept_after lastId config events).batch batch hbatch
  obtain ⟨probes, hmoves, hend, hresults⟩ := hsound.reaches_finished (by decide)
    (fun index => probeOne batch.goodMs batch.poorMs (observe index))
    (fun index _ => ⟨observe index, rfl⟩)
  have hlaunch := step_launch hbatch
  have hstill : ((after lastId config events).step .launch).prober.batch = some batch := by
    rw [hlaunch]
    exact hbatch
  obtain ⟨more, hprogress, hrun⟩ := run_moves hstill hmoves
  have hreached : run step (after lastId config events) (.launch :: more) =
      { after lastId config events with
        prober := { (after lastId config events).prober with
          offered := none
          batch := some { batch with probes := probes } } } := by
    rw [run_cons, hrun, hlaunch]
  have hlast : after lastId config (events ++ (.launch :: more ++ [.join])) =
      (run step (after lastId config events) (.launch :: more)).step .join := by
    rw [← List.append_assoc, after_snoc, after, run_append]
    rfl
  rw [hreached, step_join rfl rfl hend] at hlast
  refine ⟨.launch :: more ++ [.join], ?_, ?_, ?_⟩
  · exact List.forall_mem_append.mpr
      ⟨List.forall_mem_cons.mpr ⟨trivial, hprogress⟩, List.forall_mem_singleton.mpr trivial⟩
  · rw [hlast]
    rfl
  · rw [hlast]
    exact hresults

/-- In every run of the process: a batch is one of the targets that the engine read, with
the thresholds of its start, it pings at most four at a time, and it can come to its end
whatever its probes meet.  The results that are shown are those of one such batch, one
for each target in its order, and its targets are a list that passed the check.  Of all
assessments the newest are kept; the last one is down exactly if most of the results
that are shown have no latency, and the stability reports those that are kept. -/
theorem results_shown (lastId : Int) (config : CheckedConfig) (events : List ProbeEvent) :
    (∀ batch, (after lastId config events).prober.batch = some batch →
      Launched lastId config events batch.probes.items batch.goodMs batch.poorMs ∧
        batch.probes.inFlight.length ≤ maxConcurrentProbes ∧
        ∀ observe, ∃ more, (∀ event ∈ more, Progress observe event) ∧
          (after lastId config (events ++ more)).prober.batch = none ∧
          List.Forall₂ (Answers batch.goodMs batch.poorMs) batch.probes.items
            (after lastId config (events ++ more)).prober.lastProbeResults) ∧
      (((after lastId config events).prober.lastProbeResults = [] ∧
          (after lastId config events).prober.stabilityHistory = []) ∨
        ∃ rows goodMs poorMs, Listed rows ∧
          Launched lastId config events (runtimeProbeTargets rows) goodMs poorMs ∧
          List.Forall₂ (Answers goodMs poorMs) (runtimeProbeTargets rows)
            (after lastId config events).prober.lastProbeResults ∧
          ((after lastId config events).prober.stabilityHistory.getLast? = some .down ↔
            rows.length <
              2 * (rows.length - reachable (after lastId config events).prober.lastProbeResults))) ∧
      Windowed (after lastId config events).prober.assessed
        (after lastId config events).prober.stabilityHistory ∧
      ∀ printed, Reports (after lastId config events).prober.stabilityHistory
        ((after lastId config events).prober.buildStability printed) := by
  have hkept := kept_after lastId config events
  refine ⟨?_, ?_, hkept.window, ?_⟩
  · intro batch hbatch
    obtain ⟨hlaunched, hsound⟩ := hkept.batch batch hbatch
    exact ⟨hlaunched, hsound.bounded, batch_ends hbatch⟩
  · refine hkept.shown.imp_right ?_
    rintro ⟨⟨targets, goodMs, poorMs, hlaunched, hresults⟩, hlast⟩
    obtain ⟨rows, hlisted, rfl⟩ := hlaunched.listed
    refine ⟨rows, goodMs, poorMs, hlisted, hlaunched, hresults, ?_⟩
    have hlength : (after lastId config events).prober.lastProbeResults.length = rows.length := by
      rw [← hresults.length_eq, runtimeProbeTargets, List.length_map]
    rw [hlast, Option.some_inj, classifyProbeQuality_down_iff, hlength]
  · intro printed
    exact Prober.buildStability_reports printed hkept.window.bounded

/-- A deployment whose configuration passes the check. -/
def checkedDeployment : CheckedConfig := ⟨deployedAt "192.168.88.1", by decide +kernel⟩

/-- The probes of the targets of the seed end, although no host resolves. -/
theorem results_shown_unresolved :
    ∃ batch more, (after 0 checkedDeployment [.sweep, .launch]).prober.batch = some batch ∧
      (after 0 checkedDeployment ([.sweep, .launch] ++ more)).prober.batch = none := by
  obtain ⟨_, _, hends⟩ := (results_shown 0 checkedDeployment [.sweep, .launch]).1 _ rfl
  obtain ⟨more, _, hnone, _⟩ := hends (fun _ => ⟨none, fun _ => true, fun _ => none⟩)
  exact ⟨_, more, rfl, hnone⟩

end ProbeSystem

end RouterView.Poller
