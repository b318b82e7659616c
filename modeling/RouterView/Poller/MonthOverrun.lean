/-
  Poller/MonthOverrun.lean --- poll intervals that the month has no room for.

  Of the configurations that `validate` accepts, those whose polls are three seconds or
  more apart keep every tick within the rows that a query reads, when polls are an
  interval apart and the maintenance succeeds; the others do not.

  With an interval of one or two seconds, two runs overrun the budget; both are of the
  answers of `Poller/SteadyAnswers.lean`, which come every two seconds.  Under a raw
  retention of thirty days the maintenance finds nothing that is old enough to be rolled
  up, and after twenty-three days the month has more than a million samples.  Under any
  retention a process that restarts before its sixtieth snapshot never maintains its tables.

  Left out: when a process that is never restarted reaches the budget under a shorter
  retention.
-/
import RouterView.Db.RollupSpec
import RouterView.Poller.MonthBudget
import RouterView.Poller.SteadyAnswers

set_option autoImplicit false

namespace RouterView.Poller

open RouterView.Config
open RouterView.Foundation
open RouterView.Db

namespace Steady

/-! ## Ticks of the engine -/

section

variable {config : MergedConfig} {target : String} {k n : Nat} {e : PollEngine}
  {routerId aggregateId memberId : Int}

theorem Watching.count (h : Watching target routerId aggregateId memberId k n e)
    (pollCount : Nat) :
    Watching target routerId aggregateId memberId k n { e with pollCount := pollCount } :=
  ⟨h.known, h.filled, h.scope, h.aggregate, h.member, h.quiet⟩

theorem Watching.restart (h : Watching target routerId aggregateId memberId k n e) :
    Started target (k + 1) n (PollEngine.new e.poller.db) where
  held := Or.inr ⟨routerId, aggregateId, memberId, h.known, h.filled.mono (by push_cast; omega)⟩
  baselines := rfl
  scope := rfl
  quiet := rfl
  count := rfl

/-- The history of the tables is younger than both retentions. -/
def Young (config : MergedConfig) (k : Nat) : Prop :=
  daysBefore (2000 * k) config.dbRawRetentionDays ≤ 0 ∧
    daysBefore (2000 * k) config.dbTotalRetentionDays ≤ 0

/-- The maintenance finds nothing to do in a young history. -/
theorem Watching.maintain (h : Watching target routerId aggregateId memberId k n e)
    (hk : k ≤ monthIntervals) (hyoung : Young config k) :
    PollEngine.maintain config (pollAt k hk) e = e := by
  have hrolled : rollupExactSamples (daysBefore (2000 * k) config.dbRawRetentionDays)
      maintenanceBucketMs e.poller.db = .ok (0, e.poller.db) :=
    rollupExactSamplesBatch_of_none (by decide) (by decide) (by decide)
      (fun x hx => hyoung.1.trans (h.filled.samples x hx).1)
  have hpruned : pruneExactHistory (daysBefore (2000 * k) config.dbTotalRetentionDays)
      e.poller.db = .ok (0, e.poller.db) := by
    refine pruneExactHistoryBatch_of_none (by decide) (by decide) ?_ ?_ ?_
    · intro x hx
      have hx := h.filled.samples x hx
      have hbefore := hyoung.2
      omega
    · rw [h.filled.rollups]
      exact fun r hr => absurd hr (List.not_mem_nil)
    · intro g hg
      have hg := h.filled.gaps g hg
      have hbefore := hyoung.2
      omega
  have hrollup : (pollAt k hk).rollup.run (rollupExactSamples
      (daysBefore (pollAt k hk).maintenanceMs config.dbRawRetentionDays) maintenanceBucketMs)
      e.poller.db = (.ok 0, e.poller.db) := StorageOutcome.run_committed hrolled
  have hretention : (pollAt k hk).retention.run (pruneExactHistory
      (daysBefore (pollAt k hk).maintenanceMs config.dbTotalRetentionDays)) e.poller.db =
      (.ok 0, e.poller.db) := StorageOutcome.run_committed hpruned
  unfold PollEngine.maintain
  rw [hrollup]
  simp only [hretention, reported, List.append_nil]
  -- the pass leaves no report, as none was left before
  rw [← h.quiet]

/-- A snapshot of a young history is counted, and its maintenance finds nothing to do. -/
theorem Watching.countSnapshot (h : Watching target routerId aggregateId memberId k n e)
    (hk : k ≤ monthIntervals) (hyoung : Young config k) :
    PollEngine.countSnapshot config (pollAt k hk) e = { e with pollCount := e.pollCount + 1 } := by
  unfold PollEngine.countSnapshot
  dsimp only
  split
  · exact (h.count (e.pollCount + 1)).maintain hk hyoung
  · rfl

end

/-! ## Runs -/

/-- What happens in an interval: an answer, or a restart of the process. -/
def eventAt (restarts : Nat → Bool) (i : Nat) : PollEngine.Event :=
  if restarts i then .restart
  else if hi : i + 1 ≤ monthIntervals then .poll (pollAt (i + 1) hi) else .missed

/-- The run of the first intervals. -/
def answeredRun (restarts : Nat → Bool) (n : Nat) : List PollEngine.Event :=
  (List.range n).map (eventAt restarts)

section

variable (restarts : Nat → Bool)

theorem answeredRun_succ (i : Nat) :
    answeredRun restarts (i + 1) = answeredRun restarts i ++ [eventAt restarts i] := by
  rw [answeredRun, List.range_succ, List.map_append]
  rfl

theorem answeredRun_take (m n : Nat) :
    (answeredRun restarts n).take m = answeredRun restarts (min m n) := by
  rw [answeredRun, ← List.map_take, List.take_range]
  rfl

/-- The answers come two seconds apart, or more. -/
theorem spaced_answeredRun {gap : Int} (hgap : gap ≤ 2000) (n : Nat) :
    Spaced gap (PollEngine.sampleTimes (answeredRun restarts n)) := by
  have htime : ∀ i t, (eventAt restarts i).sampledAtMs = some t →
      t = 2000 * ((i + 1 : Nat) : Int) := by
    intro i t ht
    unfold eventAt at ht
    split at ht
    · cases ht
    · split at ht
      · exact (Option.some.inj ht).symm
      · cases ht
  refine List.Pairwise.isChain ?_
  unfold PollEngine.sampleTimes answeredRun
  rw [List.filterMap_map, List.pairwise_filterMap]
  refine List.pairwise_lt_range.imp ?_
  intro i j hij s hs t ht
  rw [htime i s hs, htime j t ht]
  push_cast
  omega

end

section

variable {config : MergedConfig} {connects : String → Bool} {k n : Nat} {e : PollEngine}

theorem step_pollAt (hconnects : connects config.routerHost = true) (hk : k ≤ monthIntervals) :
    PollEngine.step connects config e (.poll (pollAt k hk)) =
      PollEngine.countSnapshot config (pollAt k hk)
        (PollEngine.storePoll config (pollAt k hk) e).2 := by
  simp only [PollEngine.step, hconnects, if_true]
  exact PollEngine.pollTick_of_transforms rfl

/-- The first answer of a process. -/
theorem Started.tick (h : Started (trim config.routerHost) k n e)
    (hconnects : connects config.routerHost = true)
    (htarget : (trim config.routerHost).isEmpty = false) (hk : k + 1 ≤ monthIntervals) :
    ∃ routerId aggregateId memberId, Watching (trim config.routerHost) routerId aggregateId
        memberId (k + 1) n (PollEngine.step connects config e (.poll (pollAt (k + 1) hk))) ∧
      (PollEngine.step connects config e (.poll (pollAt (k + 1) hk))).pollCount = 1 := by
  obtain ⟨routerId, aggregateId, memberId, _, hwatching, hcount⟩ := h.storePoll htarget hk
  rw [h.count] at hcount
  rw [step_pollAt hconnects, PollEngine.countSnapshot_of_early (by rw [hcount]; decide), hcount]
  exact ⟨routerId, aggregateId, memberId, hwatching.count _, rfl⟩

/-- Another answer, between two maintenance passes or in a young history. -/
theorem Watching.tick {routerId aggregateId memberId : Int}
    (h : Watching (trim config.routerHost) routerId aggregateId memberId k n e)
    (hconnects : connects config.routerHost = true)
    (htarget : (trim config.routerHost).isEmpty = false) (hk : k + 1 ≤ monthIntervals)
    (hidle : (e.pollCount + 1) % maintenancePeriod ≠ 0 ∨ Young config (k + 1)) :
    Watching (trim config.routerHost) routerId aggregateId memberId (k + 1) (n + 1)
        (PollEngine.step connects config e (.poll (pollAt (k + 1) hk))) ∧
      (PollEngine.step connects config e (.poll (pollAt (k + 1) hk))).pollCount =
        e.pollCount + 1 := by
  obtain ⟨_, hwatching, hcount⟩ := h.storePoll htarget hk
  have hcounted : PollEngine.countSnapshot config (pollAt (k + 1) hk)
      (PollEngine.storePoll config (pollAt (k + 1) hk) e).2 =
        { (PollEngine.storePoll config (pollAt (k + 1) hk) e).2 with
          pollCount := e.pollCount + 1 } := by
    rw [← hcount] at hidle ⊢
    rcases hidle with hearly | hyoung
    · exact PollEngine.countSnapshot_of_early hearly
    · exact hwatching.countSnapshot hk hyoung
  rw [step_pollAt hconnects, hcounted]
  exact ⟨hwatching.count _, rfl⟩

end

/-! ## A process that polls without a pause -/

section

variable {config : MergedConfig} {connects : String → Bool}

/-- No process restarts. -/
def steadily : Nat → Bool := fun _ => false

theorem watching_steadily (hconnects : connects config.routerHost = true)
    (htarget : (trim config.routerHost).isEmpty = false) {i : Nat} (hi : i + 1 ≤ monthIntervals)
    (hyoung : ∀ k, k ≤ i + 1 → Young config k) :
    ∃ routerId aggregateId memberId, Watching (trim config.routerHost) routerId aggregateId
      memberId (i + 1) i
      (PollEngine.after connects config (answeredRun steadily (i + 1))) := by
  induction i with
  | zero =>
      have hstarted : Started (trim config.routerHost) 0 0 (PollEngine.new TrafficDb.empty) :=
        ⟨Or.inl ⟨rfl, rfl⟩, rfl, rfl, rfl, rfl⟩
      obtain ⟨routerId, aggregateId, memberId, hwatching, _⟩ :=
        hstarted.tick hconnects htarget hi
      exact ⟨routerId, aggregateId, memberId, hwatching⟩
  | succ i ih =>
      obtain ⟨routerId, aggregateId, memberId, hwatching⟩ :=
        ih (by omega) (fun k hk => hyoung k (by omega))
      have hevent : eventAt steadily (i + 1) = .poll (pollAt (i + 2) hi) := dif_pos hi
      rw [answeredRun_succ, PollEngine.after_append, hevent]
      exact ⟨routerId, aggregateId, memberId,
        (hwatching.tick hconnects htarget hi (Or.inr (hyoung _ (le_refl _)))).1⟩

end

/-! ## Processes that restart before their maintenance -/

/-- Every sixtieth event is a restart. -/
def restarting : Nat → Bool := fun i => decide (i % 60 = 59)

/-- The engine after a number of events: a new one after every restart, and otherwise one
that recorded a sample with every answer but its first. -/
structure Reached (target : String) (i : Nat) (e : PollEngine) : Prop where
  started : i % 60 = 0 → Started target i (58 * (i / 60)) e
  watching : i % 60 ≠ 0 → ∃ routerId aggregateId memberId,
    Watching target routerId aggregateId memberId i (58 * (i / 60) + (i % 60 - 1)) e ∧
      e.pollCount = i % 60

section

variable {config : MergedConfig} {connects : String → Bool} {i : Nat} {e : PollEngine}

theorem Reached.step (h : Reached (trim config.routerHost) i e)
    (hconnects : connects config.routerHost = true)
    (htarget : (trim config.routerHost).isEmpty = false) (hi : i + 1 ≤ monthIntervals) :
    Reached (trim config.routerHost) (i + 1)
      (PollEngine.step connects config e (eventAt restarting i)) := by
  by_cases hrestart : i % 60 = 59
  -- a restart, after the fifty-ninth answer
  · obtain ⟨routerId, aggregateId, memberId, hwatching, _⟩ := h.watching (by omega)
    have hevent : eventAt restarting i = .restart := if_pos (decide_eq_true hrestart)
    have hn : 58 * ((i + 1) / 60) = 58 * (i / 60) + (i % 60 - 1) := by omega
    rw [hevent]
    refine ⟨fun _ => ?_, fun hlate => absurd (by omega) hlate⟩
    rw [hn]
    exact hwatching.restart
  · have hevent : eventAt restarting i = .poll (pollAt (i + 1) hi) :=
      (if_neg (by simpa [restarting] using hrestart)).trans (dif_pos hi)
    rw [hevent]
    refine ⟨fun hearly => absurd hearly (by omega), fun _ => ?_⟩
    by_cases hfirst : i % 60 = 0
    -- the first answer of a process adds no sample
    · obtain ⟨routerId, aggregateId, memberId, hwatching, hcount⟩ :=
        (h.started hfirst).tick hconnects htarget hi
      have hn : 58 * ((i + 1) / 60) + ((i + 1) % 60 - 1) = 58 * (i / 60) := by omega
      rw [hn]
      exact ⟨routerId, aggregateId, memberId, hwatching, by omega⟩
    · obtain ⟨routerId, aggregateId, memberId, hwatching, hcount⟩ := h.watching hfirst
      have hearly : (e.pollCount + 1) % maintenancePeriod ≠ 0 := by
        rw [hcount, maintenancePeriod]
        omega
      have hn : 58 * ((i + 1) / 60) + ((i + 1) % 60 - 1) =
          58 * (i / 60) + (i % 60 - 1) + 1 := by omega
      obtain ⟨hnext, hsame⟩ := hwatching.tick hconnects htarget hi (Or.inl hearly)
      rw [hn]
      exact ⟨routerId, aggregateId, memberId, hnext, by omega⟩

theorem reached_restarting (hconnects : connects config.routerHost = true)
    (htarget : (trim config.routerHost).isEmpty = false) (hi : i ≤ monthIntervals) :
    Reached (trim config.routerHost) i
      (PollEngine.after connects config (answeredRun restarting i)) := by
  induction i with
  | zero => exact ⟨fun _ => ⟨Or.inl ⟨rfl, rfl⟩, rfl, rfl, rfl, rfl⟩, fun h => absurd rfl h⟩
  | succ i ih =>
      rw [answeredRun_succ, PollEngine.after_append]
      exact (ih (by omega)).step hconnects htarget hi

theorem Reached.quiet {target : String} (h : Reached target i e) : e.maintenanceErrors = [] := by
  by_cases hi : i % 60 = 0
  · exact (h.started hi).quiet
  · obtain ⟨_, _, _, hwatching, _⟩ := h.watching hi
    exact hwatching.quiet

end

/-! ## The overrun -/

section

variable {routerId aggregateId t : Int} {n : Nat} {db : TrafficDb}

/-- In the first month, every sample is a row of the month. -/
theorem Filled.monthSources_ge (h : Filled routerId aggregateId t n db)
    (hmonth : monthStartMs t = 0) : n ≤ (monthSources db routerId aggregateId t).length := by
  have hall : db.sampleSources (monthQuery routerId aggregateId t) =
      db.samplesOn routerId aggregateId := by
    refine List.filter_eq_self.mpr ?_
    intro x hx
    obtain ⟨hstart, hspan, hend⟩ := h.samples x (List.mem_of_mem_filter hx)
    refine decide_eq_true ⟨?_, ?_⟩
    · simp only [monthQuery, hmonth]
      omega
    · simp only [monthQuery]
      omega
  rw [monthSources, sources_length, hall, h.count]
  exact Nat.le_add_right _ _

end

end Steady

namespace PollEngine

open Steady

/-- Every maintenance pass of the run succeeds. -/
def Maintained (connects : String → Bool) (config : MergedConfig) (events : List Event) : Prop :=
  ∀ n, (after connects config (events.take n)).maintenanceErrors = []

/-- Every tick of every paced run of the poller stays within the budget, if the
maintenance succeeds. -/
def MaintainedBudget (connects : String → Bool) (config : MergedConfig) : Prop :=
  connects config.routerHost = true →
    ∀ (before : List Event) (poll : Poll), PacedRun config (before ++ [.poll poll]) →
      Maintained connects config (before ++ [.poll poll]) →
        WithinBudget config poll (after connects config before)

/-- The tick of a paced run whose maintenance succeeds finds more rows than a query reads:
the usage of the month fails, and the readiness reports nothing else. -/
structure Overrun (connects : String → Bool) (config : MergedConfig) (before : List Event)
    (poll : Poll) : Prop where
  paced : PacedRun config (before ++ [.poll poll])
  maintained : Maintained connects config (before ++ [.poll poll])
  rows : ∃ routerId aggregateId,
    (storePoll config poll (after connects config before)).1.aggregate =
      some (routerId, aggregateId) ∧
    maxTrafficSourceRows < (monthSources
      (storePoll config poll (after connects config before)).2.poller.db routerId aggregateId
      poll.sampledAtMs).length
  readiness : (pollTick config poll (after connects config before)).1 =
    .storageFailure [.monthlyQuery (.trafficQueryTooLarge maxTrafficSourceRows)]

variable {connects : String → Bool} {config : MergedConfig}

theorem Overrun.not_maintainedBudget {before : List Event} {poll : Poll}
    (h : Overrun connects config before poll) (hconnects : connects config.routerHost = true) :
    ¬ MaintainedBudget connects config := by
  intro hbudget
  obtain ⟨routerId, aggregateId, haggregate, hlarge⟩ := h.rows
  have hrows := (hbudget hconnects before poll h.paced h.maintained).rows _ _ haggregate
  exact absurd hrows (not_le.mpr hlarge)

/-- A process that has recorded enough samples of the month overruns the budget with its
next answer. -/
theorem overrun_of_watching {restarts : Nat → Bool} {i n : Nat}
    {routerId aggregateId memberId : Int} (hconnects : connects config.routerHost = true)
    (hhost : trim config.routerHost ≠ legacyTarget)
    (hnamed : (trim config.routerHost).isEmpty = false)
    (hinterval : config.pollIntervalSecs.toNat ≤ 2) (hi : i + 1 < monthIntervals)
    (hanswer : restarts i = false)
    (hwatching : Watching (trim config.routerHost) routerId aggregateId memberId i n
      (after connects config (answeredRun restarts i)))
    (hlarge : maxTrafficSourceRows ≤ n)
    (hquiet : ∀ j ≤ i + 1, (after connects config (answeredRun restarts j)).maintenanceErrors =
      []) :
    Overrun connects config (answeredRun restarts i) (pollAt (i + 1) hi.le) := by
  have hrun : answeredRun restarts i ++ [.poll (pollAt (i + 1) hi.le)] =
      answeredRun restarts (i + 1) := by
    rw [answeredRun_succ, eventAt, hanswer, if_neg (by decide), dif_pos hi.le]
  obtain ⟨hstored, hnext, _⟩ := hwatching.storePoll hnamed hi.le
  have hpositive : (0 : Int) < 2000 * ((i + 1 : Nat) : Int) := by omega
  have hmonth : monthStartMs (2000 * ((i + 1 : Nat) : Int)) = 0 := by
    refine monthStartMs_january hpositive.le ?_
    simp only [monthIntervals] at hi
    simp only [dayMs]
    omega
  have hstarted : monthStartMs (2000 * ((i + 1 : Nat) : Int)) < 2000 * ((i + 1 : Nat) : Int) := by
    rw [hmonth]
    exact hpositive
  have hrows : maxTrafficSourceRows < (monthSources
      (storePoll config (pollAt (i + 1) hi.le)
        (after connects config (answeredRun restarts i))).2.poller.db routerId aggregateId
      (2000 * ((i + 1 : Nat) : Int))).length :=
    lt_of_lt_of_le (Nat.lt_succ_of_le hlarge) (hnext.filled.monthSources_ge hmonth)
  have hpaced : PacedRun config (answeredRun restarts (i + 1)) :=
    spaced_answeredRun restarts (by omega) (i + 1)
  have htimes : sampleTimes (answeredRun restarts (i + 1)) =
      sampleTimes (answeredRun restarts i) ++ sampleTimes [.poll (pollAt (i + 1) hi.le)] := by
    rw [← hrun, sampleTimes_append]
  have htime : (pollAt (i + 1) hi.le).sampledAtMs ∈ sampleTimes (answeredRun restarts (i + 1)) := by
    rw [htimes]
    exact List.mem_append_right _ (List.mem_singleton.mpr rfl)
  have hbefore : Paced (sampleTimes (answeredRun restarts (i + 1)))
      (after connects config (answeredRun restarts i)).poller := by
    rw [htimes]
    exact (paced_after connects hhost _).mono (fun t ht => List.mem_append_left _ ht)
  have hkept := (paced_poll hhost htime).stored hbefore
  have husage : monthlyUsage (pollAt (i + 1) hi.le) routerId aggregateId
      (storePoll config (pollAt (i + 1) hi.le)
        (after connects config (answeredRun restarts i))).2.poller.db =
      .error (.trafficQueryTooLarge maxTrafficSourceRows) :=
    hkept.monthlyUsage_large rfl
      (owns_of_registered hnext.known.any_router hnext.known.aggregate).2 hstarted hrows
  refine ⟨hrun ▸ hpaced, ?_, ⟨routerId, aggregateId, by rw [hstored], hrows⟩, ?_⟩
  · intro m
    rw [hrun, answeredRun_take]
    exact hquiet _ (min_le_right _ _)
  · refine pollTick_of_usage rfl hstored husage ?_
    have hafter := hquiet (i + 1) (le_refl _)
    rw [← hrun, after_append, step, if_pos hconnects] at hafter
    exact hafter

/-! ## The budget and the poll interval -/

/-- A process that is restarted in time never maintains its tables, and its samples of two
seconds fill the month. -/
theorem overrun_restarting {connects : String → Bool} {config : MergedConfig}
    (hconnects : connects config.routerHost = true) (hhost : trim config.routerHost ≠ legacyTarget)
    (hnamed : (trim config.routerHost).isEmpty = false)
    (hinterval : config.pollIntervalSecs.toNat ≤ 2) :
    Overrun connects config (answeredRun restarting 1034521) (pollAt 1034522 (by decide)) := by
  have hreached : ∀ j ≤ 1034522, Reached (trim config.routerHost) j
      (after connects config (answeredRun restarting j)) := by
    intro j hj
    refine reached_restarting hconnects hnamed ?_
    simp only [monthIntervals]
    omega
  obtain ⟨routerId, aggregateId, memberId, hwatching, _⟩ :=
    (hreached 1034521 (by decide)).watching (by decide)
  exact overrun_of_watching hconnects hhost hnamed hinterval (by decide) (by decide) hwatching
    (by decide) (fun j hj => (hreached j hj).quiet)

/-- The budget holds exactly if polls are at least three seconds apart. -/
theorem maintainedBudget_iff {connects : String → Bool} {config : MergedConfig}
    (hlegacy : ∀ host, trim host = legacyTarget → connects host = false)
    (hvalid : config.validate = .ok ()) (hconnects : connects config.routerHost = true) :
    MaintainedBudget connects config ↔ 3 ≤ config.pollIntervalSecs.toNat := by
  have hhost : trim config.routerHost ≠ legacyTarget := by
    intro htrim
    rw [hlegacy _ htrim] at hconnects
    cases hconnects
  have hnamed := isEmpty_trim (MergedConfig.validate_ok hvalid).routerHost
  constructor
  · intro hbudget
    by_contra hinterval
    exact (overrun_restarting hconnects hhost hnamed (by omega)).not_maintainedBudget hconnects
      hbudget
  · intro hinterval _ before poll hpaced _
    exact withinBudget_of_le hhost hinterval hpaced

/-- The hosts that a client is made for. -/
def dials (host : String) : Bool := decide (trim host ≠ legacyTarget)

theorem maintainedBudget_iff_deployed :
    MaintainedBudget dials (deployedAt "10.0.0.1") ↔
      3 ≤ (deployedAt "10.0.0.1").pollIntervalSecs.toNat :=
  maintainedBudget_iff (fun host htrim => by simp [dials, htrim]) (by decide) (by decide)

/-- Two seconds between polls, and a month of samples. -/
def longRetention : MergedConfig :=
  { deployedAt "10.0.0.1" with pollIntervalSecs := 2, dbRawRetentionDays := 30 }

/-- In the first thirty days no sample is older than the retention. -/
theorem young_longRetention {k : Nat} (hk : k ≤ 1296000) : Young longRetention k := by
  have hdays : ∀ days : UInt64, 2592000000 ≤ satMul (wrapI64 days.toNat) 86400000 →
      satMul (wrapI64 days.toNat) 86400000 ≤ i64Max → daysBefore (2000 * k) days ≤ 0 := by
    intro days hlong hfits
    simp only [i64Max] at hfits
    unfold daysBefore
    rw [satSub_eq]
    · omega
    · simp only [IsI64, i64Min, i64Max]
      omega
  exact ⟨hdays 30 (by decide) (by decide), hdays 90 (by decide) (by decide)⟩

/-- A million samples of two seconds, twenty-three days into the month. -/
theorem maintainedBudget_fails :
    longRetention.validate = .ok () ∧ ¬ MaintainedBudget dials longRetention ∧
      Overrun dials longRetention (answeredRun steadily 1000001) (pollAt 1000002 (by decide)) := by
  have hconnects : dials longRetention.routerHost = true := by decide
  have hhost : trim longRetention.routerHost ≠ legacyTarget := by decide
  have hnamed : (trim longRetention.routerHost).isEmpty = false := by decide
  have hoverrun : Overrun dials longRetention (answeredRun steadily 1000001)
      (pollAt 1000002 (by decide)) := by
    have hwatching : ∀ j ≤ 1000001, ∃ routerId aggregateId memberId,
        Watching (trim longRetention.routerHost) routerId aggregateId memberId (j + 1) j
          (after dials longRetention (answeredRun steadily (j + 1))) := by
      intro j hj
      refine watching_steadily hconnects hnamed ?_ (fun k hk => young_longRetention (by omega))
      simp only [monthIntervals]
      omega
    have hquiet : ∀ j ≤ 1000002,
        (after dials longRetention (answeredRun steadily j)).maintenanceErrors = [] := by
      intro j hj
      cases j with
      | zero => rfl
      | succ j =>
          obtain ⟨_, _, _, h⟩ := hwatching j (by omega)
          exact h.quiet
    obtain ⟨_, _, _, hlast⟩ := hwatching 1000000 (by decide)
    exact overrun_of_watching hconnects hhost hnamed (by decide) (by decide) rfl hlast (by decide)
      hquiet
  exact ⟨by decide, hoverrun.not_maintainedBudget hconnects, hoverrun⟩

end PollEngine

end RouterView.Poller
