/-
  Poller/SupervisionSpec.lean --- what the loop around the ticks keeps.

  One inversion of the steps of the loop; from it what the readiness says about the
  reports, how the attempts to connect are paced, and which router a tick asks.
-/
import RouterView.Poller.PollSpec
import RouterView.Poller.Supervision

set_option autoImplicit false

namespace RouterView.Poller

open RouterView.Config
open RouterView.Foundation
open RouterView.Db

/-! ## Ticks without a report -/

/-- What a tick did that has nothing to report: the router was resolved, its counters
were recorded, the usage of the month was read, and the latest maintenance went well. -/
structure CleanTick (config : MergedConfig) (poll : Poll) (e e' : PollEngine) : Prop where
  transforms : poll.transforms = true
  recorded : ∃ routerId aggregateId usage stored,
    PollEngine.storePoll config poll e = (⟨[], some (routerId, aggregateId)⟩, stored) ∧
    PollEngine.monthlyUsage poll routerId aggregateId stored.poller.db = .ok usage ∧
    e' = PollEngine.countSnapshot config poll stored
  maintained : e'.maintenanceErrors = []

/-- A poll without reports has recorded the counters. -/
theorem storePoll_aggregate {config : MergedConfig} {poll : Poll} {e : PollEngine}
    (h : (PollEngine.storePoll config poll e).1.errors = []) :
    ∃ aggregate, (PollEngine.storePoll config poll e).1.aggregate = some aggregate := by
  unfold PollEngine.storePoll at h ⊢
  split at h
  · cases h
  · dsimp only at h ⊢
    split at h
    · cases h
    · exact ⟨_, rfl⟩

theorem reported_eq_nil {α : Type} {report : DatabaseError → StorageError}
    {result : DatabaseResult α} (h : reported report result = []) : ∃ a, result = .ok a := by
  cases result with
  | ok a => exact ⟨a, rfl⟩
  | error error => cases h

/-- A tick that ends ready was clean. -/
theorem pollTick_ready {config : MergedConfig} {poll : Poll} {e e' : PollEngine}
    (h : PollEngine.pollTick config poll e = (.ready, e')) : CleanTick config poll e e' := by
  unfold PollEngine.pollTick at h
  split at h
  · cases h
  · rename_i snapshot stored hfetch
    obtain ⟨hready, rfl⟩ := Prod.mk.inj h
    have herrors : snapshot.storageErrors ++
        (PollEngine.countSnapshot config poll stored).maintenanceErrors = [] := by
      unfold readinessOf at hready
      split at hready
      next hempty => exact List.isEmpty_iff.mp hempty
      next => cases hready
    obtain ⟨hstorage, hmaintained⟩ := List.append_eq_nil_iff.mp herrors
    unfold PollEngine.fetchAndTransform at hfetch
    dsimp only at hfetch
    split at hfetch
    next htransforms =>
      obtain ⟨hsnapshot, rfl⟩ := Prod.mk.inj hfetch
      rw [← Option.some.inj hsnapshot] at hstorage
      obtain ⟨hnone, husage⟩ := List.append_eq_nil_iff.mp hstorage
      obtain ⟨aggregate, haggregate⟩ := storePoll_aggregate hnone
      rw [haggregate] at husage
      obtain ⟨usage, husage⟩ := reported_eq_nil husage
      refine ⟨htransforms, ⟨aggregate.1, aggregate.2, usage, _, ?_, husage, rfl⟩, hmaintained⟩
      exact Prod.ext (PollEngine.StoredPoll.mk.injEq .. ▸ ⟨hnone, haggregate⟩) rfl
    next => cases hfetch

namespace PollLoop

/-! ## Steps -/

/-- What a step can do. -/
inductive Move (display : DatabaseError → String) (s : PollLoop) : PollLoop → Prop
  | none : Move display s s
  | configure (config : MergedConfig) : Move display s { s with config := config }
  | elapse (nanoseconds : Nat) : Move display s { s with now := s.now + nanoseconds }
  | requestShutdown : Move display s { s with shutdown := true }
  | launch (h : s.phase = .launching) :
      Move display s { s with phase := .waiting, nextPoll := s.now }
  | beginTick (h : s.phase = .waiting) : Move display s { s with phase := .polling }
  | readParams (h : s.phase = .polling) : Move display s (tryReconnect s)
  | readConfig {params : RouterConnectionConfig} {changed : Bool}
      (h : s.phase = .reconnecting params changed) :
      Move display s (startConnecting params changed s)
  | accept {params target : RouterConnectionConfig} {changed : Bool}
      (h : s.phase = .connecting params changed target) :
      Move display s (acceptConnection params target s)
  | refuse {params target : RouterConnectionConfig} {changed : Bool}
      (h : s.phase = .connecting params changed target) (error : String) :
      Move display s (refuseConnection params changed error s)
  | fetchFailed (h : s.phase = .fetching) (error : String) :
      Move display s (markPollFailure error (endUnanswered s))
  | fetched (h : s.phase = .fetching) (poll : Poll) (lastPoll transformError : String) :
      Move display s (finishFetch display poll lastPoll transformError s)
  | skip (h : s.phase = .skipping) : Move display s (endUnanswered s)
  | panic (h : LoopPhase.InTick s.phase) (progress : TickProgress) :
      Move display s (isolatePanic progress s)
  | schedule (h : s.phase = .finishing) (nextPoll : Nat) :
      Move display s { s with phase := .waiting, nextPoll := nextPoll }
  | observeShutdown (h : s.phase = .waiting) : Move display s { s with phase := .stopping }
  | stop (h : s.phase = .launching ∨ s.phase = .stopping) : Move display s (markStopped s)
  | exited (message : String) :
      Move display s
        { s with phase := .stopped, readiness := reportUnexpectedExit message s.readiness }

theorem loopStep_move (display : DatabaseError → String) (s : PollLoop) (e : LoopEvent) :
    Move display s (loopStep display s e) := by
  cases e with
  | configure config => exact .configure config
  | elapse nanoseconds => exact .elapse nanoseconds
  | requestShutdown => exact .requestShutdown
  | launch =>
      simp only [loopStep]
      split
      next h =>
        split
        · exact .stop (.inl h)
        · exact .launch h
      next => exact .none
  | beginTick =>
      simp only [loopStep]
      split
      next h => exact .beginTick h.1
      next => exact .none
  | readParams =>
      simp only [loopStep]
      split
      next h => exact .readParams h
      next => exact .none
  | readConfig =>
      simp only [loopStep]
      split
      next h => exact .readConfig h
      next => exact .none
  | connected outcome =>
      simp only [loopStep]
      split
      next h =>
        cases outcome with
        | ok _ => exact .accept h
        | error error => exact .refuse h error
      next => exact .none
  | fetchFailed error =>
      simp only [loopStep]
      split
      next h => exact .fetchFailed h error
      next => exact .none
  | fetched poll lastPoll transformError =>
      simp only [loopStep]
      split
      next h => exact .fetched h poll lastPoll transformError
      next => exact .none
  | skip =>
      simp only [loopStep]
      split
      next h => exact .skip h
      next => exact .none
  | panic progress =>
      simp only [loopStep]
      split
      next h => exact .panic h progress
      next => exact .none
  | schedule =>
      simp only [loopStep]
      split
      next h => exact .schedule h _
      next => exact .none
  | observeShutdown =>
      simp only [loopStep]
      split
      next h => exact .observeShutdown h.1
      next => exact .none
  | probesJoined =>
      simp only [loopStep]
      split
      next h => exact .stop (.inr h)
      next => exact .none
  | exited message => exact .exited message

/-- What `try_reconnect` does before the second read. -/
theorem tryReconnect_cases (s : PollLoop) :
    (s.lastConnParams = connectionConfig s.config ∧ s.client.isSome = true ∧
      tryReconnect s =
        { s with paramsRead := connectionConfig s.config, phase := .fetching }) ∨
    (s.client = none ∧ s.now < s.reconnectNotBefore ∧
      tryReconnect s =
        { s with paramsRead := connectionConfig s.config, phase := .skipping }) ∨
    (s.lastConnParams = connectionConfig s.config ∧ s.client = none ∧
      s.reconnectNotBefore ≤ s.now ∧
      tryReconnect s =
        { s with
          paramsRead := connectionConfig s.config
          phase := .reconnecting (connectionConfig s.config) false
          attempts := ⟨s.now, s.reconnectFailures, false, false⟩ :: s.attempts }) ∨
    (s.lastConnParams ≠ connectionConfig s.config ∧
      tryReconnect s =
        { s with
          paramsRead := connectionConfig s.config
          client := none
          reconnectFailures := 0
          reconnectNotBefore := s.now
          phase := .reconnecting (connectionConfig s.config) true
          attempts := ⟨s.now, 0, true, false⟩ :: s.attempts }) := by
  by_cases hparams : s.lastConnParams = connectionConfig s.config
  · cases hclient : s.client with
    | some client => exact .inl ⟨hparams, rfl, by simp [tryReconnect, hparams, hclient]⟩
    | none =>
        by_cases hdue : s.now < s.reconnectNotBefore
        · exact .inr (.inl ⟨rfl, hdue, by simp [tryReconnect, hparams, hclient, hdue]⟩)
        · refine .inr (.inr (.inl ⟨hparams, rfl, by omega, ?_⟩))
          simp [tryReconnect, hparams, hclient, hdue]
  · exact .inr (.inr (.inr ⟨hparams, by simp [tryReconnect, hparams]⟩))

/-- How a fetch that came back is reported. -/
theorem finishFetch_cases (display : DatabaseError → String) (poll : Poll)
    (lastPoll transformError : String) (s : PollLoop) :
    ∃ engine : PollEngine, ∃ answered : PollLoop,
      answered =
        { s with
          engine := engine
          phase := .finishing
          lastTick := some ⟨s.tickConfig, poll, s.engine⟩ } ∧
      ((PollEngine.pollTick s.tickConfig poll s.engine = (.ready, engine) ∧
          finishFetch display poll lastPoll transformError s = markReady lastPoll answered) ∨
        (∃ message, finishFetch display poll lastPoll transformError s =
          markStorageFailure message answered) ∨
        finishFetch display poll lastPoll transformError s =
          markPollFailure transformError answered) := by
  rcases htick : PollEngine.pollTick s.tickConfig poll s.engine with ⟨readiness, engine⟩
  refine ⟨engine, _, rfl, ?_⟩
  cases readiness with
  | ready => exact .inl ⟨rfl, by simp only [finishFetch, htick]⟩
  | storageFailure errors =>
      refine .inr (.inl ⟨"; ".intercalate (errors.map (fun error => error.text display)), ?_⟩)
      simp only [finishFetch, htick]
  | pollFailure => exact .inr (.inr (by simp only [finishFetch, htick]))

/-! ## Clients -/

/-- The loop is about to connect. -/
def LoopPhase.Attempting (phase : LoopPhase) : Prop :=
  (∃ params changed, phase = .reconnecting params changed) ∨
    ∃ params changed target, phase = .connecting params changed target

/-- Where there is a client, and where there is none. -/
structure ClientPhase (s : PollLoop) : Prop where
  fetching : s.phase = .fetching → s.client.isSome = true
  attempting : LoopPhase.Attempting s.phase → s.client = none
  skipping : s.phase = .skipping → s.client = none

theorem ClientPhase.move {display : DatabaseError → String} {s s' : PollLoop}
    (h : ClientPhase s) (hmove : Move display s s') : ClientPhase s' := by
  cases hmove with
  | none => exact h
  | configure config => exact ⟨h.fetching, h.attempting, h.skipping⟩
  | elapse nanoseconds => exact ⟨h.fetching, h.attempting, h.skipping⟩
  | requestShutdown => exact ⟨h.fetching, h.attempting, h.skipping⟩
  | launch hphase => constructor <;> simp [LoopPhase.Attempting]
  | beginTick hphase => constructor <;> simp [LoopPhase.Attempting]
  | readParams hphase =>
      obtain ⟨_, hclient, heq⟩ | ⟨hclient, _, heq⟩ | ⟨_, hclient, _, heq⟩ | ⟨_, heq⟩ :=
        tryReconnect_cases s <;> rw [heq]
      · exact ⟨fun _ => hclient, by simp [LoopPhase.Attempting], by simp⟩
      · exact ⟨by simp, fun _ => hclient, fun _ => hclient⟩
      · exact ⟨by simp, fun _ => hclient, fun _ => hclient⟩
      · exact ⟨by simp, fun _ => rfl, fun _ => rfl⟩
  | readConfig hphase =>
      have hclient := h.attempting (.inl ⟨_, _, hphase⟩)
      constructor <;> simp [startConnecting, hclient]
  | accept hphase => constructor <;> simp [acceptConnection, LoopPhase.Attempting]
  | refuse hphase error =>
      have hclient := h.attempting (.inr ⟨_, _, _, hphase⟩)
      constructor <;>
        simp [refuseConnection, markConnectionFailure, markFailure, scheduleReconnect, hclient]
  | fetchFailed hphase error =>
      constructor <;> simp [markPollFailure, markFailure, scheduleReconnect]
  | fetched hphase poll lastPoll transformError =>
      obtain ⟨engine, _, rfl, ⟨_, heq⟩ | ⟨message, heq⟩ | heq⟩ :=
        finishFetch_cases display poll lastPoll transformError s <;> rw [heq] <;> constructor <;>
          simp [LoopPhase.Attempting, markReady, markStorageFailure, markPollFailure, markFailure,
            scheduleReconnect]
  | skip hphase => constructor <;> simp [LoopPhase.Attempting]
  | panic hphase progress =>
      constructor <;> simp [isolatePanic, markPollFailure, markFailure, scheduleReconnect]
  | schedule hphase nextPoll => constructor <;> simp [LoopPhase.Attempting]
  | observeShutdown hphase => constructor <;> simp [LoopPhase.Attempting]
  | stop hphase => constructor <;> simp [markStopped, LoopPhase.Attempting]
  | exited message => constructor <;> simp [LoopPhase.Attempting]

/-! ## Reports -/

/-- The failures that were reported since the last success. -/
def failuresSince : List Mark → Nat
  | .failure _ :: rest => failuresSince rest + 1
  | _ => 0

/-- The time of the last success. -/
def lastSuccess : List Mark → Option Nat
  | [] => none
  | .success time :: _ => some time
  | .failure _ :: rest => lastSuccess rest

/-- The state after the reports, of a loop that runs. -/
def stateAfter : List Mark → PollReadinessState
  | [] => .starting
  | .success _ :: _ => .ready
  | .failure _ :: _ => .degraded

/-- A point at which the readiness and the client agree. -/
def LoopPhase.Settled (phase : LoopPhase) : Prop :=
  phase ≠ .fetching ∧ ¬ LoopPhase.Attempting phase ∧ phase ≠ .stopped

/-- The counts and times of the reports, which no other step changes. -/
structure Tallied (s : PollLoop) : Prop where
  counted : s.consecutivePollFailures = min (failuresSince s.marks) maxFailures
  lastAt : s.readiness.lastSuccessfulAt = lastSuccess s.marks
  lastPoll : s.readiness.lastSuccessfulPoll.isSome = s.readiness.lastSuccessfulAt.isSome

/-- What the readiness says about the reports. -/
structure Reports (s : PollLoop) : Prop extends Tallied s where
  consecutive : s.phase ≠ .stopped →
    s.readiness.consecutiveFailures = s.consecutivePollFailures
  state : s.phase ≠ .stopped → s.readiness.state = stateAfter s.marks
  stopped : s.phase = .stopped →
    s.readiness.state = .stopped ∧ s.readiness.routerConnected = false
  lastError : s.phase ≠ .stopped →
    (s.readiness.lastError.isSome = true ↔ s.readiness.state = .degraded)
  connected : LoopPhase.Settled s.phase → s.readiness.routerConnected = s.client.isSome
  held : s.readiness.state = .ready → s.readiness.routerConnected = true
  skipping : s.phase = .skipping → stateAfter s.marks ≠ .ready
  recorded : stateAfter s.marks = .ready →
    ∃ tick, s.lastTick = some tick ∧ CleanTick tick.config tick.poll tick.engine s.engine

/-- A step that reports nothing and leaves the engine as it is. -/
theorem Reports.quiet {s s' : PollLoop} (h : Reports s) (hmarks : s'.marks = s.marks)
    (hcount : s'.consecutivePollFailures = s.consecutivePollFailures)
    (hreadiness : s'.readiness = s.readiness)
    (hlast : s'.engine = s.engine ∧ s'.lastTick = s.lastTick)
    (hskipping : s'.phase = .skipping → stateAfter s.marks ≠ .ready)
    (hstopped : s'.phase = .stopped ↔ s.phase = .stopped)
    (hconnected : LoopPhase.Settled s'.phase →
      LoopPhase.Settled s.phase ∧ s'.client = s.client) : Reports s' where
  counted := by rw [hcount, hmarks]; exact h.counted
  lastAt := by rw [hreadiness, hmarks]; exact h.lastAt
  lastPoll := by rw [hreadiness]; exact h.lastPoll
  consecutive := fun hrunning => by
    rw [hcount, hreadiness]
    exact h.consecutive (fun hphase => hrunning (hstopped.mpr hphase))
  state := fun hrunning => by
    rw [hreadiness, hmarks]
    exact h.state (fun hphase => hrunning (hstopped.mpr hphase))
  stopped := fun hphase => by
    rw [hreadiness]
    exact h.stopped (hstopped.mp hphase)
  lastError := fun hrunning => by
    rw [hreadiness]
    exact h.lastError (fun hphase => hrunning (hstopped.mpr hphase))
  connected := fun hsettled => by
    obtain ⟨hbefore, hclient⟩ := hconnected hsettled
    rw [hreadiness, hclient]
    exact h.connected hbefore
  held := by rw [hreadiness]; exact h.held
  skipping := by rw [hmarks]; exact hskipping
  recorded := by rw [hmarks, hlast.1, hlast.2]; exact h.recorded

/-- A report of success, of a tick that ended ready. -/
theorem reports_markReady {s : PollLoop} (lastPoll : String) (hrunning : s.phase ≠ .stopped)
    (hclient : s.client.isSome = true)
    (hphase : s.phase ≠ .skipping)
    (hclean : ∃ tick, s.lastTick = some tick ∧
      CleanTick tick.config tick.poll tick.engine s.engine) :
    Reports (s.markReady lastPoll) where
  counted := by simp [markReady, failuresSince]
  lastAt := rfl
  lastPoll := rfl
  consecutive := fun _ => rfl
  state := fun _ => rfl
  stopped := fun hstopped => absurd hstopped hrunning
  lastError := fun _ => by simp [markReady]
  connected := fun _ => hclient.symm
  held := fun _ => rfl
  skipping := fun hskipping => absurd hskipping hphase
  recorded := fun _ => hclean

/-- A report of a failure. -/
theorem Tallied.markFailure {s : PollLoop} (h : Tallied s) (connected : Bool) (message : String)
    (hrunning : s.phase ≠ .stopped)
    (hclient : LoopPhase.Settled s.phase → connected = s.client.isSome) :
    Reports (s.markFailure connected message) where
  counted := by
    simp only [PollLoop.markFailure, failuresSince, countFailure, h.counted]
    omega
  lastAt := h.lastAt
  lastPoll := h.lastPoll
  consecutive := fun _ => rfl
  state := fun _ => rfl
  stopped := fun hstopped => absurd hstopped hrunning
  lastError := fun _ => by simp [PollLoop.markFailure]
  connected := hclient
  held := fun hstate => by simp [PollLoop.markFailure] at hstate
  skipping := fun _ => by simp [PollLoop.markFailure, stateAfter]
  recorded := fun hstate => by simp [PollLoop.markFailure, stateAfter] at hstate

theorem Tallied.markPollFailure {s : PollLoop} (h : Tallied s) (message : String)
    (hrunning : s.phase ≠ .stopped) : Reports (s.markPollFailure message) :=
  have hlost : Tallied (scheduleReconnect { s with client := none }) :=
    ⟨h.counted, h.lastAt, h.lastPoll⟩
  hlost.markFailure false message hrunning (fun _ => rfl)

theorem Reports.move {display : DatabaseError → String} {s s' : PollLoop} (h : Reports s)
    (hclient : ClientPhase s) (hmove : Move display s s') : Reports s' := by
  cases hmove with
  | none => exact h
  | configure config => exact h.quiet rfl rfl rfl ⟨rfl, rfl⟩ h.skipping Iff.rfl (fun hsettled => ⟨hsettled, rfl⟩)
  | elapse nanoseconds =>
      exact h.quiet rfl rfl rfl ⟨rfl, rfl⟩ h.skipping Iff.rfl (fun hsettled => ⟨hsettled, rfl⟩)
  | requestShutdown => exact h.quiet rfl rfl rfl ⟨rfl, rfl⟩ h.skipping Iff.rfl (fun hsettled => ⟨hsettled, rfl⟩)
  | launch hphase =>
      exact h.quiet rfl rfl rfl ⟨rfl, rfl⟩ (by simp) (by simp [hphase])
        (fun _ => ⟨by simp [LoopPhase.Settled, LoopPhase.Attempting, hphase], rfl⟩)
  | beginTick hphase =>
      exact h.quiet rfl rfl rfl ⟨rfl, rfl⟩ (by simp) (by simp [hphase])
        (fun _ => ⟨by simp [LoopPhase.Settled, LoopPhase.Attempting, hphase], rfl⟩)
  | readParams hphase =>
      have hsettled : LoopPhase.Settled s.phase := by
        simp [LoopPhase.Settled, LoopPhase.Attempting, hphase]
      obtain ⟨_, _, heq⟩ | ⟨hnone, _, heq⟩ | ⟨_, _, _, heq⟩ | ⟨_, heq⟩ :=
        tryReconnect_cases s <;> rw [heq]
      · exact h.quiet rfl rfl rfl ⟨rfl, rfl⟩ (by simp) (by simp [hphase])
          (fun _ => ⟨hsettled, rfl⟩)
      · refine h.quiet rfl rfl rfl ⟨rfl, rfl⟩ (fun _ hready => ?_) (by simp [hphase])
          (fun _ => ⟨hsettled, rfl⟩)
        -- without a client the readiness reports none, so it is not ready
        have hconnected := h.held ((h.state (by simp [hphase])).trans hready)
        rw [h.connected hsettled, hnone] at hconnected
        cases hconnected
      · exact h.quiet rfl rfl rfl ⟨rfl, rfl⟩ (by simp) (by simp [hphase])
          (fun _ => ⟨hsettled, rfl⟩)
      · exact h.quiet rfl rfl rfl ⟨rfl, rfl⟩ (by simp) (by simp [hphase])
          (fun hlater => absurd (.inl ⟨_, _, rfl⟩) hlater.2.1)
  | readConfig hphase =>
      exact h.quiet rfl rfl rfl ⟨rfl, rfl⟩ (by simp [startConnecting]) (by simp [hphase, startConnecting])
        (fun hlater => absurd (.inr ⟨_, _, _, rfl⟩) hlater.2.1)
  | accept hphase =>
      exact h.quiet rfl rfl rfl ⟨rfl, rfl⟩ (by simp [acceptConnection])
        (by simp [hphase, acceptConnection])
        (fun hlater => absurd rfl hlater.1)
  | @refuse params target changed hphase error =>
      have hnone := hclient.attempting (.inr ⟨_, _, _, hphase⟩)
      have hscheduled : Tallied
          { scheduleReconnect s with
            lastConnParams := if changed then params else s.lastConnParams
            phase := .skipping } := ⟨h.counted, h.lastAt, h.lastPoll⟩
      exact hscheduled.markFailure false error (by simp) (fun _ => by simp [scheduleReconnect, hnone])
  | fetchFailed hphase error =>
      have hended : Tallied (endUnanswered s) := ⟨h.counted, h.lastAt, h.lastPoll⟩
      exact hended.markPollFailure error (by simp)
  | fetched hphase poll lastPoll transformError =>
      obtain ⟨engine, answered, rfl, hcases⟩ :=
        finishFetch_cases display poll lastPoll transformError s
      have hended : Tallied
          { s with
            engine := engine
            phase := .finishing
            lastTick := some ⟨s.tickConfig, poll, s.engine⟩ } :=
        ⟨h.counted, h.lastAt, h.lastPoll⟩
      have hsome := hclient.fetching hphase
      obtain ⟨htick, heq⟩ | ⟨message, heq⟩ | heq := hcases <;> rw [heq]
      · exact reports_markReady lastPoll (by simp) hsome (by simp)
          ⟨_, rfl, pollTick_ready htick⟩
      · exact hended.markFailure true message (by simp) (fun _ => hsome.symm)
      · exact hended.markPollFailure transformError (by simp)
  | skip hphase =>
      -- a tick is skipped only after a failure, so no clean tick is forgotten
      exact
        { counted := h.counted
          lastAt := h.lastAt
          lastPoll := h.lastPoll
          consecutive := fun _ => h.consecutive (by simp [hphase])
          state := fun _ => h.state (by simp [hphase])
          stopped := fun hstopped => by cases hstopped
          lastError := fun _ => h.lastError (by simp [hphase])
          connected := fun _ =>
            h.connected (by simp [LoopPhase.Settled, LoopPhase.Attempting, hphase])
          held := h.held
          skipping := fun hskipping => by cases hskipping
          recorded := fun hready => absurd hready (h.skipping hphase) }
  | panic hphase progress =>
      have hended : Tallied
          (endUnanswered
            { s with
              engine := if s.phase = .fetching then progressed s progress else s.engine }) :=
        ⟨h.counted, h.lastAt, h.lastPoll⟩
      exact hended.markPollFailure "poll tick panicked" (by simp)
  | schedule hphase nextPoll =>
      exact h.quiet rfl rfl rfl ⟨rfl, rfl⟩ (by simp) (by simp [hphase])
        (fun _ => ⟨by simp [LoopPhase.Settled, LoopPhase.Attempting, hphase], rfl⟩)
  | observeShutdown hphase =>
      exact h.quiet rfl rfl rfl ⟨rfl, rfl⟩ (by simp) (by simp [hphase])
        (fun _ => ⟨by simp [LoopPhase.Settled, LoopPhase.Attempting, hphase], rfl⟩)
  | stop hphase =>
      exact
        { counted := h.counted
          lastAt := h.lastAt
          lastPoll := h.lastPoll
          consecutive := fun hrunning => absurd rfl hrunning
          state := fun hrunning => absurd rfl hrunning
          stopped := fun _ => ⟨rfl, rfl⟩
          lastError := fun hrunning => absurd rfl hrunning
          connected := fun hsettled => absurd rfl hsettled.2.2
          held := fun hready => by cases hready
          skipping := fun hskipping => by cases hskipping
          recorded := h.recorded }
  | exited message =>
      exact
        { counted := h.counted
          lastAt := h.lastAt
          lastPoll := h.lastPoll
          consecutive := fun hrunning => absurd rfl hrunning
          state := fun hrunning => absurd rfl hrunning
          stopped := fun _ => ⟨rfl, rfl⟩
          lastError := fun hrunning => absurd rfl hrunning
          connected := fun hsettled => absurd rfl hsettled.2.2
          held := fun hready => by cases hready
          skipping := fun hskipping => by cases hskipping
          recorded := h.recorded }

/-! ## Attempts -/

/-- An attempt after this one, with the parameters as they are, would be paced. -/
structure Owes (s : PollLoop) (last : Attempt) : Prop where
  elapsed : last.startedAt + reconnectDelay s.reconnectFailures ≤ s.reconnectNotBefore
  counted : 1 ≤ s.reconnectFailures
  grown : last.accepted = false →
    countFailure maxFailures last.failures ≤ s.reconnectFailures

/-- The time of the last report of a failure. -/
def Mark.failedAt : Mark → Option Nat
  | .success _ => none
  | .failure time => some time

/-- The loop runs, and is not about to connect. -/
def LoopPhase.Idle (phase : LoopPhase) : Prop := ¬ LoopPhase.Attempting phase ∧ phase ≠ .stopped

/-- The attempts are paced, and the loop knows when the next one may start. -/
structure Pacing (s : PollLoop) : Prop where
  paced : PacedAttempts reconnectDelay maxFailures s.attempts
  past : ∀ last ∈ s.attempts.head?, last.startedAt ≤ s.now
  accepted : s.client.isSome = true → ∀ last ∈ s.attempts.head?, last.accepted = true
  present : LoopPhase.Attempting s.phase →
    ∀ last ∈ s.attempts.head?, last.failures = s.reconnectFailures ∧ last.accepted = false
  owes : s.client = none → LoopPhase.Idle s.phase → ∀ last ∈ s.attempts.head?, Owes s last
  soon : s.client = none → LoopPhase.Idle s.phase →
    s.reconnectNotBefore ≤ s.now ∨
      ∃ time ∈ s.marks.head?.bind Mark.failedAt,
        s.reconnectNotBefore ≤ time + maxReconnectDelaySecs * second

theorem reconnectDelay_le (failures : Nat) :
    reconnectDelay failures ≤ maxReconnectDelaySecs * second :=
  Nat.mul_le_mul_right second (min_le_right _ _)

theorem reconnectDelay_mono : Monotone reconnectDelay := by
  intro failures failures' h
  refine Nat.mul_le_mul_right second (min_le_min_right _ ?_)
  exact Nat.pow_le_pow_right (by decide) (min_le_min_right 5 (Nat.sub_le_sub_right h 1))

/-- A step that neither attempts to connect nor loses or gains a client. -/
theorem Pacing.quiet {s s' : PollLoop} (h : Pacing s) (hattempts : s'.attempts = s.attempts)
    (hnow : s.now ≤ s'.now) (hclient : s'.client = s.client)
    (hfailures : s'.reconnectFailures = s.reconnectFailures)
    (hnotBefore : s'.reconnectNotBefore = s.reconnectNotBefore) (hmarks : s'.marks = s.marks)
    (hphase : LoopPhase.Attempting s'.phase → LoopPhase.Attempting s.phase)
    (hidle : LoopPhase.Idle s'.phase → LoopPhase.Idle s.phase) : Pacing s' where
  paced := by rw [hattempts]; exact h.paced
  past := fun last hlast => (h.past last (by rwa [hattempts] at hlast)).trans hnow
  accepted := by rw [hclient, hattempts]; exact h.accepted
  present := by
    rw [hattempts, hfailures]
    exact fun hattempting => h.present (hphase hattempting)
  owes := by
    rw [hclient, hattempts]
    intro hnone hlater last hlast
    have howes := h.owes hnone (hidle hlater) last hlast
    exact ⟨by rw [hfailures, hnotBefore]; exact howes.elapsed, by rw [hfailures]; exact howes.counted,
      by rw [hfailures]; exact howes.grown⟩
  soon := by
    rw [hclient, hnotBefore, hmarks]
    intro hnone hlater
    exact (h.soon hnone (hidle hlater)).imp_left (fun hdue => hdue.trans hnow)

/-- After a failure that schedules the next attempt. -/
theorem Pacing.failed {s s' : PollLoop} (h : Pacing s) (hattempts : s'.attempts = s.attempts)
    (hnow : s'.now = s.now) (hclient : s'.client = none)
    (hfailures : s'.reconnectFailures = countFailure maxFailures s.reconnectFailures)
    (hnotBefore : s'.reconnectNotBefore = s.now + reconnectDelay s'.reconnectFailures)
    (hmark : s'.marks.head? = some (.failure s.now)) (hrunning : s.phase ≠ .stopped)
    (hphase : ¬ LoopPhase.Attempting s'.phase) : Pacing s' where
  paced := by rw [hattempts]; exact h.paced
  past := by rw [hattempts, hnow]; exact h.past
  accepted := fun hsome => by rw [hclient] at hsome; cases hsome
  present := fun hattempting => absurd hattempting hphase
  owes := by
    intro _ _ last hlast
    rw [hattempts] at hlast
    have hstarted := h.past last hlast
    refine ⟨by rw [hnotBefore]; omega, ?_, ?_⟩
    · rw [hfailures]
      exact one_le_countFailure (by simp [maxFailures]) _
    · intro hrefused
      rw [hfailures]
      refine countFailure_le_countFailure ?_
      by_cases hidle : LoopPhase.Attempting s.phase
      · exact .inl (h.present hidle last hlast).1.le
      · cases hc : s.client with
        | none => exact .inr ((h.owes hc ⟨hidle, hrunning⟩ last hlast).grown hrefused)
        | some client =>
            have haccepted := h.accepted (by simp [hc]) last hlast
            rw [hrefused] at haccepted
            cases haccepted
  soon := by
    intro _ _
    refine .inr ⟨s.now, by simp [hmark, Mark.failedAt], ?_⟩
    rw [hnotBefore]
    exact Nat.add_le_add_left (reconnectDelay_le _) _

/-- A step that keeps the client. -/
theorem Pacing.kept {s s' : PollLoop} (h : Pacing s) (hattempts : s'.attempts = s.attempts)
    (hnow : s'.now = s.now) (hclient : s'.client = s.client) (hsome : s.client.isSome = true)
    (hphase : ¬ LoopPhase.Attempting s'.phase) : Pacing s' where
  paced := by rw [hattempts]; exact h.paced
  past := by rw [hattempts, hnow]; exact h.past
  accepted := by rw [hclient, hattempts]; exact h.accepted
  present := fun hattempting => absurd hattempting hphase
  owes := fun hnone => by rw [← hclient, hnone] at hsome; cases hsome
  soon := fun hnone => by rw [← hclient, hnone] at hsome; cases hsome

/-- An attempt begins. -/
theorem Pacing.attempt {s s' : PollLoop} (h : Pacing s) {attempt : Attempt}
    (hattempts : s'.attempts = attempt :: s.attempts) (hnow : s'.now = attempt.startedAt)
    (hclient : s'.client = none) (hfailures : s'.reconnectFailures = attempt.failures)
    (hrefused : attempt.accepted = false) (hphase : LoopPhase.Attempting s'.phase)
    (hwaits : attempt.startsOver = true ∨
      ∀ last ∈ s.attempts.head?, Waits reconnectDelay maxFailures last attempt) : Pacing s' where
  paced := by rw [hattempts]; exact h.paced.cons hwaits
  past := by
    intro last hlast
    rw [hattempts] at hlast
    cases hlast
    exact hnow.ge
  accepted := fun hsome => by rw [hclient] at hsome; cases hsome
  present := by
    intro _ last hlast
    rw [hattempts] at hlast
    cases hlast
    exact ⟨hfailures.symm, hrefused⟩
  owes := fun _ hidle => absurd hphase hidle.1
  soon := fun _ hidle => absurd hphase hidle.1

/-- The newest attempt is accepted. -/
theorem Pacing.accept {s s' : PollLoop} (h : Pacing s)
    (hattempts : s'.attempts = acceptNewest s.attempts) (hnow : s'.now = s.now)
    (hsome : s'.client.isSome = true) (hphase : ¬ LoopPhase.Attempting s'.phase) : Pacing s' := by
  have hpaced := h.paced
  have hpast := h.past
  have hvacuous : s'.client ≠ none := by
    intro hnone
    rw [hnone] at hsome
    cases hsome
  cases hlist : s.attempts with
  | nil =>
      rw [hlist] at hattempts
      constructor <;> simp [hattempts, acceptNewest, PacedAttempts.nil, hvacuous]
  | cons newest rest =>
      rw [hlist] at hattempts hpaced hpast
      exact
        { paced := by rw [hattempts]; exact hpaced.accept true
          past := by
            intro last hlast
            rw [hattempts] at hlast
            cases hlast
            exact (hpast newest rfl).trans hnow.ge
          accepted := by
            intro _ last hlast
            rw [hattempts] at hlast
            cases hlast
            rfl
          present := fun hattempting => absurd hattempting hphase
          owes := fun hnone => absurd hnone hvacuous
          soon := fun hnone => absurd hnone hvacuous }

theorem Pacing.move {display : DatabaseError → String} {s s' : PollLoop} (h : Pacing s)
    (hclient : ClientPhase s) (hmove : Move display s s') : Pacing s' := by
  cases hmove with
  | none => exact h
  | configure config => exact h.quiet rfl le_rfl rfl rfl rfl rfl id id
  | elapse nanoseconds => exact h.quiet rfl (Nat.le_add_right _ _) rfl rfl rfl rfl id id
  | requestShutdown => exact h.quiet rfl le_rfl rfl rfl rfl rfl id id
  | launch hphase =>
      exact h.quiet rfl le_rfl rfl rfl rfl rfl (by simp [LoopPhase.Attempting])
        (fun _ => by simp [LoopPhase.Idle, LoopPhase.Attempting, hphase])
  | beginTick hphase =>
      exact h.quiet rfl le_rfl rfl rfl rfl rfl (by simp [LoopPhase.Attempting])
        (fun _ => by simp [LoopPhase.Idle, LoopPhase.Attempting, hphase])
  | readParams hphase =>
      have hidle : LoopPhase.Idle s.phase := by
        simp [LoopPhase.Idle, LoopPhase.Attempting, hphase]
      obtain ⟨_, _, heq⟩ | ⟨_, _, heq⟩ | ⟨_, hnone, hdue, heq⟩ | ⟨_, heq⟩ :=
        tryReconnect_cases s <;> rw [heq]
      · exact h.quiet rfl le_rfl rfl rfl rfl rfl (by simp [LoopPhase.Attempting]) (fun _ => hidle)
      · exact h.quiet rfl le_rfl rfl rfl rfl rfl (by simp [LoopPhase.Attempting]) (fun _ => hidle)
      · refine h.attempt rfl rfl hnone rfl rfl (.inl ⟨_, _, rfl⟩) (.inr ?_)
        intro last hlast
        have howes := h.owes hnone hidle last hlast
        exact ⟨howes.elapsed.trans hdue, howes.counted, howes.grown⟩
      · exact h.attempt rfl rfl rfl rfl rfl (.inl ⟨_, _, rfl⟩) (.inl rfl)
  | readConfig hphase =>
      exact h.quiet rfl le_rfl rfl rfl rfl rfl (fun _ => .inl ⟨_, _, hphase⟩)
        (fun hidle => absurd (.inr ⟨_, _, _, rfl⟩) hidle.1)
  | accept hphase => exact h.accept rfl rfl rfl (by simp [acceptConnection, LoopPhase.Attempting])
  | refuse hphase error =>
      have hnone := hclient.attempting (.inr ⟨_, _, _, hphase⟩)
      exact h.failed rfl rfl hnone rfl rfl rfl (by simp [hphase])
        (by simp [refuseConnection, LoopPhase.Attempting])
  | fetchFailed hphase error =>
      exact h.failed rfl rfl rfl rfl rfl rfl (by simp [hphase])
        (by simp [markPollFailure, markFailure, scheduleReconnect, LoopPhase.Attempting])
  | fetched hphase poll lastPoll transformError =>
      have hsome := hclient.fetching hphase
      obtain ⟨engine, _, rfl, ⟨_, heq⟩ | ⟨message, heq⟩ | heq⟩ :=
        finishFetch_cases display poll lastPoll transformError s <;> rw [heq]
      · exact h.kept rfl rfl rfl hsome (by simp [markReady, LoopPhase.Attempting])
      · exact h.kept rfl rfl rfl hsome
          (by simp [markStorageFailure, markFailure, LoopPhase.Attempting])
      · exact h.failed rfl rfl rfl rfl rfl rfl (by simp [hphase])
          (by simp [markPollFailure, markFailure, scheduleReconnect, LoopPhase.Attempting])
  | skip hphase =>
      exact h.quiet rfl le_rfl rfl rfl rfl rfl (by simp [LoopPhase.Attempting])
        (fun _ => by simp [LoopPhase.Idle, LoopPhase.Attempting, hphase])
  | panic hphase progress =>
      refine h.failed rfl rfl rfl rfl rfl rfl ?_
        (by simp [isolatePanic, markPollFailure, markFailure, scheduleReconnect,
          LoopPhase.Attempting])
      intro hstopped
      rw [hstopped] at hphase
      exact hphase
  | schedule hphase nextPoll =>
      exact h.quiet rfl le_rfl rfl rfl rfl rfl (by simp [LoopPhase.Attempting])
        (fun _ => by simp [LoopPhase.Idle, LoopPhase.Attempting, hphase])
  | observeShutdown hphase =>
      exact h.quiet rfl le_rfl rfl rfl rfl rfl (by simp [LoopPhase.Attempting])
        (fun _ => by simp [LoopPhase.Idle, LoopPhase.Attempting, hphase])
  | stop hphase =>
      exact h.quiet rfl le_rfl rfl rfl rfl rfl (by simp [markStopped, LoopPhase.Attempting])
        (fun hidle => absurd rfl hidle.2)
  | exited message =>
      exact h.quiet rfl le_rfl rfl rfl rfl rfl (by simp [LoopPhase.Attempting])
        (fun hidle => absurd rfl hidle.2)

/-! ## Parameters -/

/-- Which router the loop asks. -/
structure Chosen (s : PollLoop) : Prop where
  reconnecting : ∀ params changed, s.phase = .reconnecting params changed →
    params = s.paramsRead ∧ params = connectionConfig s.config
  connecting : ∀ params changed target, s.phase = .connecting params changed target →
    params = s.paramsRead ∧ target = params
  fetching : s.phase = .fetching → s.lastConnParams = s.paramsRead
  client : ∀ client, s.client = some client → client = s.lastConnParams

/-- The connection parameters do not change between the two reads of `try_reconnect`. -/
def KeepsParams (display : DatabaseError → String) (s : PollLoop) (e : LoopEvent) : Prop :=
  (∃ params changed, s.phase = .reconnecting params changed) →
    connectionConfig (loopStep display s e).config = connectionConfig s.config

/-- A step after which the loop is not about to connect or to fetch. -/
theorem Chosen.idle {s s' : PollLoop} (h : Chosen s)
    (hclient : s'.client = none ∨ s'.client = s.client ∧ s'.lastConnParams = s.lastConnParams)
    (hattempting : ¬ LoopPhase.Attempting s'.phase) (hfetching : s'.phase ≠ .fetching) :
    Chosen s' where
  reconnecting := fun params changed hphase => absurd (.inl ⟨params, changed, hphase⟩) hattempting
  connecting := fun params changed target hphase =>
    absurd (.inr ⟨params, changed, target, hphase⟩) hattempting
  fetching := fun hphase => absurd hphase hfetching
  client := by
    intro client hsome
    obtain hnone | ⟨hsame, hparams⟩ := hclient
    · rw [hnone] at hsome
      cases hsome
    · rw [hparams]
      exact h.client client (hsame ▸ hsome)

theorem Chosen.move {display : DatabaseError → String} {s s' : PollLoop} (h : Chosen s)
    (hclient : ClientPhase s) (hmove : Move display s s')
    (hkeeps : (∃ params changed, s.phase = .reconnecting params changed) →
      connectionConfig s'.config = connectionConfig s.config) : Chosen s' := by
  cases hmove with
  | none => exact h
  | configure config =>
      refine ⟨?_, h.connecting, h.fetching, h.client⟩
      intro params changed hphase
      obtain ⟨hread, hcurrent⟩ := h.reconnecting params changed hphase
      exact ⟨hread, hcurrent.trans (hkeeps ⟨params, changed, hphase⟩).symm⟩
  | elapse nanoseconds => exact ⟨h.reconnecting, h.connecting, h.fetching, h.client⟩
  | requestShutdown => exact ⟨h.reconnecting, h.connecting, h.fetching, h.client⟩
  | launch hphase =>
      exact h.idle (.inr ⟨rfl, rfl⟩) (by simp [LoopPhase.Attempting]) (by simp)
  | beginTick hphase =>
      exact h.idle (.inr ⟨rfl, rfl⟩) (by simp [LoopPhase.Attempting]) (by simp)
  | readParams hphase =>
      obtain ⟨hparams, _, heq⟩ | ⟨_, _, heq⟩ | ⟨hparams, _, _, heq⟩ | ⟨_, heq⟩ :=
        tryReconnect_cases s <;> rw [heq]
      · exact ⟨by simp, by simp, fun _ => hparams, h.client⟩
      · exact h.idle (.inr ⟨rfl, rfl⟩) (by simp [LoopPhase.Attempting]) (by simp)
      · refine ⟨?_, by simp, by simp, h.client⟩
        intro params changed hphase
        cases hphase
        exact ⟨rfl, rfl⟩
      · refine ⟨?_, by simp, by simp, by simp⟩
        intro params changed hphase
        cases hphase
        exact ⟨rfl, rfl⟩
  | @readConfig params changed hphase =>
      obtain ⟨hread, hcurrent⟩ := h.reconnecting params changed hphase
      refine ⟨by simp [startConnecting], ?_, by simp [startConnecting], h.client⟩
      intro params' changed' target hphase'
      cases hphase'
      exact ⟨hread, hcurrent.symm⟩
  | @accept params target changed hphase =>
      obtain ⟨hread, htarget⟩ := h.connecting params changed target hphase
      refine ⟨by simp [acceptConnection], by simp [acceptConnection], fun _ => hread, ?_⟩
      intro client hsome
      cases hsome
      exact htarget
  | refuse hphase error =>
      have hnone := hclient.attempting (.inr ⟨_, _, _, hphase⟩)
      exact h.idle (.inl hnone) (by simp [refuseConnection, LoopPhase.Attempting])
        (by simp [refuseConnection])
  | fetchFailed hphase error =>
      exact h.idle (.inl rfl)
        (by simp [markPollFailure, markFailure, scheduleReconnect, LoopPhase.Attempting])
        (by simp [markPollFailure, markFailure, scheduleReconnect])
  | fetched hphase poll lastPoll transformError =>
      obtain ⟨engine, _, rfl, ⟨_, heq⟩ | ⟨message, heq⟩ | heq⟩ :=
        finishFetch_cases display poll lastPoll transformError s <;> rw [heq]
      · exact h.idle (.inr ⟨rfl, rfl⟩) (by simp [markReady, LoopPhase.Attempting])
          (by simp [markReady])
      · exact h.idle (.inr ⟨rfl, rfl⟩)
          (by simp [markStorageFailure, markFailure, LoopPhase.Attempting])
          (by simp [markStorageFailure, markFailure])
      · exact h.idle (.inl rfl)
          (by simp [markPollFailure, markFailure, scheduleReconnect, LoopPhase.Attempting])
          (by simp [markPollFailure, markFailure, scheduleReconnect])
  | skip hphase =>
      exact h.idle (.inr ⟨rfl, rfl⟩) (by simp [LoopPhase.Attempting]) (by simp)
  | panic hphase progress =>
      exact h.idle (.inl rfl)
        (by simp [isolatePanic, markPollFailure, markFailure, scheduleReconnect,
          LoopPhase.Attempting])
        (by simp [isolatePanic, markPollFailure, markFailure, scheduleReconnect])
  | schedule hphase nextPoll =>
      exact h.idle (.inr ⟨rfl, rfl⟩) (by simp [LoopPhase.Attempting]) (by simp)
  | observeShutdown hphase =>
      exact h.idle (.inr ⟨rfl, rfl⟩) (by simp [LoopPhase.Attempting]) (by simp)
  | stop hphase =>
      exact h.idle (.inr ⟨rfl, rfl⟩) (by simp [markStopped, LoopPhase.Attempting])
        (by simp [markStopped])
  | exited message =>
      exact h.idle (.inr ⟨rfl, rfl⟩) (by simp [LoopPhase.Attempting]) (by simp)

/-! ## Runs -/

/-- What every step keeps. -/
structure LoopInv (s : PollLoop) : Prop where
  clientPhase : ClientPhase s
  reports : Reports s
  pacing : Pacing s

theorem LoopInv.new (config : MergedConfig) (db : TrafficDb) (start : Nat) :
    LoopInv (new config db start) where
  clientPhase := by constructor <;> simp [PollLoop.new]
  reports :=
    { counted := rfl
      lastAt := rfl
      lastPoll := rfl
      consecutive := fun _ => rfl
      state := fun _ => rfl
      stopped := fun hstopped => by cases hstopped
      lastError := fun _ => by simp [PollLoop.new, initialReadiness]
      connected := fun _ => rfl
      held := fun hstate => by cases hstate
      skipping := fun hskipping => by cases hskipping
      recorded := fun hstate => by cases hstate }
  pacing :=
    { paced := .nil
      past := by simp [PollLoop.new]
      accepted := by simp [PollLoop.new]
      present := by simp [PollLoop.new]
      owes := by simp [PollLoop.new]
      soon := fun _ _ => .inl le_rfl }

theorem LoopInv.step {display : DatabaseError → String} {s : PollLoop} (h : LoopInv s)
    (e : LoopEvent) : LoopInv (loopStep display s e) :=
  have hmove := loopStep_move display s e
  ⟨h.clientPhase.move hmove, h.reports.move h.clientPhase hmove,
    h.pacing.move h.clientPhase hmove⟩

theorem loopInv_after (display : DatabaseError → String) (config : MergedConfig)
    (db : TrafficDb) (start : Nat) (events : List LoopEvent) :
    LoopInv (after display config db start events) :=
  run_preserves (fun _ e hs => hs.step e) (LoopInv.new config db start) events

/-! ## Readiness -/

/-- What the readiness and its answer tell about the loop. -/
structure ReadinessTold (s : PollLoop) : Prop where
  running : s.phase ≠ .stopped →
    s.readiness.state = stateAfter s.marks ∧
    s.readiness.consecutiveFailures = min (failuresSince s.marks) maxFailures
  lastSuccess : s.readiness.lastSuccessfulAt = lastSuccess s.marks
  connected : LoopPhase.Settled s.phase → s.readiness.routerConnected = s.client.isSome
  expected : s.phase = .fetching → s.client.isSome = true
  answer : ∀ interval now, (readinessResponse s.readiness interval now).statusCode = 200 ↔
    s.phase ≠ .stopped ∧ ∃ time earlier, s.marks = .success time :: earlier ∧
      now - time ≤ staleAfterSecs interval * second
  clean : ∀ interval now, (readinessResponse s.readiness interval now).statusCode = 200 →
    ∃ tick, s.lastTick = some tick ∧ CleanTick tick.config tick.poll tick.engine s.engine

theorem statusCode_iff (readiness : PollReadiness) (interval : UInt64) (now : Nat) :
    (readinessResponse readiness interval now).statusCode = 200 ↔
      readiness.state = .ready ∧ ∃ time, readiness.lastSuccessfulAt = some time ∧
        now - time ≤ staleAfterSecs interval * second := by
  simp [readinessResponse, Option.any_eq_true]

theorem stateAfter_eq_ready {marks : List Mark} (h : stateAfter marks = .ready) :
    ∃ time earlier, marks = .success time :: earlier := by
  match marks, h with
  | .success time :: earlier, _ => exact ⟨time, earlier, rfl⟩

theorem LoopInv.statusCode {s : PollLoop} (h : LoopInv s) (interval : UInt64) (now : Nat) :
    (readinessResponse s.readiness interval now).statusCode = 200 ↔
      s.phase ≠ .stopped ∧ ∃ time earlier, s.marks = .success time :: earlier ∧
        now - time ≤ staleAfterSecs interval * second := by
  rw [statusCode_iff, h.reports.lastAt]
  constructor
  · rintro ⟨hready, time, hlast, hfresh⟩
    have hrunning : s.phase ≠ .stopped := by
      intro hstopped
      rw [(h.reports.stopped hstopped).1] at hready
      cases hready
    rw [h.reports.state hrunning] at hready
    obtain ⟨time', earlier, hmarks⟩ := stateAfter_eq_ready hready
    rw [hmarks] at hlast
    cases hlast
    exact ⟨hrunning, time, earlier, hmarks, hfresh⟩
  · rintro ⟨hrunning, time, earlier, hmarks, hfresh⟩
    refine ⟨?_, time, ?_, hfresh⟩
    · rw [h.reports.state hrunning, hmarks]
      rfl
    · rw [hmarks]
      rfl

/-- In every run the readiness is the summary of what the ticks reported, and an answer
of 200 means that the last of them was clean and recent. -/
theorem readiness_told (display : DatabaseError → String) (config : MergedConfig)
    (db : TrafficDb) (start : Nat) (events : List LoopEvent) :
    ReadinessTold (after display config db start events) := by
  have h := loopInv_after display config db start events
  refine
    { running := fun hrunning => ⟨h.reports.state hrunning, ?_⟩
      lastSuccess := h.reports.lastAt
      connected := h.reports.connected
      expected := h.clientPhase.fetching
      answer := h.statusCode
      clean := fun interval now hok => ?_ }
  · rw [h.reports.consecutive hrunning, h.reports.counted]
  · obtain ⟨_, time, earlier, hmarks, _⟩ := (h.statusCode interval now).mp hok
    exact h.reports.recorded (by rw [hmarks]; rfl)

/-! ## The pace of the attempts -/

/-- The seconds that a number of refusals in a row wait for. -/
def rowSeconds (refusals : Nat) : Nat :=
  if refusals ≤ 5 then 2 ^ refusals - 1 else 31 + 30 * (refusals - 5)

theorem totalDelay_reconnectDelay (refusals : Nat) :
    totalDelay reconnectDelay maxFailures refusals = rowSeconds refusals * second := by
  induction refusals with
  | zero => rfl
  | succ n ih =>
      rw [totalDelay, ih, reconnectDelay, ← Nat.add_mul]
      congr 1
      by_cases hn : n ≤ 5
      · interval_cases n <;> rfl
      · have hexponent : min (min (n + 1) maxFailures - 1) 5 = 5 := by
          simp only [maxFailures]
          omega
        rw [hexponent]
        simp only [rowSeconds, maxReconnectDelaySecs]
        split <;> split <;> omega

/-- How the attempts to connect follow each other. -/
structure AttemptsPaced (s : PollLoop) : Prop where
  waits : PacedAttempts reconnectDelay maxFailures s.attempts
  row : ∀ newer newest between oldest older,
    s.attempts = newer ++ (newest :: (between ++ [oldest]) ++ older) →
    (∀ attempt ∈ newest :: between, attempt.startsOver = false) →
    (∀ attempt ∈ between ++ [oldest], attempt.accepted = false) →
    oldest.startedAt + rowSeconds (between.length + 1) * second ≤ newest.startedAt
  soon : s.phase = .polling → s.client = none →
    (∀ time ∈ s.marks.head?.bind Mark.failedAt,
      time + maxReconnectDelaySecs * second ≤ s.now) →
    LoopPhase.Attempting (tryReconnect s).phase

/-- In every run, attempts with unchanged parameters wait for the delay of their
failures, and a tick without a client attempts again at the latest when the largest
delay has passed since the last report of a failure. -/
theorem attempts_paced (display : DatabaseError → String) (config : MergedConfig)
    (db : TrafficDb) (start : Nat) (events : List LoopEvent) :
    AttemptsPaced (after display config db start events) := by
  have h := (loopInv_after display config db start events).pacing
  generalize after display config db start events = s at h
  refine { waits := h.paced, row := ?_, soon := ?_ }
  · intro newer newest between oldest older hattempts hover haccepted
    have hpaced := h.paced
    rw [hattempts] at hpaced
    have hrow : PacedAttempts reconnectDelay maxFailures (newest :: (between ++ [oldest])) :=
      hpaced.right_of_append.left_of_append
    have htotal := (hrow.refused reconnectDelay_mono hover haccepted).1
    rwa [totalDelay_reconnectDelay] at htotal
  · intro hphase hnone hquiet
    have hidle : LoopPhase.Idle s.phase := by simp [LoopPhase.Idle, LoopPhase.Attempting, hphase]
    have hdue : s.reconnectNotBefore ≤ s.now := by
      obtain hdue | ⟨time, htime, hdue⟩ := h.soon hnone hidle
      · exact hdue
      · exact hdue.trans (hquiet time htime)
    obtain ⟨_, hsome, _⟩ | ⟨_, hearly, _⟩ | ⟨_, _, _, heq⟩ | ⟨_, heq⟩ := tryReconnect_cases s
    · rw [hnone] at hsome
      cases hsome
    · omega
    · rw [heq]
      exact .inl ⟨_, _, rfl⟩
    · rw [heq]
      exact .inl ⟨_, _, rfl⟩

/-! ## The router that is asked -/

theorem chosen_after {display : DatabaseError → String} {config : MergedConfig}
    {db : TrafficDb} {start : Nat} {events : List LoopEvent}
    (hkeeps : Along (loopStep display) (KeepsParams display) (new config db start) events) :
    Chosen (after display config db start events) := by
  have hnew : Chosen (new config db start) := by constructor <;> simp [new]
  have hstep : ∀ s e, ClientPhase s ∧ Chosen s → KeepsParams display s e →
      ClientPhase (loopStep display s e) ∧ Chosen (loopStep display s e) := by
    intro s e hs hguard
    have hmove := loopStep_move display s e
    exact ⟨hs.1.move hmove, hs.2.move hs.1 hmove hguard⟩
  have hrun := run_invariant hstep ⟨(LoopInv.new config db start).clientPhase, hnew⟩ hkeeps
  exact hrun.2

/-- When the parameters do not change between the two reads of an attempt, every fetch
goes to the router that the tick read from the configuration, and its answer is recorded
under the host of that router. -/
theorem fetches_router_read (display : DatabaseError → String) (config : MergedConfig)
    (db : TrafficDb) (start : Nat) (events : List LoopEvent)
    (hkeeps : Along (loopStep display) (KeepsParams display) (new config db start) events)
    (hfetching : (after display config db start events).phase = .fetching) :
    (after display config db start events).client =
        some (after display config db start events).paramsRead ∧
      (after display config db start events).tickConfig.routerHost =
        (after display config db start events).paramsRead.host := by
  have hchosen := chosen_after hkeeps
  have hsome := (loopInv_after display config db start events).clientPhase.fetching hfetching
  have hread := hchosen.fetching hfetching
  obtain ⟨client, hclient⟩ := Option.isSome_iff_exists.mp hsome
  refine ⟨?_, ?_⟩
  · rw [hclient, hchosen.client client hclient, hread]
  · rw [tickConfig, hread]

/-- A first tick that connects, of a loop whose configuration is replaced before it. -/
def movedTick : List LoopEvent :=
  [.configure (deployedAt "10.0.0.2"), .launch, .beginTick, .readParams, .readConfig,
    .connected (.ok ())]

theorem fetches_router_read_moved :
    (after (fun _ => "") (deployedAt "10.0.0.1") TrafficDb.empty 0 movedTick).client =
        some (connectionConfig (deployedAt "10.0.0.2")) ∧
      (after (fun _ => "") (deployedAt "10.0.0.1") TrafficDb.empty 0 movedTick).tickConfig.routerHost
        = "10.0.0.2" := by
  have hkeeps : Along (loopStep (fun _ => "")) (KeepsParams (fun _ => ""))
      (new (deployedAt "10.0.0.1") TrafficDb.empty 0) movedTick := by
    refine ⟨?_, fun _ => rfl, fun _ => rfl, fun _ => rfl, fun _ => rfl, fun _ => rfl, trivial⟩
    rintro ⟨params, changed, hphase⟩
    cases hphase
  exact fetches_router_read (fun _ => "") (deployedAt "10.0.0.1") TrafficDb.empty 0 movedTick
    hkeeps rfl

-- replaced between the two reads and back: the loop keeps asking the other router
example :
    let s := after (fun _ => "") (deployedAt "10.0.0.1") TrafficDb.empty 0
      [.launch, .beginTick, .readParams, .configure (deployedAt "10.0.0.2"), .readConfig,
        .connected (.ok ()), .configure (deployedAt "10.0.0.1")]
    s.phase = .fetching ∧ s.client.map (fun client => client.host) = some "10.0.0.2" ∧
      s.tickConfig.routerHost = "10.0.0.1" :=
  ⟨rfl, rfl, rfl⟩

end PollLoop

end RouterView.Poller
