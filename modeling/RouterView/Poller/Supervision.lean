/-
  Poller/Supervision.lean --- the loop around the ticks of the poll engine.

  `run` of `poller/engine.rs` with `try_reconnect` and the functions that report the
  readiness, and the answer of `readiness_check` in `api/system.rs`.  A step is what
  the loop does between two points at which it awaits; between steps the
  configuration may change, time passes, a shutdown may be requested, and a tick may
  panic.

  Scope: the branches of the loop that poll, connect and end.  The branch of the probes, with
  its own timer and tasks, is `Poller/Probes.lean`; here it shows only where the loop waits
  for the tasks at its end.  Left out: log lines, the HTTP client that a connection
  consists of (whether it connects is an event), and the snapshot that a tick builds and
  broadcasts.

  `lastTick` is not a field of the source.  It remembers the answer of the last tick, so
  that a report can be compared with what it reports about.
-/
import RouterView.Foundation.Backoff
import RouterView.Poller.PollTick

set_option autoImplicit false

namespace RouterView.Poller

open RouterView.Config
open RouterView.Foundation
open RouterView.Db

/-! ## Connections -/

/-- `RouterConnectionConfig`, and the tuple of connection parameters that the loop
compares, which has the same fields. -/
structure RouterConnectionConfig where
  routerType : RouterType
  host : String
  port : UInt16
  scheme : String
  username : String
  password : String
  acceptInvalidCerts : Bool
  managementCidrs : List IpNet
  allowInsecureHttp : Bool
  deriving DecidableEq, Repr

/-- The connection parameters of a configuration. -/
def connectionConfig (config : MergedConfig) : RouterConnectionConfig where
  routerType := config.routerType
  host := config.routerHost
  port := config.routerPort
  scheme := config.routerScheme
  username := config.routerUsername
  password := config.routerPassword
  acceptInvalidCerts := config.acceptInvalidCerts
  managementCidrs := config.routerManagementCidrs
  allowInsecureHttp := config.allowInsecureRouterHttp

/-- The largest `u32`, where the counts of failures stop. -/
def maxFailures : Nat := 2 ^ 32 - 1

/-- A second, in the nanoseconds of `Instant`. -/
def second : Nat := 1000000000

/-- `MAX_RECONNECT_DELAY_SECS`. -/
def maxReconnectDelaySecs : Nat := 30

/-- `reconnect_delay`. -/
def reconnectDelay (failures : Nat) : Nat :=
  min (2 ^ min (failures - 1) 5) maxReconnectDelaySecs * second

/-! ## Readiness -/

/-- `PollReadinessState`. -/
inductive PollReadinessState where
  | starting
  | ready
  | degraded
  | stopped
  deriving DecidableEq, Repr

/-- `PollReadiness`. -/
structure PollReadiness where
  state : PollReadinessState
  routerConnected : Bool
  consecutiveFailures : Nat
  lastSuccessfulPoll : Option String
  lastSuccessfulAt : Option Nat
  lastError : Option String
  deriving DecidableEq, Repr

/-- The readiness that a new engine reports. -/
def initialReadiness : PollReadiness where
  state := .starting
  routerConnected := false
  consecutiveFailures := 0
  lastSuccessfulPoll := none
  lastSuccessfulAt := none
  lastError := none

/-- `report_unexpected_exit`. -/
def reportUnexpectedExit (message : String) (previous : PollReadiness) : PollReadiness where
  state := .stopped
  routerConnected := false
  consecutiveFailures := countFailure maxFailures previous.consecutiveFailures
  lastSuccessfulPoll := previous.lastSuccessfulPoll
  lastSuccessfulAt := previous.lastSuccessfulAt
  lastError := some message

/-- The fields of the answer of `readiness_response` that depend on the readiness. -/
structure ReadinessResponse where
  statusCode : Nat
  reason : String
  staleAfterSecs : Nat
  poller : PollReadiness
  deriving DecidableEq, Repr

/-- `stale_after_secs`: a product of `u64` that saturates. -/
def staleAfterSecs (pollIntervalSecs : UInt64) : Nat :=
  max (min (pollIntervalSecs.toNat * 3) (2 ^ 64 - 1)) 15

/-- `readiness_response`. -/
def readinessResponse (readiness : PollReadiness) (pollIntervalSecs : UInt64) (now : Nat) :
    ReadinessResponse :=
  let fresh := readiness.lastSuccessfulAt.any
    (fun lastSuccess => decide (now - lastSuccess ≤ staleAfterSecs pollIntervalSecs * second))
  { statusCode := if readiness.state = .ready ∧ fresh then 200 else 503
    reason := match readiness.state with
      | .starting => "poller_starting"
      | .degraded => "poller_degraded"
      | .stopped => "poller_stopped"
      | .ready => if fresh then "ready" else "poller_stale"
    staleAfterSecs := staleAfterSecs pollIntervalSecs
    poller := readiness }

/-! ## The loop -/

/-- Where the loop awaits: before it starts, in `select!`, for the configuration at the
start of a tick, for it once more before a connection, for the connection, for the
answer of the router, for its turn to say that there is no connection, for the interval
after a tick, for the probes at the end; or it has returned. -/
inductive LoopPhase where
  | launching
  | waiting
  | polling
  | reconnecting (params : RouterConnectionConfig) (changed : Bool)
  | connecting (params : RouterConnectionConfig) (changed : Bool)
      (target : RouterConnectionConfig)
  | fetching
  | skipping
  | finishing
  | stopping
  | stopped
  deriving DecidableEq, Repr

/-- What was reported, and when. -/
inductive Mark where
  | success (time : Nat)
  | failure (time : Nat)
  deriving DecidableEq, Repr

/-- The answer that a tick fetched, and what the tick was given with it. -/
structure TickAnswer where
  config : MergedConfig
  poll : Poll
  engine : PollEngine

/-- The fields of `PollEngine` that the loop uses, with the configuration that it shares,
the clock, and the flag of the shutdown.  The code does not store the parameters that
the present tick read, the attempts to connect, the reports, newest first, and the
answer of the last tick that ended, none where that tick had no answer. -/
structure PollLoop where
  engine : PollEngine
  config : MergedConfig
  now : Nat
  nextPoll : Nat
  phase : LoopPhase
  client : Option RouterConnectionConfig
  lastConnParams : RouterConnectionConfig
  reconnectFailures : Nat
  reconnectNotBefore : Nat
  consecutivePollFailures : Nat
  readiness : PollReadiness
  shutdown : Bool
  paramsRead : RouterConnectionConfig
  attempts : List Attempt
  marks : List Mark
  lastTick : Option TickAnswer

namespace PollLoop

/-- `PollEngine::new`. -/
def new (config : MergedConfig) (db : TrafficDb) (now : Nat) : PollLoop where
  engine := PollEngine.new db
  config := config
  now := now
  nextPoll := now
  phase := .launching
  client := none
  lastConnParams := connectionConfig config
  reconnectFailures := 0
  reconnectNotBefore := now
  consecutivePollFailures := 0
  readiness := initialReadiness
  shutdown := false
  paramsRead := connectionConfig config
  attempts := []
  marks := []
  lastTick := none

/-! ## Reports -/

/-- `schedule_reconnect`. -/
def scheduleReconnect (s : PollLoop) : PollLoop :=
  let failures := countFailure maxFailures s.reconnectFailures
  { s with
    reconnectFailures := failures
    reconnectNotBefore := s.now + reconnectDelay failures }

/-- `mark_ready`. -/
def markReady (lastPoll : String) (s : PollLoop) : PollLoop :=
  { s with
    consecutivePollFailures := 0
    readiness :=
      { state := .ready
        routerConnected := true
        consecutiveFailures := 0
        lastSuccessfulPoll := some lastPoll
        lastSuccessfulAt := some s.now
        lastError := none }
    marks := .success s.now :: s.marks }

/-- A failure that is reported with or without a connection. -/
def markFailure (routerConnected : Bool) (message : String) (s : PollLoop) : PollLoop :=
  let failures := countFailure maxFailures s.consecutivePollFailures
  { s with
    consecutivePollFailures := failures
    readiness :=
      { state := .degraded
        routerConnected := routerConnected
        consecutiveFailures := failures
        lastSuccessfulPoll := s.readiness.lastSuccessfulPoll
        lastSuccessfulAt := s.readiness.lastSuccessfulAt
        lastError := some message }
    marks := .failure s.now :: s.marks }

/-- `mark_poll_failure`. -/
def markPollFailure (message : String) (s : PollLoop) : PollLoop :=
  markFailure false message (scheduleReconnect { s with client := none })

/-- `mark_storage_failure`. -/
def markStorageFailure (message : String) (s : PollLoop) : PollLoop := markFailure true message s

/-- `mark_connection_failure`. -/
def markConnectionFailure (message : String) (s : PollLoop) : PollLoop :=
  markFailure false message s

/-- `mark_stopped`, at the end of `run`. -/
def markStopped (s : PollLoop) : PollLoop :=
  { s with
    phase := .stopped
    readiness := { s.readiness with state := .stopped, routerConnected := false } }

/-! ## Ticks -/

/-- `try_reconnect`, up to the second read of the configuration. -/
def tryReconnect (s : PollLoop) : PollLoop :=
  let currentParams := connectionConfig s.config
  let read := { s with paramsRead := currentParams }
  if s.lastConnParams = currentParams then
    if s.client.isSome then { read with phase := .fetching }
    else if s.now < s.reconnectNotBefore then { read with phase := .skipping }
    else
      { read with
        phase := .reconnecting currentParams false
        attempts := ⟨s.now, s.reconnectFailures, false, false⟩ :: s.attempts }
  else
    { read with
      client := none
      reconnectFailures := 0
      reconnectNotBefore := s.now
      phase := .reconnecting currentParams true
      attempts := ⟨s.now, 0, true, false⟩ :: s.attempts }

/-- The second read of `try_reconnect`. -/
def startConnecting (params : RouterConnectionConfig) (changed : Bool) (s : PollLoop) : PollLoop :=
  { s with phase := .connecting params changed (connectionConfig s.config) }

/-- The newest attempt was accepted. -/
def acceptNewest : List Attempt → List Attempt
  | attempt :: rest => { attempt with accepted := true } :: rest
  | [] => []

/-- `connect_backend` gave a client. -/
def acceptConnection (params target : RouterConnectionConfig) (s : PollLoop) : PollLoop :=
  { s with
    client := some target
    lastConnParams := params
    reconnectFailures := 0
    reconnectNotBefore := s.now
    phase := .fetching
    attempts := acceptNewest s.attempts }

/-- `connect_backend` failed. -/
def refuseConnection (params : RouterConnectionConfig) (changed : Bool) (error : String)
    (s : PollLoop) : PollLoop :=
  let scheduled := scheduleReconnect s
  { markConnectionFailure error
      { scheduled with
        lastConnParams := if changed then params else scheduled.lastConnParams } with
    phase := .skipping }

/-- The configuration of a tick: the host that the router may be known by is that of
the last parameters. -/
def tickConfig (s : PollLoop) : MergedConfig :=
  { s.config with routerHost := s.lastConnParams.host }

variable (display : DatabaseError → String)

/-- The end of a tick whose fetch came back. -/
def finishFetch (poll : Poll) (lastPoll transformError : String) (s : PollLoop) : PollLoop :=
  let answered := { s with phase := .finishing, lastTick := some ⟨s.tickConfig, poll, s.engine⟩ }
  match PollEngine.pollTick s.tickConfig poll s.engine with
  | (.ready, engine) => markReady lastPoll { answered with engine := engine }
  | (.storageFailure errors, engine) =>
      markStorageFailure ("; ".intercalate (errors.map (fun error => error.text display)))
        { answered with engine := engine }
  | (.pollFailure, engine) => markPollFailure transformError { answered with engine := engine }

/-- A tick ends without an answer. -/
def endUnanswered (s : PollLoop) : PollLoop := { s with phase := .finishing, lastTick := none }

@[simp] theorem endUnanswered_phase (s : PollLoop) : (endUnanswered s).phase = .finishing := rfl

@[simp] theorem endUnanswered_client (s : PollLoop) : (endUnanswered s).client = s.client := rfl

/-- How far a tick came that panics: before the answer was used, after its counters were
recorded, or after the maintenance. -/
inductive TickProgress where
  | none
  | recorded (poll : Poll)
  | maintained (poll : Poll)

/-- The engine that a panic leaves. -/
def progressed (s : PollLoop) : TickProgress → PollEngine
  | .none => s.engine
  | .recorded poll => (PollEngine.fetchAndTransform s.tickConfig poll s.engine).2
  | .maintained poll => (PollEngine.pollTick s.tickConfig poll s.engine).2

/-- A tick is being executed. -/
def LoopPhase.InTick : LoopPhase → Prop
  | .launching => False
  | .waiting => False
  | .finishing => False
  | .stopping => False
  | .stopped => False
  | _ => True

instance (phase : LoopPhase) : Decidable (LoopPhase.InTick phase) := by
  cases phase <;> unfold LoopPhase.InTick <;> infer_instance

/-- The panic of a tick, which `run` isolates. -/
def isolatePanic (progress : TickProgress) (s : PollLoop) : PollLoop :=
  let engine := if s.phase = .fetching then progressed s progress else s.engine
  markPollFailure "poll tick panicked" (endUnanswered { s with engine := engine })

/-! ## Steps -/

/-- What happens to the loop. -/
inductive LoopEvent where
  | configure (config : MergedConfig)
  | elapse (nanoseconds : Nat)
  | requestShutdown
  | launch
  | beginTick
  | readParams
  | readConfig
  | connected (outcome : Except String Unit)
  | fetchFailed (error : String)
  | fetched (poll : Poll) (lastPoll transformError : String)
  | skip
  | panic (progress : TickProgress)
  | schedule
  | observeShutdown
  | probesJoined
  | exited (message : String)

/-- One step; an event for which the loop does not wait changes nothing. -/
def loopStep (s : PollLoop) : LoopEvent → PollLoop
  | .configure config => { s with config := config }
  | .elapse nanoseconds => { s with now := s.now + nanoseconds }
  | .requestShutdown => { s with shutdown := true }
  | .launch =>
      if s.phase = .launching then
        if s.shutdown then markStopped s else { s with phase := .waiting, nextPoll := s.now }
      else s
  | .beginTick =>
      if s.phase = .waiting ∧ s.nextPoll ≤ s.now then { s with phase := .polling } else s
  | .readParams => if s.phase = .polling then tryReconnect s else s
  | .readConfig =>
      match s.phase with
      | .reconnecting params changed => startConnecting params changed s
      | _ => s
  | .connected outcome =>
      match s.phase with
      | .connecting params changed target =>
          match outcome with
          | .ok () => acceptConnection params target s
          | .error error => refuseConnection params changed error s
      | _ => s
  | .fetchFailed error =>
      if s.phase = .fetching then markPollFailure error (endUnanswered s) else s
  | .fetched poll lastPoll transformError =>
      if s.phase = .fetching then finishFetch display poll lastPoll transformError s else s
  | .skip => if s.phase = .skipping then endUnanswered s else s
  | .panic progress => if LoopPhase.InTick s.phase then isolatePanic progress s else s
  | .schedule =>
      if s.phase = .finishing then
        { s with phase := .waiting, nextPoll := s.now + s.config.pollIntervalSecs.toNat * second }
      else s
  | .observeShutdown =>
      -- the select is biased: a poll that is due comes first
      if s.phase = .waiting ∧ s.shutdown ∧ s.now < s.nextPoll then { s with phase := .stopping }
      else s
  | .probesJoined => if s.phase = .stopping then markStopped s else s
  | .exited message =>
      { s with phase := .stopped, readiness := reportUnexpectedExit message s.readiness }

/-- The loop after a run from a new engine. -/
def after (config : MergedConfig) (db : TrafficDb) (start : Nat) (events : List LoopEvent) :
    PollLoop :=
  run (loopStep display) (new config db start) events

end PollLoop

end RouterView.Poller
