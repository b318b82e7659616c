/-
  Ws/LiveHistory.lean --- the live traffic points of the poller.

  `poll_tick` of `poller/engine.rs`, in what concerns the aggregate traffic: a tick
  that has a rate adds a point to a history of six hours, and copies the history
  into its snapshot.  The snapshot goes to the cache, and to the clients as a whole
  or as an update.  Instants are numbers of nanoseconds; how the text of a timestamp
  is parsed is an argument.

  Left out: the history of every uplink, which is kept in the same way, the smoothing of a
  chart, and the reconnection of the router, apart from what it clears.
-/
import RouterView.Foundation.Run
import RouterView.Poller.ExactTraffic
import RouterView.Ws.Protocol

set_option autoImplicit false

namespace RouterView.Ws

open RouterView.Foundation
open RouterView.Poller (InterfaceEntry calculateCounterRate asSecsF64)

/-! ## Rates -/

/-- The baseline of the rates: `prev_counters`, `prev_uptime_seconds` and
`last_successful_sample_at`, which are set and cleared together. -/
structure RateBaseline where
  counters : String → Option (UInt64 × UInt64)
  uptimeSeconds : Option UInt64
  sampledAt : Nat

/-- `RateContext`. -/
structure RateContext where
  previousCounters : Option (String → Option (UInt64 × UInt64))
  previousUptimeSeconds : Option UInt64
  currentUptimeSeconds : Option UInt64
  elapsedSecs : Option F64

/-- The bits per second of one counter, zero where there is no rate. -/
def counterBps (previous current : Option UInt64) (context : RateContext) : F64 :=
  (current.bind (fun current =>
    (calculateCounterRate previous current context.previousUptimeSeconds
      context.currentUptimeSeconds context.elapsedSecs).bitsPerSecond)).getD (.finite 0)

/-- `calculate_interface_rates`. -/
def calculateInterfaceRates (iface : InterfaceEntry) (context : RateContext) : F64 × F64 :=
  let previous := context.previousCounters.bind (fun counters => counters iface.name)
  (counterBps (previous.map Prod.fst) iface.rxByte context,
    counterBps (previous.map Prod.snd) iface.txByte context)

/-- The rates of a WAN added to the sums. -/
def addWanRate (context : RateContext) (sums : F64 × F64) :
    Option InterfaceEntry → F64 × F64
  | some iface =>
      let rates := calculateInterfaceRates iface context
      (sums.1.add rates.1, sums.2.add rates.2)
  | none => sums

/-- `extract_traffic`: the interfaces are those of the WANs. -/
def extractTraffic (allWans : List (Option InterfaceEntry)) (context : RateContext)
    (now : String) : List TrafficPoint :=
  let sums := allWans.foldl (addWanRate context) (.finite 0, .finite 0)
  if sums.1.isPositive || sums.2.isPositive then [⟨now, sums.1, sums.2, none⟩] else []

/-! ## Data -/

/-- What a poll fetched: the router that it is of, when it could be resolved; what
the rates are calculated from; the other fields of the snapshot, whose timestamp the
points get; and the time at which the history is pruned. -/
structure Fetched where
  routerId : Option Int
  monotonic : Nat
  uptimeSeconds : Option UInt64
  interfaces : List InterfaceEntry
  allWans : List (Option InterfaceEntry)
  rest : DashboardSnapshot
  clock : Int

/-- The counters of an interface, if it has both. -/
def InterfaceEntry.bothCounters (iface : InterfaceEntry) : Option (UInt64 × UInt64) :=
  iface.rxByte.bind (fun rx => iface.txByte.map (fun tx => (rx, tx)))

/-- The counters by name: of interfaces of one name, those of the last one. -/
def Fetched.currentCounters (fetched : Fetched) (name : String) : Option (UInt64 × UInt64) :=
  fetched.interfaces.reverse.findSome? (fun iface =>
    if iface.name = name then InterfaceEntry.bothCounters iface else none)

/-- What the rates of the next tick start from. -/
def Fetched.rateBaseline (fetched : Fetched) : RateBaseline :=
  ⟨fetched.currentCounters, fetched.uptimeSeconds, fetched.monotonic⟩

/-- The context of the rates since the baseline. -/
def Fetched.rateContext (fetched : Fetched) (baseline : Option RateBaseline) : RateContext where
  previousCounters := baseline.map (fun b => b.counters)
  previousUptimeSeconds := baseline.bind (fun b => b.uptimeSeconds)
  currentUptimeSeconds := fetched.uptimeSeconds
  elapsedSecs := baseline.map (fun b => asSecsF64 (fetched.monotonic - b.sampledAt))

/-- The fields of the poll engine that a tick's traffic depends on.  The points of
the router scope are all those that were pushed in it, which the code does not
store. -/
structure LivePoller where
  connected : Bool
  activeRouterId : Option Int
  rateBaseline : Option RateBaseline
  prevSnapshot : Option DashboardSnapshot
  firstPoll : Bool
  trafficHistory : List TrafficPoint
  snapshotCache : Option DashboardSnapshot
  scopePoints : List TrafficPoint

/-- The engine before its first tick, with or without a client. -/
def LivePoller.initial (connected : Bool) : LivePoller where
  connected := connected
  activeRouterId := none
  rateBaseline := none
  prevSnapshot := none
  firstPoll := true
  trafficHistory := []
  snapshotCache := none
  scopePoints := []

namespace LivePoller

/-- `switch_router_scope`, and the same where the router could not be resolved. -/
def switchRouterScope (router : Option Int) (s : LivePoller) : LivePoller :=
  if s.activeRouterId = router then s
  else
    { s with
      activeRouterId := router
      rateBaseline := none
      prevSnapshot := none
      firstPoll := true
      trafficHistory := []
      snapshotCache := none
      scopePoints := [] }

/-- `mark_poll_failure`. -/
def markPollFailure (s : LivePoller) : LivePoller :=
  { s with connected := false, firstPoll := true, rateBaseline := none }

/-- The aggregate point of a poll, in a list that is empty where there is none. -/
def latestPoints (fetched : Fetched) (s : LivePoller) : List TrafficPoint :=
  extractTraffic fetched.allWans
    (fetched.rateContext (s.switchRouterScope fetched.routerId).rateBaseline) fetched.rest.timestamp

/-- `fetch_and_transform`: the snapshot is that of this poll alone. -/
def fetchAndTransform (fetched : Fetched) (s : LivePoller) : DashboardSnapshot × LivePoller :=
  ({ fetched.rest with traffic := s.latestPoints fetched },
    { s.switchRouterScope fetched.routerId with rateBaseline := some fetched.rateBaseline })

/-- The message of a tick that wrote the cache. -/
def message (snapshot : DashboardSnapshot) (s : LivePoller) : Option ServerMessage :=
  if s.firstPoll then some (.snapshot snapshot)
  else s.prevSnapshot.bind (fun previous =>
    let update := diffSnapshots previous snapshot
    if hasChanges update then some (.update update) else none)

/-- What the poller keeps of a tick that sent its message. -/
def keep (snapshot : DashboardSnapshot) (s : LivePoller) : LivePoller :=
  { s with prevSnapshot := some snapshot, firstPoll := false }

end LivePoller

/-! ## Ticks -/

/-- Six hours. -/
def sixHours : Int := 6 * 3600 * 1000000000

section

variable (parse : String → Option Int)

/-- The point is from the six hours before the time. -/
def recentAt (now : Int) (point : TrafficPoint) : Bool :=
  (parse point.timestamp).any (fun time => decide (now - sixHours ≤ time))

/-- The latest point is pushed to the history, which is pruned and copied into the
snapshot; without a point the snapshot stays as it is. -/
def pushLatest (clock : Int) (snapshot : DashboardSnapshot) (s : LivePoller) :
    DashboardSnapshot × LivePoller :=
  match snapshot.traffic.head? with
  | some point =>
      let history := (s.trafficHistory ++ [point]).filter (recentAt parse clock)
      ({ snapshot with traffic := history },
        { s with trafficHistory := history, scopePoints := s.scopePoints ++ [point] })
  | none => (snapshot, s)

/-- The snapshot of a poll and the poller after its point was pushed. -/
def buildSnapshot (fetched : Fetched) (s : LivePoller) : DashboardSnapshot × LivePoller :=
  let transformed := s.fetchAndTransform fetched
  pushLatest parse fetched.clock transformed.1 transformed.2

/-- How far a tick comes. -/
inductive TickStage where
  | started
  | fetched
  | pushed
  | written
  | sent
  deriving DecidableEq, Repr

/-- What a tick does: the state that it leaves, what it writes to the cache and what
it broadcasts. -/
structure TickEffect where
  state : LivePoller
  written : Option DashboardSnapshot
  sent : Option ServerMessage

/-- A tick of a connected poller up to the stage. -/
def reach (fetched : Fetched) (s : LivePoller) : TickStage → TickEffect
  | .started => ⟨s, none, none⟩
  | .fetched => ⟨(s.fetchAndTransform fetched).2, none, none⟩
  | .pushed => ⟨(buildSnapshot parse fetched s).2, none, none⟩
  | .written =>
      let built := buildSnapshot parse fetched s
      ⟨{ built.2 with snapshotCache := some built.1 }, some built.1, none⟩
  | .sent =>
      let built := buildSnapshot parse fetched s
      ⟨{ built.2 with snapshotCache := some built.1 }.keep built.1, some built.1,
        built.2.message built.1⟩

/-- How a tick of a connected poller ends: the fetch fails, the tick panics after a
stage, or it completes. -/
inductive TickOutcome where
  | failed
  | panicked (stage : TickStage) (fetched : Fetched)
  | completed (fetched : Fetched)

/-- A tick: whether the connection parameters changed, whether a new connection is
accepted where one is tried, the time in a status message, and how the tick ends. -/
structure PollTick where
  paramsChanged : Bool
  accepted : Bool
  lastPoll : String
  outcome : TickOutcome

/-- `try_reconnect`. -/
def tryReconnect (tick : PollTick) (s : LivePoller) : LivePoller :=
  if !tick.paramsChanged && s.connected then s
  else
    let dropped :=
      if tick.paramsChanged then { s with connected := false, rateBaseline := none } else s
    if tick.accepted then { dropped with connected := true, firstPoll := true } else dropped

/-- The end of a tick of a connected poller. -/
def finishTick (lastPoll : String) (s : LivePoller) : TickOutcome → TickEffect
  | .failed => ⟨s.markPollFailure, none, some (.connectionStatus false (some lastPoll))⟩
  | .panicked stage fetched =>
      let reached := reach parse fetched s stage
      { reached with state := reached.state.markPollFailure }
  | .completed fetched => reach parse fetched s .sent

/-- `poll_tick`, and what the poll loop does about a panic. -/
def pollTick (s : LivePoller) (tick : PollTick) : TickEffect :=
  let connection := tryReconnect tick s
  if connection.connected then finishTick parse tick.lastPoll connection tick.outcome
  else ⟨connection, none, some (.connectionStatus false (some tick.lastPoll))⟩

/-- The state after a tick. -/
def pollStep (s : LivePoller) (tick : PollTick) : LivePoller := (pollTick parse s tick).state

end

/-! ## Observations -/

/-- What a tick fetched, if its fetch succeeded. -/
def TickOutcome.fetched? : TickOutcome → Option Fetched
  | .failed => none
  | .panicked .started _ => none
  | .panicked _ fetched => some fetched
  | .completed fetched => some fetched

/-- The tick reads no earlier time than the ticks before it. -/
def NoEarlier (ticks : List PollTick) (now : Int) : Prop :=
  ∀ tick ∈ ticks, ∀ fetched ∈ tick.outcome.fetched?, fetched.clock ≤ now

/-- The wall clock is never set back from one tick to a later one. -/
def ClockAdvances (ticks : List PollTick) : Prop :=
  ticks.Pairwise (fun earlier later => ∀ before ∈ earlier.outcome.fetched?,
    ∀ after ∈ later.outcome.fetched?, before.clock ≤ after.clock)

end RouterView.Ws
