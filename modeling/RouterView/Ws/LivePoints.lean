/-
  Ws/LivePoints.lean --- how live traffic points reach a client.

  The poller, the broadcast channel and one session of the dashboard.  A tick writes
  the cache in one step and sends its message in a later one, and a session reads the
  cache after it subscribed or lagged.  `handleSnapshot` and `handleUpdate` of
  `stores/dashboard.ts` replace the client's traffic buffer, or append to it.

  The poller's clock and the browser's are two clocks, and neither is related to the other.
  Left out: the history of every uplink, and messages between a session and its client,
  which arrive in the order in which they were sent.
-/
import RouterView.Foundation.AppendLog
import RouterView.Ws.Hub
import RouterView.Ws.LiveHistorySpec

set_option autoImplicit false

namespace RouterView.Ws

open RouterView.Foundation

/-! ## States -/

/-- A session with the traffic buffer of its client, and how many points there were
when its first snapshot was delivered, which the code does not store. -/
structure LiveSession where
  phase : SessionPhase
  position : Nat
  trafficBuffer : List TrafficPoint
  since : Option Nat

/-- The poller, the message of its tick that is not sent yet, the channel, a session,
and the latest time that the poller and the client have each read from its own clock. -/
structure LiveHub where
  poller : LivePoller
  outbox : Option ServerMessage
  log : List ServerMessage
  session : LiveSession
  pollerClock : Int
  clientClock : Int

/-- The hub before the first tick and before the session. -/
def LiveHub.initial (connected : Bool) (pollerClock clientClock : Int) : LiveHub where
  poller := LivePoller.initial connected
  outbox := none
  log := []
  session := ⟨.closed, 0, [], none⟩
  pollerClock := pollerClock
  clientClock := clientClock

/-! ## Steps -/

inductive LiveEvent where
  /-- A tick up to its write of the cache. -/
  | tick (tick : PollTick)
  /-- The tick sends its message. -/
  | send
  | subscribe
  /-- The session reads the cache, and the client handles what it is sent. -/
  | readCache (now : Int)
  /-- The session receives, and the client handles what it is sent. -/
  | receive (now : Int)

section

variable (parse : String → Option Int)

/-- The client's test of a point: its clock and its timestamps have milliseconds. -/
def clientRecentAt (now : Int) (point : TrafficPoint) : Bool :=
  (parse point.timestamp).any (fun time =>
    decide (now / 1000000 - sixHours / 1000000 ≤ time / 1000000))

/-- The traffic buffer after `handleSnapshot` or `handleUpdate`. -/
def handleTraffic (now : Int) (buffer : List TrafficPoint) : ServerMessage → List TrafficPoint
  | .snapshot d => d.traffic.filter (clientRecentAt parse now)
  | .update u =>
      match u.traffic with
      | some point => (buffer ++ [point]).filter (clientRecentAt parse now)
      | none => buffer
  | .connectionStatus _ _ => buffer

namespace LiveHub

/-- The client handles a message. -/
def deliver (now : Int) (message : ServerMessage) (s : LiveHub) : LiveHub :=
  { s with
    clientClock := max s.clientClock now
    session := { s.session with
      trafficBuffer := handleTraffic parse now s.session.trafficBuffer message
      since := match message with
        | .snapshot _ => s.session.since.or (some s.poller.scopePoints.length)
        | _ => s.session.since } }

/-- The session reads the cache, and sends the snapshot if there is one. -/
def readCache (now : Int) (s : LiveHub) : LiveHub :=
  let read := match s.poller.snapshotCache with
    | some d => s.deliver parse now (.snapshot d)
    | none => { s with clientClock := max s.clientClock now }
  { read with session := { read.session with phase := .streaming } }

/-- The session receives. -/
def receive (capacity : Nat) (now : Int) (s : LiveHub) : LiveHub :=
  match Foundation.receive capacity s.log s.session.position with
  | .nothing => s
  | .lagged position =>
      { s with session := { s.session with phase := .lagging, position := position } }
  | .message message =>
      let delivered := s.deliver parse now message
      { delivered with session := { delivered.session with position := s.session.position + 1 } }

end LiveHub

variable (capacity : Nat)

/-- A step of the hub.  A party that is not at the step stays where it is. -/
def liveStep (s : LiveHub) : LiveEvent → LiveHub
  | .tick tick =>
      if s.outbox.isSome then s
      else
        let effect := pollTick parse s.poller tick
        { s with
          poller := effect.state
          outbox := effect.sent
          pollerClock := (tick.outcome.fetched?.map (fun fetched =>
            max s.pollerClock fetched.clock)).getD s.pollerClock }
  | .send =>
      match s.outbox with
      | some message => { s with log := s.log ++ [message], outbox := none }
      | none => s
  | .subscribe =>
      match s.session.phase with
      | .closed =>
          { s with session := { s.session with phase := .subscribed, position := s.log.length } }
      | _ => s
  | .readCache now =>
      match s.session.phase with
      | .subscribed | .lagging => s.readCache parse now
      | _ => s
  | .receive now =>
      match s.session.phase with
      | .streaming => s.receive parse capacity now
      | _ => s

end

/-! ## Observations -/

/-- The point is recent by both clocks. -/
def recentOnBoth (parse : String → Option Int) (pollerNow clientNow : Int) (point : TrafficPoint) :
    Bool :=
  recentAt parse pollerNow point && recentAt parse clientNow point

/-- What a message does to a traffic buffer that is not pruned. -/
def ServerMessage.entry : ServerMessage → LogEntry TrafficPoint
  | .snapshot d => .reset d.traffic
  | .update u =>
      match u.traffic with
      | some point => .append point
      | none => .skip
  | .connectionStatus _ _ => .skip

namespace LiveHub

/-- The messages that were sent, and the one that is not sent yet. -/
def entries (s : LiveHub) : List (LogEntry TrafficPoint) :=
  (s.log ++ s.outbox.toList).map ServerMessage.entry

/-- What the session has still to receive. -/
def queued (s : LiveHub) : List (LogEntry TrafficPoint) := s.entries.drop s.session.position

/-- The points since the first delivered snapshot that are from the last six hours, by
the clock of the poller and by that of the client. -/
def required (parse : String → Option Int) (s : LiveHub) (pollerNow clientNow : Int) :
    List TrafficPoint :=
  match s.session.since with
  | some count => (s.poller.scopePoints.drop count).filter (recentOnBoth parse pollerNow clientNow)
  | none => []

/-- The snapshot that the session would read has the points. -/
def cachedPoints (s : LiveHub) : List TrafficPoint :=
  (s.poller.snapshotCache.map (fun d => d.traffic)).getD s.session.trafficBuffer

/-- The session has received every message that was sent or is to be sent. -/
def CaughtUp (capacity : Nat) (s : LiveHub) : Prop :=
  s.session.phase = .streaming ∧ s.outbox = none ∧
    Foundation.receive capacity s.log s.session.position = .nothing

end LiveHub

/-! ## When points are neither doubled nor lost -/

section

variable (parse : String → Option Int)

/-- A tick on which the points of a session can rely: the point of the tick is of its
time; the router stays the same; a whole snapshot is due only where no point is live
that the session has to show; and no panic comes between a point and its message. -/
structure TickKeeps (s : LiveHub) (tick : PollTick) : Prop where
  stamped : ∀ fetched ∈ tick.outcome.fetched?,
    ∀ point ∈ (tryReconnect tick s.poller).latestPoints fetched,
      recentAt parse fetched.clock point = true
  scope : ∀ fetched ∈ tick.outcome.fetched?,
    fetched.routerId = s.poller.activeRouterId ∨ s.poller.scopePoints = []
  whole : (tryReconnect tick s.poller).firstPoll = true →
    ∀ fetched ∈ tick.outcome.fetched?,
      s.required parse (max s.pollerClock fetched.clock) s.clientClock = []
  sent : s.session.since ≠ none → ∀ stage fetched, tick.outcome = .panicked stage fetched →
    stage = .pushed ∨ stage = .written → (tryReconnect tick s.poller).latestPoints fetched = []

/-- A read of the cache on which the points of a session can rely: the cached snapshot
has no point, or no update with a point is queued before the next whole snapshot; and
after a lag what the session has to show is in the one or the other. -/
structure ReadKeeps (s : LiveHub) (now : Int) : Prop where
  apart : s.cachedPoints = [] ∨ direct s.queued = []
  complete : s.session.phase = .lagging → ¬HasReset s.queued →
    (s.required parse s.pollerClock (max s.clientClock now)).Sublist
      (s.cachedPoints ++ direct s.queued)

/-- An event after which no point is doubled or lost. -/
def Seamless (s : LiveHub) : LiveEvent → Prop
  | .tick tick => s.outbox = none → TickKeeps parse s tick
  | .readCache now =>
      s.session.phase = .subscribed ∨ s.session.phase = .lagging → ReadKeeps parse s now
  | _ => True

end

end RouterView.Ws
