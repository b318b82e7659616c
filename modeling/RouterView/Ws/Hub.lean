/-
  Ws/Hub.lean --- the poller, the override requests and the sessions of the dashboard.

  What they share is the snapshot cache, the broadcast channel and the table of
  overrides.  Each step is what a party does between two points at which others
  run: `poll_tick` of `poller/engine.rs`, `update_override` of `api/devices.rs` and
  `run_session` of `ws/session.rs`.  The channel keeps its newest messages.

  Scope: the order of the messages and what they carry.  Left out: the network between a
  session and its client, and the list that a request for an override is answered with.
-/
import RouterView.Ws.Fields
import RouterView.Foundation.Pending
import RouterView.Foundation.Run

set_option autoImplicit false

namespace RouterView.Ws

open RouterView.Foundation

/-! ## States -/

/-- A snapshot, with the poll and the router that it is of and what that poll fetched,
which the code does not store. -/
structure Polled where
  poll : Nat
  router : Option Int
  fetched : DashboardSnapshot
  data : DashboardSnapshot

/-- A copy with the overrides applied. -/
def Polled.withOverrides (lower : String → String) (rows : List DeviceOverride) (p : Polled) :
    Polled :=
  { p with data := p.data.withOverrides lower rows }

/-- What the poll fetched, with the overrides applied. -/
def Polled.shownWith (lower : String → String) (rows : List DeviceOverride) (p : Polled) :
    Polled :=
  { p with data := p.fetched.withOverrides lower rows }

/-- Where the poller is in a tick. -/
inductive PollerPhase where
  | idle
  /-- The router of the fetched data is resolved. -/
  | polling
  /-- The snapshot is built, overrides included. -/
  | built (p : Polled)
  /-- The cache is written, and the message not yet sent. -/
  | written (p : Polled)

/-- Where a request for an override is. -/
inductive RequestPhase where
  | absent
  /-- The table is written. -/
  | stored
  /-- The cache was read, and overrides were applied to the copy. -/
  | copied (copy : Polled)
  /-- The copy is written to the cache, and the message not yet sent. -/
  | cached (copy : Polled)
  | finished

/-- Where a session is. -/
inductive SessionPhase where
  | closed
  /-- It receives, and has not read the cache yet. -/
  | subscribed
  | streaming
  /-- It lagged, and has not read the cache again yet. -/
  | lagging
  deriving DecidableEq, Repr

/-- A session, with what its client shows. -/
structure Session where
  phase : SessionPhase
  position : Nat
  view : DiffedFields

/-- What the parties share, and the state of each. -/
structure Hub where
  overrides : List DeviceOverride
  cache : Option Polled
  log : List ServerMessage
  poller : PollerPhase
  prevSnapshot : Option DashboardSnapshot
  firstPoll : Bool
  activeRouter : Option Int
  /-- The number of polls that wrote the cache, and the last one of them. -/
  polls : Nat
  latest : Option Polled
  requests : Phases RequestPhase
  sessions : Nat → Session

/-- The hub before the first tick.  The clients show whatever they did before. -/
def Hub.initial (overrides : List DeviceOverride) (views : Nat → DiffedFields) : Hub where
  overrides := overrides
  cache := none
  log := []
  poller := .idle
  prevSnapshot := none
  firstPoll := true
  activeRouter := none
  polls := 0
  latest := none
  requests := .all .absent
  sessions := fun k => ⟨.closed, 0, views k⟩

/-! ## Steps -/

inductive HubEvent where
  /-- A tick without a router connection. -/
  | skip (lastPoll : String)
  /-- A tick builds a new connection before it polls. -/
  | reconnect
  /-- The data is fetched and its router resolved, or not. -/
  | resolve (router : Option Int)
  /-- The tick fails. -/
  | fail (lastPoll : String)
  | build (fetched : DashboardSnapshot)
  | write
  | broadcast
  | store (i : Nat) (mac : String) (customName customType : Option String)
  | copy (i : Nat)
  | writeBack (i : Nat)
  | announce (i : Nat)
  | subscribe (k : Nat)
  /-- The session reads the cache, after it subscribed or lagged. -/
  | readCache (k : Nat)
  | receive (k : Nat)
  | close (k : Nat)

namespace Hub

def send (s : Hub) (message : ServerMessage) : Hub := { s with log := s.log ++ [message] }

abbrev setRequest (s : Hub) (i : Nat) (phase : RequestPhase) : Hub :=
  { s with requests := s.requests.set i phase }

def setSession (s : Hub) (k : Nat) (session : Session) : Hub :=
  { s with sessions := Function.update s.sessions k session }

/-- `switch_router_scope`, and the same where the router could not be resolved. -/
def switchRouterScope (s : Hub) (router : Option Int) : Hub :=
  if s.activeRouter = router then s
  else { s with
    activeRouter := router
    prevSnapshot := none
    firstPoll := true
    cache := none }

/-- The message of a tick that wrote the cache, and what the poller keeps of it. -/
def broadcast (s : Hub) (p : Polled) : Hub :=
  let kept := { s with prevSnapshot := some p.data, firstPoll := false, poller := .idle }
  if s.firstPoll then kept.send (.snapshot p.data)
  else match s.prevSnapshot with
    | some previous =>
        let update := diffSnapshots previous p.data
        if hasChanges update then kept.send (.update update) else kept
    | none => kept

/-- A session that reads the cache. -/
def readCache (s : Hub) (k : Nat) : Hub :=
  let session := s.sessions k
  match s.cache with
  | some p => s.setSession k { session with phase := .streaming, view := p.data.diffed }
  | none => s.setSession k { session with phase := .streaming }

/-- A session that receives. -/
def receive (capacity : Nat) (s : Hub) (k : Nat) : Hub :=
  let session := s.sessions k
  match Foundation.receive capacity s.log session.position with
  | .nothing => s
  | .lagged position => s.setSession k { session with phase := .lagging, position := position }
  | .message message => s.setSession k { session with
      position := session.position + 1
      view := message.deliver session.view }

end Hub

section

variable (lower : String → String) (capacity : Nat)

/-- A step of the hub.  A party that is not at the step stays where it is. -/
def hubStep (s : Hub) : HubEvent → Hub
  | .skip lastPoll =>
      match s.poller with
      | .idle => s.send (.connectionStatus false (some lastPoll))
      | _ => s
  | .reconnect =>
      match s.poller with
      | .idle => { s with firstPoll := true }
      | _ => s
  | .resolve router =>
      match s.poller with
      | .idle => { s.switchRouterScope router with poller := .polling }
      | _ => s
  | .fail lastPoll =>
      match s.poller with
      | .idle | .polling =>
          { s with poller := .idle, firstPoll := true }.send
            (.connectionStatus false (some lastPoll))
      | _ => s
  | .build fetched =>
      match s.poller with
      | .polling =>
          let snapshot := fetched.withOverrides lower s.overrides
          { s with poller := .built ⟨s.polls + 1, s.activeRouter, fetched, snapshot⟩ }
      | _ => s
  | .write =>
      match s.poller with
      | .built p => { s with
          poller := .written p, cache := some p, latest := some p, polls := p.poll }
      | _ => s
  | .broadcast =>
      match s.poller with
      | .written p => s.broadcast p
      | _ => s
  | .store i mac customName customType =>
      match s.requests i with
      | .absent =>
          let rows := upsertDeviceOverride mac customName customType s.overrides
          { s with overrides := rows }.setRequest i .stored
      | _ => s
  | .copy i =>
      match s.requests i, s.cache with
      | .stored, some p => s.setRequest i (.copied (p.withOverrides lower s.overrides))
      | .stored, none => s.setRequest i .finished
      | _, _ => s
  | .writeBack i =>
      match s.requests i with
      | .copied copy => { s with cache := some copy }.setRequest i (.cached copy)
      | _ => s
  | .announce i =>
      match s.requests i with
      | .cached copy => (s.send (.snapshot copy.data)).setRequest i .finished
      | _ => s
  | .subscribe k =>
      match (s.sessions k).phase with
      | .closed => s.setSession k ⟨.subscribed, s.log.length, (s.sessions k).view⟩
      | _ => s
  | .readCache k =>
      match (s.sessions k).phase with
      | .subscribed | .lagging => s.readCache k
      | _ => s
  | .receive k =>
      match (s.sessions k).phase with
      | .streaming => s.receive capacity k
      | _ => s
  | .close k => s.setSession k { s.sessions k with phase := .closed }

end

/-! ## Observations -/

namespace Hub

/-- No request is between its write of the table and its end. -/
def Calm (s : Hub) : Prop := ∀ i, s.requests i = .absent ∨ s.requests i = .finished

/-- The request is between its read of the cache and its message. -/
def Replacing (s : Hub) (i : Nat) : Prop :=
  ∃ copy, s.requests i = .copied copy ∨ s.requests i = .cached copy

/-- The poller is between building a snapshot and its message. -/
def Publishing (s : Hub) : Prop := ∃ p, s.poller = .built p ∨ s.poller = .written p

/-- The session has delivered every queued message. -/
def CaughtUp (capacity : Nat) (s : Hub) (k : Nat) : Prop :=
  (s.sessions k).phase = .streaming ∧
    Foundation.receive capacity s.log (s.sessions k).position = .nothing

end Hub

end RouterView.Ws
