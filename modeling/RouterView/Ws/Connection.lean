/-
  Ws/Connection.lean --- the browser's connection.

  `stores/websocket.ts`, with the parts of the page that it reads and that call
  it back: the sockets, the timers, the session checks that wait for an answer,
  and the connectivity of the browser.  The order of the calls and callbacks is
  free, so delays are left out; whether the constructor of a socket throws is a
  matter of the browser, and an argument.

  Scope: one page.  Left out: what the messages carry (`Ws/Dashboard.lean`), the other
  pages of the browser, and the suspension of timers in a hidden tab.
-/
import RouterView.Ws.Dashboard
import RouterView.Foundation.Pending
import RouterView.Foundation.Run

set_option autoImplicit false

namespace RouterView.Ws

open RouterView.Foundation

/-! ## Messages -/

/-- The dashboard's store, with the fields that are about the connection. -/
structure Dashboard where
  store : DashboardStore
  wsConnected : Bool
  freshnessNowMs : Int

/-- `refreshFreshness`. -/
def Dashboard.refreshFreshness (now : Int) (d : Dashboard) : Dashboard :=
  { d with freshnessNowMs := now }

/-- `handleConnectionStatus`. -/
def Dashboard.handleConnectionStatus (connected : Bool) (lastPoll : Json) (now : Int)
    (d : Dashboard) : Dashboard where
  store := { d.store with
    routerosConnected := connected
    lastPollTimestamp := if lastPoll.truthy then some lastPoll else d.store.lastPollTimestamp }
  wsConnected := d.wsConnected
  freshnessNowMs := now

/-- `isRecord`. -/
def isRecord : Option Json → Bool
  | some (.array _) | some (.object _) => true
  | _ => false

/-- `Array.isArray`. -/
def isArray : Option Json → Bool
  | some (.array _) => true
  | _ => false

/-- `typeof value === 'string'`. -/
def isString : Option Json → Bool
  | some (.string _) => true
  | _ => false

/-- `hasSnapshotShape`. -/
def hasSnapshotShape (value : Option Json) : Bool :=
  isRecord value && value.any (fun value =>
    let field := value.properties
    isString (field "timestamp") && isRecord (field "system") && isRecord (field "gateway") &&
      isRecord (field "interfaces") && isRecord (field "isp") && isRecord (field "traffic") &&
      isArray (objectProperty field "traffic" "points") && isRecord (field "wifi") &&
      isArray (objectProperty field "wifi" "devices") && isArray (field "latency_probes") &&
      isRecord (field "stability") && isArray (field "interface_statuses"))

/-- `HandledMessage`. -/
inductive HandledMessage where
  | snapshot
  | message
  deriving DecidableEq

/-- `handleMessage`: what kind of message was handled, and the dashboard after it. -/
def handleMessage (recent : Int → Json → Bool) (now : Int) (msg : Json) (d : Dashboard) :
    Option HandledMessage × Dashboard :=
  let field := msg.properties
  let data := (field "data").elim (fun _ => none) Json.properties
  match field "type" with
  | some (.string type) =>
      if type = "snapshot" then
        if hasSnapshotShape (field "data") then
          (some .snapshot,
            { d with store := handleSnapshot (recent now) data d.store, freshnessNowMs := now })
        else (none, d)
      else if type = "update" then
        if isRecord (field "data") && isString (data "timestamp") then
          (some .message,
            { d with store := handleUpdate (recent now) data d.store, freshnessNowMs := now })
        else (none, d)
      else if type = "connection_status" then
        match field "connected", field "lastPoll" with
        | some (.bool connected), some .null =>
            (some .message, d.handleConnectionStatus connected .null now)
        | some (.bool connected), some (.string lastPoll) =>
            (some .message, d.handleConnectionStatus connected (.string lastPoll) now)
        | _, _ => (none, d)
      else (none, d)
  | _ => (none, d)

/-! ## The page -/

/-- `ConnectionState`. -/
inductive ConnectionState where
  | disconnected
  | connecting
  | connected
  deriving DecidableEq

/-- `WebSocket.readyState`. -/
inductive ReadyState where
  | connecting
  | open
  | closing
  | closed
  deriving DecidableEq

/-- A socket, and what its callbacks captured: its URL and its generation, and
whether it was opened. -/
structure Socket where
  url : String
  generation : Nat
  opened : Bool
  readyState : ReadyState
  deriving DecidableEq

/-- A session check that waits for its answer. -/
structure SessionCheck where
  url : String
  generation : Nat
  deriving DecidableEq

/-- What decides whether the page is connected: variables of the store, the
sockets, the timer, the checks, and the connectivity of the browser. -/
structure Link where
  offline : Bool
  sessionExpired : Bool
  ws : Option Nat
  activeUrl : Option String
  reconnectTimer : Option Nat
  intentionalDisconnect : Bool
  generation : Nat
  networkListenersAttached : Bool
  sockets : List Socket
  reconnects : Pending String
  checks : Pending SessionCheck
  online : Bool

/-- The page: the other variables of the store, their timers, and the dashboard. -/
structure Page extends Link where
  connectionState : ConnectionState
  reconnectAttempt : Nat
  lastMessageAt : Option Int
  watchdogTimer : Option Nat
  stableTimer : Option Nat
  watchdogs : Pending (Nat × Nat)
  stabilities : Pending (Nat × Nat)
  dashboard : Dashboard

/-- The store when it is created. -/
def createStore (online : Bool) (dashboard : Dashboard) : Page where
  offline := !online
  sessionExpired := false
  ws := none
  activeUrl := none
  reconnectTimer := none
  intentionalDisconnect := false
  generation := 0
  networkListenersAttached := false
  sockets := []
  reconnects := .empty
  checks := .empty
  online := online
  connectionState := .disconnected
  reconnectAttempt := 0
  lastMessageAt := none
  watchdogTimer := none
  stableTimer := none
  watchdogs := .empty
  stabilities := .empty
  dashboard := dashboard

namespace Page

/-- `socket.readyState === OPEN || socket.readyState === CONNECTING`. -/
def alive (p : Page) (socket : Nat) : Bool :=
  p.sockets[socket]?.any (fun s => s.readyState == .open || s.readyState == .connecting)

/-- `isCurrent`. -/
def isCurrent (p : Page) (socket socketGeneration : Nat) : Bool :=
  decide (p.ws = some socket ∧ p.generation = socketGeneration)

/-- `isCurrent`, as the callbacks of the socket ask it. -/
def isCurrentSocket (p : Page) (socket : Nat) : Bool :=
  p.sockets[socket]?.any (fun s => p.isCurrent socket s.generation)

/-- `isPendingReconnect`. -/
def isPendingReconnect (p : Page) (url : String) (socketGeneration : Nat) : Bool :=
  decide (p.generation = socketGeneration ∧ p.activeUrl = some url) &&
    !p.intentionalDisconnect && !p.sessionExpired

/-- `markDisconnected`. -/
def markDisconnected (p : Page) : Page :=
  { p with
    connectionState := .disconnected
    dashboard := { p.dashboard with wsConnected := false } }

/-- `clearReconnectTimer`. -/
def clearReconnectTimer (p : Page) : Page :=
  { p with
    reconnects := p.reconnectTimer.elim p.reconnects (fun id => p.reconnects.stop id)
    reconnectTimer := none }

/-- `stopWatchdog`. -/
def stopWatchdog (p : Page) : Page :=
  { p with
    watchdogs := p.watchdogTimer.elim p.watchdogs (fun id => p.watchdogs.stop id)
    watchdogTimer := none }

/-- `clearStableTimer`. -/
def clearStableTimer (p : Page) : Page :=
  { p with
    stabilities := p.stableTimer.elim p.stabilities (fun id => p.stabilities.stop id)
    stableTimer := none }

/-- `resetReconnectBackoff`. -/
def resetReconnectBackoff (p : Page) : Page :=
  { p with reconnectAttempt := 0 }.clearStableTimer

/-- `attachNetworkListeners`. -/
def attachNetworkListeners (p : Page) : Page := { p with networkListenersAttached := true }

/-- `detachNetworkListeners`. -/
def detachNetworkListeners (p : Page) : Page := { p with networkListenersAttached := false }

/-- `WebSocket.close`, of a socket that is not closing yet. -/
def closeSocket (s : Socket) : Socket :=
  if s.readyState = .connecting ∨ s.readyState = .open then { s with readyState := .closing } else s

/-- `invalidateSocket`. -/
def invalidateSocket (p : Page) : Page :=
  let cleared := { p with generation := p.generation + 1 }.clearStableTimer
  { cleared with
    ws := none
    sockets := cleared.ws.elim cleared.sockets (fun socket =>
      cleared.sockets.modify socket closeSocket) }

/-- `markSessionExpired`. -/
def markSessionExpired (p : Page) : Page :=
  { p with sessionExpired := true, activeUrl := none }.clearReconnectTimer

/-- `scheduleReconnect`. -/
def scheduleReconnect (url : String) (p : Page) : Page :=
  if p.intentionalDisconnect ∨ p.sessionExpired ∨ p.offline ∨ p.reconnectTimer.isSome then p
  else { p with
    reconnectAttempt := p.reconnectAttempt + 1
    reconnectTimer := some p.reconnects.next
    reconnects := p.reconnects.start url }

/-- The next socket of the page becomes the socket of the store. -/
def createSocket (url : String) (p : Page) : Page :=
  { p with
    ws := some p.sockets.length
    sockets := p.sockets ++ [⟨url, p.generation, false, .connecting⟩] }

/-- `connect`. -/
def connect (url : String) (throws : Bool) (p : Page) : Page :=
  let urlChanged := p.activeUrl.any (fun active => active != url)
  let active := { p with
    activeUrl := some url
    intentionalDisconnect := false
    sessionExpired := false }.attachNetworkListeners
  if active.offline then active.markDisconnected
  else if urlChanged = false ∧ active.ws.any active.alive then active
  else
    let invalidated := if urlChanged then active.invalidateSocket else active
    let cleared := invalidated.clearReconnectTimer
    let next := { cleared with
      connectionState := .connecting
      generation := cleared.generation + 1 }
    if throws then next.markDisconnected.scheduleReconnect url else next.createSocket url

/-- `disconnect`. -/
def disconnect (p : Page) : Page :=
  let quiet := { p with
    intentionalDisconnect := true
    activeUrl := none }.clearReconnectTimer.stopWatchdog.clearStableTimer
  { quiet.detachNetworkListeners.invalidateSocket with
    reconnectAttempt := 0
    lastMessageAt := none }.markDisconnected

/-- `startWatchdog`. -/
def startWatchdog (socket socketGeneration : Nat) (p : Page) : Page :=
  let stopped := p.stopWatchdog
  { stopped with
    watchdogTimer := some stopped.watchdogs.next
    watchdogs := stopped.watchdogs.start (socket, socketGeneration) }

/-- `startStabilityTimer`. -/
def startStabilityTimer (socket socketGeneration : Nat) (p : Page) : Page :=
  let cleared := p.clearStableTimer
  { cleared with
    stableTimer := some cleared.stabilities.next
    stabilities := cleared.stabilities.start (socket, socketGeneration) }

/-- `restartCurrentSocket`.  An empty URL fails the test of it. -/
def restartCurrentSocket (p : Page) : Page :=
  match p.activeUrl with
  | none => p
  | some url =>
      if url = "" ∨ p.intentionalDisconnect then p
      else p.stopWatchdog.invalidateSocket.markDisconnected.scheduleReconnect url

/-- `onOffline`. -/
def onOffline (p : Page) : Page :=
  { p with offline := true
  }.clearReconnectTimer.stopWatchdog.clearStableTimer.invalidateSocket.markDisconnected

/-- `onOnline`.  An empty URL fails the test of it. -/
def onOnline (throws : Bool) (p : Page) : Page :=
  let online := { p with offline := false }
  match online.activeUrl with
  | none => online
  | some url =>
      if url ≠ "" ∧ online.intentionalDisconnect = false ∧ online.sessionExpired = false then
        online.connect url throws
      else online

/-! ### Callbacks -/

/-- `socket.onopen`. -/
def onopen (socket : Nat) (now : Int) (p : Page) : Page :=
  match p.sockets[socket]? with
  | none => p
  | some s =>
      if p.isCurrent socket s.generation then
        let opened := { p with
          sockets := p.sockets.modify socket (fun s => { s with opened := true })
          connectionState := .connected
          lastMessageAt := some now
          dashboard := { p.dashboard with wsConnected := true }.refreshFreshness now }
        (opened.startWatchdog socket s.generation).startStabilityTimer socket s.generation
      else p

/-- `socket.onmessage`, of the value that the text is parsed to, if it is. -/
def onmessage (recent : Int → Json → Bool) (socket : Nat) (data : Option Json) (now : Int)
    (p : Page) : Page :=
  if p.isCurrentSocket socket then
    match data with
    | none => p
    | some msg =>
        match handleMessage recent now msg p.dashboard with
        | (none, dashboard) => { p with dashboard := dashboard }
        | (some handled, dashboard) =>
            let received := { p with
              lastMessageAt := some now
              dashboard := dashboard.refreshFreshness now }
            if handled = .snapshot then received.resetReconnectBackoff else received
  else p

/-- `socket.onclose`. -/
def onclose (socket code : Nat) (p : Page) : Page :=
  match p.sockets[socket]? with
  | none => p
  | some s =>
      if p.isCurrent socket s.generation then
        let closed := { p with ws := none }.stopWatchdog.clearStableTimer.markDisconnected
        if code = 1008 then closed.markSessionExpired
        else if code = 1006 ∧ s.opened = false ∧ closed.intentionalDisconnect = false then
          { closed with checks := closed.checks.start ⟨s.url, s.generation⟩ }
        else if closed.intentionalDisconnect = false then closed.scheduleReconnect s.url
        else closed
      else p

/-- The callback of the reconnect timer. -/
def onReconnectTimer (timer : Nat) (throws : Bool) (p : Page) : Page :=
  match p.reconnects.get? timer with
  | none => p
  | some url =>
      let fired := { p with reconnects := p.reconnects.stop timer, reconnectTimer := none }
      if fired.intentionalDisconnect = false ∧ fired.offline = false ∧
          fired.activeUrl = some url then
        fired.connect url throws
      else fired

/-- `MESSAGE_TIMEOUT_MS`. -/
def messageTimeoutMs : Int := 45000

/-- The callback of the watchdog timer, which goes on. -/
def onWatchdogTimer (timer : Nat) (now : Int) (p : Page) : Page :=
  match p.watchdogs.get? timer with
  | none => p
  | some (socket, socketGeneration) =>
      if p.isCurrent socket socketGeneration then
        let refreshed := { p with dashboard := p.dashboard.refreshFreshness now }
        if refreshed.lastMessageAt.any (fun last => decide (messageTimeoutMs < now - last)) then
          refreshed.restartCurrentSocket
        else refreshed
      else p

/-- The callback of the stability timer. -/
def onStableTimer (timer : Nat) (p : Page) : Page :=
  match p.stabilities.get? timer with
  | none => p
  | some (socket, socketGeneration) =>
      let fired := { p with stabilities := p.stabilities.stop timer, stableTimer := none }
      if fired.isCurrent socket socketGeneration ∧
          fired.sockets[socket]?.any (fun s => s.readyState == .open) then
        fired.resetReconnectBackoff
      else fired

/-- The answer to a session check: whether the session is authenticated, if the
request succeeded. -/
def onSessionCheck (check : Nat) (authenticated : Option Bool) (p : Page) : Page :=
  match p.checks.get? check with
  | none => p
  | some asked =>
      let answered := { p with checks := p.checks.stop check }
      if answered.isPendingReconnect asked.url asked.generation then
        if authenticated = some false then answered.markSessionExpired
        else answered.scheduleReconnect asked.url
      else answered

end Page

/-! ## Events -/

/-- What happens on the page. -/
inductive PageEvent where
  | connect (url : String) (throws : Bool)
  | disconnect
  | socketOpen (socket : Nat) (now : Int)
  | socketMessage (socket : Nat) (data : Option Json) (now : Int)
  | socketClosing (socket : Nat)
  | socketClose (socket code : Nat)
  | reconnectTimer (timer : Nat) (throws : Bool)
  | watchdogTimer (timer : Nat) (now : Int)
  | stableTimer (timer : Nat)
  | sessionCheck (check : Nat) (authenticated : Option Bool)
  | connectivity (online throws : Bool)

/-- The browser moves the state of a socket on. -/
def Page.advance (socket : Nat) (f : ReadyState → ReadyState) (p : Page) : Page :=
  { p with sockets := p.sockets.modify socket (fun s => { s with readyState := f s.readyState }) }

/-- The state of a socket that opens. -/
def ReadyState.opened : ReadyState → ReadyState
  | .connecting => .open
  | state => state

/-- The state of a socket that the peer, or the network, ends. -/
def ReadyState.ending : ReadyState → ReadyState
  | .connecting | .open => .closing
  | state => state

/-- The page after an event.  The listeners hear of a change of the connectivity
while they are attached. -/
def pageStep (recent : Int → Json → Bool) (p : Page) (event : PageEvent) : Page :=
  match event with
  | .connect url throws => p.connect url throws
  | .disconnect => p.disconnect
  | .socketOpen socket now => (p.advance socket .opened).onopen socket now
  | .socketMessage socket data now => p.onmessage recent socket data now
  | .socketClosing socket => p.advance socket .ending
  | .socketClose socket code => (p.advance socket (fun _ => .closed)).onclose socket code
  | .reconnectTimer timer throws => p.onReconnectTimer timer throws
  | .watchdogTimer timer now => p.onWatchdogTimer timer now
  | .stableTimer timer => p.onStableTimer timer
  | .sessionCheck check authenticated => p.onSessionCheck check authenticated
  | .connectivity online throws =>
      let changed := { p with online := online }
      if online = p.online ∨ p.networkListenersAttached = false then changed
      else if online then changed.onOnline throws
      else changed.onOffline

end RouterView.Ws
