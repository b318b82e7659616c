/-
  Ws/Session.lean --- the sessions of the WebSocket clients, and how they are shut down.

  `run_session` of `ws/session.rs` from the registration of its guard in
  `ws/tracker.rs` to the drop of the guard, for all clients together, with
  `shutdown_websocket_sessions` of `main.rs`, which waits for the last of them.  A step
  is what a session does between two points at which it awaits; which branch of its
  loop is taken, what the client sends and how a send ends are free.

  Left out: the payloads of data frames, the permit of the connection limit
  (`Ws/Limits.lean`), and the grace period after which the server stops waiting: what is
  proved of the shutdown does not need it.
-/
import RouterView.Foundation.Run
import RouterView.Foundation.WaitLoop
import RouterView.Ws.Protocol

set_option autoImplicit false

namespace RouterView.Ws

open RouterView.Foundation

/-! ## Frames -/

/-- `CloseFrame`. -/
structure CloseFrame where
  code : Nat
  reason : String
  deriving DecidableEq, Repr

/-- A frame that is sent to a client. -/
inductive ServerFrame where
  | text (message : ServerMessage)
  | pong
  | close (frame : CloseFrame)

/-- `shutdown_close_frame`. -/
def shutdownCloseFrame : CloseFrame := ⟨1001, "server shutting down"⟩

/-- What the socket of the client gives. -/
inductive ClientMessage where
  | text
  | binary
  | ping
  | pong
  | close
  | ended
  | failed
  deriving DecidableEq, Repr

/-- `is_client_data_message`. -/
def isClientDataMessage : ClientMessage → Bool
  | .text => true
  | .binary => true
  | _ => false

/-! ## One session -/

/-- Where a session awaits: for the upgrade, for the first look at the shutdown, for the
session of the user to be checked, for the lock of the cached snapshot, first or after it
lagged, for a frame to be sent, in its loop, for the close frame to be sent; or it is
over, and its guard is dropped. -/
inductive WsSessionPhase where
  | upgrading
  | checking
  | revalidating
  | reading (first : Bool)
  | sending (frame : ServerFrame)
  | looping
  | closing (frame : CloseFrame)
  | ended

/-- A session: the version of the shutdown flag that its receiver has seen, and the
frames that were sent, which the code does not store. -/
structure WsSession where
  phase : WsSessionPhase
  seenVersion : Nat
  frames : List ServerFrame

/-- What happens in a session. -/
inductive WsSessionEvent where
  | upgradeFailed
  | upgraded
  | checked
  | revalidated (valid : Bool)
  | read (snapshot : Option DashboardSnapshot)
  | sent (delivered : Bool)
  | received (message : ServerMessage)
  | lagged
  | channelClosed
  | sessionChecked (valid : Bool)
  | client (message : ClientMessage)
  | shutdownChanged
  | closed (delivered : Bool)
  | aborted

namespace WsSession

/-- A session that was registered and is about to be upgraded. -/
def registered : WsSession := ⟨.upgrading, 0, []⟩

/-- The session goes on to send a close frame. -/
def close (frame : CloseFrame) (session : WsSession) : WsSession :=
  { session with phase := .closing frame }

/-- The session is over. -/
def finish (session : WsSession) : WsSession := { session with phase := .ended }

/-- `read_snapshot_or_shutdown` and `send_while_running` look at the flag before they
await. -/
def enter (shutdown : Bool) (phase : WsSessionPhase) (session : WsSession) : WsSession :=
  if shutdown then session.close shutdownCloseFrame else { session with phase := phase }

/-- A session looks at the shutdown flag, whose value and version are given. -/
def step (shutdown : Bool) (version : Nat) (session : WsSession) :
    WsSessionEvent → WsSession
  | .upgradeFailed =>
      match session.phase with
      | .upgrading => session.finish
      | _ => session
  | .upgraded =>
      match session.phase with
      | .upgrading => { session with phase := .checking, seenVersion := version }
      | _ => session
  | .checked =>
      match session.phase with
      | .checking => session.enter shutdown .revalidating
      | _ => session
  | .revalidated valid =>
      match session.phase with
      | .revalidating =>
          if valid then session.enter shutdown (.reading true)
          else session.close ⟨1008, "session expired"⟩
      | _ => session
  | .read snapshot =>
      match session.phase with
      | .reading first =>
          match snapshot with
          | some data => session.enter shutdown (.sending (.text (.snapshot data)))
          | none =>
              if first then
                session.enter shutdown (.sending (.text (.connectionStatus false none)))
              else { session with phase := .looping }
      | _ => session
  | .sent delivered =>
      match session.phase with
      | .sending frame =>
          if delivered then { session with phase := .looping, frames := session.frames ++ [frame] }
          else session.finish
      | _ => session
  | .received message =>
      match session.phase with
      | .looping => session.enter shutdown (.sending (.text message))
      | _ => session
  | .lagged =>
      match session.phase with
      | .looping => session.enter shutdown (.reading false)
      | _ => session
  | .channelClosed =>
      match session.phase with
      | .looping => session.finish
      | _ => session
  | .sessionChecked valid =>
      match session.phase with
      | .looping => if valid then session else session.close ⟨1008, "session expired or revoked"⟩
      | _ => session
  | .client message =>
      match session.phase with
      | .looping =>
          if isClientDataMessage message then
            session.close ⟨1008, "client data messages are not supported"⟩
          else
            match message with
            | .ping => session.enter shutdown (.sending .pong)
            | .close => session.finish
            | .ended => session.finish
            | .failed => session.finish
            | _ => session
      | _ => session
  | .shutdownChanged =>
      -- `changed` is ready when the flag was set since its version was last seen
      if session.seenVersion = version then session
      else
        match session.phase with
        | .reading _ =>
            { session with seenVersion := version }.enter shutdown session.phase
        | .sending _ =>
            { session with seenVersion := version }.enter shutdown session.phase
        | .looping => { session with seenVersion := version }.enter shutdown session.phase
        | _ => session
  | .closed delivered =>
      match session.phase with
      | .closing frame =>
          if delivered then
            { session with phase := .ended, frames := session.frames ++ [.close frame] }
          else session.finish
      | _ => session
  | .aborted => session.finish

/-- The guard of the session is held. -/
def live (session : WsSession) : Bool :=
  match session.phase with
  | .ended => false
  | _ => true

end WsSession

/-! ## All sessions -/

/-- The tracker, the shutdown flag with its version, the task that waits for the
sessions, how many were active when it gave up, and all sessions that were registered. -/
structure WsServer where
  accepting : Bool
  active : Nat
  shutdown : Bool
  version : Nat
  waiter : Waiter
  timedOutWith : Option Nat
  sessions : List WsSession

/-- What happens to the server. -/
inductive WsServerEvent where
  | upgrade
  | session (index : Nat) (event : WsSessionEvent)
  | requestShutdown
  | stopAccepting
  | waitForEmpty
  | wait
  | timeout

namespace WsServer

/-- `WsSessionTracker::new`. -/
def new : WsServer where
  accepting := true
  active := 0
  shutdown := false
  version := 0
  waiter := .new
  timedOutWith := none
  sessions := []

/-- `try_register`. -/
def tryRegister (s : WsServer) : WsServer :=
  if s.accepting then
    { s with active := s.active + 1, sessions := s.sessions ++ [.registered] }
  else s

/-- `drop` of `WsSessionGuard`; the subtraction saturates. -/
def dropGuard (s : WsServer) : WsServer :=
  let active := s.active - 1
  { s with active := active, waiter := if active = 0 then s.waiter.notifyOne else s.waiter }

/-- `stop_accepting`. -/
def stopAccepting (s : WsServer) : WsServer :=
  { s with
    accepting := false
    waiter := if s.active = 0 then s.waiter.notifyOne else s.waiter }

/-- A session takes a step; when it ends, its guard is dropped. -/
def sessionStep (index : Nat) (event : WsSessionEvent) (s : WsServer) : WsServer :=
  match s.sessions[index]? with
  | none => s
  | some session =>
      let stepped := session.step s.shutdown s.version event
      let stored := { s with sessions := s.sessions.set index stepped }
      if session.live ∧ ¬ stepped.live then stored.dropGuard else stored

/-- One step. -/
def step (s : WsServer) : WsServerEvent → WsServer
  | .upgrade => s.tryRegister
  | .session index event => s.sessionStep index event
  | .requestShutdown => { s with shutdown := true, version := s.version + 1 }
  | .stopAccepting => s.stopAccepting
  | .waitForEmpty => if s.accepting then s else { s with waiter := s.waiter.start }
  | .wait => { s with waiter := s.waiter.wait (decide (s.active = 0)) }
  | .timeout =>
      if s.waiter.Waiting then
        { s with waiter := s.waiter.abandon, timedOutWith := some s.active }
      else s

/-- The server after a run. -/
def after (events : List WsServerEvent) : WsServer := run step new events

/-- `shutdown_websocket_sessions`, where it has an answer: that all sessions stopped, or
how many were still active. -/
def shutdownResult (s : WsServer) : Option (Except Nat Unit) :=
  if s.waiter.phase = .returned then some (.ok ()) else s.timedOutWith.map .error

end WsServer

end RouterView.Ws
