/-
  Ws/SessionSpec.lean --- what the sessions send, and that their shutdown ends.

  One invariant of a session for its frames and for the shutdown flag that it watches,
  and one of the server for the guards.  From any state after the shutdown the sessions
  end without their clients, and the task that waits for them returns.
-/
import RouterView.Ws.Session

set_option autoImplicit false

namespace RouterView.Ws

open RouterView.Foundation

/-! ## The frames of a session -/

/-- A frame that closes the connection. -/
def ServerFrame.Closes : ServerFrame → Prop
  | .close _ => True
  | _ => False

/-- A frame that tells a new client what it starts from. -/
def ServerFrame.Greets : ServerFrame → Prop
  | .text (.snapshot _) => True
  | .text (.connectionStatus connected lastPoll) => connected = false ∧ lastPoll = none
  | _ => False

/-- The reasons for which the server closes a connection. -/
def CloseFrame.Known (frame : CloseFrame) : Prop :=
  frame = shutdownCloseFrame ∨ frame.code = 1008

/-- A session in the phase has sent nothing yet. -/
def WsSessionPhase.Silent (phase : WsSessionPhase) : Prop :=
  phase = .upgrading ∨ phase = .checking ∨ phase = .revalidating ∨ phase = .reading true

/-- A session in the phase has sent something. -/
def WsSessionPhase.Speaking (phase : WsSessionPhase) : Prop :=
  phase = .looping ∨ phase = .reading false

/-- A session in the phase watches the shutdown flag. -/
def WsSessionPhase.Watches (phase : WsSessionPhase) : Prop :=
  phase = .revalidating ∨ (∃ first, phase = .reading first) ∨ (∃ frame, phase = .sending frame) ∨
    phase = .looping

namespace WsSession

variable {shutdown : Bool} {version : Nat} {session : WsSession}

/-- Frames that tell the client what it starts from, and none that closes. -/
structure DataFrames (frames : List ServerFrame) : Prop where
  keepsOpen : ∀ frame ∈ frames, ¬ frame.Closes
  greets : ∀ first ∈ frames.head?, first.Greets

/-- The frames of a session that is over: at most a close frame follows the others. -/
def Closed (frames : List ServerFrame) : Prop :=
  ∃ data rest, frames = data ++ rest ∧ DataFrames data ∧
    (rest = [] ∨ ∃ frame, rest = [.close frame] ∧ CloseFrame.Known frame)

theorem DataFrames.closed {frames : List ServerFrame} (h : DataFrames frames) : Closed frames :=
  ⟨frames, [], (List.append_nil frames).symm, h, .inl rfl⟩

theorem DataFrames.snoc {frames : List ServerFrame} (h : DataFrames frames) {frame : ServerFrame}
    (hopen : ¬ frame.Closes) (hgreets : frames = [] → frame.Greets) :
    DataFrames (frames ++ [frame]) := by
  refine ⟨?_, ?_⟩
  · intro sent hsent
    obtain hsent | hsent := List.mem_append.mp hsent
    · exact h.keepsOpen sent hsent
    · rw [List.mem_singleton.mp hsent]
      exact hopen
  · intro first hfirst
    cases frames with
    | nil =>
        cases hfirst
        exact hgreets rfl
    | cons earliest rest => exact h.greets first hfirst

/-- What is true of a session at all times, given the version of the flag. -/
structure Ok (version : Nat) (session : WsSession) : Prop where
  silent : session.phase.Silent → session.frames = []
  speaking : session.phase.Speaking → session.frames ≠ []
  sending : ∀ frame, session.phase = .sending frame →
    ¬ frame.Closes ∧ (session.frames = [] → frame.Greets)
  closing : ∀ frame, session.phase = .closing frame → frame.Known
  live : session.live = true → DataFrames session.frames
  ended : Closed session.frames
  seen : session.seenVersion ≤ version
  unseen : session.phase.Watches → session.seenVersion = 0

theorem ok_registered (version : Nat) : Ok version registered := by
  have hnone : DataFrames [] := ⟨by simp, by simp⟩
  constructor <;>
    simp [registered, WsSessionPhase.Speaking, WsSessionPhase.Watches, hnone, hnone.closed]

/-- The flag is raised by giving it a new version. -/
theorem Ok.newer (h : Ok version session) {version' : Nat} (hversion : version ≤ version') :
    Ok version' session :=
  { h with seen := h.seen.trans hversion }

/-- A live session goes to another phase. -/
theorem Ok.goto (h : Ok version session) (hlive : session.live = true) {phase : WsSessionPhase}
    (hsilent : phase.Silent → session.frames = [])
    (hspeaking : phase.Speaking → session.frames ≠ [])
    (hsending : ∀ frame, phase = .sending frame →
      ¬ frame.Closes ∧ (session.frames = [] → frame.Greets))
    (hclosing : ∀ frame, phase = .closing frame → frame.Known)
    (hunseen : phase.Watches → session.seenVersion = 0) :
    Ok version { session with phase := phase } where
  silent := hsilent
  speaking := hspeaking
  sending := hsending
  closing := hclosing
  live := fun _ => h.live hlive
  ended := h.ended
  seen := h.seen
  unseen := hunseen

theorem Ok.close (h : Ok version session) (hlive : session.live = true) {frame : CloseFrame}
    (hknown : frame.Known) : Ok version (session.close frame) := by
  refine h.goto hlive ?_ ?_ ?_ ?_ ?_ <;>
    simp [WsSessionPhase.Silent, WsSessionPhase.Speaking, WsSessionPhase.Watches, hknown]

theorem Ok.finish (h : Ok version session) : Ok version session.finish where
  silent := by simp [WsSession.finish, WsSessionPhase.Silent]
  speaking := by simp [WsSession.finish, WsSessionPhase.Speaking]
  sending := by simp [WsSession.finish]
  closing := by simp [WsSession.finish]
  live := by simp [WsSession.finish, WsSession.live]
  ended := h.ended
  seen := h.seen
  unseen := by simp [WsSession.finish, WsSessionPhase.Watches]

/-- A session that looks at the flag before it awaits: it goes on only before the first
version. -/
theorem Ok.enter (h : Ok version session) (hlive : session.live = true)
    (hflag : shutdown = false → version = 0) {phase : WsSessionPhase}
    (hsilent : phase.Silent → session.frames = [])
    (hspeaking : phase.Speaking → session.frames ≠ [])
    (hsending : ∀ frame, phase = .sending frame →
      ¬ frame.Closes ∧ (session.frames = [] → frame.Greets))
    (hclosing : ∀ frame, phase = .closing frame → frame.Known) :
    Ok version (session.enter shutdown phase) := by
  unfold WsSession.enter
  split
  · exact h.close hlive (.inl rfl)
  · next hrunning =>
      refine h.goto hlive hsilent hspeaking hsending hclosing (fun _ => ?_)
      have hseen := h.seen
      rw [hflag (by simpa using hrunning)] at hseen
      exact Nat.le_zero.mp hseen

/-- A session that is told of a version of the flag that it has not seen. -/
theorem Ok.notice (h : Ok version session) (hflag : shutdown = false → version = 0)
    (hseen : session.seenVersion ≠ version) (hwatches : session.phase.Watches)
    (hlive : session.live = true) :
    Ok version ({ session with seenVersion := version }.enter shutdown session.phase) := by
  cases shutdown with
  | false => exact absurd ((h.unseen hwatches).trans (hflag rfl).symm) hseen
  | true =>
      have hclosing := h.close hlive (.inl (rfl : shutdownCloseFrame = _))
      exact
        { silent := hclosing.silent
          speaking := hclosing.speaking
          sending := hclosing.sending
          closing := hclosing.closing
          live := hclosing.live
          ended := hclosing.ended
          seen := le_rfl
          unseen := by simp [WsSession.enter, WsSession.close, WsSessionPhase.Watches] }

/-- The frame is sent. -/
theorem Ok.delivered (h : Ok version session) {frame : ServerFrame}
    (hphase : session.phase = .sending frame) :
    Ok version { session with phase := .looping, frames := session.frames ++ [frame] } := by
  obtain ⟨hopen, hgreets⟩ := h.sending frame hphase
  have hdata : DataFrames (session.frames ++ [frame]) :=
    (h.live (by simp [WsSession.live, hphase])).snoc hopen hgreets
  exact
    { silent := by simp [WsSessionPhase.Silent]
      speaking := by simp
      sending := by simp
      closing := by simp
      live := fun _ => hdata
      ended := hdata.closed
      seen := h.seen
      unseen := fun _ => h.unseen (by simp [WsSessionPhase.Watches, hphase]) }

/-- The close frame is sent. -/
theorem Ok.closed (h : Ok version session) {frame : CloseFrame}
    (hphase : session.phase = .closing frame) :
    Ok version { session with phase := .ended, frames := session.frames ++ [.close frame] } where
  silent := by simp [WsSessionPhase.Silent]
  speaking := by simp [WsSessionPhase.Speaking]
  sending := by simp
  closing := by simp
  live := by simp [WsSession.live]
  ended := ⟨session.frames, [.close frame], rfl, h.live (by simp [WsSession.live, hphase]),
    .inr ⟨frame, rfl, h.closing frame hphase⟩⟩
  seen := h.seen
  unseen := by simp [WsSessionPhase.Watches]

theorem Ok.upgraded (h : Ok version session) :
    Ok version (session.step shutdown version .upgraded) := by
  simp only [WsSession.step]
  split
  next hphase =>
    have hnone := h.silent (.inl hphase)
    have hlive := h.live (by simp [WsSession.live, hphase])
    exact
      { silent := fun _ => hnone
        speaking := by simp [WsSessionPhase.Speaking]
        sending := by simp
        closing := by simp
        live := fun _ => hlive
        ended := h.ended
        seen := le_rfl
        unseen := by simp [WsSessionPhase.Watches] }
  next => exact h

theorem Ok.revalidated (h : Ok version session) (hflag : shutdown = false → version = 0)
    (valid : Bool) : Ok version (session.step shutdown version (.revalidated valid)) := by
  simp only [WsSession.step]
  split
  next hphase =>
    have hnone := h.silent (.inr (.inr (.inl hphase)))
    have hlive : session.live = true := by simp [WsSession.live, hphase]
    split
    · exact h.enter hlive hflag (fun _ => hnone) (by simp [WsSessionPhase.Speaking]) (by simp)
        (by simp)
    · exact h.close hlive (.inr rfl)
  next => exact h

/-- The first frame is a greeting, and a snapshot is one whenever it is sent. -/
theorem Ok.read (h : Ok version session) (hflag : shutdown = false → version = 0)
    (snapshot : Option DashboardSnapshot) :
    Ok version (session.step shutdown version (.read snapshot)) := by
  simp only [WsSession.step]
  split
  next first hphase =>
    have hlive : session.live = true := by simp [WsSession.live, hphase]
    split
    next data =>
      refine h.enter hlive hflag (by simp [WsSessionPhase.Silent])
        (by simp [WsSessionPhase.Speaking]) ?_ (by simp)
      intro frame hframe
      cases hframe
      exact ⟨id, fun _ => trivial⟩
    next =>
      split
      next hfirst =>
        refine h.enter hlive hflag (by simp [WsSessionPhase.Silent])
          (by simp [WsSessionPhase.Speaking]) ?_ (by simp)
        intro frame hframe
        cases hframe
        exact ⟨id, fun _ => ⟨rfl, rfl⟩⟩
      next hfirst =>
        have hspeaking := h.speaking (.inr (by rw [hphase, Bool.eq_false_iff.mpr hfirst]))
        exact h.goto hlive (by simp [WsSessionPhase.Silent]) (fun _ => hspeaking) (by simp)
          (by simp) (fun _ => h.unseen (.inr (.inl ⟨_, hphase⟩)))
  next => exact h

/-- A session in its loop, which has sent something, sends one more frame. -/
theorem Ok.reply (h : Ok version session) (hflag : shutdown = false → version = 0)
    (hphase : session.phase = .looping) {frame : ServerFrame} (hdata : ¬ frame.Closes) :
    Ok version (session.enter shutdown (.sending frame)) := by
  have hspeaking := h.speaking (.inl hphase)
  refine h.enter (by simp [WsSession.live, hphase]) hflag (by simp [WsSessionPhase.Silent])
    (fun _ => hspeaking) ?_ (by simp)
  intro frame hframe
  cases hframe
  exact ⟨hdata, fun hnone => absurd hnone hspeaking⟩

theorem Ok.client (h : Ok version session) (hflag : shutdown = false → version = 0)
    (message : ClientMessage) : Ok version (session.step shutdown version (.client message)) := by
  simp only [WsSession.step]
  split
  next hphase =>
    split
    · exact h.close (by simp [WsSession.live, hphase]) (.inr rfl)
    · split
      · exact h.reply hflag hphase id
      · exact h.finish
      · exact h.finish
      · exact h.finish
      · exact h
  next => exact h

theorem Ok.shutdownChanged (h : Ok version session) (hflag : shutdown = false → version = 0) :
    Ok version (session.step shutdown version .shutdownChanged) := by
  simp only [WsSession.step]
  split
  · exact h
  next hseen =>
    split
    next first hphase =>
      exact h.notice hflag hseen (.inr (.inl ⟨first, hphase⟩)) (by simp [WsSession.live, hphase])
    next frame hphase =>
      exact h.notice hflag hseen (.inr (.inr (.inl ⟨frame, hphase⟩)))
        (by simp [WsSession.live, hphase])
    next hphase =>
      exact h.notice hflag hseen (.inr (.inr (.inr hphase))) (by simp [WsSession.live, hphase])
    next => exact h

theorem Ok.step (h : Ok version session) (hflag : shutdown = false → version = 0)
    (event : WsSessionEvent) : Ok version (session.step shutdown version event) := by
  cases event with
  | upgraded => exact h.upgraded
  | revalidated valid => exact h.revalidated hflag valid
  | read snapshot => exact h.read hflag snapshot
  | client message => exact h.client hflag message
  | shutdownChanged => exact h.shutdownChanged hflag
  | aborted => exact h.finish
  | upgradeFailed =>
      simp only [WsSession.step]
      split
      · exact h.finish
      · exact h
  | checked =>
      simp only [WsSession.step]
      split
      next hphase =>
        have hnone := h.silent (.inr (.inl hphase))
        exact h.enter (by simp [WsSession.live, hphase]) hflag (fun _ => hnone)
          (by simp [WsSessionPhase.Speaking]) (by simp) (by simp)
      next => exact h
  | sent delivered =>
      simp only [WsSession.step]
      split
      next frame hphase =>
        split
        · exact h.delivered hphase
        · exact h.finish
      next => exact h
  | received message =>
      simp only [WsSession.step]
      split
      next hphase => exact h.reply hflag hphase id
      next => exact h
  | lagged =>
      simp only [WsSession.step]
      split
      next hphase =>
        have hspeaking := h.speaking (.inl hphase)
        exact h.enter (by simp [WsSession.live, hphase]) hflag (by simp [WsSessionPhase.Silent])
          (fun _ => hspeaking) (by simp) (by simp)
      next => exact h
  | channelClosed =>
      simp only [WsSession.step]
      split
      · exact h.finish
      · exact h
  | sessionChecked valid =>
      simp only [WsSession.step]
      split
      next hphase =>
        split
        · exact h
        · exact h.close (by simp [WsSession.live, hphase]) (.inr rfl)
      next => exact h
  | closed delivered =>
      simp only [WsSession.step]
      split
      next frame hphase =>
        split
        · exact h.closed hphase
        · exact h.finish
      next => exact h

/-- The session closes with the frame, and had sent the other frames before. -/
def ClosesWith (frame : CloseFrame) (before : List ServerFrame) (session : WsSession) : Prop :=
  (session.phase = .closing frame ∧ session.frames = before) ∨
    (session.phase = .ended ∧
      (session.frames = before ∨ session.frames = before ++ [.close frame]))

/-- A session that is closing sends nothing but the close frame. -/
theorem ClosesWith.step {frame : CloseFrame} {before : List ServerFrame}
    (h : ClosesWith frame before session) (shutdown : Bool) (version : Nat)
    (event : WsSessionEvent) :
    ClosesWith frame before (session.step shutdown version event) := by
  obtain ⟨hphase, hframes⟩ | ⟨hphase, hframes⟩ := h
  · cases event with
    | closed delivered =>
        cases delivered with
        | false => exact .inr (by simp [WsSession.step, hphase, WsSession.finish, hframes])
        | true => exact .inr (by simp [WsSession.step, hphase, hframes])
    | aborted => exact .inr (by simp [WsSession.step, WsSession.finish, hframes])
    | _ => exact .inl (by simp [WsSession.step, hphase, hframes])
  · cases event <;> exact .inr (by simp [WsSession.step, WsSession.finish, hphase, hframes])

/-! ## Shutting a session down -/

/-- What a session does when nothing but the shutdown moves it: the upgrade completes,
the flag is looked at or noticed, and the close frame times out. -/
def windDown : List WsSessionEvent :=
  [.upgraded, .checked, .revalidated true, .shutdownChanged, .closed false]

/-- After the shutdown a session ends without its client. -/
theorem Ok.windDown (h : Ok version session) (hversion : 0 < version) :
    (run (fun session event => session.step true version event) session
      WsSession.windDown).live = false := by
  have hunseen : session.phase.Watches → session.seenVersion ≠ version := by
    intro hwatches
    rw [h.unseen hwatches]
    exact hversion.ne
  cases hphase : session.phase with
  | upgrading =>
      simp [WsSession.windDown, WsSession.step, hphase, WsSession.enter, WsSession.close,
        WsSession.finish, WsSession.live]
  | checking =>
      by_cases hseen : session.seenVersion = version <;>
        simp [WsSession.windDown, WsSession.step, hphase, WsSession.enter, WsSession.close,
          WsSession.finish, WsSession.live, hseen]
  | revalidating =>
      have hseen := hunseen (.inl hphase)
      simp [WsSession.windDown, WsSession.step, hphase, WsSession.enter, WsSession.close,
        WsSession.finish, WsSession.live, hseen]
  | reading first =>
      have hseen := hunseen (.inr (.inl ⟨first, hphase⟩))
      simp [WsSession.windDown, WsSession.step, hphase, WsSession.enter, WsSession.close,
        WsSession.finish, WsSession.live, hseen]
  | sending frame =>
      have hseen := hunseen (.inr (.inr (.inl ⟨frame, hphase⟩)))
      simp [WsSession.windDown, WsSession.step, hphase, WsSession.enter, WsSession.close,
        WsSession.finish, WsSession.live, hseen]
  | looping =>
      have hseen := hunseen (.inr (.inr (.inr hphase)))
      simp [WsSession.windDown, WsSession.step, hphase, WsSession.enter, WsSession.close,
        WsSession.finish, WsSession.live, hseen]
  | closing frame =>
      by_cases hseen : session.seenVersion = version <;>
        simp [WsSession.windDown, WsSession.step, hphase, WsSession.finish, WsSession.live, hseen]
  | ended =>
      by_cases hseen : session.seenVersion = version <;>
        simp [WsSession.windDown, WsSession.step, hphase, WsSession.live, hseen]

/-- A session that is over stays so. -/
theorem live_of_step {event : WsSessionEvent}
    (h : (session.step shutdown version event).live = true) : session.live = true := by
  cases hphase : session.phase with
  | ended =>
      cases event <;> simp [WsSession.step, WsSession.finish, WsSession.live, hphase] at h
  | _ => simp [WsSession.live, hphase]

end WsSession

/-! ## The guards -/

namespace WsServer

variable {s : WsServer}

/-- What is true of the server at all times. -/
structure Inv (s : WsServer) : Prop where
  ok : ∀ session ∈ s.sessions, session.Ok s.version
  flag : s.shutdown = false → s.version = 0
  raised : s.shutdown = true → 0 < s.version
  active : s.active = s.sessions.countP WsSession.live
  alert : s.waiter.Alert (decide (s.active = 0))
  stopped : s.waiter.phase ≠ .idle → s.accepting = false
  returned : s.waiter.phase = .returned → s.active = 0

theorem inv_new : Inv new where
  ok := by simp [new]
  flag := fun _ => rfl
  raised := by simp [new]
  active := rfl
  alert := Waiter.alert_new _
  stopped := by simp [new, Waiter.new]
  returned := by simp [new, Waiter.new]

theorem Inv.tryRegister (h : Inv s) : Inv s.tryRegister := by
  unfold WsServer.tryRegister
  split
  next haccepting =>
    have hidle : s.waiter.phase = .idle := by
      by_contra hphase
      rw [h.stopped hphase] at haccepting
      cases haccepting
    exact
      { ok := by
          intro session hmem
          obtain hmem | hmem := List.mem_append.mp hmem
          · exact h.ok session hmem
          · rw [List.mem_singleton.mp hmem]
            exact WsSession.ok_registered s.version
        flag := h.flag
        raised := h.raised
        active := by
          rw [List.countP_append, ← h.active]
          rfl
        alert := h.alert.weaken (by simp)
        stopped := fun hphase => absurd hidle hphase
        returned := fun hphase => by rw [hidle] at hphase; cases hphase }
  next => exact h

/-- The waiter after a drop of the last guard, or of another one. -/
theorem Inv.notified (h : Inv s) (active : Nat) :
    Waiter.Alert (decide (active = 0))
        (if active = 0 then s.waiter.notifyOne else s.waiter) ∧
      ((if active = 0 then s.waiter.notifyOne else s.waiter).phase ≠ .idle →
        s.accepting = false) ∧
      ((if active = 0 then s.waiter.notifyOne else s.waiter).phase = .returned →
        s.active = 0) := by
  split
  next =>
    exact ⟨Waiter.alert_notifyOne _ _, fun hphase => h.stopped (Waiter.notifyOne_idle hphase),
      fun hphase => h.returned (Waiter.notifyOne_returned hphase)⟩
  next hactive =>
    exact ⟨h.alert.weaken (by simp [hactive]), h.stopped, h.returned⟩

/-- A session takes a step that its guard survives, or the guard is dropped. -/
theorem Inv.sessionStep (h : Inv s) (index : Nat) (event : WsSessionEvent) :
    Inv (s.sessionStep index event) := by
  unfold WsServer.sessionStep
  cases hget : s.sessions[index]? with
  | none => exact h
  | some session =>
      obtain ⟨hlt, hsession⟩ := List.getElem?_eq_some_iff.mp hget
      have hok : ∀ other ∈ s.sessions.set index (session.step s.shutdown s.version event),
          other.Ok s.version := by
        intro other hmem
        obtain hmem | rfl := List.mem_or_eq_of_mem_set hmem
        · exact h.ok other hmem
        · exact (h.ok session (List.mem_of_getElem? hget)).step h.flag event
      have hcount := List.countP_set (p := WsSession.live) (l := s.sessions) (i := index)
        (a := session.step s.shutdown s.version event) hlt
      rw [hsession] at hcount
      have hlive_le : session.live = true → 1 ≤ s.sessions.countP WsSession.live := fun hlive =>
        List.countP_pos_iff.mpr ⟨session, List.mem_of_getElem? hget, hlive⟩
      have hactive := h.active
      dsimp only
      split
      next hends =>
        obtain ⟨hlive, hdead⟩ := hends
        have hpos := hlive_le hlive
        rw [if_pos hlive, if_neg hdead] at hcount
        obtain ⟨halert, hstopped, hreturned⟩ := h.notified (s.active - 1)
        exact
          { ok := hok
            flag := h.flag
            raised := h.raised
            active := by
              simp only [dropGuard]
              omega
            alert := halert
            stopped := hstopped
            returned := fun hphase => by
              simp only [dropGuard]
              rw [hreturned hphase] }
      next hkeeps =>
        have hsame : (s.sessions.set index (session.step s.shutdown s.version event)).countP
            WsSession.live = s.sessions.countP WsSession.live := by
          by_cases hlive : session.live = true
          · have hpos := hlive_le hlive
            have hstays : (session.step s.shutdown s.version event).live = true := by
              by_contra hdead
              exact hkeeps ⟨hlive, hdead⟩
            rw [if_pos hlive, if_pos hstays] at hcount
            omega
          · have hstays : ¬ (session.step s.shutdown s.version event).live = true :=
              fun hstep => hlive (WsSession.live_of_step hstep)
            rw [if_neg hlive, if_neg hstays] at hcount
            omega
        exact
          { ok := hok
            flag := h.flag
            raised := h.raised
            active := hactive.trans hsame.symm
            alert := h.alert
            stopped := h.stopped
            returned := h.returned }

theorem Inv.step (h : Inv s) (event : WsServerEvent) : Inv (s.step event) := by
  cases event with
  | upgrade => exact h.tryRegister
  | session index event => exact h.sessionStep index event
  | requestShutdown =>
      exact
        { ok := fun session hmem => (h.ok session hmem).newer (Nat.le_succ _)
          flag := fun hflag => by cases hflag
          raised := fun _ => Nat.succ_pos _
          active := h.active
          alert := h.alert
          stopped := h.stopped
          returned := h.returned }
  | stopAccepting =>
      obtain ⟨halert, _, hreturned⟩ := h.notified s.active
      exact
        { ok := h.ok
          flag := h.flag
          raised := h.raised
          active := h.active
          alert := halert
          stopped := fun _ => rfl
          returned := hreturned }
  | waitForEmpty =>
      simp only [WsServer.step]
      split
      next => exact h
      next haccepting =>
        exact
          { ok := h.ok
            flag := h.flag
            raised := h.raised
            active := h.active
            alert := h.alert.start
            stopped := fun _ => Bool.eq_false_iff.mpr haccepting
            returned := fun hphase => h.returned (Waiter.start_returned hphase) }
  | wait =>
      exact
        { ok := h.ok
          flag := h.flag
          raised := h.raised
          active := h.active
          alert := h.alert.wait
          stopped := fun hphase => h.stopped (Waiter.wait_idle hphase)
          returned := fun hphase => by
            obtain hbefore | hcondition := Waiter.wait_returned hphase
            · exact h.returned hbefore
            · exact of_decide_eq_true hcondition }
  | timeout =>
      simp only [WsServer.step]
      split
      next hwaiting =>
        exact
          { ok := h.ok
            flag := h.flag
            raised := h.raised
            active := h.active
            alert := h.alert.abandon
            stopped := fun _ => h.stopped (Waiter.not_idle_of_waiting hwaiting)
            returned := fun hphase => absurd hphase (Waiter.abandon_of_waiting hwaiting) }
      next => exact h

theorem inv_after (events : List WsServerEvent) : Inv (after events) :=
  run_preserves (fun _ event hs => hs.step event) inv_new events

/-! ## What a session's step leaves -/

theorem sessionStep_frame (s : WsServer) (index : Nat) (event : WsSessionEvent) :
    (s.sessionStep index event).shutdown = s.shutdown ∧
      (s.sessionStep index event).version = s.version ∧
      (s.sessionStep index event).accepting = s.accepting ∧
      (s.waiter.Waiting → (s.sessionStep index event).waiter.Waiting) ∧
      (s.sessionStep index event).sessions =
        s.sessions.modify index (fun session => session.step s.shutdown s.version event) := by
  unfold WsServer.sessionStep
  cases hget : s.sessions[index]? with
  | none =>
      refine ⟨rfl, rfl, rfl, id, ?_⟩
      rw [List.modify_eq_self (List.getElem?_eq_none_iff.mp hget)]
  | some session =>
      have hset : s.sessions.set index (session.step s.shutdown s.version event) =
          s.sessions.modify index (fun session => session.step s.shutdown s.version event) := by
        rw [List.modify_eq_set_getElem?, hget]
        rfl
      dsimp only
      split
      next =>
        refine ⟨rfl, rfl, rfl, fun hwaiting => ?_, hset⟩
        simp only [dropGuard]
        split
        · exact Waiter.waiting_notifyOne hwaiting
        · exact hwaiting
      next => exact ⟨rfl, rfl, rfl, id, hset⟩

/-- A run of one session leaves the others as they are. -/
theorem run_session (events : List WsSessionEvent) (s : WsServer) (index : Nat) :
    (run step s (events.map (.session index))).shutdown = s.shutdown ∧
      (run step s (events.map (.session index))).version = s.version ∧
      (s.waiter.Waiting → (run step s (events.map (.session index))).waiter.Waiting) ∧
      (run step s (events.map (.session index))).sessions =
        s.sessions.modify index (fun session =>
          run (fun session event => session.step s.shutdown s.version event) session events) := by
  induction events generalizing s with
  | nil =>
      have hid : s.sessions.modify index (fun session => session) = s.sessions :=
        List.modify_id index s.sessions
      exact ⟨rfl, rfl, id, hid.symm⟩
  | cons event rest ih =>
      obtain ⟨hshutdown, hversion, _, hwaiting, hsessions⟩ := sessionStep_frame s index event
      obtain ⟨hshutdown', hversion', hwaiting', hsessions'⟩ := ih (s.sessionStep index event)
      refine ⟨hshutdown'.trans hshutdown, hversion'.trans hversion,
        fun h => hwaiting' (hwaiting h), ?_⟩
      rw [hsessions, hshutdown, hversion, List.modify_modify_eq] at hsessions'
      exact hsessions'

theorem inv_run (h : Inv s) (events : List WsServerEvent) : Inv (run step s events) :=
  run_preserves (fun _ event hs => hs.step event) h events

/-! ## The shutdown of all sessions -/

/-- The sessions from the first one on wind down, one after the other. -/
def windDownFirst (count : Nat) : List WsServerEvent :=
  (List.range count).flatMap (fun index => WsSession.windDown.map (.session index))

/-- The sessions of the server wind down, and the task that waits for them runs. -/
def drain (s : WsServer) : List WsServerEvent :=
  windDownFirst s.sessions.length ++ [.wait, .wait, .wait]

theorem windDownFirst_ends (h : Inv s) (hshutdown : s.shutdown = true)
    (hwaiting : s.waiter.Waiting) (count : Nat) :
    (run step s (windDownFirst count)).shutdown = true ∧
      (run step s (windDownFirst count)).waiter.Waiting ∧
      (run step s (windDownFirst count)).sessions.length = s.sessions.length ∧
      ∀ index < count, ∀ session,
        (run step s (windDownFirst count)).sessions[index]? = some session →
          session.live = false := by
  induction count with
  | zero => exact ⟨hshutdown, hwaiting, rfl, by simp⟩
  | succ count ih =>
      obtain ⟨hraised, hstill, hlength, hdead⟩ := ih
      have hinv := inv_run h (windDownFirst count)
      have hsplit : windDownFirst (count + 1) =
          windDownFirst count ++ WsSession.windDown.map (.session count) := by
        simp [windDownFirst, List.range_succ]
      rw [hsplit, run_append]
      generalize run step s (windDownFirst count) = t at *
      obtain ⟨hshutdown', _, hwaiting', hsessions⟩ := run_session WsSession.windDown t count
      refine ⟨hshutdown'.trans hraised, hwaiting' hstill, by rw [hsessions]; simp [hlength], ?_⟩
      intro index hindex session hsession
      rw [hsessions] at hsession
      by_cases heq : index = count
      · subst heq
        rw [List.getElem?_modify_eq] at hsession
        obtain ⟨before, hbefore, rfl⟩ := Option.map_eq_some_iff.mp hsession
        rw [hraised]
        exact (hinv.ok before (List.mem_of_getElem? hbefore)).windDown (hinv.raised hraised)
      · rw [List.getElem?_modify_ne _ _ (Ne.symm heq)] at hsession
        exact hdead index (by omega) session hsession

/-- From every state in which the task waits after the shutdown, the sessions can end
without their clients and without the poller, and the task is told that they stopped. -/
theorem drain_stops (events : List WsServerEvent) (hshutdown : (after events).shutdown = true)
    (hwaiting : (after events).waiter.Waiting) :
    (run step (after events) (drain (after events))).shutdownResult =
      some (.ok ()) := by
  have h := inv_after events
  generalize after events = s at *
  obtain ⟨_, hstill, hlength, hdead⟩ := windDownFirst_ends h hshutdown hwaiting s.sessions.length
  have hinv := inv_run h (windDownFirst s.sessions.length)
  rw [drain, run_append]
  generalize run step s (windDownFirst s.sessions.length) = t at *
  have hnone : t.active = 0 := by
    rw [hinv.active, List.countP_eq_zero]
    intro session hmem
    obtain ⟨index, hindex⟩ := List.mem_iff_getElem?.mp hmem
    have hlt := (List.getElem?_eq_some_iff.mp hindex).1
    simp [hdead index (by omega) session hindex]
  have halert := hinv.alert
  simp only [hnone, decide_true] at halert
  have hreturns := halert.returns hstill
  simp only [run_cons, run_nil, step, hnone, decide_true, shutdownResult, hreturns, if_true]

/-- A client that connects while the shutdown begins. -/
def caughtClient : List WsServerEvent :=
  [.upgrade, .session 0 .upgraded, .session 0 .checked, .session 0 (.revalidated true),
    .requestShutdown, .upgrade, .stopAccepting, .waitForEmpty, .wait, .wait]

theorem drain_stops_caught :
    (run step (after caughtClient) (drain (after caughtClient))).shutdownResult =
      some (.ok ()) :=
  drain_stops caughtClient rfl (.inr (.inr rfl))

/-- What the tracker knows, in every state. -/
structure Tracked (s : WsServer) : Prop where
  active : s.active = s.sessions.countP WsSession.live
  empty : s.shutdownResult = some (.ok ()) → ∀ session ∈ s.sessions, session.live = false
  awake : s.waiter.phase = .parked → ∃ session ∈ s.sessions, session.live = true
  closed : ∀ later, s.accepting = false →
    (run step s later).sessions.length = s.sessions.length

theorem step_accepting (s : WsServer) (event : WsServerEvent) (h : s.accepting = false) :
    (s.step event).accepting = false ∧ (s.step event).sessions.length = s.sessions.length := by
  cases event with
  | upgrade => simp [step, tryRegister, h]
  | session index event =>
      obtain ⟨_, _, haccepting, _, hsessions⟩ := sessionStep_frame s index event
      exact ⟨haccepting.trans h, by simp [step, hsessions]⟩
  | requestShutdown => exact ⟨h, rfl⟩
  | stopAccepting => exact ⟨rfl, rfl⟩
  | waitForEmpty =>
      simp only [step]
      split
      · exact ⟨h, rfl⟩
      · exact ⟨h, rfl⟩
  | wait => exact ⟨h, rfl⟩
  | timeout =>
      simp only [step]
      split
      · exact ⟨h, rfl⟩
      · exact ⟨h, rfl⟩

theorem run_length (later : List WsServerEvent) (s : WsServer) (h : s.accepting = false) :
    (run step s later).sessions.length = s.sessions.length := by
  induction later generalizing s with
  | nil => rfl
  | cons event rest ih =>
      obtain ⟨haccepting, hlength⟩ := step_accepting s event h
      exact (ih (s.step event) haccepting).trans hlength

/-- In every run the count is that of the guards that are held, the task that waits is
never parked without a session, and what it is told is so. -/
theorem tracked_after (events : List WsServerEvent) : Tracked (after events) := by
  have h := inv_after events
  have hdead : (after events).active = 0 → ∀ session ∈ (after events).sessions,
      session.live = false := by
    intro hzero session hmem
    rw [h.active, List.countP_eq_zero] at hzero
    simpa using hzero session hmem
  refine
    { active := h.active
      empty := ?_
      awake := ?_
      closed := fun later haccepting => run_length later _ haccepting }
  · intro hresult
    refine hdead (h.returned ?_)
    unfold shutdownResult at hresult
    split at hresult
    next hphase => exact hphase
    next =>
      cases htimed : (after events).timedOutWith <;> rw [htimed] at hresult <;> cases hresult
  · intro hparked
    have hactive := h.alert.parked hparked
    have hpos : 0 < (after events).sessions.countP WsSession.live := by
      rw [← h.active]
      simpa [Nat.pos_iff_ne_zero] using hactive
    exact List.countP_pos_iff.mp hpos

/-! ## The frames of all sessions -/

/-- In every run a session that sent anything but a close sent a greeting first, a close
frame is the last one, and a session that lives has sent none. -/
theorem frames_after (events : List WsServerEvent) :
    ∀ session ∈ (after events).sessions, WsSession.Closed session.frames ∧
      (session.live = true → WsSession.DataFrames session.frames) := by
  intro session hmem
  have hok := (inv_after events).ok session hmem
  exact ⟨hok.ended, hok.live⟩

/-- A client that has its first frame. -/
def greetedClient : List WsServerEvent :=
  [.upgrade, .session 0 .upgraded, .session 0 .checked, .session 0 (.revalidated true),
    .session 0 (.read none), .session 0 (.sent true)]

theorem frames_after_greeted :
    WsSession.Closed [.text (.connectionStatus false none)] ∧
      (WsSession.live ⟨.looping, 0, [.text (.connectionStatus false none)]⟩ = true →
        WsSession.DataFrames [.text (.connectionStatus false none)]) :=
  frames_after greetedClient ⟨.looping, 0, [.text (.connectionStatus false none)]⟩
    (List.mem_singleton.mpr rfl)

theorem closesWith_step {frame : CloseFrame} {before : List ServerFrame} {index : Nat}
    (event : WsServerEvent)
    (h : ∃ session, s.sessions[index]? = some session ∧ session.ClosesWith frame before) :
    ∃ session, (s.step event).sessions[index]? = some session ∧
      session.ClosesWith frame before := by
  obtain ⟨session, hsession, hcloses⟩ := h
  cases event with
  | upgrade =>
      refine ⟨session, ?_, hcloses⟩
      simp only [step, tryRegister]
      split
      · rw [List.getElem?_append_left (List.getElem?_eq_some_iff.mp hsession).1]
        exact hsession
      · exact hsession
  | session other event =>
      obtain ⟨_, _, _, _, hsessions⟩ := sessionStep_frame s other event
      rw [step, hsessions]
      by_cases heq : other = index
      · subst heq
        rw [List.getElem?_modify_eq, hsession]
        exact ⟨_, rfl, hcloses.step s.shutdown s.version event⟩
      · rw [List.getElem?_modify_ne _ _ heq]
        exact ⟨session, hsession, hcloses⟩
  | requestShutdown => exact ⟨session, hsession, hcloses⟩
  | stopAccepting => exact ⟨session, hsession, hcloses⟩
  | waitForEmpty =>
      refine ⟨session, ?_, hcloses⟩
      simp only [step]
      split <;> exact hsession
  | wait => exact ⟨session, hsession, hcloses⟩
  | timeout =>
      refine ⟨session, ?_, hcloses⟩
      simp only [step]
      split <;> exact hsession

theorem closesWith_run {frame : CloseFrame} {before : List ServerFrame} {index : Nat}
    (later : List WsServerEvent)
    (h : ∃ session, s.sessions[index]? = some session ∧ session.ClosesWith frame before) :
    ∃ session, (run step s later).sessions[index]? = some session ∧
      session.ClosesWith frame before := by
  induction later generalizing s with
  | nil => exact h
  | cons event rest ih => exact ih (closesWith_step event h)

/-- The user of a session is found to be logged out, before its greeting or in its loop, and
the session closes with a frame that says so. -/
inductive Revoked : WsSessionPhase → WsSessionEvent → CloseFrame → Prop
  | first : Revoked .revalidating (.revalidated false) ⟨1008, "session expired"⟩
  | later : Revoked .looping (.sessionChecked false) ⟨1008, "session expired or revoked"⟩

/-- A session whose user is found to be logged out sends nothing but the close frame,
whatever the poller, the client and the server do then. -/
theorem revoked_closes (earlier later : List WsServerEvent) (index : Nat) (session : WsSession)
    (hsession : (after earlier).sessions[index]? = some session) (event : WsSessionEvent)
    (frame : CloseFrame) (hrevoked : Revoked session.phase event frame) :
    ∃ final, (run step (after earlier) (.session index event :: later)).sessions[index]? =
        some final ∧ final.ClosesWith frame session.frames := by
  refine closesWith_run later ?_
  obtain ⟨_, _, _, _, hsessions⟩ := sessionStep_frame (after earlier) index event
  rw [step, hsessions, List.getElem?_modify_eq, hsession]
  generalize hphase : session.phase = phase at hrevoked
  cases hrevoked with
  | first => exact ⟨_, rfl, .inl (by simp [WsSession.step, hphase, WsSession.close])⟩
  | later => exact ⟨_, rfl, .inl (by simp [WsSession.step, hphase, WsSession.close])⟩

theorem revoked_closes_greeted :
    ∃ final, (run step (after greetedClient)
        [.session 0 (.sessionChecked false), .session 0 (.received (.connectionStatus true none)),
          .session 0 (.closed true)]).sessions[0]? = some final ∧
      final.ClosesWith ⟨1008, "session expired or revoked"⟩
        [.text (.connectionStatus false none)] :=
  revoked_closes greetedClient
    [.session 0 (.received (.connectionStatus true none)), .session 0 (.closed true)] 0
    ⟨.looping, 0, [.text (.connectionStatus false none)]⟩ rfl (.sessionChecked false)
    ⟨1008, "session expired or revoked"⟩ .later

end WsServer

end RouterView.Ws
