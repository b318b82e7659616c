/-
  Ws/ConnectionSpec.lean --- what an event does to the page.

  Every call and callback is one of the moves of the link, and every move keeps
  the invariant.
-/
import RouterView.Ws.Link

set_option autoImplicit false

namespace RouterView.Ws

open RouterView.Foundation

/-! ## The page as operations on the link -/

namespace Page

variable (p : Page)

@[simp] theorem markDisconnected_toLink : p.markDisconnected.toLink = p.toLink := rfl

@[simp] theorem clearReconnectTimer_toLink : p.clearReconnectTimer.toLink = p.toLink.clear := rfl

@[simp] theorem stopWatchdog_toLink : p.stopWatchdog.toLink = p.toLink := rfl

@[simp] theorem clearStableTimer_toLink : p.clearStableTimer.toLink = p.toLink := rfl

@[simp] theorem resetReconnectBackoff_toLink : p.resetReconnectBackoff.toLink = p.toLink := rfl

@[simp] theorem invalidateSocket_toLink : p.invalidateSocket.toLink = p.toLink.invalidate := rfl

@[simp] theorem markSessionExpired_toLink : p.markSessionExpired.toLink = p.toLink.expire := rfl

@[simp] theorem createSocket_toLink (url : String) :
    (p.createSocket url).toLink = p.toLink.create url := rfl

@[simp] theorem startWatchdog_toLink (socket generation : Nat) :
    (p.startWatchdog socket generation).toLink = p.toLink := rfl

@[simp] theorem startStabilityTimer_toLink (socket generation : Nat) :
    (p.startStabilityTimer socket generation).toLink = p.toLink := rfl

@[simp] theorem scheduleReconnect_toLink (url : String) :
    (p.scheduleReconnect url).toLink = p.toLink.schedule url := by
  unfold scheduleReconnect Link.schedule
  split <;> rfl

end Page

theorem connect_toLink (p : Page) (url : String) (throws : Bool) :
    p.toLink.Connects url throws (p.connect url throws).toLink := by
  have hchanges : p.activeUrl.any (fun active => active != url) = true ↔ p.toLink.changes url := by
    simp [Link.changes, Option.any_eq_true]
  have halive : p.ws.any p.alive = true ↔ p.toLink.alive := by
    simp [Link.alive, Page.alive, Option.any_eq_true, or_comm]
  unfold Page.connect
  simp only
  split
  · rename_i hoffline
    exact .offline hoffline
  · rename_i honline
    have honline : p.offline = false := Bool.eq_false_iff.mpr honline
    split
    · rename_i hkept
      exact .kept honline (fun h => by rw [hchanges.mpr h] at hkept; cases hkept.1)
        (halive.mp hkept.2)
    · rename_i hnew
      have hretry : ∀ base : Page, (p.toLink.changes url ∧ base.toLink = p.toLink.invalidate) ∨
          (¬ p.toLink.changes url ∧ ¬ p.toLink.alive ∧ base.toLink = p.toLink) →
          ∀ next : Page, next.toLink = (base.toLink.clear.activate url).bump →
            p.toLink.Connects url throws (if throws = true then
              next.markDisconnected.scheduleReconnect url else next.createSocket url).toLink := by
        intro base hbase next hnext
        have hresult : (if throws = true then next.markDisconnected.scheduleReconnect url
            else next.createSocket url).toLink =
            if throws then (base.toLink.clear.activate url).bump.schedule url
            else (base.toLink.clear.activate url).bump.create url := by
          cases throws with
          | true =>
              simp only [if_true, Page.scheduleReconnect_toLink, Page.markDisconnected_toLink,
                hnext]
          | false => simp only [Bool.false_eq_true, if_false, Page.createSocket_toLink, hnext]
        rw [hresult]
        exact .retried honline base.toLink hbase
      by_cases hchanged : p.toLink.changes url
      · rw [hchanges.mpr hchanged]
        exact hretry p.invalidateSocket (Or.inl ⟨hchanged, rfl⟩) _ rfl
      · have hfalse : p.activeUrl.any (fun active => active != url) = false := by
          rw [Bool.eq_false_iff]
          exact fun h => hchanged (hchanges.mp h)
        have hdead : ¬ p.toLink.alive := fun h => hnew ⟨hfalse, halive.mpr h⟩
        rw [hfalse]
        exact hretry p (Or.inr ⟨hchanged, hdead, rfl⟩) _ rfl

/-! ## Events -/

theorem isCurrentSocket_eq_true {p : Page} {i : Nat} :
    p.isCurrentSocket i = true ↔ ∃ s, p.toLink.current i s := by
  simp only [Page.isCurrentSocket, Page.isCurrent, Option.any_eq_true, decide_eq_true_eq,
    Link.current]
  constructor
  · rintro ⟨s, hs, hws, hgeneration⟩
    exact ⟨s, hws, hs, hgeneration.symm⟩
  · rintro ⟨s, hws, hs, hgeneration⟩
    exact ⟨s, hs, hws, hgeneration.symm⟩

theorem isPendingReconnect_eq_true {p : Page} {asked : SessionCheck} :
    p.isPendingReconnect asked.url asked.generation = true ↔ p.toLink.awaits asked := by
  simp only [Page.isPendingReconnect, Bool.and_eq_true, decide_eq_true_eq, Bool.not_eq_true',
    Link.awaits, and_assoc]

section

variable (recent : Int → Json → Bool) {p : Page}

theorem advances_readyState {f : ReadyState → ReadyState}
    (hf : ∀ state, f state = .connecting ∨ f state = .open →
      state = .connecting ∨ state = .open) :
    Link.Advances (fun s => { s with readyState := f s.readyState }) :=
  ⟨fun _ => rfl, fun _ => rfl, fun s => hf s.readyState⟩

theorem advance_socket (p : Page) (i : Nat) (f : ReadyState → ReadyState) :
    (p.advance i f).sockets[i]? =
      p.sockets[i]?.map (fun s => { s with readyState := f s.readyState }) := by
  simp [Page.advance]

/-- An open event changes the socket, whether or not it is the current one. -/
theorem socketOpen_moves (h : p.toLink.Ok) (socket : Nat) (now : Int) (event : PageEvent) :
    p.toLink.Moves event ((p.advance socket .opened).onopen socket now).toLink := by
  have hopened : ∀ state : ReadyState, state.opened = .closed → state = .closed := by
    intro state
    cases state <;> simp [ReadyState.opened]
  have halive : ∀ state : ReadyState, state.opened = .connecting ∨ state.opened = .open →
      state = .connecting ∨ state = .open := by
    intro state
    cases state <;> simp [ReadyState.opened]
  have hadvance : p.toLink.Moves event (p.advance socket .opened).toLink :=
    .touched event socket _ (advances_readyState halive)
      (fun s hs hclosed => (h.currentOpen socket s hs).1 (hopened s.readyState hclosed))
  unfold Page.onopen
  split
  · exact hadvance
  · split
    · simp only [Page.startStabilityTimer_toLink, Page.startWatchdog_toLink]
      have htwice : p.toLink.Moves event (p.toLink.touch socket
          (fun s => { s with opened := true, readyState := s.readyState.opened })) :=
        .touched event socket _ ⟨fun _ => rfl, fun _ => rfl, fun s => halive s.readyState⟩
          (fun s hs hclosed => (h.currentOpen socket s hs).1 (hopened s.readyState hclosed))
      simpa only [Link.touch, Page.advance, List.modify_modify_eq, Function.comp_def] using htwice
    · exact hadvance

/-- A close event drops the current socket. -/
theorem socketClose_moves (h : p.toLink.Ok) (socket code : Nat) (event : PageEvent) :
    p.toLink.Moves event ((p.advance socket (fun _ => .closed)).onclose socket code).toLink := by
  have hf : Link.Advances (fun s => { s with readyState := .closed }) :=
    advances_readyState (f := fun _ => .closed) (by simp)
  have hsocket := advance_socket p socket (fun _ => .closed)
  unfold Page.onclose
  rw [hsocket]
  cases hfound : p.sockets[socket]? with
  | none =>
      refine .touched event socket _ hf ?_
      rintro s ⟨_, hs, _⟩
      rw [hfound] at hs
      cases hs
  | some s =>
      simp only [Option.map_some]
      split
      · rename_i hcurrent
        have hcurrent : p.ws = some socket ∧ p.generation = s.generation :=
          of_decide_eq_true hcurrent
        refine .closed event socket s _ hf ⟨hcurrent.1, hfound, hcurrent.2.symm⟩ _ ?_
        have hactive := (h.currentOpen socket s ⟨hcurrent.1, hfound, hcurrent.2.symm⟩).2
        have hintended := (h.active (by rw [hactive]; exact Option.some_ne_none _)).1
        split
        · exact Or.inl rfl
        · split
          · right
            left
            simp only [← hcurrent.2]
            rfl
          · split
            · right
              right
              rw [Page.scheduleReconnect_toLink]
              rfl
            · rename_i hdeliberate
              exact absurd hintended hdeliberate
      · rename_i hstale
        refine .touched event socket _ hf ?_
        rintro t ⟨hws, ht, hgeneration⟩
        rw [hfound, Option.some.injEq] at ht
        subst ht
        exact absurd (decide_eq_true ⟨hws, hgeneration.symm⟩) hstale

/-- The pending reconnect timer is the one of the store. -/
theorem get_reconnect (h : p.toLink.Ok) {timer : Nat} {url : String}
    (hget : p.reconnects.get? timer = some url) :
    p.reconnectTimer = some timer ∧ p.activeUrl = some url := by
  have hmem := Pending.mem_of_get? hget
  cases htimer : p.reconnectTimer with
  | none =>
      rw [h.idle htimer] at hmem
      exact absurd hmem List.not_mem_nil
  | some id =>
      obtain ⟨other, hitems, hactive⟩ := h.timed id htimer
      rw [hitems, List.mem_singleton, Prod.mk.injEq] at hmem
      rw [hmem.1, hmem.2]
      exact ⟨rfl, hactive⟩

theorem reconnectTimer_moves (h : p.toLink.Ok) (timer : Nat) (throws : Bool) (event : PageEvent) :
    p.toLink.Moves event (p.onReconnectTimer timer throws).toLink := by
  unfold Page.onReconnectTimer
  cases hget : p.reconnects.get? timer with
  | none => exact .same event
  | some url =>
      obtain ⟨htimer, hactive⟩ := get_reconnect h hget
      have hflags := h.active (by rw [hactive]; exact Option.some_ne_none _)
      have honline : p.offline = false := by
        rw [Bool.eq_false_iff]
        intro hoffline
        rw [(h.quiet hoffline).2.1] at htimer
        cases htimer
      simp only
      rw [if_pos ⟨hflags.1, honline, hactive⟩]
      refine .fired event timer url throws htimer hactive _ ?_
      have hclear : ({ p with
          reconnects := p.reconnects.stop timer, reconnectTimer := none } : Page).toLink =
          p.toLink.clear := by
        simp only [Link.clear, htimer, Option.elim_some]
      rw [← hclear]
      exact connect_toLink _ url throws

theorem restart_moves (event : PageEvent) :
    p.toLink.Moves event p.restartCurrentSocket.toLink := by
  unfold Page.restartCurrentSocket
  split
  · exact .same event
  · rename_i url hurl
    split
    · exact .same event
    · rw [Page.scheduleReconnect_toLink]
      exact .restarted event url hurl

theorem sessionCheck_moves (check : Nat) (authenticated : Option Bool) (event : PageEvent) :
    p.toLink.Moves event (p.onSessionCheck check authenticated).toLink := by
  unfold Page.onSessionCheck
  cases hget : p.checks.get? check with
  | none => exact .same event
  | some asked =>
      simp only
      have hpending : ({ p with checks := p.checks.stop check } : Page).isPendingReconnect asked.url
          asked.generation = true ↔ p.toLink.awaits asked := isPendingReconnect_eq_true
      split
      · rename_i hawaits
        refine .answered event check asked hget _ (Or.inr ⟨hpending.mp hawaits, ?_⟩)
        split
        · exact Or.inl rfl
        · right
          rw [Page.scheduleReconnect_toLink]
          rfl
      · rename_i hawaits
        exact .answered event check asked hget _
          (Or.inl ⟨fun h => hawaits (hpending.mpr h), rfl⟩)

theorem connectivity_moves (online throws : Bool) :
    p.toLink.Moves (.connectivity online throws)
      (pageStep recent p (.connectivity online throws)).toLink := by
  simp only [pageStep]
  split
  · rename_i hunnoticed
    exact .unnoticed online throws hunnoticed
  · rename_i hnoticed
    rw [not_or, Bool.not_eq_false] at hnoticed
    cases online with
    | false => exact .wentOffline throws
    | true =>
        have hoffline : p.online = false := (Bool.eq_false_iff.mpr (fun h => hnoticed.1 h.symm))
        simp only [if_true, Page.onOnline]
        split
        · rename_i hnone
          exact .cameOnline throws hnoticed.2 hoffline
            (fun url hurl => absurd (hurl.symm.trans hnone) (Option.some_ne_none _))
        · rename_i url hurl
          split
          · rename_i hconnects
            exact .reconnected throws url hurl hconnects.1 _
              (connect_toLink { p with offline := false, online := true } url throws)
          · rename_i hrefused
            refine .cameOnline throws hnoticed.2 hoffline ?_
            intro other hother
            have hsame : url = other := Option.some.inj (hurl.symm.trans hother)
            subst hsame
            by_cases hempty : url = ""
            · exact Or.inl hempty
            · right
              by_contra hflags
              rw [not_or, Bool.not_eq_true, Bool.not_eq_true] at hflags
              exact hrefused ⟨hempty, hflags.1, hflags.2⟩

/-- Every event is one of the moves. -/
theorem pageStep_moves (h : p.toLink.Ok) (event : PageEvent) :
    p.toLink.Moves event (pageStep recent p event).toLink := by
  cases event with
  | connect url throws => exact .connected url throws _ (connect_toLink p url throws)
  | disconnect => exact .disconnected
  | socketOpen socket now => exact socketOpen_moves h socket now _
  | socketMessage socket data now =>
      have hlink : (p.onmessage recent socket data now).toLink = p.toLink := by
        unfold Page.onmessage
        split
        · split
          · rfl
          · split
            · rfl
            · simp only
              split <;> rfl
        · rfl
      simp only [pageStep, hlink]
      exact .same _
  | socketClosing socket =>
      refine .touched _ socket _ (advances_readyState ?_) ?_
      · intro state
        cases state <;> simp [ReadyState.ending]
      · intro s hs hclosed
        have hopen := (h.currentOpen socket s hs).1
        simp only at hclosed
        revert hclosed hopen
        cases s.readyState <;> simp [ReadyState.ending]
  | socketClose socket code => exact socketClose_moves h socket code _
  | reconnectTimer timer throws => exact reconnectTimer_moves h timer throws _
  | watchdogTimer timer now =>
      simp only [pageStep, Page.onWatchdogTimer]
      split
      · exact .same _
      · split
        · split
          · exact restart_moves (p := { p with dashboard := p.dashboard.refreshFreshness now }) _
          · exact .same _
        · exact .same _
  | stableTimer timer =>
      have hlink : (p.onStableTimer timer).toLink = p.toLink := by
        unfold Page.onStableTimer
        split
        · rfl
        · simp only
          split <;> rfl
      simp only [pageStep, hlink]
      exact .same _
  | sessionCheck check authenticated => exact sessionCheck_moves check authenticated _
  | connectivity online throws => exact connectivity_moves recent online throws

end

/-! ## The invariant over a run -/

namespace Link

variable {l l' : Link} {event : PageEvent}

theorem touch_socket {f : Socket → Socket} {i j : Nat} {s : Socket}
    (hs : (l.touch i f).sockets[j]? = some s) :
    ∃ old, l.sockets[j]? = some old ∧ (s = old ∨ (i = j ∧ s = f old)) := by
  simp only [touch, List.getElem?_modify] at hs
  obtain ⟨old, hold, rfl⟩ := Option.map_eq_some_iff.mp hs
  refine ⟨old, hold, ?_⟩
  by_cases hij : i = j
  · rw [if_pos hij]
    exact Or.inr ⟨hij, rfl⟩
  · rw [if_neg hij]
    exact Or.inl rfl

theorem Ok.touch_older (h : Ok l) {f : Socket → Socket} (hf : Advances f) (i : Nat) :
    ∀ s ∈ (l.touch i f).sockets, s.generation ≤ l.generation := by
  intro s hs
  obtain ⟨old, hold, hsame⟩ := mem_modify_generation hf.generation hs
  rw [hsame]
  exact h.older old hold

theorem Ok.touch (h : Ok l) {f : Socket → Socket} (hf : Advances f) {i : Nat}
    (hclosed : ∀ s, l.current i s → (f s).readyState ≠ .closed) : Ok (l.touch i f) where
  known := fun j hj => by simpa [Link.touch] using h.known j hj
  older := h.touch_older hf i
  olderChecks := h.olderChecks
  aliveCurrent := by
    intro j s hj hs halive
    obtain ⟨old, hold, rfl | ⟨rfl, rfl⟩⟩ := touch_socket hs
    · exact h.aliveCurrent j s hj hold halive
    · rw [hf.generation]
      exact h.aliveCurrent i old hj hold (hf.alive old halive)
  currentOpen := by
    rintro j s ⟨hj, hs, hgeneration⟩
    obtain ⟨old, hold, rfl | ⟨rfl, rfl⟩⟩ := touch_socket hs
    · exact h.currentOpen j s ⟨hj, hold, hgeneration⟩
    · rw [hf.generation] at hgeneration
      have hcurrent : l.current i old := ⟨hj, hold, hgeneration⟩
      rw [hf.url]
      exact ⟨hclosed old hcurrent, (h.currentOpen i old hcurrent).2⟩
  checking := h.checking
  idle := h.idle
  timed := h.timed
  active := h.active
  quiet := h.quiet

theorem Ok.drop (h : Ok l) {f : Socket → Socket} (hf : Advances f) (i : Nat) :
    Ok (l.touch i f).drop where
  known := fun j hj => by cases hj
  older := h.touch_older hf i
  olderChecks := h.olderChecks
  aliveCurrent := fun j s hj => by cases hj
  currentOpen := fun j s hs => by cases hs.1
  checking := fun _ _ _ => rfl
  idle := h.idle
  timed := h.timed
  active := h.active
  quiet := fun hoffline => ⟨rfl, (h.quiet hoffline).2⟩

theorem Ok.ask (h : Ok l) (hws : l.ws = none) (honline : l.offline = false) (url : String) :
    Ok (l.ask url) where
  known := h.known
  older := h.older
  olderChecks := by
    intro c hc
    rcases List.mem_append.mp hc with hold | hnew
    · exact h.olderChecks c hold
    · rw [List.mem_singleton.mp hnew]
      exact le_rfl
  aliveCurrent := h.aliveCurrent
  currentOpen := h.currentOpen
  checking := fun _ _ _ => hws
  idle := h.idle
  timed := h.timed
  active := h.active
  quiet := by
    intro hoffline
    rw [show (l.ask url).offline = l.offline from rfl, honline] at hoffline
    cases hoffline

theorem Ok.answer (h : Ok l) (check : Nat) : Ok (l.answer check) where
  known := h.known
  older := h.older
  olderChecks := fun c hc => h.olderChecks c (List.mem_of_mem_filter hc)
  aliveCurrent := h.aliveCurrent
  currentOpen := h.currentOpen
  checking := fun c hc => h.checking c (List.mem_of_mem_filter hc)
  idle := h.idle
  timed := h.timed
  active := h.active
  quiet := fun hoffline => ⟨(h.quiet hoffline).1, (h.quiet hoffline).2.1,
    fun c hc => (h.quiet hoffline).2.2 c (List.mem_of_mem_filter hc)⟩

theorem Ok.noticed (h : Ok l) : Ok { l with offline := false, online := true } :=
  { h with quiet := fun hoffline => by cases hoffline }

/-- Every event keeps the invariant. -/
theorem Ok.moves (h : Ok l) (hmove : l.Moves event l') : Ok l' := by
  cases hmove with
  | same => exact h
  | touched _ i f hf hclosed => exact h.touch hf hclosed
  | connected url throws _ hconnects => exact h.connects hconnects
  | disconnected =>
      refine { h.clear.invalidate with currentOpen := ?_, timed := ?_, active := ?_ }
      · rintro i s ⟨hws, _⟩
        cases hws
      · intro id hid
        cases hid
      · intro hactive
        exact absurd rfl hactive
  | closed _ i s f hf hcurrent _ hresult =>
      have hdrop := h.drop hf i
      have hactive := (h.currentOpen i s hcurrent).2
      have honline : l.offline = false := by
        rw [Bool.eq_false_iff]
        intro hoffline
        have hws := hcurrent.1
        rw [(h.quiet hoffline).1] at hws
        cases hws
      rcases hresult with rfl | rfl | rfl
      · refine hdrop.expire ?_
        rintro j t ⟨hws, _⟩
        cases hws
      · exact hdrop.ask rfl honline s.url
      · exact hdrop.schedule (fun _ _ => hactive)
  | restarted _ url hurl => exact h.invalidate.schedule (fun _ _ => hurl)
  | fired _ id url throws _ _ _ hconnects => exact h.clear.connects hconnects
  | answered _ check asked hasked _ hresult =>
      rcases hresult with ⟨_, rfl⟩ | ⟨hawaits, rfl | rfl⟩
      · exact h.answer check
      · refine (h.answer check).expire ?_
        rintro i s ⟨hws, _⟩
        have hnone := h.checking _ (Pending.mem_of_get? hasked) hawaits.1.symm
        rw [show (l.answer check).ws = l.ws from rfl, hnone] at hws
        cases hws
      · exact (h.answer check).schedule (fun _ _ => hawaits.2.1)
  | unnoticed online throws _ => exact { h with }
  | wentOffline throws =>
      refine { h.clear.invalidate with quiet := ?_ }
      intro _
      refine ⟨rfl, rfl, ?_⟩
      intro c hc
      exact (Nat.lt_succ_of_le (h.olderChecks c hc)).ne
  | cameOnline throws _ _ _ => exact h.noticed
  | reconnected throws url _ _ _ hconnects => exact h.noticed.connects hconnects

end Link

end RouterView.Ws
