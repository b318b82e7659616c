/-
  Ws/Link.lean --- the variables that keep the page connected.

  They are changed by few operations, which every call and callback of the page
  is composed of.  One invariant holds between any two of them in the orders in
  which the page composes them.
-/
import RouterView.Ws.Connection

set_option autoImplicit false

namespace RouterView.Ws

open RouterView.Foundation

/-! ## Operations on the link -/

namespace Link

/-- A URL becomes active. -/
def activate (url : String) (l : Link) : Link :=
  { l with
    activeUrl := some url
    intentionalDisconnect := false
    sessionExpired := false
    networkListenersAttached := true }

/-- The reconnect timer is cleared. -/
def clear (l : Link) : Link :=
  { l with
    reconnects := l.reconnectTimer.elim l.reconnects (fun id => l.reconnects.stop id)
    reconnectTimer := none }

/-- The socket of the store is given up. -/
def invalidate (l : Link) : Link :=
  { l with
    generation := l.generation + 1
    ws := none
    sockets := l.ws.elim l.sockets (fun socket => l.sockets.modify socket Page.closeSocket) }

/-- The next generation begins. -/
def bump (l : Link) : Link := { l with generation := l.generation + 1 }

/-- A reconnect is scheduled, unless there is a reason not to. -/
def schedule (url : String) (l : Link) : Link :=
  if l.intentionalDisconnect ∨ l.sessionExpired ∨ l.offline ∨ l.reconnectTimer.isSome then l
  else { l with
    reconnectTimer := some l.reconnects.next
    reconnects := l.reconnects.start url }

/-- A socket is created. -/
def create (url : String) (l : Link) : Link :=
  { l with
    ws := some l.sockets.length
    sockets := l.sockets ++ [⟨url, l.generation, false, .connecting⟩] }

/-- The session is marked expired. -/
def expire (l : Link) : Link := { l with sessionExpired := true, activeUrl := none }.clear

/-- The socket of the store, unless it was superseded. -/
def current (l : Link) (i : Nat) (s : Socket) : Prop :=
  l.ws = some i ∧ l.sockets[i]? = some s ∧ s.generation = l.generation

/-! ### The invariant -/

/-- What holds of the link at any time. -/
structure Ok (l : Link) : Prop where
  known : ∀ i, l.ws = some i → i < l.sockets.length
  older : ∀ s ∈ l.sockets, s.generation ≤ l.generation
  olderChecks : ∀ c ∈ l.checks.items, c.2.generation ≤ l.generation
  aliveCurrent : ∀ i s, l.ws = some i → l.sockets[i]? = some s →
    s.readyState = .connecting ∨ s.readyState = .open → s.generation = l.generation
  currentOpen : ∀ i s, l.current i s → s.readyState ≠ .closed ∧ l.activeUrl = some s.url
  checking : ∀ c ∈ l.checks.items, c.2.generation = l.generation → l.ws = none
  idle : l.reconnectTimer = none → l.reconnects.items = []
  timed : ∀ id, l.reconnectTimer = some id → ∃ url, l.reconnects.items = [(id, url)] ∧
    l.activeUrl = some url
  active : l.activeUrl ≠ none →
    l.intentionalDisconnect = false ∧ l.sessionExpired = false ∧ l.networkListenersAttached = true
  quiet : l.offline = true → l.ws = none ∧ l.reconnectTimer = none ∧
    ∀ c ∈ l.checks.items, c.2.generation ≠ l.generation

variable {l : Link}

theorem Ok.clear (h : Ok l) : Ok l.clear where
  known := h.known
  older := h.older
  olderChecks := h.olderChecks
  aliveCurrent := h.aliveCurrent
  currentOpen := h.currentOpen
  checking := h.checking
  idle := by
    intro _
    cases htimer : l.reconnectTimer with
    | none => simpa [Link.clear, htimer] using h.idle htimer
    | some id =>
        obtain ⟨url, hitems, _⟩ := h.timed id htimer
        simp only [Link.clear, htimer, Option.elim_some]
        exact Pending.stop_only hitems
  timed := fun id hid => by cases hid
  active := h.active
  quiet := fun hoffline => ⟨(h.quiet hoffline).1, rfl, (h.quiet hoffline).2.2⟩

theorem closeSocket_generation (s : Socket) : (Page.closeSocket s).generation = s.generation := by
  unfold Page.closeSocket
  split <;> rfl

/-- A socket of a list in which one was changed has the generation of an old one. -/
theorem mem_modify_generation {sockets : List Socket} {i : Nat} {f : Socket → Socket}
    (hf : ∀ s, (f s).generation = s.generation) {s : Socket} (hs : s ∈ sockets.modify i f) :
    ∃ old ∈ sockets, s.generation = old.generation := by
  obtain ⟨j, hj⟩ := List.mem_iff_getElem?.mp hs
  rw [List.getElem?_modify] at hj
  obtain ⟨old, hold, heq⟩ := Option.map_eq_some_iff.mp hj
  refine ⟨old, List.mem_of_getElem? hold, ?_⟩
  rw [← heq]
  split
  · exact hf old
  · rfl

theorem Ok.invalidate (h : Ok l) : Ok l.invalidate where
  known := fun i hi => by cases hi
  older := by
    intro s hs
    have hold : ∃ old ∈ l.sockets, s.generation = old.generation := by
      simp only [Link.invalidate] at hs
      cases hws : l.ws with
      | none =>
          rw [hws] at hs
          exact ⟨s, hs, rfl⟩
      | some i =>
          rw [hws] at hs
          exact mem_modify_generation closeSocket_generation hs
    obtain ⟨old, hmem, hsame⟩ := hold
    rw [hsame]
    exact (h.older old hmem).trans (Nat.le_succ _)
  olderChecks := fun c hc => (h.olderChecks c hc).trans (Nat.le_succ _)
  aliveCurrent := fun i s hi => by cases hi
  currentOpen := fun i s hcurrent => by cases hcurrent.1
  checking := fun _ _ _ => rfl
  idle := h.idle
  timed := h.timed
  active := h.active
  quiet := by
    intro hoffline
    refine ⟨rfl, (h.quiet hoffline).2.1, ?_⟩
    intro c hc
    exact (Nat.lt_succ_of_le (h.olderChecks c hc)).ne

/-- A URL becomes active while no other is in use. -/
theorem Ok.activate (h : Ok l) {url : String} (hcurrent : ∀ i s, l.current i s → s.url = url)
    (htimer : l.reconnectTimer = none ∨ l.activeUrl = some url) : Ok (l.activate url) where
  known := h.known
  older := h.older
  olderChecks := h.olderChecks
  aliveCurrent := h.aliveCurrent
  currentOpen := fun i s hs => ⟨(h.currentOpen i s hs).1, congrArg some (hcurrent i s hs).symm⟩
  checking := h.checking
  idle := h.idle
  timed := by
    intro id hid
    rcases htimer with hnone | hsame
    · rw [show (l.activate url).reconnectTimer = l.reconnectTimer from rfl, hnone] at hid
      cases hid
    · obtain ⟨other, hitems, hactive⟩ := h.timed id hid
      rw [hsame] at hactive
      exact ⟨other, hitems, hactive⟩
  active := fun _ => ⟨rfl, rfl, rfl⟩
  quiet := h.quiet

/-- A generation begins while no socket is alive. -/
theorem Ok.bump (h : Ok l) (hdead : ∀ i s, l.ws = some i → l.sockets[i]? = some s →
    ¬ (s.readyState = .connecting ∨ s.readyState = .open)) : Ok l.bump where
  known := h.known
  older := fun s hs => (h.older s hs).trans (Nat.le_succ _)
  olderChecks := fun c hc => (h.olderChecks c hc).trans (Nat.le_succ _)
  aliveCurrent := fun i s hi hs halive => absurd halive (hdead i s hi hs)
  currentOpen := by
    rintro i s ⟨_, hs, hgeneration⟩
    have hle := h.older s (List.mem_of_getElem? hs)
    simp only [Link.bump] at hgeneration
    omega
  checking := by
    intro c hc hgeneration
    have hle := h.olderChecks c hc
    simp only [Link.bump] at hgeneration
    omega
  idle := h.idle
  timed := h.timed
  active := h.active
  quiet := by
    intro hoffline
    refine ⟨(h.quiet hoffline).1, (h.quiet hoffline).2.1, ?_⟩
    intro c hc
    exact (Nat.lt_succ_of_le (h.olderChecks c hc)).ne

/-- A reconnect is scheduled to the active URL. -/
theorem Ok.schedule (h : Ok l) {url : String} (hurl : l.intentionalDisconnect = false →
    l.sessionExpired = false → l.activeUrl = some url) : Ok (l.schedule url) := by
  unfold Link.schedule
  split
  · exact h
  · rename_i hreason
    simp only [not_or, Bool.not_eq_true, Option.isSome_eq_false_iff, Option.isNone_iff_eq_none]
      at hreason
    obtain ⟨hintended, hexpired, honline, htimer⟩ := hreason
    refine { h with idle := ?_, timed := ?_, quiet := ?_ }
    · intro hnone
      cases hnone
    · intro id hid
      cases hid
      exact ⟨url, by rw [Pending.start_items, h.idle htimer]; rfl, hurl hintended hexpired⟩
    · intro hoffline
      rw [honline] at hoffline
      cases hoffline

/-- A socket is created for the active URL, in a new generation. -/
theorem Ok.create (h : Ok l) {url : String} (hurl : l.activeUrl = some url)
    (honline : l.offline = false) (hchecks : ∀ c ∈ l.checks.items, c.2.generation ≠ l.generation) :
    Ok (l.create url) where
  known := by
    intro i hi
    cases hi
    simp [Link.create]
  older := by
    intro s hs
    rcases List.mem_append.mp hs with hold | hnew
    · exact h.older s hold
    · rw [List.mem_singleton.mp hnew]
      exact le_rfl
  olderChecks := h.olderChecks
  aliveCurrent := by
    intro i s hi hs _
    cases hi
    simp only [Link.create, List.getElem?_concat_length, Option.some.injEq] at hs
    rw [← hs]
    rfl
  currentOpen := by
    rintro i s ⟨hi, hs, _⟩
    cases hi
    simp only [Link.create, List.getElem?_concat_length, Option.some.injEq] at hs
    rw [← hs]
    exact ⟨(by intro hclosed; cases hclosed), hurl⟩
  checking := fun c hc hgeneration => absurd hgeneration (hchecks c hc)
  idle := h.idle
  timed := h.timed
  active := h.active
  quiet := by
    intro hoffline
    rw [show (l.create url).offline = l.offline from rfl, honline] at hoffline
    cases hoffline

/-- The session is marked expired while no socket is in use. -/
theorem Ok.expire (h : Ok l) (hcurrent : ∀ i s, ¬ l.current i s) : Ok l.expire where
  known := h.known
  older := h.older
  olderChecks := h.olderChecks
  aliveCurrent := h.aliveCurrent
  currentOpen := fun i s hs => absurd hs (hcurrent i s)
  checking := h.checking
  idle := fun _ => h.clear.idle rfl
  timed := fun id hid => by cases hid
  active := fun hactive => absurd rfl hactive
  quiet := fun hoffline => ⟨(h.quiet hoffline).1, rfl, (h.quiet hoffline).2.2⟩

end Link

/-! ## A call of `connect` -/

/-- Another URL is active. -/
def Link.changes (l : Link) (url : String) : Prop :=
  ∃ active, l.activeUrl = some active ∧ active ≠ url

/-- The socket of the store is open, or about to be. -/
def Link.alive (l : Link) : Prop := ∃ i s, l.ws = some i ∧ l.sockets[i]? = some s ∧
  (s.readyState = .connecting ∨ s.readyState = .open)

/-- What a call of `connect` does to the link. -/
inductive Link.Connects (url : String) (throws : Bool) (l : Link) : Link → Prop where
  | offline (hoffline : l.offline = true) : Connects url throws l (l.activate url)
  | kept (honline : l.offline = false) (hsame : ¬ l.changes url) (halive : l.alive) :
      Connects url throws l (l.activate url)
  | retried (honline : l.offline = false) (base : Link)
      (hbase : (l.changes url ∧ base = l.invalidate) ∨
        (¬ l.changes url ∧ ¬ l.alive ∧ base = l)) :
      Connects url throws l (if throws then (base.clear.activate url).bump.schedule url
        else (base.clear.activate url).bump.create url)

namespace Link

variable {l l' : Link} {url : String} {throws : Bool}

theorem url_of_current (h : Ok l) (hsame : ¬ l.changes url) {i : Nat} {s : Socket}
    (hs : l.current i s) : s.url = url := by
  by_contra hne
  exact hsame ⟨s.url, (h.currentOpen i s hs).2, hne⟩

theorem timer_of_same (h : Ok l) (hsame : ¬ l.changes url) :
    l.reconnectTimer = none ∨ l.activeUrl = some url := by
  cases htimer : l.reconnectTimer with
  | none => exact Or.inl rfl
  | some id =>
      obtain ⟨other, _, hactive⟩ := h.timed id htimer
      by_cases hurl : other = url
      · exact Or.inr (hurl ▸ hactive)
      · exact absurd ⟨other, hactive, hurl⟩ hsame

/-- The link before the new socket, or the new timer. -/
theorem Ok.retry (h : Ok l) {base : Link}
    (hbase : (l.changes url ∧ base = l.invalidate) ∨ (¬ l.changes url ∧ ¬ l.alive ∧ base = l)) :
    Ok (base.clear.activate url).bump ∧
      ∀ c ∈ (base.clear.activate url).bump.checks.items,
        c.2.generation ≠ (base.clear.activate url).bump.generation := by
  have hstale : ∀ {b : Link}, Ok b → ∀ c ∈ (b.clear.activate url).bump.checks.items,
      c.2.generation ≠ (b.clear.activate url).bump.generation :=
    fun hb c hc => (Nat.lt_succ_of_le (hb.olderChecks c hc)).ne
  rcases hbase with ⟨_, rfl⟩ | ⟨hsame, hdead, rfl⟩
  · refine ⟨?_, hstale h.invalidate⟩
    refine (h.invalidate.clear.activate ?_ (Or.inl rfl)).bump ?_
    · rintro i s ⟨hws, _⟩
      cases hws
    · intro i s hws
      cases hws
  · refine ⟨?_, hstale h⟩
    refine (h.clear.activate ?_ (Or.inl rfl)).bump ?_
    · exact fun i s hs => url_of_current h hsame hs
    · exact fun i s hws hs halive => hdead ⟨i, s, hws, hs, halive⟩

theorem Ok.connects (h : Ok l) (hstep : l.Connects url throws l') : Ok l' := by
  cases hstep with
  | offline hoffline =>
      obtain ⟨hws, htimer, _⟩ := h.quiet hoffline
      refine h.activate ?_ (Or.inl htimer)
      rintro i s ⟨hcurrent, _⟩
      rw [hws] at hcurrent
      cases hcurrent
  | kept _ hsame _ =>
      exact h.activate (fun i s hs => url_of_current h hsame hs) (timer_of_same h hsame)
  | retried honline base hbase =>
      obtain ⟨hretry, hchecks⟩ := h.retry hbase
      have hoffline : (base.clear.activate url).bump.offline = false := by
        rcases hbase with ⟨_, rfl⟩ | ⟨_, _, rfl⟩ <;> exact honline
      split
      · exact hretry.schedule (fun _ _ => rfl)
      · exact hretry.create rfl hoffline hchecks

/-! ### What an event does to the link -/

/-- A change of a socket that keeps what its callbacks captured, and does not
bring it back. -/
structure Advances (f : Socket → Socket) : Prop where
  url : ∀ s, (f s).url = s.url
  generation : ∀ s, (f s).generation = s.generation
  alive : ∀ s, (f s).readyState = .connecting ∨ (f s).readyState = .open →
    s.readyState = .connecting ∨ s.readyState = .open

/-- A socket changes. -/
def touch (i : Nat) (f : Socket → Socket) (l : Link) : Link :=
  { l with sockets := l.sockets.modify i f }

/-- The socket of the store is gone. -/
def drop (l : Link) : Link := { l with ws := none }

/-- A session check begins. -/
def ask (url : String) (l : Link) : Link :=
  { l with checks := l.checks.start ⟨url, l.generation⟩ }

/-- A session check ends. -/
def answer (check : Nat) (l : Link) : Link := { l with checks := l.checks.stop check }

/-- `isPendingReconnect`. -/
def awaits (l : Link) (asked : SessionCheck) : Prop :=
  l.generation = asked.generation ∧ l.activeUrl = some asked.url ∧
    l.intentionalDisconnect = false ∧ l.sessionExpired = false

/-- What an event does to the link. -/
inductive Moves (l : Link) : PageEvent → Link → Prop where
  | same (event : PageEvent) : Moves l event l
  | touched (event : PageEvent) (i : Nat) (f : Socket → Socket) (hf : Advances f)
      (hclosed : ∀ s, l.current i s → (f s).readyState ≠ .closed) : Moves l event (l.touch i f)
  | connected (url : String) (throws : Bool) (l' : Link) (h : l.Connects url throws l') :
      Moves l (.connect url throws) l'
  | disconnected : Moves l .disconnect
      { l.clear.invalidate with
        intentionalDisconnect := true, activeUrl := none, networkListenersAttached := false }
  | closed (event : PageEvent) (i : Nat) (s : Socket) (f : Socket → Socket) (hf : Advances f)
      (hcurrent : l.current i s) (l' : Link)
      (h : l' = (l.touch i f).drop.expire ∨ l' = (l.touch i f).drop.ask s.url ∨
        l' = (l.touch i f).drop.schedule s.url) : Moves l event l'
  | restarted (event : PageEvent) (url : String) (hurl : l.activeUrl = some url) :
      Moves l event (l.invalidate.schedule url)
  | fired (event : PageEvent) (id : Nat) (url : String) (throws : Bool)
      (htimer : l.reconnectTimer = some id) (hurl : l.activeUrl = some url) (l' : Link)
      (h : l.clear.Connects url throws l') : Moves l event l'
  | answered (event : PageEvent) (check : Nat) (asked : SessionCheck)
      (hasked : l.checks.get? check = some asked) (l' : Link)
      (h : (¬ l.awaits asked ∧ l' = l.answer check) ∨ (l.awaits asked ∧
        (l' = (l.answer check).expire ∨ l' = (l.answer check).schedule asked.url))) :
      Moves l event l'
  | unnoticed (online throws : Bool)
      (h : online = l.online ∨ l.networkListenersAttached = false) :
      Moves l (.connectivity online throws) { l with online := online }
  | wentOffline (throws : Bool) :
      Moves l (.connectivity false throws)
        { l.clear.invalidate with offline := true, online := false }
  | cameOnline (throws : Bool) (hlistens : l.networkListenersAttached = true)
      (hoffline : l.online = false)
      (h : ∀ url, l.activeUrl = some url →
        url = "" ∨ l.intentionalDisconnect = true ∨ l.sessionExpired = true) :
      Moves l (.connectivity true throws) { l with offline := false, online := true }
  | reconnected (throws : Bool) (url : String) (hurl : l.activeUrl = some url) (hne : url ≠ "")
      (l' : Link) (h : Connects url throws { l with offline := false, online := true } l') :
      Moves l (.connectivity true throws) l'

end Link

end RouterView.Ws
