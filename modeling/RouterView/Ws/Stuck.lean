/-
  Ws/Stuck.lean --- when the page gets stuck.

  A socket or a session check that was superseded has no effect any more, and no
  reconnect is pending while there is a reason not to reconnect.  That something
  is pending whenever a URL is active holds as long as the store knows of the
  connectivity of the browser: the listeners are detached while the page is
  disconnected, and a call of `connect` believes what was seen last.
-/
import RouterView.Ws.ConnectionSpec

set_option autoImplicit false

namespace RouterView.Ws

open RouterView.Foundation

namespace Link

variable {l l' : Link} {event : PageEvent}

/-! ## Superseded sockets -/

/-- Generations only rise, and the socket of the store is an old one or a new one. -/
structure Progress (l l' : Link) : Prop where
  generation : l.generation ≤ l'.generation
  sockets : ∀ (i : Nat) (s : Socket), l.sockets[i]? = some s →
    ∃ s' : Socket, l'.sockets[i]? = some s' ∧ s'.generation = s.generation
  ws : ∀ i, l'.ws = some i → l.ws = some i ∨ l.sockets.length ≤ i

theorem Progress.trans {l₁ l₂ l₃ : Link} (h : Progress l₁ l₂) (h' : Progress l₂ l₃) :
    Progress l₁ l₃ where
  generation := h.generation.trans h'.generation
  sockets := by
    intro i s hs
    obtain ⟨s', hs', hsame⟩ := h.sockets i s hs
    obtain ⟨s'', hs'', hsame'⟩ := h'.sockets i s' hs'
    exact ⟨s'', hs'', hsame'.trans hsame⟩
  ws := by
    intro i hi
    rcases h'.ws i hi with hold | hnew
    · exact h.ws i hold
    · right
      by_contra hlt
      rw [not_le] at hlt
      obtain ⟨s', hs', _⟩ := h.sockets i _ (List.getElem?_eq_getElem hlt)
      exact absurd (List.getElem?_eq_some_iff.mp hs').1 (by omega)

/-- What leaves the sockets and the generation alone. -/
theorem Progress.of_eq (hgeneration : l'.generation = l.generation)
    (hsockets : l'.sockets = l.sockets) (hws : l'.ws = l.ws) : Progress l l' where
  generation := hgeneration.ge
  sockets := fun i s hs => ⟨s, by rw [hsockets]; exact hs, rfl⟩
  ws := fun i hi => Or.inl (hws ▸ hi)

theorem Progress.invalidate (l : Link) : Progress l l.invalidate where
  generation := Nat.le_succ _
  sockets := by
    intro i s hs
    simp only [Link.invalidate]
    cases hws : l.ws with
    | none => exact ⟨s, hs, rfl⟩
    | some j =>
        simp only [Option.elim_some, List.getElem?_modify, hs]
        refine ⟨_, rfl, ?_⟩
        split
        · exact closeSocket_generation s
        · rfl
  ws := fun i hi => by cases hi

theorem Progress.touch (l : Link) {f : Socket → Socket} (hf : Advances f) (i : Nat) :
    Progress l (l.touch i f) where
  generation := le_rfl
  sockets := by
    intro j s hs
    simp only [Link.touch, List.getElem?_modify, hs]
    refine ⟨_, rfl, ?_⟩
    split
    · exact hf.generation s
    · rfl
  ws := fun _ hi => Or.inl hi

theorem Progress.drop (l : Link) : Progress l l.drop where
  generation := le_rfl
  sockets := fun i s hs => ⟨s, hs, rfl⟩
  ws := fun i hi => by cases hi

theorem Progress.bump (l : Link) : Progress l l.bump where
  generation := Nat.le_succ _
  sockets := fun _ s hs => ⟨s, hs, rfl⟩
  ws := fun _ hi => Or.inl hi

theorem Progress.schedule (l : Link) (url : String) : Progress l (l.schedule url) := by
  unfold Link.schedule
  split
  · exact .of_eq rfl rfl rfl
  · exact .of_eq rfl rfl rfl

theorem Progress.create (l : Link) (url : String) : Progress l (l.create url) where
  generation := le_rfl
  sockets := fun _ s hs => ⟨s, List.getElem?_append_left (List.getElem?_eq_some_iff.mp hs).1 ▸ hs,
    rfl⟩
  ws := by
    intro i hi
    cases hi
    exact Or.inr le_rfl

theorem Progress.connects {url : String} {throws : Bool} (h : l.Connects url throws l') :
    Progress l l' := by
  cases h with
  | offline _ => exact .of_eq rfl rfl rfl
  | kept _ _ _ => exact .of_eq rfl rfl rfl
  | retried _ base hbase =>
      have hprogress : Progress l base := by
        rcases hbase with ⟨_, rfl⟩ | ⟨_, _, rfl⟩
        · exact .invalidate l
        · exact .of_eq rfl rfl rfl
      have hready : Progress base (base.clear.activate url) := .of_eq rfl rfl rfl
      have hnext := (hprogress.trans hready).trans (.bump _)
      split
      · exact hnext.trans (.schedule _ url)
      · exact hnext.trans (.create _ url)

theorem Progress.moves (h : l.Moves event l') : Progress l l' := by
  cases h with
  | same => exact .of_eq rfl rfl rfl
  | touched _ i f hf _ => exact .touch l hf i
  | connected url throws _ hconnects => exact .connects hconnects
  | disconnected =>
      have hclear : Progress l l.clear := .of_eq rfl rfl rfl
      exact (hclear.trans (.invalidate _)).trans (.of_eq rfl rfl rfl)
  | closed _ i s f hf _ _ hresult =>
      have hdrop := (Progress.touch l hf i).trans (.drop _)
      rcases hresult with rfl | rfl | rfl
      · exact hdrop.trans (.of_eq rfl rfl rfl)
      · exact hdrop.trans (.of_eq rfl rfl rfl)
      · exact hdrop.trans (.schedule _ s.url)
  | restarted _ url _ => exact (Progress.invalidate l).trans (.schedule _ url)
  | fired _ id url throws _ _ _ hconnects =>
      have hclear : Progress l l.clear := .of_eq rfl rfl rfl
      exact hclear.trans (.connects hconnects)
  | answered _ check asked _ _ hresult =>
      have hanswer : Progress l (l.answer check) := .of_eq rfl rfl rfl
      rcases hresult with ⟨_, rfl⟩ | ⟨_, rfl | rfl⟩
      · exact hanswer
      · exact .of_eq rfl rfl rfl
      · exact hanswer.trans (.schedule _ asked.url)
  | unnoticed online throws _ => exact .of_eq rfl rfl rfl
  | wentOffline throws =>
      have hclear : Progress l l.clear := .of_eq rfl rfl rfl
      exact (hclear.trans (.invalidate _)).trans (.of_eq rfl rfl rfl)
  | cameOnline throws _ _ _ => exact .of_eq rfl rfl rfl
  | reconnected throws url _ _ _ hconnects =>
      have hnoticed : Progress l { l with offline := false, online := true } := .of_eq rfl rfl rfl
      exact hnoticed.trans (.connects hconnects)

/-- A socket that is not the current one never becomes it again. -/
theorem Progress.superseded (h : Progress l l') (hok : Ok l) {i : Nat}
    (hi : i < l.sockets.length) (hstale : ∀ s, ¬ l.current i s) : ∀ s, ¬ l'.current i s := by
  rintro s' ⟨hws', hs', hgeneration'⟩
  rcases h.ws i hws' with hws | hnew
  · obtain ⟨s, hs⟩ : ∃ s, l.sockets[i]? = some s := ⟨_, List.getElem?_eq_getElem hi⟩
    obtain ⟨t, ht, hsame⟩ := h.sockets i s hs
    rw [hs', Option.some.injEq] at ht
    subst ht
    have hle := hok.older s (List.mem_of_getElem? hs)
    have hrise := h.generation
    exact hstale s ⟨hws, hs, by omega⟩
  · omega

/-! ## Something is pending -/

/-- There is a current socket, a pending reconnect, or a session check that will
schedule one. -/
def Pends (l : Link) : Prop :=
  (∃ i s, l.current i s) ∨ l.reconnectTimer.isSome = true ∨ ∃ c ∈ l.checks.items, l.awaits c.2

/-- Something is pending for an active URL, unless the store takes the browser
for offline, and then it is. -/
def Held (l : Link) : Prop :=
  l.activeUrl ≠ none → (l.offline = false → l.Pends) ∧ (l.offline = true → l.online = false)

/-- The event lets the store keep up with the connectivity: a URL is not made
active while the store takes a browser for offline that is online, and the end
of an outage that was seen finds no empty URL. -/
def KeepsUp (l : Link) : PageEvent → Prop
  | .connect _ _ => ¬ (l.offline = true ∧ l.online = true)
  | .connectivity true _ => ¬ (l.offline = true ∧ l.online = false ∧ l.activeUrl = some "")
  | _ => True

instance (l : Link) : (event : PageEvent) → Decidable (l.KeepsUp event)
  | .connect _ _ => inferInstanceAs (Decidable (¬ _))
  | .connectivity true _ => inferInstanceAs (Decidable (¬ _))
  | .connectivity false _ | .disconnect | .socketOpen _ _ | .socketMessage _ _ _
  | .socketClosing _ | .socketClose _ _ | .reconnectTimer _ _ | .watchdogTimer _ _
  | .stableTimer _ | .sessionCheck _ _ => isTrue trivial

theorem schedule_pends {url : String} (hintended : l.intentionalDisconnect = false)
    (hexpired : l.sessionExpired = false) (honline : l.offline = false) :
    (l.schedule url).Pends := by
  right
  left
  unfold Link.schedule
  split
  · rename_i hreason
    simpa [hintended, hexpired, honline] using hreason
  · rfl

theorem schedule_same (l : Link) (url : String) :
    (l.schedule url).offline = l.offline ∧ (l.schedule url).online = l.online ∧
      (l.schedule url).activeUrl = l.activeUrl := by
  unfold Link.schedule
  split <;> exact ⟨rfl, rfl, rfl⟩

/-- A call of `connect` leaves something pending, unless it is put off. -/
theorem Ok.connects_held (h : Ok l) {url : String} {throws : Bool}
    (hconnects : l.Connects url throws l') (hoffline : l.offline = true → l.online = false) :
    l'.Held := by
  intro _
  cases hconnects with
  | offline hstore =>
      exact ⟨fun honline => absurd (hstore.symm.trans honline) (by decide), hoffline⟩
  | kept honline _ halive =>
      obtain ⟨i, s, hws, hs, hstate⟩ := halive
      exact ⟨fun _ => Or.inl ⟨i, s, hws, hs, h.aliveCurrent i s hws hs hstate⟩, hoffline⟩
  | retried honline base hbase =>
      have hbase : base.offline = false ∧ base.online = l.online := by
        rcases hbase with ⟨_, rfl⟩ | ⟨_, _, rfl⟩ <;> exact ⟨honline, rfl⟩
      split
      · obtain ⟨hsame, _, _⟩ := schedule_same (base.clear.activate url).bump url
        refine ⟨fun _ => schedule_pends rfl rfl hbase.1, ?_⟩
        intro hstore
        rw [hsame] at hstore
        exact absurd (hstore.symm.trans hbase.1) (by decide)
      · refine ⟨fun _ => Or.inl ⟨base.sockets.length,
          ⟨url, base.generation + 1, false, .connecting⟩, rfl, ?_, rfl⟩, ?_⟩
        · exact List.getElem?_concat_length
        · intro hstore
          exact absurd (hstore.symm.trans hbase.1) (by decide)

/-- The socket of the store is gone, and what its callback does then. -/
theorem Ok.closed_held (h : Ok l) {f : Socket → Socket} {i : Nat} {s : Socket}
    (hcurrent : l.current i s)
    (hresult : l' = (l.touch i f).drop.expire ∨ l' = (l.touch i f).drop.ask s.url ∨
      l' = (l.touch i f).drop.schedule s.url) : l'.Held := by
  have hactive := (h.currentOpen i s hcurrent).2
  obtain ⟨hintended, hexpired, _⟩ := h.active (by rw [hactive]; exact Option.some_ne_none _)
  have honline : l.offline = false := by
    rw [Bool.eq_false_iff]
    intro hoffline
    have hws := hcurrent.1
    rw [(h.quiet hoffline).1] at hws
    cases hws
  rcases hresult with rfl | rfl | rfl
  · exact fun hurl => absurd rfl hurl
  · intro _
    refine ⟨fun _ => Or.inr (Or.inr ⟨(l.checks.next, ⟨s.url, l.generation⟩), ?_, ?_⟩), ?_⟩
    · exact List.mem_append_right _ List.mem_cons_self
    · exact ⟨rfl, hactive, hintended, hexpired⟩
    · exact fun hoffline => absurd (honline.symm.trans hoffline) (by decide)
  · obtain ⟨hsame, _, _⟩ := schedule_same (l.touch i f).drop s.url
    intro _
    refine ⟨fun _ => schedule_pends hintended hexpired honline, ?_⟩
    intro hoffline
    rw [hsame] at hoffline
    exact absurd (honline.symm.trans hoffline) (by decide)

theorem touch_pends {f : Socket → Socket} (hf : Advances f) (i : Nat) (h : l.Pends) :
    (l.touch i f).Pends := by
  rcases h with ⟨j, s, hws, hs, hgeneration⟩ | htimer | hcheck
  · obtain ⟨s', hs', hsame⟩ := (Progress.touch l hf i).sockets j s hs
    exact Or.inl ⟨j, s', hws, hs', hsame.trans hgeneration⟩
  · exact Or.inr (Or.inl htimer)
  · exact Or.inr (Or.inr hcheck)

/-- An answer to a session check that is not awaited changes nothing. -/
theorem answer_pends {check : Nat} {asked : SessionCheck}
    (hasked : l.checks.get? check = some asked) (hstale : ¬ l.awaits asked) (h : l.Pends) :
    (l.answer check).Pends := by
  rcases h with hsocket | htimer | ⟨c, hc, hawaits⟩
  · exact Or.inl hsocket
  · exact Or.inr (Or.inl htimer)
  · refine Or.inr (Or.inr ⟨c, ?_, hawaits⟩)
    refine List.mem_filter.mpr ⟨hc, ?_⟩
    rw [bne_iff_ne]
    intro hid
    have hmem : (check, c.2) ∈ l.checks.items := hid ▸ hc
    exact hstale (Pending.eq_of_get? hasked hmem ▸ hawaits)

/-- An event with which the store keeps up leaves something pending. -/
theorem Held.moves (h : Ok l) (hheld : l.Held) (hkeeps : l.KeepsUp event)
    (hmove : l.Moves event l') : l'.Held := by
  have hput : ∀ {url : String}, l.activeUrl = some url → l.intentionalDisconnect = false ∧
      l.sessionExpired = false ∧ l.networkListenersAttached = true := by
    intro url hurl
    exact h.active (by rw [hurl]; exact Option.some_ne_none _)
  cases hmove with
  | same => exact hheld
  | touched _ i f hf _ =>
      intro hurl
      exact ⟨fun honline => touch_pends hf i ((hheld hurl).1 honline), (hheld hurl).2⟩
  | connected url throws _ hconnects =>
      refine h.connects_held hconnects ?_
      intro hoffline
      rw [Bool.eq_false_iff]
      exact fun honline => hkeeps ⟨hoffline, honline⟩
  | disconnected => exact fun hurl => absurd rfl hurl
  | closed _ i s f _ hcurrent _ hresult => exact h.closed_held hcurrent hresult
  | restarted _ url hurl =>
      obtain ⟨hintended, hexpired, _⟩ := hput hurl
      obtain ⟨hoffline, honline, _⟩ := schedule_same l.invalidate url
      intro _
      rw [hoffline, honline]
      have hknown := hheld (by rw [hurl]; exact Option.some_ne_none _)
      exact ⟨fun hseen => schedule_pends hintended hexpired hseen, hknown.2⟩
  | fired _ id url throws _ hurl _ hconnects =>
      have hknown := hheld (by rw [hurl]; exact Option.some_ne_none _)
      exact h.clear.connects_held hconnects hknown.2
  | answered _ check asked hasked _ hresult =>
      rcases hresult with ⟨hstale, rfl⟩ | ⟨hawaits, rfl | rfl⟩
      · intro hurl
        exact ⟨fun honline => answer_pends hasked hstale ((hheld hurl).1 honline), (hheld hurl).2⟩
      · exact fun hurl => absurd rfl hurl
      · obtain ⟨_, hurl, hintended, hexpired⟩ := hawaits
        obtain ⟨hoffline, honline, _⟩ := schedule_same (l.answer check) asked.url
        have hknown := hheld (by rw [hurl]; exact Option.some_ne_none _)
        intro _
        rw [hoffline, honline]
        exact ⟨fun hseen => schedule_pends hintended hexpired hseen, hknown.2⟩
  | unnoticed online throws hunnoticed =>
      intro hurl
      rcases hunnoticed with rfl | hdetached
      · exact hheld hurl
      · rw [(h.active hurl).2.2] at hdetached
        cases hdetached
  | wentOffline throws =>
      exact fun _ => ⟨(fun honline => by cases honline), fun _ => rfl⟩
  | cameOnline throws hlistens hwas hrefused =>
      intro hurl
      obtain ⟨url, hactive⟩ := Option.ne_none_iff_exists'.mp hurl
      have hactive : l.activeUrl = some url := hactive
      obtain ⟨hintended, hexpired, _⟩ := hput hactive
      have hempty : url = "" := by
        rcases hrefused url hactive with hempty | hset | hset
        · exact hempty
        · exact absurd (hintended.symm.trans hset) (by decide)
        · exact absurd (hexpired.symm.trans hset) (by decide)
      have hseen : l.offline = false := by
        rw [Bool.eq_false_iff]
        exact fun hoffline => hkeeps ⟨hoffline, hwas, hempty ▸ hactive⟩
      exact ⟨fun _ => (hheld hurl).1 hseen, fun hoffline => by cases hoffline⟩
  | reconnected throws url _ _ _ hconnects =>
      exact h.noticed.connects_held hconnects (fun hoffline => by cases hoffline)

/-! ## Where nothing is pending -/

/-- The page is on its way to be connected, wherever it should be. -/
def Connected (l : Link) : Prop :=
  l.activeUrl ≠ none → l.sessionExpired = false → l.online = true →
    (∃ i s, l.current i s ∧ s.readyState ≠ .closed) ∨ l.reconnects.items ≠ [] ∨
      ∃ c ∈ l.checks.items, l.awaits c.2

theorem Ok.connected (h : Ok l) (hheld : l.Held) : l.Connected := by
  intro hurl _ honline
  have hseen : l.offline = false := by
    rw [Bool.eq_false_iff]
    intro hoffline
    rw [(hheld hurl).2 hoffline] at honline
    cases honline
  rcases (hheld hurl).1 hseen with ⟨i, s, hcurrent⟩ | htimer | hcheck
  · exact Or.inl ⟨i, s, hcurrent, (h.currentOpen i s hcurrent).1⟩
  · obtain ⟨id, hid⟩ := Option.isSome_iff_exists.mp htimer
    obtain ⟨url, hitems, _⟩ := h.timed id hid
    refine Or.inr (Or.inl ?_)
    rw [hitems]
    exact List.cons_ne_nil _ _
  · exact Or.inr (Or.inr hcheck)

/-- With the sockets, the timer and the checks of a store that takes the browser
for offline, nothing is pending. -/
theorem Ok.not_connected (h : Ok l) (hoffline : l.offline = true) {url : String}
    (hws : l'.ws = l.ws) (htimer : l'.reconnects = l.reconnects) (hchecks : l'.checks = l.checks)
    (hgeneration : l'.generation = l.generation) (hurl : l'.activeUrl = some url)
    (hexpired : l'.sessionExpired = false) (honline : l'.online = true) : ¬ l'.Connected := by
  intro hconnected
  obtain ⟨hnone, hidle, hstale⟩ := h.quiet hoffline
  rcases hconnected (by rw [hurl]; exact Option.some_ne_none _) hexpired honline with
    ⟨i, s, hcurrent, _⟩ | hitems | ⟨c, hc, hawaits⟩
  · have hcurrent := hcurrent.1
    rw [hws, hnone] at hcurrent
    cases hcurrent
  · rw [htimer] at hitems
    exact hitems (h.idle hidle)
  · rw [hchecks] at hc
    exact hstale c hc (hawaits.1.symm.trans hgeneration)

end Link

/-! ## Runs -/

section

variable (recent : Int → Json → Bool)

/-- A page before any event. -/
theorem createStore_ok (online : Bool) (dashboard : Dashboard) :
    (createStore online dashboard).toLink.Ok where
  known := fun i hi => by cases hi
  older := fun s hs => absurd hs List.not_mem_nil
  olderChecks := fun c hc => absurd hc List.not_mem_nil
  aliveCurrent := fun i s hi => by cases hi
  currentOpen := fun i s hs => by cases hs.1
  checking := fun _ _ _ => rfl
  idle := fun _ => rfl
  timed := fun id hid => by cases hid
  active := fun hurl => absurd rfl hurl
  quiet := fun _ => ⟨rfl, rfl, fun c hc => absurd hc List.not_mem_nil⟩

variable {recent} {p : Page}

/-- An event with which the store does not keep up leaves nothing pending. -/
theorem pageStep_not_connected (h : p.toLink.Ok) {event : PageEvent}
    (hkeeps : ¬ p.toLink.KeepsUp event) : ¬ (pageStep recent p event).toLink.Connected := by
  cases event with
  | connect url throws =>
      obtain ⟨hoffline, honline⟩ := not_not.mp hkeeps
      have hconnects : p.toLink.Connects url throws
          (pageStep recent p (.connect url throws)).toLink := connect_toLink p url throws
      generalize (pageStep recent p (.connect url throws)).toLink = l' at hconnects
      cases hconnects with
      | offline _ => exact h.not_connected hoffline rfl rfl rfl rfl rfl rfl honline
      | kept hseen _ _ => exact absurd (hseen.symm.trans hoffline) (by decide)
      | retried hseen _ _ => exact absurd (hseen.symm.trans hoffline) (by decide)
  | connectivity online throws =>
      cases online with
      | false => exact absurd trivial hkeeps
      | true =>
          obtain ⟨hoffline, hwas, hurl⟩ := not_not.mp hkeeps
          obtain ⟨_, hexpired, hlistens⟩ := h.active (by rw [hurl]; exact Option.some_ne_none _)
          have hstep : (pageStep recent p (.connectivity true throws)).toLink =
              { p.toLink with offline := false, online := true } := by
            have hnoticed : ¬ (true = p.online ∨ p.networkListenersAttached = false) := by
              rw [hwas, hlistens]
              decide
            have hactive : p.activeUrl = some "" := hurl
            simp only [pageStep, if_neg hnoticed, if_true, Page.onOnline, hactive]
            rw [if_neg (fun hconnects => hconnects.1 rfl)]
          rw [hstep]
          exact h.not_connected hoffline rfl rfl rfl rfl hurl hexpired rfl
  | disconnect => exact absurd trivial hkeeps
  | socketOpen _ _ => exact absurd trivial hkeeps
  | socketMessage _ _ _ => exact absurd trivial hkeeps
  | socketClosing _ => exact absurd trivial hkeeps
  | socketClose _ _ => exact absurd trivial hkeeps
  | reconnectTimer _ _ => exact absurd trivial hkeeps
  | watchdogTimer _ _ => exact absurd trivial hkeeps
  | stableTimer _ => exact absurd trivial hkeeps
  | sessionCheck _ _ => exact absurd trivial hkeeps

/-- The event comes from a socket or a session check that was superseded. -/
def PageEvent.superseded (p : Page) : PageEvent → Prop
  | .socketOpen socket _ | .socketMessage socket _ _ | .socketClosing socket
  | .socketClose socket _ => p.isCurrentSocket socket = false
  | .watchdogTimer timer _ => ∀ socket socketGeneration,
      p.watchdogs.get? timer = some (socket, socketGeneration) →
      p.isCurrent socket socketGeneration = false
  | .stableTimer timer => ∀ socket socketGeneration,
      p.stabilities.get? timer = some (socket, socketGeneration) →
      p.isCurrent socket socketGeneration = false
  | .sessionCheck check _ => ∀ asked, p.checks.get? check = some asked →
      asked.generation ≠ p.generation
  | _ => False

/-- The second page is the first one, except for what the browser keeps of sockets
and requests, and for the timer that fired. -/
def Unaffected (p p' : Page) : Prop :=
  ∃ sockets checks stableTimer stabilities, p' = { p with
    sockets := sockets, checks := checks, stableTimer := stableTimer, stabilities := stabilities }

theorem advance_unaffected (socket : Nat) (f : ReadyState → ReadyState) :
    Unaffected p (p.advance socket f) :=
  ⟨_, p.checks, p.stableTimer, p.stabilities, rfl⟩

/-- The callbacks of a socket that is not the current one find that it is not. -/
theorem advance_not_current {socket : Nat} (h : p.isCurrentSocket socket = false)
    (f : ReadyState → ReadyState) {s : Socket}
    (hs : (p.advance socket f).sockets[socket]? = some s) :
    (p.advance socket f).isCurrent socket s.generation = false := by
  rw [advance_socket] at hs
  obtain ⟨old, hold, rfl⟩ := Option.map_eq_some_iff.mp hs
  rw [Page.isCurrentSocket, hold, Option.any_some] at h
  exact h

theorem superseded_unaffected {event : PageEvent} (h : event.superseded p) :
    Unaffected p (pageStep recent p event) := by
  have hsame : Unaffected p p := ⟨p.sockets, p.checks, p.stableTimer, p.stabilities, rfl⟩
  cases event with
  | socketOpen socket now =>
      simp only [pageStep, Page.onopen]
      split
      · exact advance_unaffected socket _
      · rename_i s hs
        rw [advance_not_current h _ hs, if_neg Bool.false_ne_true]
        exact advance_unaffected socket _
  | socketMessage socket data now =>
      have hstale : p.isCurrentSocket socket = false := h
      simp only [pageStep, Page.onmessage, hstale]
      exact hsame
  | socketClosing socket => exact advance_unaffected socket _
  | socketClose socket code =>
      simp only [pageStep, Page.onclose]
      split
      · exact advance_unaffected socket _
      · rename_i s hs
        rw [advance_not_current h _ hs, if_neg Bool.false_ne_true]
        exact advance_unaffected socket _
  | watchdogTimer timer now =>
      simp only [pageStep, Page.onWatchdogTimer]
      split
      · exact hsame
      · rename_i socket socketGeneration hget
        rw [h socket socketGeneration hget]
        exact hsame
  | stableTimer timer =>
      simp only [pageStep, Page.onStableTimer]
      split
      · exact hsame
      · rename_i socket socketGeneration hget
        have hstale : ({ p with
            stabilities := p.stabilities.stop timer, stableTimer := none } : Page).isCurrent socket
            socketGeneration = false := h socket socketGeneration hget
        rw [if_neg (fun hcurrent => by rw [hstale] at hcurrent; cases hcurrent.1)]
        exact ⟨p.sockets, p.checks, none, p.stabilities.stop timer, rfl⟩
  | sessionCheck check authenticated =>
      simp only [pageStep, Page.onSessionCheck]
      split
      · exact hsame
      · rename_i asked hget
        have hstale : ({ p with checks := p.checks.stop check } : Page).isPendingReconnect asked.url
            asked.generation = false := by
          rw [Bool.eq_false_iff]
          exact fun hawaits => h asked hget (isPendingReconnect_eq_true.mp hawaits).1.symm
        rw [hstale]
        exact ⟨p.sockets, p.checks.stop check, p.stableTimer, p.stabilities, rfl⟩
  | connect _ _ => exact absurd h id
  | disconnect => exact absurd h id
  | reconnectTimer _ _ => exact absurd h id
  | connectivity _ _ => exact absurd h id

/-! ## The claims of a page -/

variable (recent)

/-- A page that does what it should: superseded sockets and session checks are
without effect and stay superseded, at most one reconnect is pending, and none
while there is a reason not to reconnect, and a connection that should be there
is there or on its way. -/
structure Proper (p : Page) : Prop where
  harmless : ∀ event : PageEvent, event.superseded p → Unaffected p (pageStep recent p event)
  supersededSocket : ∀ socket < p.sockets.length, p.isCurrentSocket socket = false →
    ∀ event, (pageStep recent p event).isCurrentSocket socket = false
  supersededCheck : ∀ c ∈ p.checks.items, c.2.generation ≠ p.generation →
    ∀ event, c.2.generation ≠ (pageStep recent p event).generation
  oneReconnect : p.reconnects.items.length ≤ 1
  noReconnect : p.intentionalDisconnect = true ∨ p.sessionExpired = true ∨ p.offline = true →
    p.reconnects.items = []
  connected : p.toLink.Connected

variable {recent}

theorem Link.Ok.oneReconnect {l : Link} (h : l.Ok) : l.reconnects.items.length ≤ 1 := by
  cases htimer : l.reconnectTimer with
  | none => simp [h.idle htimer]
  | some id =>
      obtain ⟨url, hitems, _⟩ := h.timed id htimer
      simp [hitems]

theorem Link.Ok.noReconnect {l : Link} (h : l.Ok)
    (hreason : l.intentionalDisconnect = true ∨ l.sessionExpired = true ∨ l.offline = true) :
    l.reconnects.items = [] := by
  cases htimer : l.reconnectTimer with
  | none => exact h.idle htimer
  | some id =>
      exfalso
      obtain ⟨url, _, hurl⟩ := h.timed id htimer
      obtain ⟨hintended, hexpired, _⟩ := h.active (by rw [hurl]; exact Option.some_ne_none _)
      rcases hreason with hset | hset | hset
      · exact absurd (hintended.symm.trans hset) (by decide)
      · exact absurd (hexpired.symm.trans hset) (by decide)
      · rw [(h.quiet hset).2.1] at htimer
        cases htimer

/-- Everything but the last is so in any order of events. -/
theorem Proper.of_connected (h : p.toLink.Ok) (hconnected : p.toLink.Connected) :
    Proper recent p where
  harmless := fun _ => superseded_unaffected
  supersededSocket := by
    intro socket hsocket hstale event
    have hmoves := Link.Progress.moves (pageStep_moves recent h event)
    rw [Bool.eq_false_iff] at hstale ⊢
    intro hcurrent
    obtain ⟨s, hs⟩ := isCurrentSocket_eq_true.mp hcurrent
    exact hmoves.superseded h hsocket
      (fun s hs => hstale (isCurrentSocket_eq_true.mpr ⟨s, hs⟩)) s hs
  supersededCheck := by
    intro c hc hstale event
    have hrise := (Link.Progress.moves (pageStep_moves recent h event)).generation
    have hle := h.olderChecks c hc
    omega
  oneReconnect := h.oneReconnect
  noReconnect := h.noReconnect
  connected := hconnected

theorem pageStep_ok (h : p.toLink.Ok) (event : PageEvent) : (pageStep recent p event).toLink.Ok :=
  h.moves (pageStep_moves recent h event)

/-- A store that keeps up holds something pending throughout the run. -/
theorem held_of_keepsUp {events : List PageEvent} (h : p.toLink.Ok ∧ p.toLink.Held)
    (hkeeps : Along (pageStep recent) (fun p event => p.toLink.KeepsUp event) p events) :
    (run (pageStep recent) p events).toLink.Ok ∧ (run (pageStep recent) p events).toLink.Held := by
  have hstep : ∀ (p : Page) (event : PageEvent), p.toLink.Ok ∧ p.toLink.Held →
      p.toLink.KeepsUp event →
      (pageStep recent p event).toLink.Ok ∧ (pageStep recent p event).toLink.Held :=
    fun _ event h hkeeps => ⟨pageStep_ok h.1 event,
      Link.Held.moves h.1 h.2 hkeeps (pageStep_moves recent h.1 event)⟩
  exact run_invariant hstep h hkeeps

/-- A page that is connected in every state of a run has a store that keeps up. -/
theorem keepsUp_of_connected {events : List PageEvent} (h : p.toLink.Ok)
    (hconnected : ∀ earlier later, events = earlier ++ later →
      (run (pageStep recent) p earlier).toLink.Connected) :
    Along (pageStep recent) (fun p event => p.toLink.KeepsUp event) p events := by
  induction events generalizing p with
  | nil => trivial
  | cons event rest ih =>
      constructor
      · by_contra hkeeps
        exact pageStep_not_connected h hkeeps (hconnected [event] rest rfl)
      · refine ih (pageStep_ok h event) ?_
        intro earlier later hrest
        exact hconnected (event :: earlier) later (by rw [hrest]; rfl)

/-- In every order of events the page does what it should in all its states, if
and only if the store keeps up with the connectivity of the browser. -/
theorem proper_iff_keepsUp (recent : Int → Json → Bool) (online : Bool) (dashboard : Dashboard)
    (events : List PageEvent) :
    (∀ earlier later, events = earlier ++ later →
      Proper recent (run (pageStep recent) (createStore online dashboard) earlier)) ↔
    Along (pageStep recent) (fun p event => p.toLink.KeepsUp event)
      (createStore online dashboard) events := by
  have hok := createStore_ok online dashboard
  constructor
  · intro hproper
    exact keepsUp_of_connected hok
      (fun earlier later hevents => (hproper earlier later hevents).connected)
  · rintro hkeeps earlier later rfl
    have hheld : (createStore online dashboard).toLink.Held := fun hurl => absurd rfl hurl
    obtain ⟨hrun, hpending⟩ := held_of_keepsUp ⟨hok, hheld⟩ (Along.append.mp hkeeps).1
    exact Proper.of_connected hrun (hrun.connected hpending)

end

/-- The dashboard before any message. -/
def emptyDashboard : Dashboard := ⟨emptyStore, false, 0⟩

/-- The browser goes offline, the user leaves the page, the browser comes back,
and the user enters the page again. -/
def stuckRun : List PageEvent :=
  [.connect "wss://router.example/ws" false, .connectivity false false, .disconnect,
    .connectivity true false, .connect "wss://router.example/ws" false]

/-- The page is then stuck. -/
theorem proper_fails :
    ¬ ∀ (recent : Int → Json → Bool) (online : Bool) (dashboard : Dashboard)
      (events : List PageEvent),
      Proper recent (run (pageStep recent) (createStore online dashboard) events) := by
  intro hclaim
  have hkeeps : Along (pageStep (fun _ _ => true)) (fun p event => p.toLink.KeepsUp event)
      (createStore true emptyDashboard) stuckRun :=
    keepsUp_of_connected (createStore_ok true emptyDashboard) (fun earlier _ _ =>
      (hclaim (fun _ _ => true) true emptyDashboard earlier).connected)
  revert hkeeps
  decide +kernel

end RouterView.Ws
