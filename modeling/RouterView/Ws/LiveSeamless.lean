/-
  Ws/LiveSeamless.lean --- when no live point is doubled or lost.

  What a reader of the channel has is a sublist of the points that were produced, as
  long as no snapshot that it reads overlaps with updates that are queued for it.  As
  long as no snapshot comes without the points that the reader has to show, it loses
  none of them.

  The invariant is `LiveInvariant`: one lemma for each kind of step, and
  `LiveInvariant.step` puts them together.  What has to be shown is said for every
  later time of either clock, so that time may pass on each without the other.
-/
import RouterView.Ws.LivePointsSpec

set_option autoImplicit false

namespace RouterView.Ws

open RouterView.Foundation
open RouterView.Poller (InterfaceEntry)

section

variable {parse : String → Option Int}

/-! ## What the client keeps -/

/-- The client's test is no stricter than the poller's, and points only grow old. -/
theorem clientRecentAt_of_recentAt {now later : Int} (hle : now ≤ later) {point : TrafficPoint}
    (h : recentAt parse later point = true) : clientRecentAt parse now point = true := by
  have hnow := recentAt_mono hle h
  unfold recentAt at hnow
  unfold clientRecentAt
  rw [Option.any_eq_true] at hnow ⊢
  obtain ⟨time, htime, hrecent⟩ := hnow
  refine ⟨time, htime, ?_⟩
  rw [decide_eq_true_eq] at hrecent ⊢
  unfold sixHours at hrecent ⊢
  omega

/-- What is recent on both clocks was so before on each. -/
theorem recentOnBoth_mono {pollerNow pollerLater clientNow clientLater : Int}
    (hpoller : pollerNow ≤ pollerLater) (hclient : clientNow ≤ clientLater) {point : TrafficPoint}
    (h : recentOnBoth parse pollerLater clientLater point = true) :
    recentOnBoth parse pollerNow clientNow point = true := by
  unfold recentOnBoth at h ⊢
  rw [Bool.and_eq_true] at h ⊢
  exact ⟨recentAt_mono hpoller h.1, recentAt_mono hclient h.2⟩

theorem filter_recentOnBoth_filter {pollerNow pollerLater clientNow clientLater : Int}
    (hpoller : pollerNow ≤ pollerLater) (hclient : clientNow ≤ clientLater)
    (points : List TrafficPoint) :
    (points.filter (recentOnBoth parse pollerNow clientNow)).filter
        (recentOnBoth parse pollerLater clientLater) =
      points.filter (recentOnBoth parse pollerLater clientLater) := by
  rw [List.filter_filter]
  apply List.filter_congr
  intro point _
  cases hlater : recentOnBoth parse pollerLater clientLater point with
  | false => simp
  | true => simp [recentOnBoth_mono hpoller hclient hlater]

/-- The client does what the entry of the message says, and may prune. -/
theorem handleTraffic_cases (parse : String → Option Int) (now : Int) (b : List TrafficPoint)
    (message : ServerMessage) :
    handleTraffic parse now b message = message.entry.apply b ∨
      handleTraffic parse now b message =
        (message.entry.apply b).filter (clientRecentAt parse now) := by
  cases message with
  | snapshot d => exact Or.inr rfl
  | update u =>
      unfold handleTraffic ServerMessage.entry
      simp only
      cases u.traffic with
      | none => exact Or.inl rfl
      | some point => exact Or.inr rfl
  | connectionStatus _ _ => exact Or.inl rfl

/-- What the store does with a message. -/
def storeMessage (recent : Json → Bool) (s : DashboardStore) :
    ServerMessage → DashboardStore
  | .snapshot d => handleSnapshot recent (Json.ofEntries d.entries) s
  | .update u => handleUpdate recent (Json.ofEntries u.entries) s
  | .connectionStatus _ _ => s

/-- The traffic buffer of the store moves as the client's does here. -/
theorem storeMessage_trafficBuffer {recent : Json → Bool} {now : Int}
    (hrecent : ∀ point : TrafficPoint, recent point.toJson = clientRecentAt parse now point)
    {s : DashboardStore} {b : List TrafficPoint}
    (hs : s.trafficBuffer = b.map TrafficPoint.toJson) (message : ServerMessage) :
    (storeMessage recent s message).trafficBuffer =
      (handleTraffic parse now b message).map TrafficPoint.toJson := by
  have hprune : ∀ points : List TrafficPoint,
      pruneByTimestamp recent (points.map TrafficPoint.toJson) =
        (points.filter (clientRecentAt parse now)).map TrafficPoint.toJson := by
    intro points
    rw [pruneByTimestamp, List.filter_map]
    congr 2
    funext point
    exact hrecent point
  cases message with
  | snapshot d => exact hprune d.traffic
  | update u =>
      have hproperty : truthyProperty (Json.ofEntries u.entries) "traffic" =
          u.traffic.map TrafficPoint.toJson := by
        unfold truthyProperty
        have hfield : Json.ofEntries u.entries "traffic" =
            some (.nullable (u.traffic.map TrafficPoint.toJson)) := rfl
        rw [hfield]
        cases u.traffic <;> rfl
      unfold storeMessage handleUpdate handleTraffic
      simp only [hproperty]
      cases u.traffic with
      | none => cases truthyProperty (Json.ofEntries u.entries) "wans" <;> exact hs
      | some point =>
          simp only [Option.map_some]
          rw [← hprune, List.map_append, ← hs]
          cases truthyProperty (Json.ofEntries u.entries) "wans" <;> rfl
  | connectionStatus _ _ => exact hs

/-! ## The invariant -/

/-- What a replay from a buffer leaves has the points that the session has to show. -/
def Covers (parse : String → Option Int) (s : LiveHub) (b : List TrafficPoint)
    (entries : List (LogEntry TrafficPoint)) : Prop :=
  ∀ pollerNow clientNow, s.pollerClock ≤ pollerNow → s.clientClock ≤ clientNow →
    (s.required parse pollerNow clientNow).Sublist
      ((replay entries b).filter (recentOnBoth parse pollerNow clientNow))

/-- The hub: what the poller holds is in order; a reader of the whole channel, and the
client, see points in the order of production; and with what is queued they have all
that they have to show. -/
structure LiveInvariant (parse : String → Option Int) (s : LiveHub) : Prop where
  ordered : Ordered s.poller
  fresh : FreshBaseline s.poller
  since : ∀ count, s.session.since = some count → count ≤ s.poller.scopePoints.length
  unread : s.session.phase = .closed ∨ s.session.phase = .subscribed → s.session.since = none
  position : s.session.position ≤ s.log.length
  log : Within s.poller.scopePoints [] s.entries
  logCovers : Covers parse s [] s.entries
  buffer : s.session.trafficBuffer.Sublist s.poller.scopePoints
  reading : s.session.phase = .streaming →
    Within s.poller.scopePoints s.session.trafficBuffer s.queued ∧
      Covers parse s s.session.trafficBuffer s.queued

theorem LiveInvariant.initial (parse : String → Option Int) (connected : Bool)
    (pollerClock clientClock : Int) :
    LiveInvariant parse (LiveHub.initial connected pollerClock clientClock) where
  ordered := ⟨List.Sublist.refl _, fun d hd => (by cases hd), fun hfirst => (by cases hfirst)⟩
  fresh := ⟨fun _ => rfl, fun _ => rfl⟩
  since := fun count hcount => by cases hcount
  unread := fun _ => rfl
  position := le_refl _
  log := List.Sublist.refl _
  logCovers := fun _ _ _ _ => List.Sublist.refl _
  buffer := List.Sublist.refl _
  reading := fun hphase => by cases hphase

/-! ## What has to be shown -/

theorem required_none {s : LiveHub} (h : s.session.since = none) (pollerNow clientNow : Int) :
    s.required parse pollerNow clientNow = [] := by
  rw [LiveHub.required, h]

theorem required_scopeless {s : LiveHub} (h : s.poller.scopePoints = [])
    (pollerNow clientNow : Int) : s.required parse pollerNow clientNow = [] := by
  unfold LiveHub.required
  rw [h]
  cases s.session.since with
  | none => rfl
  | some count =>
      simp only
      rw [List.drop_nil, List.filter_nil]

/-- What has to be shown later is what is still recent of it. -/
theorem filter_required {s : LiveHub} {pollerNow pollerLater clientNow clientLater : Int}
    (hpoller : pollerNow ≤ pollerLater) (hclient : clientNow ≤ clientLater) :
    (s.required parse pollerNow clientNow).filter (recentOnBoth parse pollerLater clientLater) =
      s.required parse pollerLater clientLater := by
  unfold LiveHub.required
  cases s.session.since with
  | none => rfl
  | some count => exact filter_recentOnBoth_filter hpoller hclient _

/-- Pruning at a time of the client does not matter to what has to be shown from then on. -/
theorem Covers.prune {s : LiveHub} {b : List TrafficPoint} {entries : List (LogEntry TrafficPoint)}
    (h : Covers parse s b entries) {now : Int} (hnow : now ≤ s.clientClock) :
    Covers parse s (b.filter (clientRecentAt parse now)) entries := by
  intro pollerLater clientLater hpoller hclient
  have hkept : ∀ point, recentOnBoth parse pollerLater clientLater point = true →
      clientRecentAt parse now point = true := by
    intro point hboth
    unfold recentOnBoth at hboth
    rw [Bool.and_eq_true] at hboth
    exact clientRecentAt_of_recentAt (le_trans hnow hclient) hboth.2
  rw [filter_replay_filter hkept]
  exact h pollerLater clientLater hpoller hclient

/-- Time passes, and no more has to be shown. -/
theorem Covers.later {s s' : LiveHub} {b : List TrafficPoint}
    {entries : List (LogEntry TrafficPoint)} (h : Covers parse s b entries)
    (hpoller : s.pollerClock ≤ s'.pollerClock) (hclient : s.clientClock ≤ s'.clientClock)
    (hrequired : ∀ pollerNow clientNow,
      s'.required parse pollerNow clientNow = s.required parse pollerNow clientNow ∨
        s'.required parse pollerNow clientNow = []) : Covers parse s' b entries := by
  intro pollerNow clientNow hpollerNow hclientNow
  rcases hrequired pollerNow clientNow with hsame | hnone
  · rw [hsame]
    exact h _ _ (le_trans hpoller hpollerNow) (le_trans hclient hclientNow)
  · rw [hnone]
    exact List.nil_sublist _

/-! ## Ticks -/

/-- What a tick sends extends every reader's points by the point of the tick. -/
theorem SentPoints.within {tick : PollTick} {s : LivePoller} {points b : List TrafficPoint}
    {sent entries : List (LogEntry TrafficPoint)} (hsent : SentPoints tick s points sent)
    (h : Within s.scopePoints b entries) :
    Within (s.scopePoints ++ points) b (entries ++ sent) := by
  have hproduced : Within (s.scopePoints ++ points) b entries := h.produce
  cases hsent with
  | silent =>
      rw [List.append_nil entries]
      exact hproduced
  | status => exact hproduced.snoc hproduced.end
  | point point => exact hproduced.snoc (h.end.append (List.Sublist.refl _))
  | whole _ _ _ => exact hproduced.snoc (List.nil_sublist _)
  | unsent _ _ _ _ _ _ =>
      rw [List.append_nil entries]
      exact hproduced

/-- The points that the tick adds have to be shown too. -/
theorem required_append (parse : String → Option Int) {s s' : LiveHub} {points : List TrafficPoint}
    (hsince : s'.session.since = s.session.since)
    (hcount : ∀ count, s.session.since = some count → count ≤ s.poller.scopePoints.length)
    (hpoints : s'.poller.scopePoints = s.poller.scopePoints ++ points)
    (pollerNow clientNow : Int) :
    s'.required parse pollerNow clientNow =
      s.required parse pollerNow clientNow ++
        if s.session.since.isSome then points.filter (recentOnBoth parse pollerNow clientNow)
        else [] := by
  unfold LiveHub.required
  rw [hsince, hpoints]
  cases hcase : s.session.since with
  | none => rfl
  | some count =>
      simp only [Option.isSome_some, if_true]
      rw [List.drop_append_of_le_length (hcount count hcase), List.filter_append]

/-- After a tick that keeps the points, every reader that had all has all. -/
theorem SentPoints.covers {tick : PollTick} {s s' : LiveHub} {points b : List TrafficPoint}
    {sent entries : List (LogEntry TrafficPoint)} (hsent : SentPoints tick s.poller points sent)
    (hkeeps : TickKeeps parse s tick) (hpoller : s.pollerClock ≤ s'.pollerClock)
    (hclient : s'.clientClock = s.clientClock)
    (hread : ∀ fetched ∈ tick.outcome.fetched?,
      s'.pollerClock = max s.pollerClock fetched.clock)
    (hrequired : ∀ pollerNow clientNow, s'.required parse pollerNow clientNow =
      s.required parse pollerNow clientNow ++
        if s.session.since.isSome then points.filter (recentOnBoth parse pollerNow clientNow)
        else [])
    (h : Covers parse s b entries) : Covers parse s' b (entries ++ sent) := by
  intro pollerNow clientNow hpollerNow hclientNow
  rw [hclient] at hclientNow
  have hbefore := h pollerNow clientNow (le_trans hpoller hpollerNow) hclientNow
  rw [hrequired pollerNow clientNow]
  cases hsent with
  | silent => simpa using hbefore
  | status =>
      rw [replay_append]
      simpa [LogEntry.apply] using hbefore
  | point point =>
      rw [replay_append, replay_cons, replay_nil, LogEntry.apply, List.filter_append]
      refine hbefore.append ?_
      split
      · exact List.Sublist.refl _
      · exact List.nil_sublist _
  | whole polled hpolled hdue =>
      have hnone : s.required parse pollerNow clientNow = [] := by
        rcases hdue with hfirst | hscopeless
        · have hpollerNow' : max s.pollerClock polled.clock ≤ pollerNow :=
            (hread polled hpolled) ▸ hpollerNow
          rw [← filter_required hpollerNow' hclientNow, hkeeps.whole hfirst polled hpolled,
            List.filter_nil]
        · exact required_scopeless hscopeless pollerNow clientNow
      rw [hnone]
      simp
  | unsent _ stage polled houtcome hstage hpoints =>
      have hnothing : (if s.session.since.isSome then
          points.filter (recentOnBoth parse pollerNow clientNow) else []) = [] := by
        cases hcase : s.session.since with
        | none => rfl
        | some count =>
            have hempty := hkeeps.sent (by rw [hcase]; simp) stage polled houtcome hstage
            rw [← hpoints, hempty]
            rfl
      rw [hnothing, List.append_nil, List.append_nil]
      exact hbefore

/-- A tick that keeps the points keeps the invariant. -/
theorem LiveInvariant.tick {s s' : LiveHub} (h : LiveInvariant parse s) {tick : PollTick}
    (hkeeps : TickKeeps parse s tick) (hidle : s.outbox = none)
    (hpoller : s'.poller = pollStep parse s.poller tick)
    (houtbox : s'.outbox = (pollTick parse s.poller tick).sent)
    (hlog : s'.log = s.log) (hsession : s'.session = s.session)
    (hclient : s'.clientClock = s.clientClock)
    (hclock : s'.pollerClock = (tick.outcome.fetched?.map (fun fetched =>
      max s.pollerClock fetched.clock)).getD s.pollerClock) :
    LiveInvariant parse s' := by
  obtain ⟨points, hpoints, hsent⟩ :=
    pollTick_points h.ordered h.fresh hkeeps.stamped hkeeps.scope
  rw [← hpoller] at hpoints
  have hentries : s'.entries =
      s.entries ++ (pollTick parse s.poller tick).sent.toList.map ServerMessage.entry := by
    unfold LiveHub.entries
    rw [hlog, houtbox, hidle, Option.toList_none, List.append_nil, List.map_append]
  have hlength : s.entries.length = s.log.length := by
    unfold LiveHub.entries
    rw [hidle, Option.toList_none, List.append_nil, List.length_map]
  have hqueued : s'.queued =
      s.queued ++ (pollTick parse s.poller tick).sent.toList.map ServerMessage.entry := by
    unfold LiveHub.queued
    rw [hentries, hsession, List.drop_append_of_le_length (by rw [hlength]; exact h.position)]
  have hlater : s.pollerClock ≤ s'.pollerClock := by
    rw [hclock]
    cases hfetched : tick.outcome.fetched? with
    | none => exact le_refl _
    | some fetched => exact le_max_left _ _
  have hread : ∀ fetched ∈ tick.outcome.fetched?,
      s'.pollerClock = max s.pollerClock fetched.clock := by
    intro fetched hfetched
    rw [hclock, Option.mem_def.mp hfetched]
    rfl
  have hrequired := required_append parse (congrArg LiveSession.since hsession) h.since
    hpoints
  have hcovers : ∀ {b entries}, Covers parse s b entries → Covers parse s' b
      (entries ++ (pollTick parse s.poller tick).sent.toList.map ServerMessage.entry) :=
    fun hbefore => hsent.covers hkeeps hlater hclient hread hrequired hbefore
  refine ⟨?_, ?_, ?_, ?_, ?_, ?_, ?_, ?_, ?_⟩
  · rw [hpoller]
    exact h.ordered.pollStep tick
  · rw [hpoller]
    exact h.fresh.pollStep tick
  · intro count hcount
    rw [hsession] at hcount
    rw [hpoints, List.length_append]
    exact Nat.le_add_right_of_le (h.since count hcount)
  · rw [hsession]
    exact h.unread
  · rw [hsession, hlog]
    exact h.position
  · rw [hpoints, hentries]
    exact hsent.within h.log
  · rw [hentries]
    exact hcovers h.logCovers
  · rw [hsession, hpoints]
    exact h.buffer.trans (List.sublist_append_left _ _)
  · rw [hsession, hpoints, hqueued]
    intro hphase
    obtain ⟨hwithin, hall⟩ := h.reading hphase
    exact ⟨hsent.within hwithin, hcovers hall⟩

/-! ## The session -/

/-- What a delivery does: the client handles the message, and the points after the
first snapshot are those that have to be shown. -/
theorem deliver_required (parse : String → Option Int) (now : Int) (message : ServerMessage)
    (s : LiveHub) (pollerLater clientLater : Int) :
    (s.deliver parse now message).required parse pollerLater clientLater =
        s.required parse pollerLater clientLater ∨
      (s.deliver parse now message).required parse pollerLater clientLater = [] := by
  unfold LiveHub.deliver LiveHub.required
  cases message with
  | snapshot d =>
      cases hcase : s.session.since with
      | none =>
          right
          simp only [Option.none_or]
          rw [List.drop_length, List.filter_nil]
      | some count =>
          left
          simp only [Option.some_or]
  | update u => exact Or.inl rfl
  | connectionStatus _ _ => exact Or.inl rfl

theorem deliver_since (parse : String → Option Int) {s : LiveHub}
    (h : ∀ count, s.session.since = some count → count ≤ s.poller.scopePoints.length)
    (now : Int) (message : ServerMessage) (count : Nat)
    (hcount : (s.deliver parse now message).session.since = some count) :
    count ≤ s.poller.scopePoints.length := by
  unfold LiveHub.deliver at hcount
  cases message with
  | snapshot d =>
      simp only at hcount
      cases hcase : s.session.since with
      | none =>
          rw [hcase, Option.none_or] at hcount
          exact (Option.some.inj hcount).ge
      | some before =>
          rw [hcase, Option.some_or] at hcount
          exact h count (hcase.trans hcount)
  | update u => exact h count hcount
  | connectionStatus _ _ => exact h count hcount

/-- The client is no further than the message lets it, and has all that it lets it have. -/
theorem deliver_reading {s : LiveHub} {now : Int} (message : ServerMessage)
    {entries : List (LogEntry TrafficPoint)}
    (hwithin : Within s.poller.scopePoints (message.entry.apply s.session.trafficBuffer) entries)
    (hcovers : ∀ pollerLater clientLater, s.pollerClock ≤ pollerLater →
      max s.clientClock now ≤ clientLater → (s.required parse pollerLater clientLater).Sublist
        ((replay entries (message.entry.apply s.session.trafficBuffer)).filter
          (recentOnBoth parse pollerLater clientLater))) :
    Within s.poller.scopePoints (s.deliver parse now message).session.trafficBuffer entries ∧
      Covers parse (s.deliver parse now message)
        (s.deliver parse now message).session.trafficBuffer entries := by
  have hunpruned : Covers parse (s.deliver parse now message)
      (message.entry.apply s.session.trafficBuffer) entries := by
    intro pollerLater clientLater hpoller hclient
    rcases deliver_required parse now message s pollerLater clientLater with hsame | hempty
    · rw [hsame]
      exact hcovers pollerLater clientLater hpoller hclient
    · rw [hempty]
      exact List.nil_sublist _
  have hbuffer : (s.deliver parse now message).session.trafficBuffer =
      handleTraffic parse now s.session.trafficBuffer message := rfl
  rw [hbuffer]
  rcases handleTraffic_cases parse now s.session.trafficBuffer message with hwhole | hpruned
  · rw [hwhole]
    exact ⟨hwithin, hunpruned⟩
  · rw [hpruned]
    exact ⟨hwithin.of_sublist List.filter_sublist, hunpruned.prune (le_max_right _ _)⟩

/-- A session that streams after its step, where nothing else changed. -/
theorem LiveInvariant.streaming {s s' : LiveHub} (h : LiveInvariant parse s)
    (hpoller : s'.poller = s.poller) (hentries : s'.entries = s.entries)
    (hlog : s'.log = s.log) (hpollerClock : s'.pollerClock = s.pollerClock)
    (hclientClock : s.clientClock ≤ s'.clientClock)
    (hphase : s'.session.phase = .streaming) (hposition : s'.session.position ≤ s.log.length)
    (hsince : ∀ count, s'.session.since = some count → count ≤ s.poller.scopePoints.length)
    (hrequired : ∀ pollerNow clientNow,
      s'.required parse pollerNow clientNow = s.required parse pollerNow clientNow ∨
        s'.required parse pollerNow clientNow = [])
    (hreading : Within s.poller.scopePoints s'.session.trafficBuffer s'.queued ∧
      Covers parse s' s'.session.trafficBuffer s'.queued) : LiveInvariant parse s' where
  ordered := hpoller ▸ h.ordered
  fresh := hpoller ▸ h.fresh
  since := hpoller ▸ hsince
  unread := by
    rw [hphase]
    rintro (hclosed | hsubscribed)
    · cases hclosed
    · cases hsubscribed
  position := hlog ▸ hposition
  log := by
    rw [hpoller, hentries]
    exact h.log
  logCovers := by
    rw [hentries]
    exact h.logCovers.later hpollerClock.ge hclientClock hrequired
  buffer := by
    rw [hpoller]
    exact hreading.1.start
  reading := fun _ => by
    rw [hpoller]
    exact hreading

/-- What a reader of the whole channel has where the session is. -/
theorem LiveInvariant.replay_queued (s : LiveHub) :
    replay s.queued (replay (s.entries.take s.session.position) []) = replay s.entries [] := by
  rw [← replay_append, LiveHub.queued, List.take_append_drop]

theorem LiveInvariant.within_queued {s : LiveHub} (h : LiveInvariant parse s) :
    Within s.poller.scopePoints (replay (s.entries.take s.session.position) []) s.queued := by
  have hall := h.log
  rw [← List.take_append_drop s.session.position s.entries] at hall
  exact (Within.append.mp hall).2

theorem LiveInvariant.cachedPoints {s : LiveHub} (h : LiveInvariant parse s) :
    s.cachedPoints.Sublist s.poller.scopePoints := by
  unfold LiveHub.cachedPoints
  cases hcache : s.poller.snapshotCache with
  | none => exact h.buffer
  | some d => exact h.ordered.cache d hcache

/-- With what is queued, the cached snapshot has all that has to be shown: behind a
whole snapshot because a reader of the channel would have it, and otherwise by the
condition on the read. -/
theorem LiveInvariant.cached_covers {s : LiveHub} (h : LiveInvariant parse s) {now : Int}
    (hphase : s.session.phase = .subscribed ∨ s.session.phase = .lagging)
    (hkeeps : ReadKeeps parse s now) {pollerLater clientLater : Int}
    (hpoller : s.pollerClock ≤ pollerLater) (hclient : max s.clientClock now ≤ clientLater) :
    (s.required parse pollerLater clientLater).Sublist
      ((replay s.queued s.cachedPoints).filter (recentOnBoth parse pollerLater clientLater)) := by
  rcases hphase with hsubscribed | hlagging
  · rw [required_none (h.unread (Or.inr hsubscribed))]
    exact List.nil_sublist _
  · by_cases hreset : HasReset s.queued
    · rw [replay_of_hasReset hreset s.cachedPoints (replay (s.entries.take s.session.position) []),
        LiveInvariant.replay_queued]
      exact h.logCovers _ _ hpoller (le_trans (le_max_left _ _) hclient)
    · rw [replay_of_not_hasReset hreset, ← filter_required hpoller hclient]
      exact (hkeeps.complete hlagging hreset).filter _

/-- A read of the cache that keeps the points keeps the invariant. -/
theorem LiveInvariant.readCache {s : LiveHub} (h : LiveInvariant parse s) {now : Int}
    (hphase : s.session.phase = .subscribed ∨ s.session.phase = .lagging)
    (hkeeps : ReadKeeps parse s now) : LiveInvariant parse (s.readCache parse now) := by
  have hwithin : Within s.poller.scopePoints s.cachedPoints s.queued :=
    h.within_queued.restart h.cachedPoints hkeeps.apart
  have hcovers : ∀ pollerLater clientLater, s.pollerClock ≤ pollerLater →
      max s.clientClock now ≤ clientLater → (s.required parse pollerLater clientLater).Sublist
        ((replay s.queued s.cachedPoints).filter (recentOnBoth parse pollerLater clientLater)) :=
    fun _ _ hpoller hclient => h.cached_covers hphase hkeeps hpoller hclient
  unfold LiveHub.cachedPoints at hwithin hcovers
  unfold LiveHub.readCache
  cases hcache : s.poller.snapshotCache with
  | none =>
      rw [hcache] at hwithin hcovers
      exact h.streaming rfl rfl rfl rfl (le_max_left _ _) rfl h.position h.since
        (fun _ _ => Or.inl rfl) ⟨hwithin, hcovers⟩
  | some d =>
      rw [hcache] at hwithin hcovers
      have hread := deliver_reading (.snapshot d) hwithin hcovers
      exact h.streaming rfl rfl rfl rfl (le_max_left _ _) rfl h.position
        (deliver_since parse h.since now (.snapshot d))
        (deliver_required parse now (.snapshot d) s) hread

/-- The message that the session receives is the first one that is queued. -/
theorem queued_cons {s : LiveHub} {message : ServerMessage}
    (h : s.log[s.session.position]? = some message) :
    s.queued = message.entry :: s.entries.drop (s.session.position + 1) := by
  obtain ⟨hlt, hget⟩ := List.getElem?_eq_some_iff.mp h
  have hentries : s.entries[s.session.position]? = some message.entry := by
    unfold LiveHub.entries
    rw [List.getElem?_map, List.getElem?_append_left hlt, h, Option.map_some]
  obtain ⟨hbound, hentry⟩ := List.getElem?_eq_some_iff.mp hentries
  rw [LiveHub.queued, List.drop_eq_getElem_cons hbound, hentry]

theorem LiveInvariant.receive {s : LiveHub} (h : LiveInvariant parse s) (capacity : Nat)
    (now : Int) (hphase : s.session.phase = .streaming) :
    LiveInvariant parse (s.receive parse capacity now) := by
  unfold LiveHub.receive
  cases hreceived : Foundation.receive capacity s.log s.session.position with
  | nothing => exact h
  | lagged position =>
      refine ⟨h.ordered, h.fresh, h.since, ?_, receive_lagged hreceived, h.log, h.logCovers,
        h.buffer, fun hcontra => (by cases hcontra)⟩
      rintro (hclosed | hsubscribed)
      · cases hclosed
      · cases hsubscribed
  | message message =>
      have hmessage := receive_message hreceived
      obtain ⟨hlt, _⟩ := List.getElem?_eq_some_iff.mp hmessage
      obtain ⟨hwithin, hcovers⟩ := h.reading hphase
      rw [queued_cons hmessage] at hwithin hcovers
      have hread : _ ∧ Covers parse (s.deliver parse now message) _ _ :=
        deliver_reading message hwithin.2 (fun pollerLater clientLater hpoller hclient =>
          hcovers pollerLater clientLater hpoller (le_trans (le_max_left _ _) hclient))
      exact h.streaming rfl rfl rfl rfl (le_max_left _ _) hphase hlt
        (deliver_since parse h.since now message) (deliver_required parse now message s) hread

/-! ## Runs -/

theorem LiveInvariant.send {s : LiveHub} (h : LiveInvariant parse s) {message : ServerMessage}
    (hmessage : s.outbox = some message) :
    LiveInvariant parse { s with log := s.log ++ [message], outbox := none } := by
  have hentries : LiveHub.entries { s with log := s.log ++ [message], outbox := none } =
      s.entries := by
    unfold LiveHub.entries
    rw [hmessage, Option.toList_none, List.append_nil, Option.toList_some]
  have hqueued : LiveHub.queued { s with log := s.log ++ [message], outbox := none } =
      s.queued := by
    unfold LiveHub.queued
    rw [hentries]
  refine ⟨h.ordered, h.fresh, h.since, h.unread, ?_, ?_, ?_, h.buffer, ?_⟩
  · rw [List.length_append]
    exact Nat.le_add_right_of_le h.position
  · rw [hentries]
    exact h.log
  · rw [hentries]
    exact h.logCovers
  · rw [hqueued]
    exact h.reading

/-- Every step that neither doubles nor loses a point keeps the invariant. -/
theorem LiveInvariant.step {s : LiveHub} (h : LiveInvariant parse s) (capacity : Nat)
    {e : LiveEvent} (hseamless : Seamless parse s e) :
    LiveInvariant parse (liveStep parse capacity s e) := by
  cases e with
  | tick tick =>
      unfold liveStep
      cases hidle : s.outbox with
      | some message => exact h
      | none => exact h.tick (hseamless hidle) hidle rfl rfl rfl rfl rfl rfl
  | send =>
      unfold liveStep
      cases hmessage : s.outbox with
      | some message => exact h.send hmessage
      | none =>
          simp only
          exact h
  | subscribe =>
      unfold liveStep
      cases hphase : s.session.phase with
      | closed =>
          exact ⟨h.ordered, h.fresh, h.since, fun _ => h.unread (Or.inl hphase), le_refl _, h.log,
            h.logCovers, h.buffer, fun hcontra => by cases hcontra⟩
      | subscribed => exact h
      | streaming => exact h
      | lagging => exact h
  | readCache now =>
      unfold liveStep
      cases hphase : s.session.phase with
      | closed => exact h
      | subscribed => exact h.readCache (Or.inl hphase) (hseamless (Or.inl hphase))
      | streaming => exact h
      | lagging => exact h.readCache (Or.inr hphase) (hseamless (Or.inr hphase))
  | receive now =>
      unfold liveStep
      cases hphase : s.session.phase with
      | closed => exact h
      | subscribed => exact h
      | streaming => exact h.receive capacity now hphase
      | lagging => exact h

end

/-- The clock of a client that is an hour ahead. -/
def hourAhead : Int := 3600 * 1000000000

/-- The hub after the events, where every timestamp is one of the present. -/
def hubAfter (events : List LiveEvent) : LiveHub :=
  run (liveStep (fun _ => some 0) 128) (LiveHub.initial true 0 hourAhead) events

/-- A session reads the cache after a tick without a point, and receives the point of
the next tick. -/
def readBeforePoint : List LiveEvent :=
  [.tick (tickOf (.completed (oneWanPoll 1 0))), .send, .subscribe, .readCache hourAhead,
    .tick (tickOf (.completed (oneWanPoll 2 1000))), .send, .receive hourAhead]

/-- The session reads the cache between the write of the tick and its message. -/
def readBehindPoint : List LiveEvent :=
  [.tick (tickOf (.completed (oneWanPoll 1 0))), .send, .subscribe,
    .tick (tickOf (.completed (oneWanPoll 2 1000))), .readCache hourAhead, .send,
    .receive hourAhead]

/-- A tick fails after the point was received, and the next one sends a whole snapshot. -/
def failureAfterPoint : List LiveEvent :=
  readBeforePoint ++ [.tick (tickOf .failed), .send, .receive hourAhead,
    .tick (tickOf (.completed (oneWanPoll 4 3000))), .send, .receive hourAhead]

/-- At the end of the channel there is nothing to receive. -/
theorem caughtUp_of_end {capacity : Nat} {s : LiveHub} (hphase : s.session.phase = .streaming)
    (houtbox : s.outbox.isNone = true) (hend : s.session.position = s.log.length) :
    s.CaughtUp capacity := by
  refine ⟨hphase, Option.isNone_iff_eq_none.mp houtbox, ?_⟩
  rw [hend]
  unfold Foundation.receive
  simp

theorem scopeless_tickKeeps {s : LiveHub} {polled : Fetched} (hpolled : polled.clock = 0)
    (hscope : s.poller.scopePoints.length = 0) :
    TickKeeps (fun _ => some 0) s (tickOf (.completed polled)) := by
  have hnone := List.length_eq_zero_iff.mp hscope
  refine ⟨?_, fun _ _ => Or.inr hnone, fun _ other _ => required_scopeless hnone _ _, ?_⟩
  · rintro other hother point _
    cases hother
    rw [hpolled]
    rfl
  · intro _ _ _ hcontra
    cases hcontra

end RouterView.Ws
