/-
  Ws/LiveHistorySpec.lean --- when a snapshot carries the live history.

  The history is kept aside and copied into the snapshot of a tick that has a new
  point only.  So the snapshot of a tick without one carries no history at all, and
  that is every snapshot that is broadcast as a whole, since the rates have no
  baseline then.
-/
import RouterView.Ws.Dashboard
import RouterView.Ws.LiveHistory

set_option autoImplicit false

namespace RouterView.Ws

open RouterView.Foundation
open RouterView.Poller (InterfaceEntry calculateCounterRate)

/-! ## The history -/

section

variable {parse : String → Option Int}

/-- The points of the router scope from the six hours before the time. -/
def livePoints (parse : String → Option Int) (now : Int) (s : LivePoller) : List TrafficPoint :=
  s.scopePoints.filter (recentAt parse now)

/-- What is recent at a time was recent before. -/
theorem recentAt_mono {earlier now : Int} (hle : earlier ≤ now) {point : TrafficPoint}
    (h : recentAt parse now point = true) : recentAt parse earlier point = true := by
  unfold recentAt at h ⊢
  rw [Option.any_eq_true] at h ⊢
  obtain ⟨time, htime, hrecent⟩ := h
  refine ⟨time, htime, ?_⟩
  rw [decide_eq_true_eq] at hrecent ⊢
  omega

/-- What was pruned at an earlier time is not recent. -/
theorem filter_recentAt_filter {earlier now : Int} (hle : earlier ≤ now)
    (points : List TrafficPoint) :
    (points.filter (recentAt parse earlier)).filter (recentAt parse now) =
      points.filter (recentAt parse now) := by
  rw [List.filter_filter]
  apply List.filter_congr
  intro point _
  cases hnow : recentAt parse now point with
  | false => simp
  | true => simp [recentAt_mono hle hnow]

/-- From the time on, the history has the live points. -/
def KeepsLive (parse : String → Option Int) (since : Int → Prop) (s : LivePoller) : Prop :=
  ∀ now, since now → s.trafficHistory.filter (recentAt parse now) = livePoints parse now s

theorem KeepsLive.imp {since since' : Int → Prop} {s : LivePoller}
    (h : KeepsLive parse since s) (himp : ∀ now, since' now → since now) :
    KeepsLive parse since' s :=
  fun now hnow => h now (himp now hnow)

/-- The history of two states with the same points is live in both. -/
theorem KeepsLive.congr {since : Int → Prop} {s s' : LivePoller} (h : KeepsLive parse since s)
    (hhistory : s'.trafficHistory = s.trafficHistory) (hpoints : s'.scopePoints = s.scopePoints) :
    KeepsLive parse since s' := by
  intro now hnow
  rw [livePoints, hhistory, hpoints]
  exact h now hnow

theorem KeepsLive.switchRouterScope {since : Int → Prop} {s : LivePoller}
    (h : KeepsLive parse since s) (router : Option Int) :
    KeepsLive parse since (s.switchRouterScope router) := by
  unfold LivePoller.switchRouterScope
  split
  · exact h
  · exact fun _ _ => rfl

/-- The two cases of a push: without a point nothing changes; with one the history
is what is live of it and the point. -/
theorem pushLatest_cases (parse : String → Option Int) (clock : Int)
    (snapshot : DashboardSnapshot) (s : LivePoller) :
    (snapshot.traffic = [] ∧ pushLatest parse clock snapshot s = (snapshot, s)) ∨
      ∃ point rest history, snapshot.traffic = point :: rest ∧
        history = (s.trafficHistory ++ [point]).filter (recentAt parse clock) ∧
        pushLatest parse clock snapshot s = ({ snapshot with traffic := history },
          { s with trafficHistory := history, scopePoints := s.scopePoints ++ [point] }) := by
  unfold pushLatest
  cases htraffic : snapshot.traffic with
  | nil => exact Or.inl ⟨rfl, rfl⟩
  | cons point rest => exact Or.inr ⟨point, rest, _, rfl, rfl, rfl⟩

/-- A push keeps the live points in the history. -/
theorem KeepsLive.pushLatest {since : Int → Prop} {s : LivePoller} (h : KeepsLive parse since s)
    (clock : Int) (snapshot : DashboardSnapshot) :
    KeepsLive parse (fun now => since now ∧ clock ≤ now) (pushLatest parse clock snapshot s).2 := by
  rcases pushLatest_cases parse clock snapshot s with
    ⟨_, hsame⟩ | ⟨point, _, history, _, hhistory, hpushed⟩
  · rw [hsame]
    exact h.imp (fun now hnow => hnow.1)
  · rw [hpushed]
    rintro now ⟨hsince, hle⟩
    simp only [livePoints, hhistory]
    rw [filter_recentAt_filter hle, List.filter_append, List.filter_append, h now hsince]
    rfl

/-- The snapshot of a push carries the live points exactly when there is a point, or
no point is live. -/
theorem pushLatest_traffic {since : Int → Prop} {s : LivePoller} (h : KeepsLive parse since s)
    {clock : Int} (hclock : since clock) (snapshot : DashboardSnapshot) :
    (pushLatest parse clock snapshot s).1.traffic =
        livePoints parse clock (pushLatest parse clock snapshot s).2 ↔
      snapshot.traffic ≠ [] ∨ livePoints parse clock (pushLatest parse clock snapshot s).2 = [] := by
  rcases pushLatest_cases parse clock snapshot s with
    ⟨hnone, hsame⟩ | ⟨point, rest, history, htraffic, hhistory, hpushed⟩
  · rw [hsame]
    simp only [hnone, ne_eq, not_true_eq_false, false_or]
    exact eq_comm
  · have hlive : history = livePoints parse clock
        { s with trafficHistory := history, scopePoints := s.scopePoints ++ [point] } := by
      simp only [livePoints, List.filter_append]
      rw [hhistory, List.filter_append, h clock hclock]
      rfl
    rw [hpushed]
    simp only [htraffic, ne_eq, reduceCtorEq, not_false_eq_true, true_or, iff_true]
    exact hlive

/-! ## Ticks -/

theorem KeepsLive.tryReconnect {since : Int → Prop} {s : LivePoller}
    (h : KeepsLive parse since s) (tick : PollTick) :
    KeepsLive parse since (tryReconnect tick s) := by
  unfold RouterView.Ws.tryReconnect
  split
  · exact h
  · split <;> split <;> exact h.congr rfl rfl

theorem KeepsLive.fetchAndTransform {since : Int → Prop} {s : LivePoller}
    (h : KeepsLive parse since s) (fetched : Fetched) :
    KeepsLive parse since (s.fetchAndTransform fetched).2 :=
  (h.switchRouterScope fetched.routerId).congr rfl rfl

theorem KeepsLive.buildSnapshot {since : Int → Prop} {s : LivePoller}
    (h : KeepsLive parse since s) (fetched : Fetched) :
    KeepsLive parse (fun now => since now ∧ fetched.clock ≤ now)
      (buildSnapshot parse fetched s).2 :=
  (h.fetchAndTransform fetched).pushLatest fetched.clock _

/-- However far a tick comes, the history has the live points from its time on. -/
theorem KeepsLive.reach {since : Int → Prop} {s : LivePoller} (h : KeepsLive parse since s)
    (fetched : Fetched) (stage : TickStage) :
    KeepsLive parse (fun now => since now ∧ (stage ≠ .started → fetched.clock ≤ now))
      (reach parse fetched s stage).state := by
  cases stage with
  | started => exact h.imp (fun now hnow => hnow.1)
  | fetched => exact (h.fetchAndTransform fetched).imp (fun now hnow => hnow.1)
  | pushed =>
      exact (h.buildSnapshot fetched).imp (fun now hnow => ⟨hnow.1, hnow.2 (by simp)⟩)
  | written =>
      have hbuilt : KeepsLive parse (fun now => since now ∧ fetched.clock ≤ now)
          (RouterView.Ws.reach parse fetched s .written).state :=
        (h.buildSnapshot fetched).congr rfl rfl
      exact hbuilt.imp (fun now hnow => ⟨hnow.1, hnow.2 (by simp)⟩)
  | sent =>
      have hbuilt : KeepsLive parse (fun now => since now ∧ fetched.clock ≤ now)
          (RouterView.Ws.reach parse fetched s .sent).state :=
        (h.buildSnapshot fetched).congr rfl rfl
      exact hbuilt.imp (fun now hnow => ⟨hnow.1, hnow.2 (by simp)⟩)

theorem KeepsLive.finishTick {since : Int → Prop} {s : LivePoller} (h : KeepsLive parse since s)
    (lastPoll : String) (outcome : TickOutcome) :
    KeepsLive parse (fun now => since now ∧ ∀ fetched ∈ outcome.fetched?, fetched.clock ≤ now)
      (finishTick parse lastPoll s outcome).state := by
  cases outcome with
  | failed => exact (h.congr rfl rfl).imp (fun now hnow => hnow.1)
  | completed fetched =>
      exact (h.reach fetched .sent).imp (fun now hnow => ⟨hnow.1, fun _ => hnow.2 fetched rfl⟩)
  | panicked stage fetched =>
      have hreached : KeepsLive parse
          (fun now => since now ∧ (stage ≠ .started → fetched.clock ≤ now))
          (RouterView.Ws.finishTick parse lastPoll s (.panicked stage fetched)).state :=
        (h.reach fetched stage).congr rfl rfl
      refine hreached.imp ?_
      rintro now ⟨hsince, hclock⟩
      refine ⟨hsince, ?_⟩
      intro hstage
      apply hclock
      cases stage with
      | started => exact absurd rfl hstage
      | fetched => rfl
      | pushed => rfl
      | written => rfl
      | sent => rfl

theorem KeepsLive.pollStep {since : Int → Prop} {s : LivePoller} (h : KeepsLive parse since s)
    (tick : PollTick) :
    KeepsLive parse (fun now => since now ∧ ∀ fetched ∈ tick.outcome.fetched?, fetched.clock ≤ now)
      (pollStep parse s tick) := by
  unfold RouterView.Ws.pollStep pollTick
  simp only
  split
  · exact (h.tryReconnect tick).finishTick tick.lastPoll tick.outcome
  · exact (h.tryReconnect tick).imp (fun now hnow => hnow.1)

/-- After any ticks the history has the live points, at every time that is not before
theirs. -/
theorem KeepsLive.along (parse : String → Option Int) (connected : Bool) (ticks : List PollTick) :
    KeepsLive parse (NoEarlier ticks)
      (run (RouterView.Ws.pollStep parse) (LivePoller.initial connected) ticks) := by
  induction ticks using List.reverseRecOn with
  | nil => exact fun _ _ => rfl
  | append_singleton earlier tick ih =>
      rw [run_append]
      refine (ih.pollStep tick).imp ?_
      intro now hnow
      exact ⟨fun other hother => hnow other (List.mem_append_left _ hother),
        hnow tick (List.mem_append_right _ (List.mem_singleton.mpr rfl))⟩

/-! ## What a tick publishes -/

/-- The tick writes the snapshot to the cache, or broadcasts it as a whole. -/
def TickEffect.Publishes (effect : TickEffect) (d : DashboardSnapshot) : Prop :=
  effect.written = some d ∨ effect.sent = some (.snapshot d)

theorem message_snapshot {built d : DashboardSnapshot} {s : LivePoller}
    (h : s.message built = some (.snapshot d)) : s.firstPoll = true ∧ d = built := by
  unfold LivePoller.message at h
  split at h
  · cases h
    exact ⟨‹_›, rfl⟩
  · obtain ⟨previous, _, hmessage⟩ := Option.bind_eq_some_iff.mp h
    simp only at hmessage
    split at hmessage <;> cases hmessage

/-- What a connected poller publishes is the snapshot that it built; the points of
the scope are then those with which it was built. -/
theorem reach_publishes {fetched : Fetched} {s : LivePoller} {stage : TickStage}
    {d : DashboardSnapshot} (h : (reach parse fetched s stage).Publishes d) :
    d = (buildSnapshot parse fetched s).1 ∧ stage ≠ .started ∧
      (reach parse fetched s stage).state.scopePoints =
        (buildSnapshot parse fetched s).2.scopePoints := by
  cases stage with
  | started => rcases h with h | h <;> cases h
  | fetched => rcases h with h | h <;> cases h
  | pushed => rcases h with h | h <;> cases h
  | written =>
      rcases h with h | h
      · exact ⟨(Option.some.inj h).symm, by simp, rfl⟩
      · cases h
  | sent =>
      refine ⟨?_, by simp, rfl⟩
      rcases h with h | h
      · exact (Option.some.inj h).symm
      · exact (message_snapshot h).2

/-- What a tick publishes is the snapshot that it built. -/
theorem pollTick_publishes {s : LivePoller} {tick : PollTick} {fetched : Fetched}
    (hfetched : tick.outcome.fetched? = some fetched) {d : DashboardSnapshot}
    (h : (pollTick parse s tick).Publishes d) :
    d = (buildSnapshot parse fetched (tryReconnect tick s)).1 ∧
      (pollStep parse s tick).scopePoints =
        (buildSnapshot parse fetched (tryReconnect tick s)).2.scopePoints := by
  unfold pollStep
  unfold pollTick at h ⊢
  simp only at h ⊢
  split at h
  swap
  · rcases h with h | h <;> cases h
  · rename_i hconnected
    rw [if_pos hconnected]
    cases houtcome : tick.outcome with
    | failed =>
        rw [houtcome] at hfetched
        cases hfetched
    | completed other =>
        rw [houtcome] at hfetched h
        cases hfetched
        obtain ⟨hd, _, hpoints⟩ := reach_publishes h
        exact ⟨hd, hpoints⟩
    | panicked stage other =>
        rw [houtcome] at hfetched h
        have hreached : (reach parse other (tryReconnect tick s) stage).Publishes d := h
        obtain ⟨hd, hstage, hpoints⟩ := reach_publishes hreached
        have hsame : other = fetched := by
          cases stage with
          | started => exact absurd rfl hstage
          | fetched => exact Option.some.inj hfetched
          | pushed => exact Option.some.inj hfetched
          | written => exact Option.some.inj hfetched
          | sent => exact Option.some.inj hfetched
        subst hsame
        exact ⟨hd, hpoints⟩

theorem ClockAdvances.noEarlier {ticks : List PollTick} {tick : PollTick}
    (h : ClockAdvances (ticks ++ [tick])) {fetched : Fetched}
    (hfetched : tick.outcome.fetched? = some fetched) : NoEarlier ticks fetched.clock := by
  intro earlier hearlier before hbefore
  exact (List.pairwise_append.mp h).2.2 earlier hearlier tick (List.mem_singleton.mpr rfl) before
    hbefore fetched hfetched

/-- A snapshot that a tick writes to the cache or broadcasts carries the points of the
last six hours exactly when the tick has a rate, or there is no such point. -/
theorem snapshot_carries_history_iff (connected : Bool) {ticks : List PollTick} {tick : PollTick}
    (hclock : ClockAdvances (ticks ++ [tick])) {fetched : Fetched}
    (hfetched : tick.outcome.fetched? = some fetched) {d : DashboardSnapshot}
    (hd : (pollTick parse (run (pollStep parse) (LivePoller.initial connected) ticks)
      tick).Publishes d) :
    d.traffic = livePoints parse fetched.clock
        (run (pollStep parse) (LivePoller.initial connected) (ticks ++ [tick])) ↔
      (tryReconnect tick (run (pollStep parse) (LivePoller.initial connected) ticks)).latestPoints
          fetched ≠ [] ∨
        livePoints parse fetched.clock
          (run (pollStep parse) (LivePoller.initial connected) (ticks ++ [tick])) = [] := by
  have hkeeps := ((KeepsLive.along parse connected ticks).tryReconnect tick).fetchAndTransform
    fetched
  obtain ⟨hbuilt, hpoints⟩ := pollTick_publishes hfetched hd
  have hlive : livePoints parse fetched.clock
      (run (pollStep parse) (LivePoller.initial connected) (ticks ++ [tick])) =
      livePoints parse fetched.clock (buildSnapshot parse fetched (tryReconnect tick
        (run (pollStep parse) (LivePoller.initial connected) ticks))).2 := by
    rw [run_append, run_cons, run_nil, livePoints, livePoints, hpoints]
  rw [hlive, hbuilt]
  exact pushLatest_traffic hkeeps (hclock.noEarlier hfetched) _

/-! ## Snapshots that are broadcast -/

/-- Without a baseline there is no rate. -/
theorem extractTraffic_noBaseline (allWans : List (Option InterfaceEntry)) {context : RateContext}
    (h : context.previousCounters = none) (now : String) :
    extractTraffic allWans context now = [] := by
  have hcounter : ∀ current, counterBps none current context = .finite 0 := by
    intro current
    cases current <;> rfl
  have hrates : ∀ wan, addWanRate context (.finite 0, .finite 0) wan = (.finite 0, .finite 0) := by
    intro wan
    cases wan with
    | none => rfl
    | some iface =>
        simp only [addWanRate, calculateInterfaceRates, h, Option.bind_none, Option.map_none,
          hcounter, F64.add, add_zero]
  have hsums : ∀ wans : List (Option InterfaceEntry),
      wans.foldl (addWanRate context) (.finite 0, .finite 0) = (.finite 0, .finite 0) := by
    intro wans
    induction wans with
    | nil => rfl
    | cons wan rest ih => rw [List.foldl_cons, hrates, ih]
  simp only [extractTraffic, hsums]
  rfl

/-- The next snapshot is sent as a whole only where the rates have no baseline. -/
structure FreshBaseline (s : LivePoller) : Prop where
  firstPoll : s.firstPoll = true → s.rateBaseline = none
  disconnected : s.connected = false → s.rateBaseline = none

theorem FreshBaseline.switchRouterScope {s : LivePoller} (h : FreshBaseline s)
    (router : Option Int) : FreshBaseline (s.switchRouterScope router) := by
  unfold LivePoller.switchRouterScope
  split
  · exact h
  · exact ⟨fun _ => rfl, fun _ => rfl⟩

theorem FreshBaseline.tryReconnect {s : LivePoller} (h : FreshBaseline s) (tick : PollTick) :
    FreshBaseline (tryReconnect tick s) := by
  unfold RouterView.Ws.tryReconnect
  split
  · exact h
  · rename_i hneeded
    by_cases hparams : tick.paramsChanged = true
    · simp only [hparams, if_true]
      split
      · exact ⟨fun _ => rfl, fun _ => rfl⟩
      · exact ⟨fun _ => rfl, fun _ => rfl⟩
    · have hdisconnected : s.connected = false := by
        simp only [hparams] at hneeded
        simpa using hneeded
      simp only [hparams, Bool.false_eq_true, if_false]
      split
      · exact ⟨fun _ => h.disconnected hdisconnected, fun hcontra => by cases hcontra⟩
      · exact h

theorem FreshBaseline.markPollFailure (s : LivePoller) : FreshBaseline s.markPollFailure :=
  ⟨fun _ => rfl, fun _ => rfl⟩

theorem pushLatest_keeps (clock : Int) (snapshot : DashboardSnapshot) (s : LivePoller) :
    (pushLatest parse clock snapshot s).2.connected = s.connected ∧
      (pushLatest parse clock snapshot s).2.firstPoll = s.firstPoll := by
  rcases pushLatest_cases parse clock snapshot s with ⟨_, hsame⟩ | ⟨_, _, _, _, _, hpushed⟩
  · rw [hsame]
    exact ⟨rfl, rfl⟩
  · rw [hpushed]
    exact ⟨rfl, rfl⟩

theorem switchRouterScope_connected (router : Option Int) (s : LivePoller) :
    (s.switchRouterScope router).connected = s.connected := by
  unfold LivePoller.switchRouterScope
  split <;> rfl

theorem finishTick_freshBaseline {s : LivePoller} (hconnected : s.connected = true)
    (lastPoll : String) (outcome : TickOutcome) :
    FreshBaseline (finishTick parse lastPoll s outcome).state := by
  cases outcome with
  | failed => exact FreshBaseline.markPollFailure s
  | panicked stage fetched => exact FreshBaseline.markPollFailure _
  | completed fetched =>
      have hkept : (reach parse fetched s .sent).state.connected = true := by
        refine (pushLatest_keeps fetched.clock _ _).1.trans ?_
        exact (switchRouterScope_connected fetched.routerId s).trans hconnected
      constructor
      · intro hfirst
        cases hfirst
      · intro hdisconnected
        exact absurd (hkept.symm.trans hdisconnected) (by simp)

theorem FreshBaseline.pollStep {s : LivePoller} (h : FreshBaseline s) (tick : PollTick) :
    FreshBaseline (pollStep parse s tick) := by
  unfold RouterView.Ws.pollStep pollTick
  simp only
  split
  · exact finishTick_freshBaseline ‹_› tick.lastPoll tick.outcome
  · exact h.tryReconnect tick

theorem FreshBaseline.along (parse : String → Option Int) (connected : Bool)
    (ticks : List PollTick) :
    FreshBaseline (run (RouterView.Ws.pollStep parse) (LivePoller.initial connected) ticks) := by
  have hinitial : FreshBaseline (LivePoller.initial connected) := ⟨fun _ => rfl, fun _ => rfl⟩
  induction ticks using List.reverseRecOn with
  | nil => exact hinitial
  | append_singleton earlier tick ih =>
      rw [run_append]
      exact ih.pollStep tick

/-- The whole snapshot that a tick sends has no point: it is built without a baseline. -/
theorem FreshBaseline.message_empty {s : LivePoller} (h : FreshBaseline s) {fetched : Fetched}
    {d : DashboardSnapshot}
    (hsent : (buildSnapshot parse fetched s).2.message (buildSnapshot parse fetched s).1 =
      some (.snapshot d)) : d.traffic = [] := by
  obtain ⟨hfirst, hd⟩ := message_snapshot hsent
  rw [hd]
  have hkept : (buildSnapshot parse fetched s).2.firstPoll =
      (s.switchRouterScope fetched.routerId).firstPoll := (pushLatest_keeps fetched.clock _ _).2
  have hswitched : (s.switchRouterScope fetched.routerId).firstPoll = true :=
    hkept.symm.trans hfirst
  have hnone := (h.switchRouterScope fetched.routerId).firstPoll hswitched
  have hcontext : (fetched.rateContext
      (s.switchRouterScope fetched.routerId).rateBaseline).previousCounters = none := by
    rw [hnone]
    rfl
  have hlatest : (s.fetchAndTransform fetched).1.traffic = [] :=
    extractTraffic_noBaseline fetched.allWans hcontext fetched.rest.timestamp
  rcases pushLatest_cases parse fetched.clock (s.fetchAndTransform fetched).1
      (s.fetchAndTransform fetched).2 with ⟨_, hsame⟩ | ⟨point, rest, _, htraffic, _⟩
  · unfold buildSnapshot
    simp only
    rw [hsame]
    exact hlatest
  · rw [hlatest] at htraffic
    cases htraffic

/-- No snapshot that the poller broadcasts carries a point. -/
theorem broadcast_snapshot_empty (connected : Bool) (ticks : List PollTick) (tick : PollTick)
    {d : DashboardSnapshot}
    (hd : (pollTick parse (run (pollStep parse) (LivePoller.initial connected) ticks) tick).sent =
      some (.snapshot d)) : d.traffic = [] := by
  have hfresh := (FreshBaseline.along parse connected ticks).tryReconnect tick
  unfold pollTick at hd
  simp only at hd
  split at hd
  swap
  · cases hd
  · cases houtcome : tick.outcome with
    | failed =>
        rw [houtcome] at hd
        cases hd
    | completed fetched =>
        rw [houtcome] at hd
        exact hfresh.message_empty hd
    | panicked stage fetched =>
        rw [houtcome] at hd
        cases stage with
        | started => cases hd
        | fetched => cases hd
        | pushed => cases hd
        | written => cases hd
        | sent => exact hfresh.message_empty hd

end

/-! ### Runs on fixed inputs -/

/-- A poll of a router with one WAN, whose counter of received bytes is given, ten
seconds after the one before. -/
def oneWanPoll (index : Nat) (rxByte : UInt64) : Fetched where
  routerId := some 1
  monotonic := 10000000000 * index
  uptimeSeconds := some (UInt64.ofNat (10 * index))
  interfaces := [⟨"*1", "ether1", "", some rxByte, some 0⟩]
  allWans := [some ⟨"*1", "ether1", "", some rxByte, some 0⟩]
  rest := oneWan none
  clock := 0

/-- A tick with the same connection parameters. -/
def tickOf (outcome : TickOutcome) : PollTick := ⟨false, true, "", outcome⟩

/-- Two ticks, in the second of which the link carried traffic. -/
def busyTicks : List PollTick :=
  [tickOf (.completed (oneWanPoll 1 0)), tickOf (.completed (oneWanPoll 2 1000))]

/-- The poller after the ticks, where every timestamp is one of the present. -/
def polledAfter (ticks : List PollTick) : LivePoller :=
  run (pollStep (fun _ => some 0)) (LivePoller.initial true) ticks

theorem snapshot_carries_history_iff_busy :
    ∃ d, (pollTick (fun _ => some 0) (polledAfter busyTicks)
        (tickOf (.completed (oneWanPoll 3 3000)))).written = some d ∧
      d.traffic = livePoints (fun _ => some 0) 0
        (polledAfter (busyTicks ++ [tickOf (.completed (oneWanPoll 3 3000))])) := by
  have hclock : ClockAdvances (busyTicks ++ [tickOf (.completed (oneWanPoll 3 3000))]) := by
    unfold ClockAdvances
    simp [busyTicks, tickOf, TickOutcome.fetched?, oneWanPoll]
  have hwritten : (pollTick (fun _ => some 0) (polledAfter busyTicks)
      (tickOf (.completed (oneWanPoll 3 3000)))).written.isSome = true := by decide +kernel
  obtain ⟨d, hd⟩ := Option.isSome_iff_exists.mp hwritten
  have hiff := @snapshot_carries_history_iff (fun _ => some 0) true busyTicks
    (tickOf (.completed (oneWanPoll 3 3000))) hclock (oneWanPoll 3 3000) rfl d (Or.inl hd)
  exact ⟨d, hd, hiff.mpr (Or.inl (List.ne_nil_of_length_pos (by decide +kernel)))⟩

/-- The snapshot that a tick broadcasts as a whole. -/
def TickEffect.sentSnapshot (effect : TickEffect) : Option DashboardSnapshot :=
  match effect.sent with
  | some (.snapshot d) => some d
  | _ => none

/-- The tick publishes a snapshot without any point, although one is from the last six
hours. -/
def LosesHistory (published : TickEffect → Option DashboardSnapshot) (ticks : List PollTick)
    (tick : PollTick) : Prop :=
  (published (pollTick (fun _ => some 0) (polledAfter ticks) tick)).any
      (fun d => d.traffic.isEmpty) = true ∧
    (livePoints (fun _ => some 0) 0 (polledAfter (ticks ++ [tick]))).length = 1

/-- An idle link empties the history in the cache, and the first tick after a failed
one broadcasts an empty history. -/
theorem idle_snapshot_loses_history :
    LosesHistory TickEffect.written busyTicks (tickOf (.completed (oneWanPoll 3 1000))) ∧
      LosesHistory TickEffect.sentSnapshot (busyTicks ++ [tickOf .failed])
        (tickOf (.completed (oneWanPoll 4 3000))) :=
  ⟨⟨by decide +kernel, by decide +kernel⟩, ⟨by decide +kernel, by decide +kernel⟩⟩

end RouterView.Ws
