/-
  Ws/LivePointsSpec.lean --- the points of a tick and its message.

  The points of a router scope are produced in the order of the ticks, and the poller
  holds them in this order.  A tick has one point or none, and the message that it
  sends appends this point, or replaces what the clients have by nothing.
-/
import RouterView.Ws.LivePoints

set_option autoImplicit false

namespace RouterView.Ws

open RouterView.Foundation
open RouterView.Poller (InterfaceEntry)

/-! ## The points of a tick -/

section

variable {parse : String → Option Int}

/-- What the poller holds is in the order of production, and an update has a snapshot
to differ from. -/
structure Ordered (s : LivePoller) : Prop where
  history : s.trafficHistory.Sublist s.scopePoints
  cache : ∀ d ∈ s.snapshotCache, d.traffic.Sublist s.scopePoints
  previous : s.firstPoll = false → s.prevSnapshot.isSome = true

theorem Ordered.tryReconnect {s : LivePoller} (h : Ordered s) (tick : PollTick) :
    Ordered (tryReconnect tick s) := by
  unfold RouterView.Ws.tryReconnect
  split
  · exact h
  · split <;> split
    · exact ⟨h.history, h.cache, fun hfirst => by cases hfirst⟩
    · exact ⟨h.history, h.cache, h.previous⟩
    · exact ⟨h.history, h.cache, fun hfirst => by cases hfirst⟩
    · exact h

theorem tryReconnect_scopePoints (tick : PollTick) (s : LivePoller) :
    (tryReconnect tick s).scopePoints = s.scopePoints ∧
      (tryReconnect tick s).activeRouterId = s.activeRouterId := by
  unfold RouterView.Ws.tryReconnect
  split
  · exact ⟨rfl, rfl⟩
  · split <;> split <;> exact ⟨rfl, rfl⟩

theorem Ordered.switchRouterScope {s : LivePoller} (h : Ordered s) (router : Option Int) :
    Ordered (s.switchRouterScope router) := by
  unfold LivePoller.switchRouterScope
  split
  · exact h
  · exact ⟨List.Sublist.refl _, fun d hd => (by cases hd), fun hfirst => (by cases hfirst)⟩

/-- A scope that is kept, or that has no points, has the same points. -/
theorem switchRouterScope_scopePoints {s : LivePoller} {router : Option Int}
    (h : router = s.activeRouterId ∨ s.scopePoints = []) :
    (s.switchRouterScope router).scopePoints = s.scopePoints := by
  unfold LivePoller.switchRouterScope
  split
  · rfl
  · rename_i hother
    rcases h with hsame | hnone
    · exact absurd hsame.symm hother
    · exact hnone.symm

theorem Ordered.markPollFailure {s : LivePoller} (h : Ordered s) : Ordered s.markPollFailure :=
  ⟨h.history, h.cache, fun hfirst => by cases hfirst⟩

/-- A poll has one point or none. -/
theorem latestPoints_cases (fetched : Fetched) (s : LivePoller) :
    s.latestPoints fetched = [] ∨ ∃ point, s.latestPoints fetched = [point] := by
  unfold LivePoller.latestPoints extractTraffic
  simp only
  split
  · exact Or.inr ⟨_, rfl⟩
  · exact Or.inl rfl

/-- The points of the scope after a snapshot was built. -/
theorem buildSnapshot_scopePoints (parse : String → Option Int) {fetched : Fetched}
    {s : LivePoller}
    (hscope : fetched.routerId = s.activeRouterId ∨ s.scopePoints = []) :
    (buildSnapshot parse fetched s).2.scopePoints = s.scopePoints ++ s.latestPoints fetched := by
  have hswitched := switchRouterScope_scopePoints hscope
  unfold buildSnapshot
  simp only
  rcases pushLatest_cases parse fetched.clock (s.fetchAndTransform fetched).1
      (s.fetchAndTransform fetched).2 with
    ⟨hnone, hsame⟩ | ⟨point, rest, history, htraffic, _, hpushed⟩
  · have hlatest : s.latestPoints fetched = [] := hnone
    rw [hsame, hlatest, List.append_nil]
    exact hswitched
  · have hlatest : s.latestPoints fetched = point :: rest := htraffic
    have hone : s.latestPoints fetched = [point] := by
      rcases latestPoints_cases fetched s with hnil | ⟨other, hother⟩
      · rw [hlatest] at hnil
        cases hnil
      · rw [hlatest] at hother
        cases hother
        exact hlatest
    rw [hpushed, hone]
    exact congrArg (fun points => points ++ [point]) hswitched

/-- The history and the built snapshot are in the order of production. -/
theorem Ordered.buildSnapshot (parse : String → Option Int) {s : LivePoller} (h : Ordered s)
    (fetched : Fetched) :
    Ordered (buildSnapshot parse fetched s).2 ∧
      (buildSnapshot parse fetched s).1.traffic.Sublist
        (buildSnapshot parse fetched s).2.scopePoints := by
  have hswitched := h.switchRouterScope fetched.routerId
  unfold RouterView.Ws.buildSnapshot
  simp only
  rcases pushLatest_cases parse fetched.clock (s.fetchAndTransform fetched).1
      (s.fetchAndTransform fetched).2 with
    ⟨hnone, hsame⟩ | ⟨point, _, history, _, hhistory, hpushed⟩
  · rw [hsame]
    refine ⟨⟨hswitched.history, hswitched.cache, hswitched.previous⟩, ?_⟩
    simp only [hnone]
    exact List.nil_sublist _
  · have hsublist : history.Sublist
        ((s.fetchAndTransform fetched).2.scopePoints ++ [point]) := by
      rw [hhistory]
      exact List.filter_sublist.trans (hswitched.history.append (List.Sublist.refl _))
    rw [hpushed]
    refine ⟨⟨hsublist, ?_, hswitched.previous⟩, hsublist⟩
    intro d hd
    exact (hswitched.cache d hd).trans (List.sublist_append_left _ _)

theorem Ordered.reach {s : LivePoller} (h : Ordered s) (fetched : Fetched) (stage : TickStage) :
    Ordered (reach parse fetched s stage).state := by
  have hswitched := h.switchRouterScope fetched.routerId
  obtain ⟨hbuilt, htraffic⟩ := h.buildSnapshot parse fetched
  cases stage with
  | started => exact h
  | fetched => exact ⟨hswitched.history, hswitched.cache, hswitched.previous⟩
  | pushed => exact hbuilt
  | written =>
      refine ⟨hbuilt.history, ?_, hbuilt.previous⟩
      intro d hd
      cases hd
      exact htraffic
  | sent =>
      refine ⟨hbuilt.history, ?_, fun _ => rfl⟩
      intro d hd
      cases hd
      exact htraffic

theorem Ordered.pollStep {s : LivePoller} (h : Ordered s) (tick : PollTick) :
    Ordered (pollStep parse s tick) := by
  have hconnection := h.tryReconnect tick
  unfold RouterView.Ws.pollStep pollTick
  simp only
  split
  · cases tick.outcome with
    | failed => exact hconnection.markPollFailure
    | completed fetched => exact hconnection.reach fetched .sent
    | panicked stage fetched => exact (hconnection.reach fetched stage).markPollFailure
  · exact hconnection

/-- The message of a tick, next to the points that it added to the scope: nothing about
points; the point; a snapshot without points, where the whole is due; or none at all
for a point, in a panic. -/
inductive SentPoints (tick : PollTick) (s : LivePoller) : List TrafficPoint →
    List (LogEntry TrafficPoint) → Prop where
  | silent : SentPoints tick s [] []
  | status : SentPoints tick s [] [.skip]
  | point (point : TrafficPoint) : SentPoints tick s [point] [.append point]
  | whole (fetched : Fetched) (hfetched : tick.outcome.fetched? = some fetched)
      (hfirst : (tryReconnect tick s).firstPoll = true ∨ s.scopePoints = []) :
      SentPoints tick s [] [.reset []]
  | unsent (points : List TrafficPoint) (stage : TickStage) (fetched : Fetched)
      (houtcome : tick.outcome = .panicked stage fetched)
      (hstage : stage = .pushed ∨ stage = .written)
      (hpoints : (tryReconnect tick s).latestPoints fetched = points) :
      SentPoints tick s points []

/-- The last point of a pruned history to which a recent point was pushed. -/
theorem getLast?_pushed {history : List TrafficPoint} {point : TrafficPoint} {clock : Int}
    (h : recentAt parse clock point = true) :
    ((history ++ [point]).filter (recentAt parse clock)).getLast? = some point := by
  rw [List.filter_append, List.filter_cons_of_pos h, List.filter_nil, List.getLast?_append]
  rfl

/-- The message of a tick that comes to its end. -/
theorem sent_entries {tick : PollTick} {s : LivePoller} {fetched : Fetched}
    (hfetched : tick.outcome.fetched? = some fetched) (hordered : Ordered (tryReconnect tick s))
    (hfresh : FreshBaseline (tryReconnect tick s))
    (hstamped : ∀ point ∈ (tryReconnect tick s).latestPoints fetched,
      recentAt parse fetched.clock point = true)
    (hscope : fetched.routerId = s.activeRouterId ∨ s.scopePoints = []) :
    SentPoints tick s ((tryReconnect tick s).latestPoints fetched)
      ((reach parse fetched (tryReconnect tick s) .sent).sent.toList.map ServerMessage.entry) := by
  generalize hconnection : tryReconnect tick s = c at hordered hfresh hstamped ⊢
  have hswitched := hordered.switchRouterScope fetched.routerId
  have hmessage : (reach parse fetched c .sent).sent =
      (buildSnapshot parse fetched c).2.message (buildSnapshot parse fetched c).1 := rfl
  have hkept : (buildSnapshot parse fetched c).2.firstPoll =
      (c.switchRouterScope fetched.routerId).firstPoll := (pushLatest_keeps fetched.clock _ _).2
  have hprevious : (buildSnapshot parse fetched c).2.prevSnapshot =
      (c.switchRouterScope fetched.routerId).prevSnapshot := by
    unfold buildSnapshot
    simp only
    rcases pushLatest_cases parse fetched.clock (c.fetchAndTransform fetched).1
        (c.fetchAndTransform fetched).2 with ⟨_, hsame⟩ | ⟨_, _, _, _, _, hpushed⟩
    · rw [hsame]
      rfl
    · rw [hpushed]
      rfl
  have hbuilt := pushLatest_cases parse fetched.clock (c.fetchAndTransform fetched).1
    (c.fetchAndTransform fetched).2
  rw [hmessage]
  unfold LivePoller.message
  cases hfirst : (buildSnapshot parse fetched c).2.firstPoll with
  | true =>
      have hnone : c.latestPoints fetched = [] := by
        have hbaseline := (hfresh.switchRouterScope fetched.routerId).firstPoll
          (hkept.symm.trans hfirst)
        refine extractTraffic_noBaseline fetched.allWans ?_ fetched.rest.timestamp
        rw [hbaseline]
        rfl
      have hsent : (buildSnapshot parse fetched c).2.message (buildSnapshot parse fetched c).1 =
          some (.snapshot (buildSnapshot parse fetched c).1) := by
        unfold LivePoller.message
        rw [hfirst]
        rfl
      have hempty : (buildSnapshot parse fetched c).1.traffic = [] := hfresh.message_empty hsent
      rw [hnone]
      have hdue : (tryReconnect tick s).firstPoll = true ∨ s.scopePoints = [] := by
        rcases hscope with hsame | hscopeless
        · left
          have hactive := (tryReconnect_scopePoints tick s).2
          rw [hconnection] at hactive ⊢
          rw [hkept, LivePoller.switchRouterScope, if_pos (hactive.trans hsame.symm)] at hfirst
          exact hfirst
        · exact Or.inr hscopeless
      have hentry : (Option.toList (some (ServerMessage.snapshot
          (buildSnapshot parse fetched c).1))).map ServerMessage.entry = [.reset []] := by
        simp only [Option.toList_some, List.map_cons, List.map_nil, ServerMessage.entry, hempty]
      simp only [if_true]
      rw [hentry]
      exact .whole fetched hfetched hdue
  | false =>
      have hsome : (c.switchRouterScope fetched.routerId).prevSnapshot.isSome = true :=
        hswitched.previous (hkept.symm.trans hfirst)
      obtain ⟨previous, hprev⟩ := Option.isSome_iff_exists.mp hsome
      simp only [Bool.false_eq_true, if_false, hprevious, hprev, Option.bind_some]
      rcases hbuilt with ⟨hnone, hsame⟩ | ⟨point, rest, history, htraffic, hhistory, hpushed⟩
      · have hlatest : c.latestPoints fetched = [] := hnone
        have hempty : (buildSnapshot parse fetched c).1.traffic = [] := by
          unfold buildSnapshot
          simp only
          rw [hsame]
          exact hnone
        have hupdate : (diffSnapshots previous (buildSnapshot parse fetched c).1).traffic = none := by
          simp only [diffSnapshots, hempty, List.getLast?_nil]
        rw [hlatest]
        split
        · have hentry : (ServerMessage.update (diffSnapshots previous
              (buildSnapshot parse fetched c).1)).entry = .skip := by
            simp only [ServerMessage.entry, hupdate]
          simp only [Option.toList_some, List.map_cons, List.map_nil, hentry]
          exact .status
        · exact .silent
      · have hlatest : c.latestPoints fetched = point :: rest := htraffic
        have hone : c.latestPoints fetched = [point] := by
          rcases latestPoints_cases fetched c with hnil | ⟨other, hother⟩
          · rw [hlatest] at hnil
            cases hnil
          · rw [hlatest] at hother
            cases hother
            exact hlatest
        have hrecent := hstamped point (hlatest ▸ List.mem_cons_self)
        have hhas : (buildSnapshot parse fetched c).1.traffic = history := by
          unfold buildSnapshot
          simp only
          rw [hpushed]
        have hupdate : (diffSnapshots previous (buildSnapshot parse fetched c).1).traffic =
            some point := by
          simp only [diffSnapshots, hhas]
          rw [hhistory]
          exact getLast?_pushed hrecent
        have hchanges : hasChanges (diffSnapshots previous (buildSnapshot parse fetched c).1) =
            true := by
          simp [hasChanges, hupdate]
        have hentry : (ServerMessage.update (diffSnapshots previous
            (buildSnapshot parse fetched c).1)).entry = .append point := by
          simp only [ServerMessage.entry, hupdate]
        rw [hone, if_pos hchanges]
        simp only [Option.toList_some, List.map_cons, List.map_nil, hentry]
        exact .point point

/-- A tick adds its point to the scope, and sends a message that fits. -/
theorem pollTick_points {tick : PollTick} {s : LivePoller} (hordered : Ordered s)
    (hfresh : FreshBaseline s)
    (hstamped : ∀ fetched ∈ tick.outcome.fetched?,
      ∀ point ∈ (tryReconnect tick s).latestPoints fetched,
        recentAt parse fetched.clock point = true)
    (hscope : ∀ fetched ∈ tick.outcome.fetched?,
      fetched.routerId = s.activeRouterId ∨ s.scopePoints = []) :
    ∃ points, (pollStep parse s tick).scopePoints = s.scopePoints ++ points ∧
      SentPoints tick s points ((pollTick parse s tick).sent.toList.map ServerMessage.entry) := by
  have hordered' := hordered.tryReconnect tick
  have hfresh' := hfresh.tryReconnect tick
  obtain ⟨hpoints, hactive⟩ := tryReconnect_scopePoints tick s
  have hbuilt : ∀ fetched, tick.outcome.fetched? = some fetched →
      (buildSnapshot parse fetched (tryReconnect tick s)).2.scopePoints =
        s.scopePoints ++ (tryReconnect tick s).latestPoints fetched := by
    intro fetched hfetched
    rw [buildSnapshot_scopePoints, hpoints]
    rw [hactive, hpoints]
    exact hscope fetched hfetched
  unfold pollStep pollTick
  simp only
  split
  swap
  · refine ⟨[], ?_, .status⟩
    rw [List.append_nil]
    exact hpoints
  · cases houtcome : tick.outcome with
    | failed =>
        refine ⟨[], ?_, .status⟩
        rw [List.append_nil]
        exact hpoints
    | completed fetched =>
        have hfetched : tick.outcome.fetched? = some fetched := by rw [houtcome]; rfl
        exact ⟨_, hbuilt fetched hfetched, sent_entries hfetched hordered' hfresh'
          (hstamped fetched hfetched) (hscope fetched hfetched)⟩
    | panicked stage fetched =>
        cases stage with
        | started =>
            refine ⟨[], ?_, .silent⟩
            rw [List.append_nil]
            exact hpoints
        | fetched =>
            have hfetched : tick.outcome.fetched? = some fetched := by rw [houtcome]; rfl
            refine ⟨[], ?_, .silent⟩
            rw [List.append_nil]
            refine (switchRouterScope_scopePoints ?_).trans hpoints
            rw [hactive, hpoints]
            exact hscope fetched hfetched
        | pushed =>
            have hfetched : tick.outcome.fetched? = some fetched := by rw [houtcome]; rfl
            exact ⟨_, hbuilt fetched hfetched, .unsent _ .pushed fetched houtcome (Or.inl rfl) rfl⟩
        | written =>
            have hfetched : tick.outcome.fetched? = some fetched := by rw [houtcome]; rfl
            exact ⟨_, hbuilt fetched hfetched, .unsent _ .written fetched houtcome (Or.inr rfl) rfl⟩
        | sent =>
            have hfetched : tick.outcome.fetched? = some fetched := by rw [houtcome]; rfl
            exact ⟨_, hbuilt fetched hfetched, sent_entries hfetched hordered' hfresh'
              (hstamped fetched hfetched) (hscope fetched hfetched)⟩

end

end RouterView.Ws
