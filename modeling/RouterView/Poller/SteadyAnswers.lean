/-
  Poller/SteadyAnswers.lean --- a router that answers every two seconds.

  The router has one uplink, whose counters stand still, and it was started at the
  epoch.  Recording one of its answers registers the router and the two interfaces, or
  finds them; the first answer of a process opens the baselines and closes a gap, and
  every other one adds one exact sample of the uplink and one of the aggregate.

  Each storage call of these ticks takes effect and is acknowledged.  What a call leaves
  is read off the call itself: `persistExactTraffic_answer` runs the four calls of a tick,
  and `Started.storePoll` and `Watching.storePoll` are what a tick keeps.

  Left out: answers with traffic, routers with more uplinks or none, and the maintenance,
  which is the run's (`Poller/MonthOverrun.lean`).
-/
import RouterView.Db.RouterIdentity
import RouterView.Poller.EngineSpec
import RouterView.Poller.PollSpec

set_option autoImplicit false

namespace RouterView.Poller.Steady

open RouterView.Config
open RouterView.Foundation
open RouterView.Db

/-! ## The answers -/

/-- The only uplink. -/
def uplink : InterfaceEntry := ⟨"*1", "ether1", "", some 0, some 0⟩

/-- The answer after a number of intervals of two seconds. -/
def answerAt (k : Nat) : RouterData where
  counterSampleTime := ⟨2000 * k, 2000000000 * k⟩
  uptimeSeconds := some (UInt64.ofNat (2 * k))
  interfaces := [uplink]

/-- An observation of that answer. -/
def answerObservation (k : Nat) (routerId interfaceId : Int) (signature : Option String)
    (forcedGap : Option (String × String)) : CounterObservation where
  routerId := routerId
  interfaceId := interfaceId
  rxCounter := 0
  txCounter := 0
  observedAtMs := 2000 * k
  monotonic := 2000000000 * k
  uptimeSeconds := some (UInt64.ofNat (2 * k))
  memberSignature := signature
  forcedGap := forcedGap

/-- The baseline that such an observation leaves. -/
def answerBaseline (k : Nat) (signature marker : Option String) : CounterBaseline :=
  baselineFromObservation (answerObservation k 0 0 signature none) marker

/-- The number of intervals in a month of thirty-one days. -/
def monthIntervals : Nat := 1339200

section

variable {k : Nat}

theorem uptime_toNat (hk : k ≤ monthIntervals) : (UInt64.ofNat (2 * k)).toNat = 2 * k := by
  unfold monthIntervals at hk
  exact UInt64.toNat_ofNat_of_lt' (by show 2 * k < 18446744073709551616; omega)

theorem uptime_rises (hk : k < monthIntervals) :
    uptimeDecreased (some (UInt64.ofNat (2 * k))) (some (UInt64.ofNat (2 * (k + 1)))) = false := by
  have hbefore := uptime_toNat (k := k) (by omega)
  have hafter := uptime_toNat (k := k + 1) hk
  simp only [uptimeDecreased, decide_eq_false_iff_not, UInt64.lt_iff_toNat_lt, hbefore, hafter]
  omega

/-- The router was started at the epoch. -/
theorem estimatedBootEpoch_answer (hk : k ≤ monthIntervals) :
    estimatedBootEpoch (2000 * (k : Int)) (some (UInt64.ofNat (2 * k))) = some 0 := by
  have huptime := uptime_toNat hk
  unfold monthIntervals at hk
  have hfits : toI64? (((UInt64.ofNat (2 * k)).toNat : Nat) : Int) = some (2 * (k : Int)) := by
    rw [toI64?_eq_some_iff, huptime]
    refine ⟨?_, by push_cast; rfl⟩
    simp only [IsI64, i64Min, i64Max]
    omega
  have hseconds : 2000 * (k : Int) / 1000 = 2 * k := by omega
  simp only [estimatedBootEpoch, Option.map_some, hfits, Option.getD_some, hseconds]
  rw [satSub_eq]
  · rw [sub_self]
  · rw [sub_self]
    decide

/-- Two answers in a row bound an exact interval without traffic. -/
theorem classifyInterval_answers (hk : k < monthIntervals) (routerId interfaceId : Int)
    (signature marker : Option String) :
    classifyInterval (answerBaseline k signature marker)
        (answerObservation (k + 1) routerId interfaceId signature none) =
      .sample ⟨0, 0, .finite 0, .finite 0⟩ := by
  have huptime := uptime_rises hk
  have hbefore := estimatedBootEpoch_answer (k := k) (by omega)
  have hafter := estimatedBootEpoch_answer (k := k + 1) hk
  unfold monthIntervals at hk
  have hwall : wallElapsedMs (answerBaseline k signature marker)
      (answerObservation (k + 1) routerId interfaceId signature none) = 2000 := by
    simp only [wallElapsedMs, answerBaseline, baselineFromObservation, answerObservation]
    rw [satSub_eq]
    · push_cast
      omega
    · simp only [IsI64, i64Min, i64Max]
      push_cast
      omega
  have hmonotonic : monotonicElapsed (answerBaseline k signature marker)
      (answerObservation (k + 1) routerId interfaceId signature none) = 2000000000 := by
    simp only [monotonicElapsed, answerBaseline, baselineFromObservation, answerObservation]
    omega
  have hrebooted : rebooted (answerBaseline k signature marker)
      (answerObservation (k + 1) routerId interfaceId signature none) = false := by
    simp only [rebooted, answerBaseline, baselineFromObservation, answerObservation, huptime,
      hbefore, hafter]
    decide
  have hwatched : watched (answerBaseline k signature marker)
      (answerObservation (k + 1) routerId interfaceId signature none) = true := by
    unfold watched
    rw [hrebooted, hwall, hmonotonic]
    simp only [answerBaseline, baselineFromObservation, answerObservation, Option.isSome_some]
    decide
  have helapsed : asSecsF64 2000000000 = .finite 2 := by
    unfold asSecsF64
    norm_num
  have hrate : intervalRate (answerBaseline k signature marker)
      (answerObservation (k + 1) routerId interfaceId signature none) 0 0 =
        ⟨some 0, some (.finite 0), .advanced⟩ := by
    unfold intervalRate
    rw [hmonotonic, helapsed]
    exact calculateCounterRate_same huptime (by norm_num)
  unfold classifyInterval
  rw [if_pos hwatched]
  have hrx : rxRate (answerBaseline k signature marker)
      (answerObservation (k + 1) routerId interfaceId signature none) =
        ⟨some 0, some (.finite 0), .advanced⟩ := hrate
  have htx : txRate (answerBaseline k signature marker)
      (answerObservation (k + 1) routerId interfaceId signature none) =
        ⟨some 0, some (.finite 0), .advanced⟩ := hrate
  rw [hrx, htx]
  decide

/-- The sample of that interval is valid. -/
theorem validateSample_answers (routerId interfaceId : Int)
    (signature marker : Option String) :
    validateSample (exactSample (answerBaseline k signature marker)
      (answerObservation (k + 1) routerId interfaceId signature none)
      ⟨0, 0, .finite 0, .finite 0⟩) = .ok () := by
  refine ensure_of ?_
  have hlater : ¬ 2000 * ((k + 1 : Nat) : Int) ≤ 2000 * (k : Int) := by push_cast; omega
  simp only [exactSample, answerBaseline, baselineFromObservation, answerObservation,
    wallElapsedMs, hlater, ne_eq, not_true_eq_false, false_or]
  decide

/-- A checkpoint of that answer is valid. -/
theorem validateCheckpoint_answer (routerId interfaceId : Int) (signature marker : Option String)
    (forcedGap : Option (String × String)) :
    validateCheckpoint (checkpointOf (answerObservation k routerId interfaceId signature forcedGap)
      marker) = .ok () := by
  refine ensure_of ?_
  simp only [checkpointOf, answerObservation]
  decide

end

/-! ## The tables -/

/-- The tables after the answers up to an instant, with a number of samples of the
aggregate. -/
structure Filled (routerId aggregateId : Int) (t : Int) (n : Nat) (db : TrafficDb) : Prop where
  checkpoints : ∀ interfaceId c, db.checkpointFor routerId interfaceId = some c →
    c.observedAtMs ≤ t
  samples : ∀ x ∈ db.trafficSamples.rows,
    0 ≤ x.startedAtMs ∧ x.startedAtMs < x.endedAtMs ∧ x.endedAtMs ≤ t
  rollups : db.trafficRollups.rows = []
  gaps : ∀ g ∈ db.trafficGaps.rows, 0 < g.endedAtMs ∧ g.endedAtMs ≤ t
  count : (db.samplesOn routerId aggregateId).length = n

/-- Everything that is stored of the interface is older than the instant. -/
structure Older (routerId interfaceId : Int) (t : Int) (db : TrafficDb) : Prop where
  checkpoint : ∀ c, db.checkpointFor routerId interfaceId = some c → c.observedAtMs < t
  samples : ∀ x ∈ db.samplesOn routerId interfaceId, x.endedAtMs < t
  gaps : ∀ g ∈ db.gapsOn routerId interfaceId, g.endedAtMs < t

/-- A record of one interface: the registrations are as they were, the tables are filled
up to the instant, and what is stored of the other interfaces is as old as it was. -/
structure Noted (routerId aggregateId interfaceId : Int) (t : Int) (added : Nat)
    (db db' : TrafficDb) : Prop where
  routers : db'.routers = db.routers
  interfaces : db'.routerInterfaces = db.routerInterfaces
  filled : ∀ {n}, Filled routerId aggregateId t n db → Filled routerId aggregateId t (n + added) db'
  older : ∀ {other}, other ≠ interfaceId → Older routerId other t db → Older routerId other t db'

section

variable {routerId aggregateId interfaceId t later : Int} {n : Nat} {db db' : TrafficDb}

theorem Filled.mono (h : Filled routerId aggregateId t n db) (hle : t ≤ later) :
    Filled routerId aggregateId later n db where
  checkpoints := fun i c hc => (h.checkpoints i c hc).trans hle
  samples := fun x hx => ⟨(h.samples x hx).1, (h.samples x hx).2.1, (h.samples x hx).2.2.trans hle⟩
  rollups := h.rollups
  gaps := fun g hg => ⟨(h.gaps g hg).1, (h.gaps g hg).2.trans hle⟩
  count := h.count

theorem Filled.congr (h : Filled routerId aggregateId t n db) (hsame : SameTraffic db db') :
    Filled routerId aggregateId t n db' where
  checkpoints := by
    unfold TrafficDb.checkpointFor
    rw [hsame.checkpoints]
    exact h.checkpoints
  samples := hsame.samples ▸ h.samples
  rollups := hsame.rollups ▸ h.rollups
  gaps := hsame.gaps ▸ h.gaps
  count := by
    unfold TrafficDb.samplesOn
    rw [hsame.samples]
    exact h.count

theorem Filled.older (h : Filled routerId aggregateId t n db) (hlt : t < later)
    (interfaceId : Int) : Older routerId interfaceId later db where
  checkpoint := fun c hc => (h.checkpoints interfaceId c hc).trans_lt hlt
  samples := fun x hx => (h.samples x (List.mem_of_mem_filter hx)).2.2.trans_lt hlt
  gaps := fun g hg => (h.gaps g (List.mem_of_mem_filter hg)).2.trans_lt hlt

/-- The checkpoint of an interface moves to the instant. -/
theorem noted_checkpoint {c : CounterCheckpoint} (hrouter : c.routerId = routerId)
    (hinterface : c.interfaceId = interfaceId) (htime : c.observedAtMs = t) :
    Noted routerId aggregateId interfaceId t 0 db (db.putCheckpoint c) where
  routers := rfl
  interfaces := rfl
  filled := fun h =>
    { samples := h.samples
      rollups := h.rollups
      gaps := h.gaps
      count := h.count
      checkpoints := by
        intro i current hcurrent
        by_cases hsame : c.routerId = routerId ∧ c.interfaceId = i
        · obtain ⟨rfl, rfl⟩ := hsame
          rw [TrafficDb.checkpointFor_putCheckpoint_self, Option.some.injEq] at hcurrent
          rw [← hcurrent, htime]
        · rw [TrafficDb.checkpointFor_putCheckpoint_ne db c hsame] at hcurrent
          exact h.checkpoints i current hcurrent }
  older := by
    intro other hother h
    have hne : ¬ (c.routerId = routerId ∧ c.interfaceId = other) :=
      fun hsame => hother (hsame.2.symm.trans hinterface)
    exact ⟨fun current hcurrent => h.checkpoint current
      ((TrafficDb.checkpointFor_putCheckpoint_ne db c hne).symm.trans hcurrent), h.samples, h.gaps⟩

theorem Noted.trans {middle : TrafficDb} {first second : Nat}
    (h : Noted routerId aggregateId interfaceId t first db middle)
    (h' : Noted routerId aggregateId interfaceId t second middle db') :
    Noted routerId aggregateId interfaceId t (first + second) db db' where
  routers := h'.routers.trans h.routers
  interfaces := h'.interfaces.trans h.interfaces
  filled := fun hdb => by
    rw [← Nat.add_assoc]
    exact h'.filled (h.filled hdb)
  older := fun hother hdb => h'.older hother (h.older hother hdb)

theorem noted_gap {g : TrafficGapInput} (hinterface : g.interfaceId = some interfaceId)
    (htime : g.endedAtMs = t) (hpos : 0 < t) :
    Noted routerId aggregateId interfaceId t 0 db (db.insertGap g) where
  routers := rfl
  interfaces := rfl
  filled := fun h =>
    { checkpoints := h.checkpoints
      samples := h.samples
      rollups := h.rollups
      count := h.count
      gaps := by
        intro stored hstored
        simp only [TrafficDb.insertGap, Table.insert_rows, List.mem_append,
          List.mem_singleton] at hstored
        rcases hstored with hold | rfl
        · exact h.gaps stored hold
        · exact ⟨by rw [htime]; exact hpos, le_of_eq htime⟩ }
  older := by
    intro other hother h
    refine ⟨h.checkpoint, h.samples, ?_⟩
    rw [TrafficDb.gapsOn_insertGap, if_neg, List.append_nil]
    · exact h.gaps
    · intro hon
      have hsame := (of_decide_eq_true hon).2
      rw [hinterface, Option.some.injEq] at hsame
      exact hother hsame.symm

theorem noted_sample {x : TrafficSampleInput} (hrouter : x.routerId = routerId)
    (hinterface : x.interfaceId = interfaceId) (hstarted : 0 ≤ x.startedAtMs)
    (hspan : x.startedAtMs < x.endedAtMs) (htime : x.endedAtMs = t) :
    Noted routerId aggregateId interfaceId t (if interfaceId = aggregateId then 1 else 0) db
      (db.insertSample x) where
  routers := rfl
  interfaces := rfl
  filled := fun h =>
    { checkpoints := h.checkpoints
      rollups := h.rollups
      gaps := h.gaps
      samples := by
        intro stored hstored
        simp only [TrafficDb.insertSample, Table.insert_rows, List.mem_append,
          List.mem_singleton] at hstored
        rcases hstored with hold | rfl
        · exact h.samples stored hold
        · exact ⟨hstarted, hspan, le_of_eq htime⟩
      count := by
        have hon : x.on routerId aggregateId = true ↔ interfaceId = aggregateId := by
          rw [← hinterface]
          simp [TrafficSampleInput.on, hrouter]
        rw [TrafficDb.samplesOn_insertSample, List.length_append, h.count]
        by_cases hsame : interfaceId = aggregateId
        · rw [if_pos (hon.mpr hsame), if_pos hsame, List.length_singleton]
        · rw [if_neg (fun hx => hsame (hon.mp hx)), if_neg hsame, List.length_nil] }
  older := by
    intro other hother h
    refine ⟨h.checkpoint, ?_, h.gaps⟩
    rw [TrafficDb.samplesOn_insertSample, if_neg, List.append_nil]
    · exact h.samples
    · intro hon
      exact hother ((of_decide_eq_true hon).2.symm.trans hinterface)

end

/-! ## Observations -/

section

variable {routerId interfaceId : Int} {k : Nat}

/-- The router and its interface are stored. -/
theorem owns_of_registered {db : TrafficDb} {interfaceKey : String}
    (hrouter : db.routers.rows.any (fun router => decide (router.id = routerId)) = true)
    (h : db.Registered routerId interfaceKey interfaceId) :
    db.ownsInterface routerId interfaceId = true ∧
      db.ownsRouterInterface routerId (some interfaceId) = true := by
  obtain ⟨record, hrecord, hrecordRouter, _, hid⟩ := h
  have howned : db.ownsInterface routerId interfaceId = true :=
    List.any_eq_true.mpr ⟨record, hrecord, decide_eq_true ⟨hid, hrecordRouter⟩⟩
  refine ⟨howned, ?_⟩
  unfold TrafficDb.ownsRouterInterface
  rw [hrouter, Bool.true_and]
  exact howned

/-- The first observation of a process adds no sample. -/
theorem observe_first (aggregateId : Int) (signature : Option String) (s : PollerState)
    (hk : 0 < k) (forcedGap : Option (String × String))
    (howned : s.db.ownsRouterInterface routerId (some interfaceId) = true)
    (holder : Older routerId interfaceId (2000 * k) s.db)
    (hbaseline : s.baselines interfaceId = none) :
    ∃ outcome marker db', persistCounterObservation .allCommitted
        (answerObservation k routerId interfaceId signature forcedGap) s =
        (.ok outcome, ⟨db', s.baselines.insert interfaceId (answerBaseline k signature marker)⟩) ∧
      Noted routerId aggregateId interfaceId (2000 * k) 0 s.db db' := by
  have hvalid := validateCheckpoint_answer (k := k) routerId interfaceId signature
    (currentMarker (answerObservation k routerId interfaceId signature forcedGap)) forcedGap
  cases hstored : s.db.checkpointFor routerId interfaceId with
  | none =>
      exact ⟨_, _, _, persistCounterObservation_initialized hbaseline hvalid howned hstored,
        noted_checkpoint rfl rfl rfl⟩
  | some existing =>
      have hlater := holder.checkpoint existing hstored
      have hgap : validateGap (restartGap existing
          (answerObservation k routerId interfaceId signature forcedGap)) = .ok () := by
        refine ensure_of ?_
        simp only [restartGap, answerObservation, not_or, not_le]
        exact ⟨hlater, by decide⟩
      have hcommit := commitGapAndCheckpoint_of_newer hgap hvalid ⟨rfl, rfl, rfl⟩ howned
        holder.gaps holder.checkpoint
      have hnoted : Noted routerId aggregateId interfaceId (2000 * k) 0 s.db
          (s.db.insertGap (restartGap existing
            (answerObservation k routerId interfaceId signature forcedGap))) :=
        noted_gap rfl rfl (by omega)
      exact ⟨_, _, _, persistCounterObservation_restarted hbaseline hvalid howned hstored hlater
          hcommit,
        hnoted.trans (noted_checkpoint rfl rfl rfl)⟩

/-- The next observation adds a sample. -/
theorem observe_next (aggregateId : Int) (signature : Option String) (s : PollerState)
    (hk : k < monthIntervals)
    (howned : s.db.ownsInterface routerId interfaceId = true)
    (holder : Older routerId interfaceId (2000 * (k + 1 : Nat)) s.db) {marker : Option String}
    (hbaseline : s.baselines interfaceId = some (answerBaseline k signature marker)) :
    ∃ marker' db', persistCounterObservation .allCommitted
        (answerObservation (k + 1) routerId interfaceId signature none) s =
        (.ok .exactSample,
          ⟨db', s.baselines.insert interfaceId (answerBaseline (k + 1) signature marker')⟩) ∧
      Noted routerId aggregateId interfaceId (2000 * (k + 1 : Nat))
        (if interfaceId = aggregateId then 1 else 0) s.db db' := by
  have hlater : 2000 * (k : Int) < 2000 * ((k + 1 : Nat) : Int) := by push_cast; omega
  have hclass := classifyInterval_answers hk routerId interfaceId signature marker
  have hcommit := commitSampleAndCheckpoint_of_newer
    (validateSample_answers (k := k) routerId interfaceId signature marker)
    (validateCheckpoint_answer routerId interfaceId signature
      (nextMarker (answerBaseline k signature marker)
        (answerObservation (k + 1) routerId interfaceId signature none)) none)
    ⟨rfl, rfl, rfl⟩ howned holder.samples holder.checkpoint
  refine ⟨_, _, persistCounterObservation_sample hbaseline hlater hclass hcommit, ?_⟩
  have hstarted : (0 : Int) ≤ 2000 * (k : Int) := by omega
  have hsample : Noted routerId aggregateId interfaceId (2000 * (k + 1 : Nat))
      (if interfaceId = aggregateId then 1 else 0) s.db
      (s.db.insertSample (exactSample (answerBaseline k signature marker)
        (answerObservation (k + 1) routerId interfaceId signature none)
        ⟨0, 0, .finite 0, .finite 0⟩)) :=
    noted_sample rfl rfl hstarted hlater rfl
  exact hsample.trans (noted_checkpoint rfl rfl rfl)

end

/-! ## Ticks -/

/-- The key of the uplink. -/
def uplinkKey : String := "routeros:*1"

/-- Every call of a tick takes effect and is acknowledged. -/
def committedTick : TickOutcomes where
  aggregateUpsert := .committed
  members := fun _ => ⟨.committed, .allCommitted⟩
  aggregate := .allCommitted

/-- The gap that the aggregate records where the uplink has no exact interval. -/
def aggregateGap : CounterPersistenceOutcome → Option (String × String)
  | .exactSample => none
  | _ => some ("wan_member_discontinuity",
      "one or more aggregate WAN members lacked an exact interval")

/-- The router and its two interfaces are stored. -/
structure Known (routerId aggregateId memberId : Int) (target : String) (db : TrafficDb) :
    Prop where
  router : ∃ r, db.routers.rows = [r] ∧ r.id = routerId ∧ r.fallbackTarget = target
  wellFormed : db.InterfacesWellFormed
  aggregate : db.Registered routerId aggregateInterfaceKey aggregateId
  member : db.Registered routerId uplinkKey memberId

section

variable {routerId aggregateId memberId : Int} {target : String} {db db' : TrafficDb}

theorem Known.any_router (h : Known routerId aggregateId memberId target db) :
    db.routers.rows.any (fun router => decide (router.id = routerId)) = true := by
  obtain ⟨r, hrows, rfl, _⟩ := h.router
  simp [hrows]

theorem Known.ne (h : Known routerId aggregateId memberId target db) : memberId ≠ aggregateId := by
  obtain ⟨i, hi, _, hik, hid⟩ := h.member
  obtain ⟨j, hj, _, hjk, hjd⟩ := h.aggregate
  rintro rfl
  have hsame := h.wellFormed.identifiers i hi j hj (hid.trans hjd.symm)
  rw [hsame, hjk] at hik
  exact absurd hik (by decide)

theorem Known.congr (h : Known routerId aggregateId memberId target db)
    (hrouters : db'.routers = db.routers)
    (hinterfaces : db'.routerInterfaces = db.routerInterfaces) :
    Known routerId aggregateId memberId target db' where
  router := hrouters ▸ h.router
  wellFormed := ⟨hinterfaces ▸ h.wellFormed.issued, hinterfaces ▸ h.wellFormed.identifiers,
    hinterfaces ▸ h.wellFormed.keys⟩
  aggregate := by
    unfold TrafficDb.Registered
    rw [hinterfaces]
    exact h.aggregate
  member := by
    unfold TrafficDb.Registered
    rw [hinterfaces]
    exact h.member

/-- A tick registers its two interfaces; those that are registered keep their identifiers. -/
theorem register (routerId : Int) (target : String) (k : Nat)
    (hrouter : ∃ r, db.routers.rows = [r] ∧ r.id = routerId ∧ r.fallbackTarget = target)
    (hwellFormed : db.InterfacesWellFormed) :
    ∃ aggregate member middle db', upsertRouterInterface routerId aggregateInterfaceKey "Aggregate"
        "aggregate" none (2000 * (k : Int)) db = .ok (aggregate, middle) ∧
      upsertRouterInterface routerId uplinkKey "ether1" "wan" none (2000 * (k : Int)) middle =
        .ok (member, db') ∧
      Known routerId aggregate.id member.id target db' ∧ SameTraffic db db' ∧
      ∀ {aggregateId memberId}, Known routerId aggregateId memberId target db →
        aggregate.id = aggregateId ∧ member.id = memberId := by
  have hany : db.routers.rows.any (fun router => decide (router.id = routerId)) = true := by
    obtain ⟨r, hrows, rfl, _⟩ := hrouter
    simp [hrows]
  obtain ⟨aggregate, middle, haggregate⟩ := upsertRouterInterface_succeeds
    aggregateInterfaceKey "Aggregate" "aggregate" none (2000 * (k : Int)) (by decide) hany
  have hfirst := upsertRouterInterface_ok haggregate
  obtain ⟨member, db', hmember⟩ := upsertRouterInterface_succeeds
    uplinkKey "ether1" "wan" none (2000 * (k : Int)) (by decide)
    (hfirst.sameTraffic.routers ▸ hany)
  have hsecond := upsertRouterInterface_ok hmember
  refine ⟨aggregate, member, middle, db', haggregate, hmember, ?_, ?_, ?_⟩
  · refine ⟨?_, hsecond.wellFormed (hfirst.wellFormed hwellFormed),
      hsecond.keeps hfirst.registered, hsecond.registered⟩
    rw [hsecond.sameTraffic.routers, hfirst.sameTraffic.routers]
    exact hrouter
  · exact ⟨hsecond.sameTraffic.routers.trans hfirst.sameTraffic.routers,
      hsecond.sameTraffic.samples.trans hfirst.sameTraffic.samples,
      hsecond.sameTraffic.rollups.trans hfirst.sameTraffic.rollups,
      hsecond.sameTraffic.checkpoints.trans hfirst.sameTraffic.checkpoints,
      hsecond.sameTraffic.gaps.trans hfirst.sameTraffic.gaps⟩
  · intro aggregateId memberId hknown
    exact ⟨hfirst.id_eq hwellFormed hknown.aggregate,
      hsecond.id_eq (hfirst.wellFormed hwellFormed) (hfirst.keeps hknown.member)⟩

/-- What a tick leaves, from what its four calls do. -/
theorem persistExactTraffic_answer {k : Nat} {s s' s'' : PollerState}
    {aggregate member : RouterInterfaceRecord} {middle : TrafficDb}
    {outcome outcome' : CounterPersistenceOutcome}
    (haggregate : upsertRouterInterface routerId aggregateInterfaceKey "Aggregate" "aggregate" none
      (2000 * (k : Int)) s.db = .ok (aggregate, middle))
    (hmember : upsertRouterInterface routerId uplinkKey "ether1" "wan" none (2000 * (k : Int))
      middle = .ok (member, db'))
    (hobserved : persistCounterObservation .allCommitted
      (answerObservation k routerId member.id none none) { s with db := db' } = (.ok outcome, s'))
    (hsummed : persistCounterObservation .allCommitted
      (answerObservation k routerId aggregate.id (some (aggregateSignature [member.id]))
        (aggregateGap outcome)) s' = (.ok outcome', s'')) :
    persistExactTraffic committedTick routerId (answerAt k) ["ether1"] s =
      (.ok ⟨routerId, aggregate.id, []⟩,
        { s'' with
          baselines :=
            s''.baselines.retain (fun id => [member.id, aggregate.id].contains id) }) := by
  have hfound : (answerAt k).interfaceNamed "ether1" = some uplink := rfl
  have hupsert : upsertRouterInterface routerId (durableInterfaceKey uplink) uplink.name "wan"
      uplink.hardwareId (answerAt k).counterSampleTime.unixMs middle = .ok (member, db') := hmember
  have hmembers : sampleMembers committedTick.members routerId (answerAt k) 0 ["ether1"]
      (MemberLoop.start { s with db := middle } aggregate.id ["ether1"]) =
        { state := s'
          errors := []
          activeInterfaceIds := [member.id, aggregate.id]
          aggregateRx := 0
          aggregateTx := 0
          aggregateComplete := true
          aggregateContinuous := (aggregateGap outcome).isNone
          aggregateMembers := [member.id] } := by
    have hcall : persistCounterObservation .allCommitted
        (memberObservation routerId (answerAt k) member.id 0 0) { s with db := db' } =
        (.ok outcome, s') := hobserved
    have hrun : (committedTick.members 0).upsert.run (upsertRouterInterface routerId
        (durableInterfaceKey uplink) uplink.name "wan" uplink.hardwareId
        (answerAt k).counterSampleTime.unixMs) middle = (.ok member, db') :=
      StorageOutcome.run_committed hupsert
    simp only [sampleMembers, sampleMember, hfound, MemberLoop.start, hrun]
    simp only [sampleRegistered, uplink, persistMember, committedTick, hcall]
    cases outcome <;> rfl
  have hsum : persistCounterObservation .allCommitted
      (aggregateObservation routerId (answerAt k) aggregate.id
        { state := s'
          errors := []
          activeInterfaceIds := [member.id, aggregate.id]
          aggregateRx := 0
          aggregateTx := 0
          aggregateComplete := true
          aggregateContinuous := (aggregateGap outcome).isNone
          aggregateMembers := [member.id] }) s' = (.ok outcome', s'') := by
    rw [← hsummed]
    cases outcome <;> rfl
  have hregistered : upsertRouterInterface routerId aggregateInterfaceKey "Aggregate" "aggregate"
      none (answerAt k).counterSampleTime.unixMs s.db = .ok (aggregate, middle) := haggregate
  unfold persistExactTraffic
  have hrun : committedTick.aggregateUpsert.run (upsertRouterInterface routerId
      aggregateInterfaceKey "Aggregate" "aggregate" none (answerAt k).counterSampleTime.unixMs)
      s.db = (.ok aggregate, middle) := StorageOutcome.run_committed hregistered
  rw [hrun]
  simp only [hmembers, persistAggregate]
  simp only [committedTick, hsum]
  rfl

end

/-! ## Polls -/

/-- The poll with that answer, whose calls all take effect. -/
def pollAt (k : Nat) (hk : k ≤ monthIntervals) : Poll where
  internalUuid := "router"
  hardwareIdentity := none
  data := answerAt k
  wanNames := ["ether1"]
  resolution := .committed
  storage := committedTick
  queryFails := false
  transforms := true
  maintenanceMs := 2000 * k
  rollup := .committed
  retention := .committed
  dated := by
    simp only [monthIntervals] at hk
    simp only [answerAt, minUtcMs, maxUtcMs]
    omega

/-- The tables before the first answer, or those of the router. -/
def Held (target : String) (t : Int) (n : Nat) (db : TrafficDb) : Prop :=
  (db = TrafficDb.empty ∧ n = 0) ∨ ∃ routerId aggregateId memberId,
    Known routerId aggregateId memberId target db ∧ Filled routerId aggregateId t n db

theorem filled_empty (routerId aggregateId t : Int) :
    Filled routerId aggregateId t 0 TrafficDb.empty where
  checkpoints := by simp [TrafficDb.checkpointFor, TrafficDb.empty]
  samples := by simp [TrafficDb.empty]
  rollups := rfl
  gaps := by simp [TrafficDb.empty]
  count := rfl

/-- A process that polls: the scope is that of the router, the baselines are those of the
last answer, and the maintenance has reported nothing. -/
structure Watching (target : String) (routerId aggregateId memberId : Int) (k n : Nat)
    (e : PollEngine) : Prop where
  known : Known routerId aggregateId memberId target e.poller.db
  filled : Filled routerId aggregateId (2000 * k) n e.poller.db
  scope : e.activeRouterId = some routerId
  aggregate : ∃ marker, e.poller.baselines aggregateId =
    some (answerBaseline k (some (aggregateSignature [memberId])) marker)
  member : ∃ marker, e.poller.baselines memberId = some (answerBaseline k none marker)
  quiet : e.maintenanceErrors = []

/-- A process that has not polled yet. -/
structure Started (target : String) (k n : Nat) (e : PollEngine) : Prop where
  held : Held target (2000 * k) n e.poller.db
  baselines : e.poller.baselines = Baselines.empty
  scope : e.activeRouterId = none
  quiet : e.maintenanceErrors = []
  count : e.pollCount = 0

section

variable {config : MergedConfig} {target : String} {k n : Nat} {e : PollEngine}

/-- The tick resolves its router and registers its interfaces. -/
theorem identify {t : Int} {db : TrafficDb} (hk : k ≤ monthIntervals)
    (htarget : (trim config.routerHost).isEmpty = false)
    (hheld : Held (trim config.routerHost) t n db) :
    ∃ router routers aggregate member middle db',
      resolveRouter (PollEngine.routerCall config (pollAt k hk)) db =
        .ok (router, { db with routers := routers }) ∧
      upsertRouterInterface router.id aggregateInterfaceKey "Aggregate" "aggregate" none
        (2000 * (k : Int)) { db with routers := routers } = .ok (aggregate, middle) ∧
      upsertRouterInterface router.id uplinkKey "ether1" "wan" none (2000 * (k : Int)) middle =
        .ok (member, db') ∧
      Known router.id aggregate.id member.id (trim config.routerHost) db' ∧
      Filled router.id aggregate.id t n db' ∧
      ∀ {routerId aggregateId memberId},
        Known routerId aggregateId memberId (trim config.routerHost) db →
          router.id = routerId ∧ aggregate.id = aggregateId ∧ member.id = memberId := by
  have honly : db.routers.rows = [] ∨
      ∃ old, db.routers.rows = [old] ∧ old.fallbackTarget = trim config.routerHost := by
    rcases hheld with ⟨rfl, _⟩ | ⟨_, _, _, hknown, _⟩
    · exact Or.inl rfl
    · obtain ⟨r, hrows, _, hsame⟩ := hknown.router
      exact Or.inr ⟨r, hrows, hsame⟩
  obtain ⟨router, routers, hresolve, hrows, hsame, hold⟩ :=
    resolveRouter_only (PollEngine.routerCall config (pollAt k hk)) rfl htarget honly
  have hwellFormed : TrafficDb.InterfacesWellFormed { db with routers := routers } := by
    rcases hheld with ⟨rfl, _⟩ | ⟨_, _, _, hknown, _⟩
    · exact ⟨by simp [TrafficDb.empty], by simp [TrafficDb.empty], by simp [TrafficDb.empty]⟩
    · exact ⟨hknown.wellFormed.issued, hknown.wellFormed.identifiers, hknown.wellFormed.keys⟩
  obtain ⟨aggregate, member, middle, db', haggregate, hmember, hknown', htraffic, hids⟩ :=
    register router.id (trim config.routerHost) k ⟨router, hrows, rfl, hsame⟩ hwellFormed
  have hkept : ∀ {routerId aggregateId memberId},
      Known routerId aggregateId memberId (trim config.routerHost) db →
        router.id = routerId ∧ aggregate.id = aggregateId ∧ member.id = memberId := by
    intro routerId aggregateId memberId hknown
    obtain ⟨r, hr, hid, _⟩ := hknown.router
    have hrouter : router.id = routerId := (hold r hr).trans hid
    have hresolved : Known router.id aggregateId memberId (trim config.routerHost)
        { db with routers := routers } :=
      ⟨⟨router, hrows, rfl, hsame⟩, hwellFormed, hrouter ▸ hknown.aggregate,
        hrouter ▸ hknown.member⟩
    exact ⟨hrouter, hids hresolved⟩
  refine ⟨router, routers, aggregate, member, middle, db', hresolve, haggregate, hmember, hknown',
    ?_, hkept⟩
  have hrouters : ∀ {routerId aggregateId}, Filled routerId aggregateId t n db →
      Filled routerId aggregateId t n { db with routers := routers } :=
    fun h => ⟨h.checkpoints, h.samples, h.rollups, h.gaps, h.count⟩
  rcases hheld with ⟨rfl, rfl⟩ | ⟨routerId, aggregateId, memberId, hknown, hfilled⟩
  · exact (hrouters (filled_empty _ _ t)).congr htraffic
  · obtain ⟨hrouter, haggregateId, _⟩ := hkept hknown
    rw [hrouter, haggregateId]
    exact (hrouters hfilled).congr htraffic

/-- A tick whose two observations are recorded watches on. -/
theorem watching_of_observed {router : RouterRecord} {aggregate member : RouterInterfaceRecord}
    {resolved middle db' db₁ db₂ : TrafficDb} {baselines : Baselines} {added : Nat}
    {outcome outcome' : CounterPersistenceOutcome} {marker marker' : Option String}
    (hk : k + 1 ≤ monthIntervals)
    (hresolve : resolveRouter (PollEngine.routerCall config (pollAt (k + 1) hk)) e.poller.db =
      .ok (router, resolved))
    (hentered : PollEngine.switchRouterScope router.id
      { e with poller := { e.poller with db := resolved } } =
        ⟨⟨resolved, baselines⟩, some router.id, e.pollCount, []⟩)
    (haggregate : upsertRouterInterface router.id aggregateInterfaceKey "Aggregate" "aggregate" none
      (2000 * ((k + 1 : Nat) : Int)) resolved = .ok (aggregate, middle))
    (hmember : upsertRouterInterface router.id uplinkKey "ether1" "wan" none
      (2000 * ((k + 1 : Nat) : Int)) middle = .ok (member, db'))
    (hknown : Known router.id aggregate.id member.id target db')
    (hfilled : Filled router.id aggregate.id (2000 * k) n db')
    (hobserved : persistCounterObservation .allCommitted
      (answerObservation (k + 1) router.id member.id none none) ⟨db', baselines⟩ = (.ok outcome,
        ⟨db₁, baselines.insert member.id (answerBaseline (k + 1) none marker)⟩))
    (hnoted : Noted router.id aggregate.id member.id (2000 * (k + 1 : Nat)) 0 db' db₁)
    (hsummed : persistCounterObservation .allCommitted
      (answerObservation (k + 1) router.id aggregate.id (some (aggregateSignature [member.id]))
        (aggregateGap outcome))
      ⟨db₁, baselines.insert member.id (answerBaseline (k + 1) none marker)⟩ = (.ok outcome',
        ⟨db₂, (baselines.insert member.id (answerBaseline (k + 1) none marker)).insert aggregate.id
          (answerBaseline (k + 1) (some (aggregateSignature [member.id])) marker')⟩))
    (hnoted' : Noted router.id aggregate.id aggregate.id (2000 * (k + 1 : Nat)) added db₁ db₂) :
    (PollEngine.storePoll config (pollAt (k + 1) hk) e).1 =
        ⟨[], some (router.id, aggregate.id)⟩ ∧
      Watching target router.id aggregate.id member.id (k + 1) (n + added)
        (PollEngine.storePoll config (pollAt (k + 1) hk) e).2 ∧
      (PollEngine.storePoll config (pollAt (k + 1) hk) e).2.pollCount = e.pollCount := by
  have hpersist := persistExactTraffic_answer (s := ⟨resolved, baselines⟩) haggregate hmember
    hobserved hsummed
  have hstored := PollEngine.storePoll_of (pollAt (k + 1) hk) rfl hresolve
    (by rw [hentered]; exact hpersist)
  rw [hentered] at hstored
  rw [hstored]
  have hlater : 2000 * (k : Int) ≤ 2000 * ((k + 1 : Nat) : Int) := by push_cast; omega
  refine ⟨rfl, ?_, rfl⟩
  exact {
    known := (hknown.congr hnoted.routers hnoted.interfaces).congr hnoted'.routers
      hnoted'.interfaces
    filled := hnoted'.filled (hnoted.filled (hfilled.mono hlater))
    scope := rfl
    aggregate := ⟨marker', by simp [Baselines.retain]⟩
    member := ⟨marker, by
      simp only [Baselines.retain, List.contains_cons, beq_self_eq_true, Bool.true_or, if_true]
      rw [Baselines.insert_ne _ _ hknown.ne, Baselines.insert_self]⟩
    quiet := rfl }

/-- The first answer of a process adds no sample. -/
theorem Started.storePoll (h : Started (trim config.routerHost) k n e)
    (htarget : (trim config.routerHost).isEmpty = false) (hk : k + 1 ≤ monthIntervals) :
    ∃ routerId aggregateId memberId,
      (PollEngine.storePoll config (pollAt (k + 1) hk) e).1 = ⟨[], some (routerId, aggregateId)⟩ ∧
      Watching (trim config.routerHost) routerId aggregateId memberId (k + 1) n
        (PollEngine.storePoll config (pollAt (k + 1) hk) e).2 ∧
      (PollEngine.storePoll config (pollAt (k + 1) hk) e).2.pollCount = e.pollCount := by
  obtain ⟨router, routers, aggregate, member, middle, db', hresolve, haggregate, hmember, hknown,
    hfilled, _⟩ := identify hk htarget h.held
  have hlater : 2000 * (k : Int) < 2000 * ((k + 1 : Nat) : Int) := by push_cast; omega
  -- the uplink, and then the aggregate, without a baseline
  obtain ⟨outcome, marker, db₁, hobserved, hnoted⟩ := observe_first aggregate.id none
    ⟨db', Baselines.empty⟩ (Nat.succ_pos k) none
    (owns_of_registered hknown.any_router hknown.member).2 (hfilled.older hlater member.id) rfl
  have hknown₁ := hknown.congr hnoted.routers hnoted.interfaces
  obtain ⟨outcome', marker', db₂, hsummed, hnoted'⟩ := observe_first aggregate.id
    (some (aggregateSignature [member.id]))
    ⟨db₁, Baselines.empty.insert member.id (answerBaseline (k + 1) none marker)⟩
    (Nat.succ_pos k) (aggregateGap outcome)
    (owns_of_registered hknown₁.any_router hknown₁.aggregate).2
    (hnoted.older hknown.ne.symm (hfilled.older hlater aggregate.id))
    (Baselines.insert_ne _ _ hknown.ne.symm)
  refine ⟨router.id, aggregate.id, member.id,
    watching_of_observed hk hresolve ?_ haggregate hmember hknown hfilled hobserved hnoted hsummed
      hnoted'⟩
  simp [PollEngine.switchRouterScope, h.scope, h.quiet]

/-- The next answer adds a sample of the aggregate. -/
theorem Watching.storePoll {routerId aggregateId memberId : Int}
    (h : Watching (trim config.routerHost) routerId aggregateId memberId k n e)
    (htarget : (trim config.routerHost).isEmpty = false) (hk : k + 1 ≤ monthIntervals) :
    (PollEngine.storePoll config (pollAt (k + 1) hk) e).1 = ⟨[], some (routerId, aggregateId)⟩ ∧
      Watching (trim config.routerHost) routerId aggregateId memberId (k + 1) (n + 1)
        (PollEngine.storePoll config (pollAt (k + 1) hk) e).2 ∧
      (PollEngine.storePoll config (pollAt (k + 1) hk) e).2.pollCount = e.pollCount := by
  obtain ⟨router, routers, aggregate, member, middle, db', hresolve, haggregate, hmember, hknown,
    hfilled, hids⟩ := identify hk htarget (Or.inr ⟨_, _, _, h.known, h.filled⟩)
  obtain ⟨rfl, rfl, rfl⟩ := hids h.known
  have hlater : 2000 * (k : Int) < 2000 * ((k + 1 : Nat) : Int) := by push_cast; omega
  obtain ⟨_, hmemberBaseline⟩ := h.member
  obtain ⟨_, haggregateBaseline⟩ := h.aggregate
  -- the uplink, and then the aggregate, against their baselines
  obtain ⟨marker, db₁, hobserved, hnoted⟩ := observe_next aggregate.id none
    ⟨db', e.poller.baselines⟩ hk
    (owns_of_registered hknown.any_router hknown.member).1 (hfilled.older hlater member.id)
    hmemberBaseline
  rw [if_neg hknown.ne] at hnoted
  have hknown₁ := hknown.congr hnoted.routers hnoted.interfaces
  obtain ⟨marker', db₂, hsummed, hnoted'⟩ := observe_next aggregate.id
    (some (aggregateSignature [member.id]))
    ⟨db₁, e.poller.baselines.insert member.id (answerBaseline (k + 1) none marker)⟩ hk
    (owns_of_registered hknown₁.any_router hknown₁.aggregate).1
    (hnoted.older hknown.ne.symm (hfilled.older hlater aggregate.id))
    ((Baselines.insert_ne _ _ hknown.ne.symm).trans haggregateBaseline)
  rw [if_pos rfl] at hnoted'
  refine watching_of_observed hk hresolve ?_ haggregate hmember hknown hfilled hobserved hnoted
    hsummed hnoted'
  simp [PollEngine.switchRouterScope, h.scope, h.quiet]

end

end RouterView.Poller.Steady
