/-
  Poller/Aggregate.lean --- exact samples of the aggregate.

  The aggregate's baseline and those of its members are advanced by separate
  transactions.  When they stand at the same time and the aggregate's is the
  sum of the others, an exact sample of the aggregate is the sum of its
  members' exact intervals; when a failed write has moved them apart, a reset
  of one member can hide in the growth of another.
-/
import RouterView.Poller.AggregateSpec

set_option autoImplicit false

namespace RouterView.Poller

open RouterView.Foundation
open RouterView.Db

/-! ## Aligned baselines -/

/-- The identifier under which a WAN name is registered. -/
def memberId (db : TrafficDb) (tick : Tick) (wanName : String) : Option Int :=
  (tick.data.interfaceNamed wanName).bind (fun interface =>
    (db.interfaceByKey tick.routerId (durableInterfaceKey interface)).map (fun r => r.id))

/-- The identifiers of the WAN names that are registered. -/
def memberIds (db : TrafficDb) (tick : Tick) : List Int :=
  tick.wanNames.filterMap (memberId db tick)

/-- The baselines of the WAN names that have one. -/
def memberBaselines (s : PollerState) (tick : Tick) : List CounterBaseline :=
  (memberIds s.db tick).filterMap s.baselines

/-- When the aggregate has a baseline for the members of the tick, theirs were
taken at the same time, and its counters are the sums of theirs. -/
def Aligned (s : PollerState) (tick : Tick) : Prop :=
  ∀ aggregate baseline,
    s.db.interfaceByKey tick.routerId aggregateInterfaceKey = some aggregate →
    s.baselines aggregate.id = some baseline →
    baseline.memberSignature = some (aggregateSignature (memberIds s.db tick)) →
    (∀ previous ∈ memberBaselines s tick, previous.observedAtMs = baseline.observedAtMs) ∧
      baseline.rxCounter.toNat =
        ((memberBaselines s tick).map (fun previous => previous.rxCounter.toNat)).sum ∧
      baseline.txCounter.toNat =
        ((memberBaselines s tick).map (fun previous => previous.txCounter.toNat)).sum

instance (s : PollerState) (tick : Tick) : Decidable (Aligned s tick) :=
  match haggregate : s.db.interfaceByKey tick.routerId aggregateInterfaceKey with
  | none => isTrue (fun _ _ hsome => by rw [haggregate] at hsome; cases hsome)
  | some aggregate =>
      match hbaseline : s.baselines aggregate.id with
      | none => isTrue (fun _ _ hsome hbase => by
          rw [haggregate, Option.some.injEq] at hsome
          rw [← hsome, hbaseline] at hbase
          cases hbase)
      | some baseline =>
          decidable_of_iff
            (baseline.memberSignature = some (aggregateSignature (memberIds s.db tick)) →
              (∀ previous ∈ memberBaselines s tick,
                previous.observedAtMs = baseline.observedAtMs) ∧
              baseline.rxCounter.toNat =
                ((memberBaselines s tick).map (fun previous => previous.rxCounter.toNat)).sum ∧
              baseline.txCounter.toNat =
                ((memberBaselines s tick).map (fun previous => previous.txCounter.toNat)).sum)
            ⟨fun h _ _ hsome hbase => by
              rw [haggregate, Option.some.injEq] at hsome
              rw [← hsome, hbaseline, Option.some.injEq] at hbase
              rw [← hbase]
              exact h, fun h => h aggregate baseline haggregate hbaseline⟩

/-! ## Registrations -/

/-- An identifier belongs to one router and one key. -/
theorem registered_unique {db : TrafficDb} (h : db.InterfacesWellFormed)
    {routerId routerId' id : Int} {key key' : String} (h₁ : db.Registered routerId key id)
    (h₂ : db.Registered routerId' key' id) : routerId = routerId' ∧ key = key' := by
  obtain ⟨i, hi, hir, hik, hid⟩ := h₁
  obtain ⟨j, hj, hjr, hjk, hjd⟩ := h₂
  have hij := h.identifiers i hi j hj (hid.trans hjd.symm)
  subst hij
  exact ⟨hir.symm.trans hjr, hik.symm.trans hjk⟩

theorem interfaceByKey_of_registered {db : TrafficDb} (h : db.InterfacesWellFormed)
    {routerId id : Int} {key : String} (hregistered : db.Registered routerId key id) :
    (db.interfaceByKey routerId key).map (fun r => r.id) = some id := by
  obtain ⟨record, hrecord, hrouter, hkey, hid⟩ := hregistered
  cases hfind : db.interfaceByKey routerId key with
  | none => exact absurd ⟨hrouter, hkey⟩ (TrafficDb.interfaceByKey_eq_none hfind record hrecord)
  | some found =>
      have hkeyed := List.find?_some hfind
      simp only [RouterInterfaceRecord.keyed, decide_eq_true_eq] at hkeyed
      have hsame := h.keys found (List.mem_of_find?_eq_some hfind) record hrecord
        (hkeyed.1.trans hrouter.symm) (hkeyed.2.trans hkey.symm)
      rw [Option.map_some, hsame, hid]

/-! ## Where baselines come from -/

/-- Every baseline is that of an aggregate, or of a WAN interface that one of
the ticks read. -/
structure Known (earlier : List Tick) (s : PollerState) : Prop where
  wellFormed : s.db.InterfacesWellFormed
  sourced : ∀ id baseline, s.baselines id = some baseline →
    (∃ routerId, s.db.Registered routerId aggregateInterfaceKey id) ∨
      ∃ tick ∈ earlier, tick.Saw s.db id baseline

/-- A tick after its aggregate was registered: the loop over the members, and
the record of the aggregate. -/
structure Ticked (tick : Tick) (s : PollerState) (aggregateId : Int) (before : PollerState)
    (acc : MemberLoop) (mid : PollerState) : Prop where
  registered : before.db.Registered tick.routerId aggregateInterfaceKey aggregateId
  keeps : ∀ {routerId id key}, s.db.Registered routerId key id →
    before.db.Registered routerId key id
  baselines : before.baselines = s.baselines
  samples : before.db.trafficSamples = s.db.trafficSamples
  looped : Looped tick before tick.wanNames acc
  aggregate : (acc.aggregateComplete = false ∧
      mid = { acc.state with baselines := acc.state.baselines.remove aggregateId }) ∨
    (acc.aggregateComplete = true ∧ ∃ result,
      persistCounterObservation tick.outcomes.aggregate
        (aggregateObservation tick.routerId tick.data aggregateId acc) acc.state = (result, mid))

/-- The record of the aggregate: none, and its baseline is dropped, or an
observation. -/
theorem persistAggregate_cases (outcomes : StorageOutcomes) (routerId : Int) (data : RouterData)
    (aggregateId : Int) (acc : MemberLoop) :
    (acc.aggregateComplete = false ∧ (persistAggregate outcomes routerId data aggregateId acc).2 =
        { acc.state with baselines := acc.state.baselines.remove aggregateId }) ∨
      (acc.aggregateComplete = true ∧ ∃ result, persistCounterObservation outcomes
        (aggregateObservation routerId data aggregateId acc) acc.state =
          (result, (persistAggregate outcomes routerId data aggregateId acc).2)) := by
  unfold persistAggregate
  cases hcomplete : acc.aggregateComplete with
  | false => exact Or.inl ⟨rfl, rfl⟩
  | true =>
      refine Or.inr ⟨rfl, ?_⟩
      simp only [if_true]
      cases hpersist : persistCounterObservation outcomes
          (aggregateObservation routerId data aggregateId acc) acc.state with
      | mk result state => cases result with
        | ok outcome => exact ⟨_, rfl⟩
        | error e => exact ⟨_, rfl⟩

/-- The two ways of a tick: the aggregate cannot be registered, or it ticks. -/
theorem tickStep_cases {tick : Tick} {s : PollerState} (hwellFormed : s.db.InterfacesWellFormed) :
    (∃ db, tickStep s tick = { s with db := db } ∧ db.trafficSamples = s.db.trafficSamples ∧
      db.InterfacesWellFormed ∧
      ∀ {routerId id key}, s.db.Registered routerId key id → db.Registered routerId key id) ∨
    ∃ aggregateId before acc mid keep, Ticked tick s aggregateId before acc mid ∧
      tickStep s tick = { mid with baselines := mid.baselines.retain keep } := by
  unfold tickStep persistExactTraffic
  cases hupsert : tick.outcomes.aggregateUpsert.run (upsertRouterInterface tick.routerId
      aggregateInterfaceKey "Aggregate" "aggregate" none tick.data.counterSampleTime.unixMs)
      s.db with
  | mk answer db =>
      rcases StorageOutcome.run_cases hupsert with ⟨⟨e, he⟩, hdb⟩ | ⟨record, hok, hanswer⟩
      · subst he hdb
        exact Or.inl ⟨s.db, rfl, rfl, hwellFormed, fun h => h⟩
      · have hupserted := upsertRouterInterface_ok hok
        rcases hanswer with hanswer | ⟨_, e, hanswer⟩
        · subst hanswer
          have hlooped : Looped tick { s with db := db } tick.wanNames
              (sampleMembers tick.outcomes.members tick.routerId tick.data 0 tick.wanNames
                (MemberLoop.start { s with db := db } record.id tick.wanNames)) :=
            (Looped.initial (hupserted.wellFormed hwellFormed) record.id).members
              (fun _ hname => hname)
          refine Or.inr ⟨record.id, { s with db := db }, _, _, _, ⟨hupserted.registered,
            hupserted.keeps, rfl, hupserted.sameTraffic.samples, hlooped,
            persistAggregate_cases _ _ _ _ _⟩, rfl⟩
        · subst hanswer
          exact Or.inl ⟨db, rfl, hupserted.sameTraffic.samples,
            hupserted.wellFormed hwellFormed, hupserted.keeps⟩

section

variable {tick : Tick} {s before mid : PollerState} {aggregateId : Int} {acc : MemberLoop}

/-- A member is another interface than an aggregate. -/
theorem Sampling.not_member {members : List Int} {state : PollerState}
    (h : Sampling tick before members state) {routerId id : Int}
    (hregistered : state.db.Registered routerId aggregateInterfaceKey id) : id ∉ members := by
  intro hmem
  obtain ⟨_, _, interface, _, hmember⟩ := h.registered id hmem
  exact durableInterfaceKey_ne interface (registered_unique h.wellFormed hmember hregistered).2

theorem Ticked.aggregate_registered (h : Ticked tick s aggregateId before acc mid) :
    acc.state.db.Registered tick.routerId aggregateInterfaceKey aggregateId :=
  h.looped.sampling.keeps h.registered

theorem Ticked.interfaces (h : Ticked tick s aggregateId before acc mid) :
    mid.db.routerInterfaces = acc.state.db.routerInterfaces := by
  rcases h.aggregate with ⟨_, hmid⟩ | ⟨_, result, hpersist⟩
  · rw [hmid]
  · exact (persistCounterObservation_touches hpersist).interfaces

/-- The loop leaves the aggregate's baseline alone. -/
theorem Ticked.aggregate_baseline (h : Ticked tick s aggregateId before acc mid) :
    acc.state.baselines aggregateId = s.baselines aggregateId := by
  rw [h.looped.sampling.others _ (h.looped.sampling.not_member h.aggregate_registered),
    h.baselines]

/-- The loop stores no sample of an aggregate. -/
theorem Ticked.sample_old (h : Ticked tick s aggregateId before acc mid) {x : TrafficSample}
    (hx : x ∈ acc.state.db.trafficSamples.rows) {routerId : Int}
    (hregistered : acc.state.db.Registered routerId aggregateInterfaceKey x.interfaceId) :
    x ∈ s.db.trafficSamples.rows := by
  have hold := h.looped.sampling.samples x hx (h.looped.sampling.not_member hregistered)
  rwa [h.samples] at hold

end

/-- A tick keeps the origins of the baselines. -/
theorem Known.step {earlier : List Tick} {s : PollerState} (h : Known earlier s) (tick : Tick) :
    Known (earlier ++ [tick]) (tickStep s tick) := by
  have hmono : ∀ {db : TrafficDb} {id : Int} {baseline : CounterBaseline},
      (∀ {routerId id key}, s.db.Registered routerId key id → db.Registered routerId key id) →
      s.baselines id = some baseline →
      (∃ routerId, db.Registered routerId aggregateInterfaceKey id) ∨
        ∃ tick' ∈ earlier ++ [tick], tick'.Saw db id baseline := by
    intro db id baseline hkeeps hsome
    rcases h.sourced id baseline hsome with ⟨routerId, hregistered⟩ | ⟨tick', htick', hsaw⟩
    · exact Or.inl ⟨routerId, hkeeps hregistered⟩
    · exact Or.inr ⟨tick', List.mem_append_left _ htick', hsaw.mono hkeeps⟩
  rcases @tickStep_cases tick _ h.wellFormed with
    ⟨db, hstep, _, hwellFormed, hkeeps⟩ | ⟨aggregateId, before, acc, mid, keep, hticked, hstep⟩
  · rw [hstep]
    exact ⟨hwellFormed, fun id baseline hsome => hmono hkeeps hsome⟩
  · rw [hstep]
    have hsampling := hticked.looped.sampling
    have hinterfaces := hticked.interfaces
    have hkeeps : ∀ {routerId id key}, acc.state.db.Registered routerId key id →
        mid.db.Registered routerId key id :=
      fun hold => (registered_congr hinterfaces).mpr hold
    refine ⟨wellFormed_congr hinterfaces hsampling.wellFormed, ?_⟩
    intro id baseline hsome
    simp only [Baselines.retain] at hsome
    split at hsome
    swap
    · cases hsome
    · by_cases hid : id = aggregateId
      · subst hid
        exact Or.inl ⟨tick.routerId, hkeeps hticked.aggregate_registered⟩
      · have hsome' : acc.state.baselines id = some baseline := by
          rcases hticked.aggregate with ⟨_, hmid⟩ | ⟨_, result, hpersist⟩
          · rw [hmid] at hsome
            simpa only [Baselines.remove, hid, if_false] using hsome
          · rcases (persistCounterObservation_touches hpersist).baselines with
              hsame | ⟨marker, hinsert⟩
            · rw [hsame] at hsome
              exact hsome
            · rw [hinsert] at hsome
              exact (Baselines.insert_ne acc.state.baselines _ hid).symm.trans hsome
        rcases hsampling.sourced id baseline hsome' with hold | hsaw
        · rw [hticked.baselines] at hold
          exact hmono (fun hr => hkeeps (hsampling.keeps (hticked.keeps hr))) hold
        · exact Or.inr ⟨tick, List.mem_append_right _ (List.mem_singleton.mpr rfl),
            hsaw.mono hkeeps⟩

/-- Every baseline of a run that starts without any is known. -/
theorem Known.run {s : PollerState} (hwellFormed : s.db.InterfacesWellFormed)
    (hfresh : ∀ id, s.baselines id = none) (ticks : List Tick) :
    Known ticks (run tickStep s ticks) := by
  induction ticks using List.reverseRecOn with
  | nil =>
      refine ⟨hwellFormed, ?_⟩
      intro id baseline hsome
      rw [run_nil, hfresh id] at hsome
      cases hsome
  | append_singleton earlier tick ih =>
      rw [run_append]
      exact ih.step tick

/-! ## Sums -/

/-- The change of a counter, as a natural number. -/
def counterDelta (previous current : UInt64) : Nat := (current - previous).toNat

theorem counterDelta_modEq (previous current : UInt64) :
    previous.toNat + counterDelta previous current ≡ current.toNat [MOD 2 ^ 64] := by
  have hprevious := previous.toNat_lt
  have hround : previous.toNat + (2 ^ 64 - previous.toNat + current.toNat) =
      current.toNat + 2 ^ 64 := by omega
  unfold counterDelta Nat.ModEq
  rw [UInt64.toNat_sub, Nat.add_mod_mod, hround, Nat.add_mod_right]

/-- The change of a sum is the sum of the changes, when that is small. -/
theorem counterDelta_sum {α : Type} {l : List α} {previous current : α → UInt64} {a b : UInt64}
    (ha : a.toNat = (l.map (fun m => (previous m).toNat)).sum)
    (hb : (l.map (fun m => (current m).toNat)).sum = b.toNat)
    (hsmall : (l.map (fun m => counterDelta (previous m) (current m))).sum < 2 ^ 63) :
    counterDelta a b = (l.map (fun m => counterDelta (previous m) (current m))).sum := by
  have hsum : ∀ l : List α, (l.map (fun m => (previous m).toNat)).sum +
      (l.map (fun m => counterDelta (previous m) (current m))).sum ≡
        (l.map (fun m => (current m).toNat)).sum [MOD 2 ^ 64] := by
    intro l
    induction l with
    | nil => rfl
    | cons m rest ih =>
        simp only [List.map_cons, List.sum_cons]
        have hboth := (counterDelta_modEq (previous m) (current m)).add ih
        rwa [add_add_add_comm] at hboth
  have hcongr : a.toNat + counterDelta a b ≡
      a.toNat + (l.map (fun m => counterDelta (previous m) (current m))).sum [MOD 2 ^ 64] := by
    refine (counterDelta_modEq a b).trans ?_
    rw [← hb, ha]
    exact (hsum l).symm
  have hleft : counterDelta a b < 2 ^ 64 := (b - a).toNat_lt
  exact Nat.ModEq.eq_of_lt_of_lt (Nat.ModEq.add_left_cancel' _ hcongr) hleft (by omega)

/-! ## Exact samples of the aggregate -/

/-- The member was read at both ends of the span, and both its counters changed
continuously between. -/
structure MemberSample.ReadAcross (m : MemberSample) (db : TrafficDb) (earlier : List Tick)
    (tick : Tick) (startedAtMs : Int) : Prop where
  found : tick.data.interfaceNamed m.wanName = some m.interface
  registered : db.Registered tick.routerId (durableInterfaceKey m.interface) m.interfaceId
  rxByte : m.interface.rxByte = some m.rxCounter
  txByte : m.interface.txByte = some m.txCounter
  started : ∃ start ∈ earlier, start.data.counterSampleTime.unixMs = startedAtMs ∧
    start.Saw db m.interfaceId m.previous
  rxContinuous : (rxRate m.previous (m.observation tick)).transition.Continuous
  txContinuous : (txRate m.previous (m.observation tick)).transition.Continuous

section

variable {earlier : List Tick} {tick : Tick} {s before mid : PollerState} {aggregateId : Int}
  {acc : MemberLoop} {samples : List MemberSample}

/-- The baseline that a member had before the tick comes from an earlier tick,
which found the member registered already. -/
theorem Ticked.member_started (h : Ticked tick s aggregateId before acc mid)
    (hknown : Known earlier s) {m : MemberSample} (hexact : m.Exact tick before acc.state.db) :
    s.baselines m.interfaceId = some m.previous ∧
      s.db.Registered tick.routerId (durableInterfaceKey m.interface) m.interfaceId ∧
      ∃ start ∈ earlier, start.Saw s.db m.interfaceId m.previous := by
  have hwellFormed := h.looped.sampling.wellFormed
  have hkeeps : ∀ {routerId id key}, s.db.Registered routerId key id →
      acc.state.db.Registered routerId key id :=
    fun hold => h.looped.sampling.keeps (h.keeps hold)
  have hsome : s.baselines m.interfaceId = some m.previous := by
    rw [← h.baselines]
    exact hexact.baseline
  refine ⟨hsome, ?_⟩
  rcases hknown.sourced _ _ hsome with ⟨routerId, haggregate⟩ | ⟨start, hstart, hsaw⟩
  · have hkeys := (registered_unique hwellFormed hexact.registered (hkeeps haggregate)).2
    exact absurd hkeys (durableInterfaceKey_ne m.interface)
  · refine ⟨?_, start, hstart, hsaw⟩
    obtain ⟨_, _, interface, _, _, _, _, hregistered, _⟩ := hsaw
    obtain ⟨hrouter, hkey⟩ := registered_unique hwellFormed hexact.registered (hkeeps hregistered)
    rw [hrouter, hkey]
    exact hregistered

/-- An aggregate that has a baseline was registered before the tick. -/
theorem Ticked.aggregate_known (h : Ticked tick s aggregateId before acc mid)
    (hknown : Known earlier s) {baseline : CounterBaseline}
    (hbaseline : s.baselines aggregateId = some baseline) :
    s.db.Registered tick.routerId aggregateInterfaceKey aggregateId := by
  have hwellFormed := h.looped.sampling.wellFormed
  have hkeeps : ∀ {routerId id key}, s.db.Registered routerId key id →
      acc.state.db.Registered routerId key id :=
    fun hold => h.looped.sampling.keeps (h.keeps hold)
  rcases hknown.sourced _ _ hbaseline with ⟨router, hold⟩ | ⟨_, _, hsaw⟩
  · rw [(registered_unique hwellFormed h.aggregate_registered (hkeeps hold)).1]
    exact hold
  · obtain ⟨_, _, interface, _, _, _, _, hold, _⟩ := hsaw
    exact absurd (registered_unique hwellFormed h.aggregate_registered (hkeeps hold)).2.symm
      (durableInterfaceKey_ne interface)

/-- The members that were sampled are those that the state before the tick
knew. -/
theorem AllExact.known (hall : AllExact tick before tick.wanNames acc samples)
    (h : Ticked tick s aggregateId before acc mid) (hknown : Known earlier s) :
    memberIds s.db tick = samples.map (fun m => m.interfaceId) ∧
      memberBaselines s tick = samples.map (fun m => m.previous) := by
  have hids : memberIds s.db tick = samples.map (fun m => m.interfaceId) := by
    unfold memberIds
    rw [← hall.names, List.filterMap_map, ← List.filterMap_eq_map]
    apply List.filterMap_congr
    intro m hm
    have hexact := hall.exact m hm
    obtain ⟨_, hregistered, _⟩ := h.member_started hknown hexact
    simp only [Function.comp_apply, memberId, hexact.found, Option.bind_some]
    exact interfaceByKey_of_registered hknown.wellFormed hregistered
  refine ⟨hids, ?_⟩
  unfold memberBaselines
  rw [hids, List.filterMap_map, ← List.filterMap_eq_map]
  apply List.filterMap_congr
  intro m hm
  exact (h.member_started hknown (hall.exact m hm)).1

/-- A sample that a tick stores for an aggregate is the exact sample between the
aggregate's baseline and the sums of its members' counters. -/
theorem Ticked.stored (h : Ticked tick s aggregateId before acc mid) {x : TrafficSample}
    (hx : x ∈ mid.db.trafficSamples.rows) (hnew : x ∉ s.db.trafficSamples.rows) {routerId : Int}
    (hregistered : mid.db.Registered routerId aggregateInterfaceKey x.interfaceId) :
    acc.aggregateComplete = true ∧ ∃ baseline deltas id, s.baselines aggregateId = some baseline ∧
      classifyInterval baseline (aggregateObservation tick.routerId tick.data aggregateId acc) =
        .sample deltas ∧
      x = { exactSample baseline (aggregateObservation tick.routerId tick.data aggregateId acc)
        deltas with id := id } := by
  have hold : x ∉ acc.state.db.trafficSamples.rows := by
    intro hmem
    apply hnew
    exact h.sample_old hmem ((registered_congr h.interfaces).mp hregistered)
  rcases h.aggregate with ⟨_, hmid⟩ | ⟨hcomplete, result, hpersist⟩
  · rw [hmid] at hx
    exact absurd hx hold
  · refine ⟨hcomplete, ?_⟩
    obtain ⟨baseline, deltas, id, hbaseline, hclass, hrow⟩ :=
      persistCounterObservation_stored hpersist hx hold
    exact ⟨baseline, deltas, id, h.aggregate_baseline.symm.trans hbaseline, hclass, hrow⟩

end

/-- The sample is the sum of the exact intervals of the members that the tick
read, each of them since a reading at the start of the sample. -/
structure SumOfMembers (db : TrafficDb) (earlier : List Tick) (tick : Tick) (x : TrafficSample)
    (samples : List MemberSample) : Prop where
  ended : x.endedAtMs = tick.data.counterSampleTime.unixMs
  members : samples.map (fun m => m.wanName) = tick.wanNames
  readAcross : ∀ m ∈ samples, m.ReadAcross db earlier tick x.startedAtMs
  download : (samples.map (fun m => counterDelta m.previous.rxCounter m.rxCounter)).sum < 2 ^ 63 →
    x.downloadBytes =
      ((samples.map (fun m => counterDelta m.previous.rxCounter m.rxCounter)).sum : Nat)
  upload : (samples.map (fun m => counterDelta m.previous.txCounter m.txCounter)).sum < 2 ^ 63 →
    x.uploadBytes =
      ((samples.map (fun m => counterDelta m.previous.txCounter m.txCounter)).sum : Nat)

theorem MemberSample.ReadAcross.mono {m : MemberSample} {db db' : TrafficDb} {earlier : List Tick}
    {tick : Tick} {startedAtMs : Int} (h : m.ReadAcross db earlier tick startedAtMs)
    (hkeeps : ∀ {routerId id key}, db.Registered routerId key id →
      db'.Registered routerId key id) : m.ReadAcross db' earlier tick startedAtMs := by
  obtain ⟨first, hfirst, htime, hsaw⟩ := h.started
  exact { h with
    registered := hkeeps h.registered
    started := ⟨first, hfirst, htime, hsaw.mono hkeeps⟩ }

/-- From aligned baselines a tick stores nothing for the aggregate but the sum
of its members. -/
theorem Known.sumOfMembers {earlier : List Tick} {s : PollerState} (hknown : Known earlier s)
    {tick : Tick} (haligned : Aligned s tick) {x : TrafficSample}
    (hx : x ∈ (tickStep s tick).db.trafficSamples.rows) (hnew : x ∉ s.db.trafficSamples.rows)
    {routerId : Int}
    (hregistered : (tickStep s tick).db.Registered routerId aggregateInterfaceKey x.interfaceId) :
    ∃ samples, SumOfMembers (tickStep s tick).db earlier tick x samples := by
  rcases @tickStep_cases tick _ hknown.wellFormed with
    ⟨db, hstep, hsamples, _⟩ | ⟨aggregateId, before, acc, mid, keep, hticked, hstep⟩
  · rw [hstep, hsamples] at hx
    exact absurd hx hnew
  · rw [hstep] at hx hregistered ⊢
    obtain ⟨hcomplete, baseline, deltas, id, hbaseline, hclass, hrow⟩ :=
      hticked.stored hx hnew hregistered
    obtain ⟨hwatched, _, _, hdownload, hupload⟩ := classifyInterval_sample hclass
    simp only [watched, Bool.and_eq_true, decide_eq_true_eq] at hwatched
    obtain ⟨⟨⟨⟨hsignature, hforced⟩, _⟩, _⟩, _⟩ := hwatched
    have hcontinuous : acc.aggregateContinuous = true := by
      cases hcontinuous : acc.aggregateContinuous with
      | true => rfl
      | false => simp [aggregateObservation, hcontinuous] at hforced
    obtain ⟨samples, hall⟩ := hticked.looped.exact hcomplete hcontinuous
    obtain ⟨hids, hbaselines⟩ := hall.known hticked hknown
    have hkeeps : ∀ {routerId id key}, s.db.Registered routerId key id →
        mid.db.Registered routerId key id :=
      fun hold => (registered_congr hticked.interfaces).mpr
        (hticked.looped.sampling.keeps (hticked.keeps hold))
    have haggregate : ∃ record, s.db.interfaceByKey tick.routerId aggregateInterfaceKey =
        some record ∧ record.id = aggregateId := by
      have hbefore := hticked.aggregate_known hknown hbaseline
      have hfound := interfaceByKey_of_registered hknown.wellFormed hbefore
      rwa [Option.map_eq_some_iff] at hfound
    obtain ⟨record, hrecord, hid⟩ := haggregate
    have hsame : baseline.memberSignature = some (aggregateSignature (memberIds s.db tick)) := by
      rw [hids, hall.identifiers]
      exact hsignature
    obtain ⟨htimes, hrx, htx⟩ := haligned record baseline hrecord (hid ▸ hbaseline) hsame
    rw [hbaselines] at htimes hrx htx
    rw [List.map_map] at hrx htx
    have hstarted : x.startedAtMs = baseline.observedAtMs := by rw [hrow]; rfl
    refine ⟨samples, ?_, hall.names, ?_, ?_, ?_⟩
    · rw [hrow]
      rfl
    · intro m hm
      have hexact := hall.exact m hm
      obtain ⟨_, _, first, hfirst, hsaw⟩ := hticked.member_started hknown hexact
      obtain ⟨_, hclassified⟩ := hexact.classified
      obtain ⟨_, hrxContinuous, htxContinuous, _, _⟩ := classifyInterval_sample hclassified
      refine ⟨hexact.found, (registered_congr hticked.interfaces).mpr hexact.registered,
        hexact.rxByte, hexact.txByte, ⟨first, hfirst, ?_, hsaw.mono hkeeps⟩, hrxContinuous,
        htxContinuous⟩
      have htime := htimes m.previous (List.mem_map_of_mem hm)
      obtain ⟨_, _, _, _, _, _, _, _, _, _, hsource⟩ := hsaw
      rw [hstarted, ← htime, hsource]
      rfl
    · intro hsmall
      have hsum := counterDelta_sum hrx hall.rx hsmall
      rw [← hsum, hrow]
      exact hdownload
    · intro hsmall
      have hsum := counterDelta_sum htx hall.tx hsmall
      rw [← hsum, hrow]
      exact hupload

/-- A tick keeps the registrations, and stores samples of registered interfaces
only. -/
theorem tickStep_registered {s : PollerState} (hwellFormed : s.db.InterfacesWellFormed)
    (tick : Tick) :
    (∀ {routerId id key}, s.db.Registered routerId key id →
      (tickStep s tick).db.Registered routerId key id) ∧
    ∀ x ∈ (tickStep s tick).db.trafficSamples.rows, x ∈ s.db.trafficSamples.rows ∨
      ∃ routerId key, (tickStep s tick).db.Registered routerId key x.interfaceId := by
  rcases @tickStep_cases tick _ hwellFormed with
    ⟨db, hstep, hsamples, _, hkeeps⟩ | ⟨aggregateId, before, acc, mid, keep, hticked, hstep⟩
  · rw [hstep]
    refine ⟨hkeeps, fun x hx => Or.inl ?_⟩
    rwa [hsamples] at hx
  · rw [hstep]
    have hsampling := hticked.looped.sampling
    have hkeeps : ∀ {routerId id key}, acc.state.db.Registered routerId key id →
        mid.db.Registered routerId key id :=
      fun hold => (registered_congr hticked.interfaces).mpr hold
    refine ⟨fun hold => hkeeps (hsampling.keeps (hticked.keeps hold)), ?_⟩
    intro x hx
    have hcases : x ∈ acc.state.db.trafficSamples.rows ∨ x.interfaceId = aggregateId := by
      rcases hticked.aggregate with ⟨_, hmid⟩ | ⟨_, result, hpersist⟩
      · rw [hmid] at hx
        exact Or.inl hx
      · exact (persistCounterObservation_touches hpersist).samples x hx
    rcases hcases with hloop | haggregate
    · by_cases hmember : x.interfaceId ∈ acc.aggregateMembers
      · obtain ⟨_, _, interface, _, hregistered⟩ := hsampling.registered _ hmember
        exact Or.inr ⟨_, _, hkeeps hregistered⟩
      · have hold := hsampling.samples x hloop hmember
        rw [hticked.samples] at hold
        exact Or.inl hold
    · rw [haggregate]
      exact Or.inr ⟨_, _, hkeeps hticked.aggregate_registered⟩

/-- The samples that a run stores belong to registered interfaces. -/
theorem sampled_registered {s : PollerState} (hwellFormed : s.db.InterfacesWellFormed)
    (hfresh : ∀ id, s.baselines id = none) {ticks : List Tick} {x : TrafficSample}
    (hx : x ∈ (run tickStep s ticks).db.trafficSamples.rows)
    (hnew : x ∉ s.db.trafficSamples.rows) :
    ∃ routerId key, (run tickStep s ticks).db.Registered routerId key x.interfaceId := by
  induction ticks using List.reverseRecOn with
  | nil => exact absurd hx hnew
  | append_singleton earlier tick ih =>
      rw [run_append] at hx ⊢
      have hwellFormed' := (Known.run hwellFormed hfresh earlier).wellFormed
      obtain ⟨hkeeps, hsampled⟩ := tickStep_registered hwellFormed' tick
      rcases hsampled x hx with hold | hregistered
      · obtain ⟨routerId, key, hregistered⟩ := ih hold
        exact ⟨routerId, key, hkeeps hregistered⟩
      · exact hregistered

theorem SumOfMembers.mono {db db' : TrafficDb} {earlier : List Tick} {tick : Tick}
    {x : TrafficSample} {samples : List MemberSample} (h : SumOfMembers db earlier tick x samples)
    (hkeeps : ∀ {routerId id key}, db.Registered routerId key id →
      db'.Registered routerId key id) : SumOfMembers db' earlier tick x samples :=
  { h with readAcross := fun m hm => (h.readAcross m hm).mono hkeeps }

/-- In a run whose baselines are aligned before every tick, every exact sample
of an aggregate is the sum of its members' exact intervals over its span. -/
theorem aggregate_exact {s : PollerState} (hwellFormed : s.db.InterfacesWellFormed)
    (hfresh : ∀ id, s.baselines id = none) {ticks : List Tick}
    (haligned : Along tickStep Aligned s ticks) {x : TrafficSample}
    (hx : x ∈ (run tickStep s ticks).db.trafficSamples.rows)
    (hnew : x ∉ s.db.trafficSamples.rows) {routerId : Int}
    (hregistered :
      (run tickStep s ticks).db.Registered routerId aggregateInterfaceKey x.interfaceId) :
    ∃ earlier tick later samples, ticks = earlier ++ tick :: later ∧
      SumOfMembers (run tickStep s ticks).db earlier tick x samples := by
  induction ticks using List.reverseRecOn with
  | nil => exact absurd hx hnew
  | append_singleton earlier tick ih =>
      rw [Along.append] at haligned
      have hknown := Known.run hwellFormed hfresh earlier
      rw [run_append] at hx hregistered ⊢
      by_cases hold : x ∈ (run tickStep s earlier).db.trafficSamples.rows
      · have hwellFormed' := hknown.wellFormed
        have hkeeps : ∀ {routerId id key}, (run tickStep s earlier).db.Registered routerId key id →
            (tickStep (run tickStep s earlier) tick).db.Registered routerId key id :=
          (tickStep_registered hwellFormed' tick).1
        obtain ⟨router, key, hbefore⟩ := sampled_registered hwellFormed hfresh hold hnew
        have hafter := (hknown.step tick).wellFormed
        obtain ⟨rfl, rfl⟩ := registered_unique hafter (hkeeps hbefore) hregistered
        obtain ⟨first, stored, later, samples, hsplit, hsum⟩ := ih haligned.1 hold hbefore
        refine ⟨first, stored, later ++ [tick], samples, ?_, hsum.mono hkeeps⟩
        rw [hsplit, List.append_assoc, List.cons_append]
      · obtain ⟨samples, hsum⟩ := hknown.sumOfMembers haligned.2.1 hx hold hregistered
        exact ⟨earlier, tick, [], samples, rfl, hsum⟩

/-- The outcomes of a tick all of whose writes commit, but for the aggregate's. -/
def outcomesWith (aggregate : StorageOutcome) : TickOutcomes where
  aggregateUpsert := .committed
  members := fun _ => ⟨.committed, .allCommitted⟩
  aggregate := ⟨.committed, false, aggregate⟩

/-- A tick over two WAN interfaces at second `second` of the boot. -/
def twoMemberTick (second : Nat) (rxFirst rxSecond : UInt64) (aggregate : StorageOutcome) : Tick where
  outcomes := outcomesWith aggregate
  routerId := 1
  data :=
    { counterSampleTime := ⟨1000 * second, 1000000000 * second⟩
      uptimeSeconds := some (UInt64.ofNat second)
      interfaces := [⟨"*1", "ether1", "", some rxFirst, some 0⟩,
        ⟨"*2", "ether2", "", some rxSecond, some 0⟩] }
  wanNames := ["ether1", "ether2"]

/-- The second reading finds one of the counters reset. -/
def resetRun : List Tick :=
  [twoMemberTick 60 500 100 .committed, twoMemberTick 70 50 1000 .committed,
    twoMemberTick 80 200 1100 .committed]

/-- A sample of the aggregate, of 250 bytes, over the last ten seconds. -/
def resetSample : TrafficSample :=
  { id := 4, routerId := 1, interfaceId := 1, startedAtMs := 70000, endedAtMs := 80000,
    durationMs := 10000, downloadBytes := 250, uploadBytes := 0,
    downloadBps := .finite 200, uploadBps := .finite 0, quality := .exact,
    source := exactTrafficSource }

theorem aggregate_exact_resetRun :
    ∃ earlier tick later samples, resetRun = earlier ++ tick :: later ∧
      SumOfMembers (run tickStep ⟨TrafficDb.withRouter, Baselines.empty⟩ resetRun).db earlier tick
        resetSample samples :=
  aggregate_exact (s := ⟨TrafficDb.withRouter, Baselines.empty⟩) ⟨by decide, by decide, by decide⟩
    (fun _ => rfl) (by decide +kernel) (by decide +kernel) (by decide)
    ⟨⟨1, 1, aggregateInterfaceKey, "Aggregate", "aggregate", none, 60000, 80000⟩,
      by decide +kernel, rfl, rfl, rfl⟩

/-- The same readings, but the gap that the reset leaves in the aggregate is not
written. -/
def lostGapRun : List Tick :=
  [twoMemberTick 60 500 100 .committed, twoMemberTick 70 50 1000 .failed,
    twoMemberTick 80 200 1100 .committed]

/-- The counter that the reading `index` of the run has for `ether1`. -/
def firstCounter (index : Nat) : Option UInt64 :=
  lostGapRun[index]?.bind (fun tick =>
    (tick.data.interfaceNamed "ether1").bind (fun interface => interface.rxByte))

/-- The aggregate gets an exact sample over the twenty seconds in which one of
its members was reset. -/
theorem aggregate_exact_fails :
    (run tickStep ⟨TrafficDb.withRouter, Baselines.empty⟩ lostGapRun).db.trafficSamples.rows.any
        (fun x => decide (x.interfaceId = 1 ∧ x.quality = .exact ∧ x.startedAtMs = 60000 ∧
          x.endedAtMs = 80000 ∧ x.downloadBytes = 700)) = true ∧
      firstCounter 0 = some 500 ∧ firstCounter 2 = some 200 ∧
      (calculateCounterRate (firstCounter 0) 200 (some 60) (some 80)
        (some (asSecsF64 20000000000))).transition = .reset := by
  decide +kernel

end RouterView.Poller
