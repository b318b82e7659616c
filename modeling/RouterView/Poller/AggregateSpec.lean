/-
  Poller/AggregateSpec.lean --- what the loop over the members guarantees.

  The members are registered under keys of their own, so sampling one of them
  leaves the others and the aggregate alone.  When the loop reports the members
  complete and continuous, every one of them was sampled exactly from the
  baseline that it had before the tick.
-/
import RouterView.Poller.ExactTraffic
import RouterView.Poller.History

set_option autoImplicit false

namespace RouterView.Poller

open RouterView.Foundation
open RouterView.Db

/-! ## One observation -/

/-- What a call of `persistCounterObservation` may change. -/
structure Touches (observation : CounterObservation) (s s' : PollerState) : Prop where
  interfaces : s'.db.routerInterfaces = s.db.routerInterfaces
  samples : ∀ x ∈ s'.db.trafficSamples.rows,
    x ∈ s.db.trafficSamples.rows ∨ x.interfaceId = observation.interfaceId
  baselines : s'.baselines = s.baselines ∨ ∃ marker, s'.baselines =
    s.baselines.insert observation.interfaceId (baselineFromObservation observation marker)

theorem Recorded.samples {observation : CounterObservation} {s : PollerState}
    {outcome : CounterPersistenceOutcome} {marker : Option String} {db' : TrafficDb}
    (h : Recorded observation s outcome marker db') : ∀ x ∈ db'.trafficSamples.rows,
      x ∈ s.db.trafficSamples.rows ∨ x.interfaceId = observation.interfaceId := by
  intro x hx
  rcases h.contributionsOn_cases with ⟨hsamples, _⟩ | ⟨previous, deltas, _, _, hnew, _⟩
  · rw [hsamples] at hx
    exact Or.inl hx
  · rw [hnew.result] at hx
    rcases List.mem_append.mp hx with hx | hx
    · exact Or.inl hx
    · rw [List.mem_singleton.mp hx]
      exact Or.inr rfl

theorem persistCounterObservation_touches {outcomes : StorageOutcomes}
    {observation : CounterObservation} {s s' : PollerState}
    {result : DatabaseResult CounterPersistenceOutcome}
    (h : persistCounterObservation outcomes observation s = (result, s')) :
    Touches observation s s' := by
  rcases persistCounterObservation_cases h with
    ⟨_, hsame⟩ | ⟨outcome, marker, db', hrecorded, ⟨_, hstate⟩ | ⟨_, _, hstate⟩⟩
  · rw [hsame]
    exact ⟨rfl, fun x hx => Or.inl hx, Or.inl rfl⟩
  · rw [hstate]
    exact ⟨hrecorded.owns.2, hrecorded.samples, Or.inr ⟨marker, rfl⟩⟩
  · rw [hstate]
    exact ⟨hrecorded.owns.2, hrecorded.samples, Or.inl rfl⟩

/-- An exact answer: there was an older baseline, the interval since it is
exact, and the baseline is the observation's now. -/
theorem persistCounterObservation_exact {outcomes : StorageOutcomes}
    {observation : CounterObservation} {s s' : PollerState}
    (h : persistCounterObservation outcomes observation s = (.ok .exactSample, s')) :
    ∃ previous deltas marker, s.baselines observation.interfaceId = some previous ∧
      previous.observedAtMs < observation.observedAtMs ∧
      classifyInterval previous observation = .sample deltas ∧
      s'.baselines = s.baselines.insert observation.interfaceId
        (baselineFromObservation observation marker) := by
  rcases persistCounterObservation_cases h with
    ⟨⟨e, he⟩, _⟩ | ⟨outcome, marker, db', hrecorded, ⟨hok, hstate⟩ | ⟨_, ⟨e, he⟩, _⟩⟩
  · cases he
  · cases hok
    cases hrecorded with
    | sample previous deltas hbaseline hclass hcommit =>
        exact ⟨previous, deltas, _, hbaseline, hcommit.valid.increasing, hclass, by rw [hstate]; rfl⟩
    | repeatedSample previous deltas hbaseline hclass hlater hcommit =>
        exact ⟨previous, deltas, _, hbaseline, hlater, hclass, by rw [hstate]; rfl⟩
  · cases he

/-- A sample that a call stores is the exact sample since the baseline. -/
theorem persistCounterObservation_stored {outcomes : StorageOutcomes}
    {observation : CounterObservation} {s s' : PollerState}
    {result : DatabaseResult CounterPersistenceOutcome}
    (h : persistCounterObservation outcomes observation s = (result, s')) {x : TrafficSample}
    (hx : x ∈ s'.db.trafficSamples.rows) (hnew : x ∉ s.db.trafficSamples.rows) :
    ∃ previous deltas id, s.baselines observation.interfaceId = some previous ∧
      classifyInterval previous observation = .sample deltas ∧
      x = { exactSample previous observation deltas with id := id } := by
  have hrow : ∀ {outcome marker db'}, Recorded observation s outcome marker db' →
      x ∈ db'.trafficSamples.rows → ∃ previous deltas id,
        s.baselines observation.interfaceId = some previous ∧
        classifyInterval previous observation = .sample deltas ∧
        x = { exactSample previous observation deltas with id := id } := by
    intro outcome marker db' hrecorded hmem
    rcases hrecorded.contributionsOn_cases with
      ⟨hsamples, _⟩ | ⟨previous, deltas, hprevious, hclass, hsample, _⟩
    · rw [hsamples] at hmem
      exact absurd hmem hnew
    · rw [hsample.result] at hmem
      rcases List.mem_append.mp hmem with hold | hmem
      · exact absurd hold hnew
      · exact ⟨previous, deltas, _, hprevious, hclass, List.mem_singleton.mp hmem⟩
  rcases persistCounterObservation_cases h with
    ⟨_, hsame⟩ | ⟨outcome, marker, db', hrecorded, ⟨_, hstate⟩ | ⟨_, _, hstate⟩⟩
  · rw [hsame] at hx
    exact absurd hx hnew
  · rw [hstate] at hx
    exact hrow hrecorded hx
  · rw [hstate] at hx
    exact hrow hrecorded hx

/-! ## Members -/

/-- A key of a WAN interface is not the aggregate's. -/
theorem durableInterfaceKey_ne (interface : InterfaceEntry) :
    durableInterfaceKey interface ≠ aggregateInterfaceKey := by
  have hhead : (durableInterfaceKey interface).toList.head? ≠
      aggregateInterfaceKey.toList.head? := by
    unfold durableInterfaceKey
    split
    · rw [head_append (s := "name:") (c := 'n') (by decide)]
      decide
    · rw [head_append (s := "routeros:") (c := 'r') (by decide)]
      decide
  intro heq
  rw [heq] at hhead
  exact hhead rfl

/-- The tick read both counters of a WAN interface, and the baseline is theirs. -/
def Tick.Saw (tick : Tick) (db : TrafficDb) (interfaceId : Int) (baseline : CounterBaseline) :
    Prop :=
  ∃ wanName ∈ tick.wanNames, ∃ interface rxCounter txCounter marker,
    tick.data.interfaceNamed wanName = some interface ∧
    db.Registered tick.routerId (durableInterfaceKey interface) interfaceId ∧
    interface.rxByte = some rxCounter ∧ interface.txByte = some txCounter ∧
    baseline = baselineFromObservation
      (memberObservation tick.routerId tick.data interfaceId rxCounter txCounter) marker

theorem Tick.Saw.mono {tick : Tick} {db db' : TrafficDb} {interfaceId : Int}
    {baseline : CounterBaseline} (h : tick.Saw db interfaceId baseline)
    (hkeeps : ∀ {routerId id key}, db.Registered routerId key id →
      db'.Registered routerId key id) : tick.Saw db' interfaceId baseline := by
  obtain ⟨wanName, hname, interface, rxCounter, txCounter, marker, hfound, hregistered, hrest⟩ := h
  exact ⟨wanName, hname, interface, rxCounter, txCounter, marker, hfound, hkeeps hregistered,
    hrest⟩

/-- What sampling the members of a tick leaves alone: the aggregate, whose
identifier no member has, and the interfaces that are not yet members. -/
structure Sampling (tick : Tick) (before : PollerState) (members : List Int) (s : PollerState) :
    Prop where
  wellFormed : s.db.InterfacesWellFormed
  keeps : ∀ {routerId id key}, before.db.Registered routerId key id →
    s.db.Registered routerId key id
  registered : ∀ id ∈ members, ∃ wanName ∈ tick.wanNames, ∃ interface,
    tick.data.interfaceNamed wanName = some interface ∧
      s.db.Registered tick.routerId (durableInterfaceKey interface) id
  samples : ∀ x ∈ s.db.trafficSamples.rows, x.interfaceId ∉ members →
    x ∈ before.db.trafficSamples.rows
  others : ∀ id, id ∉ members → s.baselines id = before.baselines id
  sourced : ∀ id baseline, s.baselines id = some baseline →
    before.baselines id = some baseline ∨ tick.Saw s.db id baseline

section

variable {tick : Tick} {before s s' : PollerState} {members : List Int}

theorem Sampling.initial (hwellFormed : before.db.InterfacesWellFormed) :
    Sampling tick before [] before :=
  ⟨hwellFormed, fun h => h, fun _ hid => (List.not_mem_nil hid).elim, fun _ hx _ => hx,
    fun _ _ => rfl, fun _ _ h => Or.inl h⟩

/-- A registration. -/
theorem Sampling.upsert (h : Sampling tick before members s) {routerId : Int}
    {key : String} {record : RouterInterfaceRecord} {db' : TrafficDb}
    (hupserted : Upserted s.db routerId key record db') :
    Sampling tick before members { s with db := db' } where
  wellFormed := hupserted.wellFormed h.wellFormed
  keeps := fun hregistered => hupserted.keeps (h.keeps hregistered)
  registered := by
    intro id hid
    obtain ⟨wanName, hname, interface, hfound, hregistered⟩ := h.registered id hid
    exact ⟨wanName, hname, interface, hfound, hupserted.keeps hregistered⟩
  samples := by
    simp only [hupserted.sameTraffic.samples]
    exact h.samples
  others := h.others
  sourced := by
    intro id baseline hbaseline
    rcases h.sourced id baseline hbaseline with hold | hsaw
    · exact Or.inl hold
    · exact Or.inr (hsaw.mono hupserted.keeps)

/-- One more member. -/
theorem Sampling.join (h : Sampling tick before members s) {interfaceId : Int}
    {wanName : String} (hname : wanName ∈ tick.wanNames) {interface : InterfaceEntry}
    (hfound : tick.data.interfaceNamed wanName = some interface)
    (hregistered : s.db.Registered tick.routerId (durableInterfaceKey interface) interfaceId) :
    Sampling tick before (members ++ [interfaceId]) s where
  wellFormed := h.wellFormed
  keeps := h.keeps
  registered := by
    intro id hid
    rcases List.mem_append.mp hid with hid | hid
    · exact h.registered id hid
    · rw [List.mem_singleton.mp hid]
      exact ⟨wanName, hname, interface, hfound, hregistered⟩
  samples := fun x hx hnot => h.samples x hx (fun hmem => hnot (List.mem_append_left _ hmem))
  others := fun id hnot => h.others id (fun hmem => hnot (List.mem_append_left _ hmem))
  sourced := h.sourced

/-- The baseline of a member is dropped. -/
theorem Sampling.remove (h : Sampling tick before members s) {interfaceId : Int}
    (hmember : interfaceId ∈ members) :
    Sampling tick before members
      { s with baselines := s.baselines.remove interfaceId } where
  wellFormed := h.wellFormed
  keeps := h.keeps
  registered := h.registered
  samples := h.samples
  others := by
    intro id hnot
    have hne : id ≠ interfaceId := fun heq => hnot (heq ▸ hmember)
    simp only [Baselines.remove, hne, if_false]
    exact h.others id hnot
  sourced := by
    intro id baseline hbaseline
    simp only [Baselines.remove] at hbaseline
    split at hbaseline
    · cases hbaseline
    · exact h.sourced id baseline hbaseline

theorem registered_congr {db db' : TrafficDb} (h : db'.routerInterfaces = db.routerInterfaces)
    {routerId id : Int} {key : String} :
    db'.Registered routerId key id ↔ db.Registered routerId key id := by
  simp only [TrafficDb.Registered, h]

theorem wellFormed_congr {db db' : TrafficDb} (h : db'.routerInterfaces = db.routerInterfaces)
    (hwellFormed : db.InterfacesWellFormed) : db'.InterfacesWellFormed :=
  ⟨h ▸ hwellFormed.issued, h ▸ hwellFormed.identifiers, h ▸ hwellFormed.keys⟩

/-- The counters of a member are recorded. -/
theorem Sampling.persist (h : Sampling tick before members s) {interfaceId : Int}
    (hmember : interfaceId ∈ members) {rxCounter txCounter : UInt64}
    (htouches : Touches (memberObservation tick.routerId tick.data interfaceId rxCounter txCounter)
      s s')
    {wanName : String} (hname : wanName ∈ tick.wanNames) {interface : InterfaceEntry}
    (hfound : tick.data.interfaceNamed wanName = some interface)
    (hregistered : s.db.Registered tick.routerId (durableInterfaceKey interface) interfaceId)
    (hrx : interface.rxByte = some rxCounter) (htx : interface.txByte = some txCounter) :
    Sampling tick before members s' where
  wellFormed := wellFormed_congr htouches.interfaces h.wellFormed
  keeps := fun hold => (registered_congr htouches.interfaces).mpr (h.keeps hold)
  registered := by
    intro id hid
    obtain ⟨name, hmem, entry, hentry, hold⟩ := h.registered id hid
    exact ⟨name, hmem, entry, hentry, (registered_congr htouches.interfaces).mpr hold⟩
  samples := by
    intro x hx hnot
    rcases htouches.samples x hx with hold | hself
    · exact h.samples x hold hnot
    · exact absurd (hself ▸ hmember) hnot
  others := by
    intro id hnot
    have hne : id ≠ interfaceId := fun heq => hnot (heq ▸ hmember)
    rcases htouches.baselines with hsame | ⟨marker, hinsert⟩
    · rw [hsame]
      exact h.others id hnot
    · rw [hinsert]
      exact (Baselines.insert_ne s.baselines _ hne).trans (h.others id hnot)
  sourced := by
    have hkeeps : ∀ {routerId id key}, s.db.Registered routerId key id →
        s'.db.Registered routerId key id :=
      fun hold => (registered_congr htouches.interfaces).mpr hold
    intro id baseline hbaseline
    have hold : s.baselines id = some baseline →
        before.baselines id = some baseline ∨ tick.Saw s'.db id baseline := by
      intro hsome
      rcases h.sourced id baseline hsome with hfirst | hsaw
      · exact Or.inl hfirst
      · exact Or.inr (hsaw.mono hkeeps)
    rcases htouches.baselines with hsame | ⟨marker, hinsert⟩
    · rw [hsame] at hbaseline
      exact hold hbaseline
    · by_cases heq : id = interfaceId
      · subst heq
        rw [hinsert] at hbaseline
        have hself : some (baselineFromObservation (memberObservation tick.routerId tick.data id
            rxCounter txCounter) marker) = some baseline :=
          (Baselines.insert_self s.baselines id _).symm.trans hbaseline
        exact Or.inr ⟨wanName, hname, interface, rxCounter, txCounter, marker, hfound,
          hkeeps hregistered, hrx, htx, (Option.some.inj hself).symm⟩
      · rw [hinsert] at hbaseline
        exact hold ((Baselines.insert_ne s.baselines _ heq).symm.trans hbaseline)

end

/-! ## The loop -/

namespace MemberLoop

variable (acc : MemberLoop)

@[simp] theorem addCounters_state (rx tx : UInt64) : (acc.addCounters rx tx).state = acc.state := by
  unfold addCounters
  split <;> rfl

@[simp] theorem addCounters_aggregateMembers (rx tx : UInt64) :
    (acc.addCounters rx tx).aggregateMembers = acc.aggregateMembers := by
  unfold addCounters
  split <;> rfl

@[simp] theorem addCounters_aggregateContinuous (rx tx : UInt64) :
    (acc.addCounters rx tx).aggregateContinuous = acc.aggregateContinuous := by
  unfold addCounters
  split <;> rfl

theorem checkedAddU64_toNat {a b c : UInt64} (h : checkedAddU64 a b = some c) :
    c.toNat = a.toNat + b.toNat := by
  unfold checkedAddU64 at h
  split at h
  · rename_i hle
    rw [← Option.some.inj h, UInt64.toNat_add]
    refine Nat.mod_eq_of_lt ?_
    have : u64Max.toNat < 2 ^ 64 := UInt64.toNat_lt _
    omega
  · cases h

/-- The members stay complete when neither sum overflows, and then both counters
are added. -/
theorem addCounters_complete {rx tx : UInt64}
    (h : (acc.addCounters rx tx).aggregateComplete = true) :
    acc.aggregateComplete = true ∧
      (acc.addCounters rx tx).aggregateRx.toNat = acc.aggregateRx.toNat + rx.toNat ∧
      (acc.addCounters rx tx).aggregateTx.toNat = acc.aggregateTx.toNat + tx.toNat := by
  unfold addCounters at h ⊢
  split at h
  · rename_i hrx htx
    exact ⟨h, checkedAddU64_toNat hrx, checkedAddU64_toNat htx⟩
  · cases h

/-- The members stay continuous when the answer is exact. -/
theorem noteAnswer_continuous {name : String}
    {result : DatabaseResult CounterPersistenceOutcome}
    (h : (acc.noteAnswer name result).aggregateContinuous = true) :
    result = .ok .exactSample ∧ acc.aggregateContinuous = true := by
  match result with
  | .ok .exactSample => exact ⟨rfl, h⟩
  | .ok .initialized => cases h
  | .ok .gap => cases h
  | .error _ => cases h

/-- An answer changes neither the state nor the sums. -/
theorem noteAnswer_fields (name : String) (result : DatabaseResult CounterPersistenceOutcome) :
    (acc.noteAnswer name result).state = acc.state ∧
      (acc.noteAnswer name result).aggregateMembers = acc.aggregateMembers ∧
      (acc.noteAnswer name result).aggregateComplete = acc.aggregateComplete ∧
      (acc.noteAnswer name result).aggregateRx = acc.aggregateRx ∧
      (acc.noteAnswer name result).aggregateTx = acc.aggregateTx := by
  match result with
  | .ok .exactSample => exact ⟨rfl, rfl, rfl, rfl, rfl⟩
  | .ok .initialized => exact ⟨rfl, rfl, rfl, rfl, rfl⟩
  | .ok .gap => exact ⟨rfl, rfl, rfl, rfl, rfl⟩
  | .error _ => exact ⟨rfl, rfl, rfl, rfl, rfl⟩

end MemberLoop

/-- A member that a tick sampled exactly. -/
structure MemberSample where
  wanName : String
  interface : InterfaceEntry
  interfaceId : Int
  rxCounter : UInt64
  txCounter : UInt64
  previous : CounterBaseline

/-- The observation of the member. -/
def MemberSample.observation (m : MemberSample) (tick : Tick) : CounterObservation :=
  memberObservation tick.routerId tick.data m.interfaceId m.rxCounter m.txCounter

/-- The member was read in the tick, and its interval since the baseline that it
had before the tick is exact. -/
structure MemberSample.Exact (m : MemberSample) (tick : Tick) (before : PollerState)
    (db : TrafficDb) : Prop where
  found : tick.data.interfaceNamed m.wanName = some m.interface
  registered : db.Registered tick.routerId (durableInterfaceKey m.interface) m.interfaceId
  rxByte : m.interface.rxByte = some m.rxCounter
  txByte : m.interface.txByte = some m.txCounter
  baseline : before.baselines m.interfaceId = some m.previous
  classified : ∃ deltas, classifyInterval m.previous (m.observation tick) = .sample deltas

theorem MemberSample.Exact.mono {m : MemberSample} {tick : Tick} {before : PollerState}
    {db db' : TrafficDb} (h : m.Exact tick before db)
    (hkeeps : ∀ {routerId id key}, db.Registered routerId key id →
      db'.Registered routerId key id) : m.Exact tick before db' :=
  { h with registered := hkeeps h.registered }

/-- The members sampled so far, all of them exactly. -/
structure AllExact (tick : Tick) (before : PollerState) (done : List String) (acc : MemberLoop)
    (samples : List MemberSample) : Prop where
  names : samples.map (fun m => m.wanName) = done
  identifiers : samples.map (fun m => m.interfaceId) = acc.aggregateMembers
  exact : ∀ m ∈ samples, m.Exact tick before acc.state.db
  advanced : ∀ m ∈ samples, ∃ baseline, acc.state.baselines m.interfaceId = some baseline ∧
    baseline.observedAtMs = tick.data.counterSampleTime.unixMs
  rx : (samples.map (fun m => m.rxCounter.toNat)).sum = acc.aggregateRx.toNat
  tx : (samples.map (fun m => m.txCounter.toNat)).sum = acc.aggregateTx.toNat

/-- The loop after the names `done`. -/
structure Looped (tick : Tick) (before : PollerState) (done : List String) (acc : MemberLoop) :
    Prop where
  sampling : Sampling tick before acc.aggregateMembers acc.state
  exact : acc.aggregateComplete = true → acc.aggregateContinuous = true →
    ∃ samples, AllExact tick before done acc samples

section

variable {tick : Tick} {before : PollerState} {done : List String} {acc : MemberLoop}

/-- A loop that is not complete promises nothing about the members. -/
theorem Looped.incomplete (h : Sampling tick before acc.aggregateMembers acc.state)
    (hincomplete : acc.aggregateComplete = false) : Looped tick before done acc := by
  refine ⟨h, ?_⟩
  intro hcomplete
  rw [hincomplete] at hcomplete
  cases hcomplete

/-- One more exact member. -/
theorem AllExact.snoc {samples : List MemberSample} (h : AllExact tick before done acc samples)
    (hsampling : Sampling tick before acc.aggregateMembers acc.state) {m : MemberSample}
    {previous : CounterBaseline} {deltas : ExactDeltas} {marker : Option String}
    {s' : PollerState} {acc' : MemberLoop}
    (hfound : tick.data.interfaceNamed m.wanName = some m.interface)
    (hregistered : s'.db.Registered tick.routerId (durableInterfaceKey m.interface) m.interfaceId)
    (hkeeps : ∀ {routerId id key}, acc.state.db.Registered routerId key id →
      s'.db.Registered routerId key id)
    (hrx : m.interface.rxByte = some m.rxCounter) (htx : m.interface.txByte = some m.txCounter)
    (hm : m.previous = previous) (hbaseline : acc.state.baselines m.interfaceId = some previous)
    (holder : previous.observedAtMs < tick.data.counterSampleTime.unixMs)
    (hclass : classifyInterval previous (m.observation tick) = .sample deltas)
    (hbaselines : s'.baselines = acc.state.baselines.insert m.interfaceId
      (baselineFromObservation (m.observation tick) marker))
    (hstate : acc'.state = s')
    (hmembers : acc'.aggregateMembers = acc.aggregateMembers ++ [m.interfaceId])
    (hrxSum : acc'.aggregateRx.toNat = acc.aggregateRx.toNat + m.rxCounter.toNat)
    (htxSum : acc'.aggregateTx.toNat = acc.aggregateTx.toNat + m.txCounter.toNat) :
    AllExact tick before (done ++ [m.wanName]) acc' (samples ++ [m]) := by
  subst hm hstate
  -- a member that was sampled already has a baseline of this tick
  have hnew : m.interfaceId ∉ acc.aggregateMembers := by
    intro hmem
    rw [← h.identifiers] at hmem
    obtain ⟨m', hm', hid⟩ := List.mem_map.mp hmem
    obtain ⟨baseline, hsome, htime⟩ := h.advanced m' hm'
    rw [hid, hbaseline, Option.some.injEq] at hsome
    rw [← hsome] at htime
    omega
  refine ⟨?_, ?_, ?_, ?_, ?_, ?_⟩
  · rw [List.map_append, h.names]
    rfl
  · rw [List.map_append, h.identifiers, hmembers]
    rfl
  · intro m' hm'
    rcases List.mem_append.mp hm' with hm' | hm'
    · exact (h.exact m' hm').mono hkeeps
    · rw [List.mem_singleton.mp hm']
      exact ⟨hfound, hregistered, hrx, htx, (hsampling.others _ hnew).symm.trans hbaseline,
        deltas, hclass⟩
  · intro m' hm'
    rw [hbaselines]
    rcases List.mem_append.mp hm' with hm' | hm'
    · have hne : m'.interfaceId ≠ m.interfaceId := by
        intro heq
        rw [← h.identifiers, ← heq] at hnew
        exact hnew (List.mem_map_of_mem hm')
      rw [Baselines.insert_ne _ _ hne]
      exact h.advanced m' hm'
    · rw [List.mem_singleton.mp hm', Baselines.insert_self]
      exact ⟨_, rfl, rfl⟩
  · rw [List.map_append, List.sum_append, h.rx, hrxSum]
    rfl
  · rw [List.map_append, List.sum_append, h.tx, htxSum]
    rfl

/-- The loop after a registered member. -/
theorem Looped.registered (h : Looped tick before done acc) {outcomes : StorageOutcomes}
    {wanName : String} (hname : wanName ∈ tick.wanNames) {interface : InterfaceEntry}
    {interfaceId : Int} (hfound : tick.data.interfaceNamed wanName = some interface)
    (hregistered : acc.state.db.Registered tick.routerId (durableInterfaceKey interface)
      interfaceId) :
    Looped tick before (done ++ [wanName])
      (sampleRegistered outcomes tick.routerId tick.data interface interfaceId acc) := by
  have hjoined := h.sampling.join hname hfound hregistered
  have hmember : interfaceId ∈ acc.aggregateMembers ++ [interfaceId] :=
    List.mem_append_right _ (List.mem_singleton.mpr rfl)
  unfold sampleRegistered
  split
  swap
  · exact Looped.incomplete (hjoined.remove hmember) rfl
  · rename_i rxCounter txCounter hrx htx
    unfold persistMember
    cases hpersist : persistCounterObservation outcomes (memberObservation tick.routerId tick.data
        interfaceId rxCounter txCounter) acc.state with
    | mk result s' =>
        have htouches := persistCounterObservation_touches hpersist
        have hsampling := hjoined.persist hmember htouches hname hfound hregistered hrx htx
        simp only [hpersist]
        generalize hloop : ({ acc with
          state := s'
          activeInterfaceIds := interfaceId :: acc.activeInterfaceIds
          aggregateMembers := acc.aggregateMembers ++ [interfaceId] } : MemberLoop) = next
        have hstate : next.state = s' := by rw [← hloop]
        have hmembers : next.aggregateMembers = acc.aggregateMembers ++ [interfaceId] := by
          rw [← hloop]
        obtain ⟨hnoteState, hnoteMembers, hnoteComplete, hnoteRx, hnoteTx⟩ :=
          next.noteAnswer_fields interface.name result
        constructor
        · rw [MemberLoop.addCounters_state, MemberLoop.addCounters_aggregateMembers, hnoteState,
            hnoteMembers, hstate, hmembers]
          exact hsampling
        · intro hcomplete hcontinuous
          obtain ⟨hcomplete', hrxSum, htxSum⟩ := MemberLoop.addCounters_complete _ hcomplete
          rw [MemberLoop.addCounters_aggregateContinuous] at hcontinuous
          obtain ⟨rfl, hcontinuous'⟩ := MemberLoop.noteAnswer_continuous _ hcontinuous
          rw [hnoteComplete, ← hloop] at hcomplete'
          rw [← hloop] at hcontinuous'
          obtain ⟨samples, hall⟩ := h.exact hcomplete' hcontinuous'
          obtain ⟨previous, deltas, marker, hbaseline, holder, hclass, hbaselines⟩ :=
            persistCounterObservation_exact hpersist
          refine ⟨_, hall.snoc (m := ⟨wanName, interface, interfaceId, rxCounter, txCounter,
            previous⟩) h.sampling hfound
            ((registered_congr htouches.interfaces).mpr hregistered)
            (fun hold => (registered_congr htouches.interfaces).mpr hold) hrx htx rfl hbaseline
            holder hclass hbaselines ?_ ?_ ?_ ?_⟩
          · rw [MemberLoop.addCounters_state, hnoteState, hstate]
          · rw [MemberLoop.addCounters_aggregateMembers, hnoteMembers, hmembers]
          · rw [hrxSum, hnoteRx, ← hloop]
          · rw [htxSum, hnoteTx, ← hloop]

/-- The loop after one more name. -/
theorem Looped.member (h : Looped tick before done acc) (outcomes : MemberOutcomes)
    {wanName : String} (hname : wanName ∈ tick.wanNames) :
    Looped tick before (done ++ [wanName])
      (sampleMember outcomes tick.routerId tick.data wanName acc) := by
  unfold sampleMember
  cases hfound : tick.data.interfaceNamed wanName with
  | none => exact Looped.incomplete h.sampling rfl
  | some interface =>
      simp only
      cases hupsert : outcomes.upsert.run (upsertRouterInterface tick.routerId
          (durableInterfaceKey interface) interface.name "wan" interface.hardwareId
          tick.data.counterSampleTime.unixMs) acc.state.db with
      | mk answer db =>
          rcases StorageOutcome.run_cases hupsert with
            ⟨⟨e, he⟩, hdb⟩ | ⟨record, hok, hanswer⟩
          · subst he hdb
            exact Looped.incomplete h.sampling rfl
          · have hupserted := upsertRouterInterface_ok hok
            rcases hanswer with hanswer | ⟨_, e, hanswer⟩
            · subst hanswer
              have hnext : Looped tick before done
                  { acc with state := { acc.state with db := db } } := by
                refine ⟨h.sampling.upsert hupserted, ?_⟩
                intro hcomplete hcontinuous
                obtain ⟨samples, hall⟩ := h.exact hcomplete hcontinuous
                exact ⟨samples, { hall with
                  exact := fun m hm => (hall.exact m hm).mono hupserted.keeps }⟩
              exact hnext.registered hname hfound hupserted.registered
            · subst hanswer
              exact Looped.incomplete (h.sampling.upsert hupserted) rfl

/-- The whole loop. -/
theorem Looped.members (h : Looped tick before done acc) {outcomes : Nat → MemberOutcomes}
    {index : Nat} {rest : List String} (hnames : ∀ name ∈ rest, name ∈ tick.wanNames) :
    Looped tick before (done ++ rest)
      (sampleMembers outcomes tick.routerId tick.data index rest acc) := by
  induction rest generalizing done acc index with
  | nil => simpa [sampleMembers] using h
  | cons wanName rest ih =>
      have hnext := h.member (outcomes index) (hnames wanName List.mem_cons_self)
      have hrest : Looped tick before (done ++ [wanName] ++ rest)
          (sampleMembers outcomes tick.routerId tick.data (index + 1) rest
            (sampleMember (outcomes index) tick.routerId tick.data wanName acc)) :=
        ih hnext (fun name hname => hnames name (List.mem_cons_of_mem _ hname))
      rw [List.append_assoc] at hrest
      exact hrest

theorem Looped.initial (hwellFormed : before.db.InterfacesWellFormed) (aggregateId : Int) :
    Looped tick before [] (MemberLoop.start before aggregateId tick.wanNames) where
  sampling := Sampling.initial hwellFormed
  exact := fun _ _ => ⟨[], rfl, rfl, by simp, by simp, rfl, rfl⟩

end

end RouterView.Poller
