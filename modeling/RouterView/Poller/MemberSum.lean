/-
  Poller/MemberSum.lean --- the aggregate as the sum of its members.

  A tick all of whose writes succeed moves the baselines of its interfaces
  together: those of the members hold the counters that were added up for the
  aggregate's, and all of them are of the tick's time.  So the next interval of
  the aggregate starts where those of its members start, and its bytes are the
  sums of theirs: the wraps of the members and of the sum cancel modulo `2 ^ 64`.
-/
import RouterView.Poller.Aggregate

set_option autoImplicit false

namespace RouterView.Poller

open RouterView.Foundation
open RouterView.Db

/-! ## Successful ticks -/

/-- The report is that of a storage call that did not succeed. -/
def ExactTrafficError.ofStorage : ExactTrafficError → Bool
  | .unresolved _ _ => true
  | .notPersisted _ _ => true
  | .aggregateNotPersisted _ => true
  | .disappeared _ => false
  | .omittedCounter _ => false
  | .overflowed => false

/-- Every write of the tick succeeds: no registration and no
`persist_counter_observation` answers with an error. -/
def Tick.Succeeds (s : PollerState) (tick : Tick) : Prop :=
  ((persistExactTraffic tick.outcomes tick.routerId tick.data tick.wanNames s).1.toOption.any
    (fun result => result.errors.all (fun error => !error.ofStorage))) = true

instance (s : PollerState) (tick : Tick) : Decidable (tick.Succeeds s) :=
  inferInstanceAs (Decidable (_ = true))

/-- An observation that is accepted is newer than the baseline, and becomes it. -/
theorem persistCounterObservation_accepted {outcomes : StorageOutcomes}
    {observation : CounterObservation} {s s' : PollerState} {outcome : CounterPersistenceOutcome}
    (h : persistCounterObservation outcomes observation s = (.ok outcome, s')) :
    (∃ marker, s'.baselines = s.baselines.insert observation.interfaceId
      (baselineFromObservation observation marker)) ∧
    ∀ previous, s.baselines observation.interfaceId = some previous →
      previous.observedAtMs < observation.observedAtMs := by
  constructor
  · rcases persistCounterObservation_cases h with
      ⟨⟨e, he⟩, _⟩ | ⟨_, marker, db', _, ⟨_, hstate⟩ | ⟨_, ⟨e, he⟩, _⟩⟩
    · cases he
    · rw [hstate]
      exact ⟨marker, rfl⟩
    · cases he
  · intro previous hprevious
    unfold persistCounterObservation at h
    simp only [hprevious] at h
    unfold persistNextObservation at h
    split at h
    · cases h
    · rename_i hlater
      exact not_le.mp hlater

namespace MemberLoop

variable (acc : MemberLoop)

/-- No report so far is that of a storage call. -/
def Clean : Prop := ∀ error ∈ acc.errors, error.ofStorage = false

variable {acc}

theorem addCounters_clean {rx tx : UInt64} (h : (acc.addCounters rx tx).Clean) : acc.Clean := by
  intro error herror
  apply h
  unfold addCounters
  split
  · exact herror
  · exact List.mem_append_left _ herror

/-- The reports stay clean when the observation is accepted. -/
theorem noteAnswer_clean {name : String} {result : DatabaseResult CounterPersistenceOutcome}
    (h : (acc.noteAnswer name result).Clean) : acc.Clean ∧ ∃ outcome, result = .ok outcome := by
  match result with
  | .ok .exactSample => exact ⟨h, _, rfl⟩
  | .ok .initialized => exact ⟨h, _, rfl⟩
  | .ok .gap => exact ⟨h, _, rfl⟩
  | .error error =>
      have hstorage := h (.notPersisted name error)
        (List.mem_append_right _ (List.mem_singleton.mpr rfl))
      cases hstorage

@[simp] theorem addCounters_activeInterfaceIds (rx tx : UInt64) :
    (acc.addCounters rx tx).activeInterfaceIds = acc.activeInterfaceIds := by
  unfold addCounters
  split <;> rfl

@[simp] theorem noteAnswer_activeInterfaceIds (name : String)
    (result : DatabaseResult CounterPersistenceOutcome) :
    (acc.noteAnswer name result).activeInterfaceIds = acc.activeInterfaceIds := by
  match result with
  | .ok .exactSample => rfl
  | .ok .initialized => rfl
  | .ok .gap => rfl
  | .error _ => rfl

end MemberLoop

/-! ## Members that were recorded -/

/-- A member whose counters a tick recorded. -/
structure MemberReading where
  wanName : String
  interface : InterfaceEntry
  interfaceId : Int
  rxCounter : UInt64
  txCounter : UInt64

/-- The observation of the member. -/
def MemberReading.observation (m : MemberReading) (tick : Tick) : CounterObservation :=
  memberObservation tick.routerId tick.data m.interfaceId m.rxCounter m.txCounter

/-- The row is the exact sample of the member since the baseline that it had
before the tick. -/
def MemberReading.Sampled (m : MemberReading) (tick : Tick) (before : PollerState)
    (y : TrafficSample) : Prop :=
  ∃ previous deltas id, before.baselines m.interfaceId = some previous ∧
    classifyInterval previous (m.observation tick) = .sample deltas ∧
    y = { exactSample previous (m.observation tick) deltas with id := id }

/-- The members so far, all of them read and recorded. -/
structure AllRecorded (tick : Tick) (before : PollerState) (done : List String) (acc : MemberLoop)
    (readings : List MemberReading) : Prop where
  names : readings.map (fun m => m.wanName) = done
  identifiers : readings.map (fun m => m.interfaceId) = acc.aggregateMembers
  distinct : acc.aggregateMembers.Nodup
  registered : ∀ m ∈ readings, tick.data.interfaceNamed m.wanName = some m.interface ∧
    acc.state.db.Registered tick.routerId (durableInterfaceKey m.interface) m.interfaceId
  recorded : ∀ m ∈ readings, ∃ marker, acc.state.baselines m.interfaceId =
    some (baselineFromObservation (m.observation tick) marker)
  stored : ∀ y ∈ acc.state.db.trafficSamples.rows,
    y ∈ before.db.trafficSamples.rows ∨ ∃ m ∈ readings, m.Sampled tick before y
  rx : (readings.map (fun m => m.rxCounter.toNat)).sum = acc.aggregateRx.toNat
  tx : (readings.map (fun m => m.txCounter.toNat)).sum = acc.aggregateTx.toNat

/-- The loop after the names `done`: which interfaces are active, and what a
complete loop without a storage error has recorded. -/
structure Recording (tick : Tick) (aggregateId : Int) (before : PollerState) (done : List String)
    (acc : MemberLoop) : Prop where
  active : ∀ id, id ∈ acc.activeInterfaceIds ↔ id = aggregateId ∨ id ∈ acc.aggregateMembers
  recorded : acc.Clean → acc.aggregateComplete = true →
    ∃ readings, AllRecorded tick before done acc readings

section

variable {tick : Tick} {aggregateId : Int} {before : PollerState} {done : List String}
  {acc : MemberLoop} {readings : List MemberReading}

/-- A loop that is not complete has promised nothing about the members. -/
theorem Recording.incomplete {acc' : MemberLoop}
    (hactive : ∀ id, id ∈ acc'.activeInterfaceIds ↔ id = aggregateId ∨ id ∈ acc'.aggregateMembers)
    (hincomplete : acc'.aggregateComplete = false) :
    Recording tick aggregateId before done acc' := by
  refine ⟨hactive, ?_⟩
  intro _ hcomplete
  rw [hincomplete] at hcomplete
  cases hcomplete

/-- One more member is recorded. -/
theorem AllRecorded.snoc (h : AllRecorded tick before done acc readings)
    (hsampling : Sampling tick before acc.aggregateMembers acc.state) {m : MemberReading}
    (hfound : tick.data.interfaceNamed m.wanName = some m.interface)
    (hregistered : acc.state.db.Registered tick.routerId (durableInterfaceKey m.interface)
      m.interfaceId)
    {outcomes : StorageOutcomes} {outcome : CounterPersistenceOutcome} {s' : PollerState}
    (hpersist : persistCounterObservation outcomes (m.observation tick) acc.state =
      (.ok outcome, s'))
    {acc' : MemberLoop} (hstate : acc'.state = s')
    (hmembers : acc'.aggregateMembers = acc.aggregateMembers ++ [m.interfaceId])
    (hrxSum : acc'.aggregateRx.toNat = acc.aggregateRx.toNat + m.rxCounter.toNat)
    (htxSum : acc'.aggregateTx.toNat = acc.aggregateTx.toNat + m.txCounter.toNat) :
    AllRecorded tick before (done ++ [m.wanName]) acc' (readings ++ [m]) := by
  subst hstate
  obtain ⟨⟨marker, hbaselines⟩, hlater⟩ := persistCounterObservation_accepted hpersist
  have hinterfaces := (persistCounterObservation_touches hpersist).interfaces
  -- a member that was recorded already has a baseline of this tick
  have hnew : m.interfaceId ∉ acc.aggregateMembers := by
    intro hmem
    rw [← h.identifiers] at hmem
    obtain ⟨m', hm', hid⟩ := List.mem_map.mp hmem
    obtain ⟨marker', hsome⟩ := h.recorded m' hm'
    rw [hid] at hsome
    exact absurd (hlater _ hsome) (lt_irrefl _)
  refine ⟨?_, ?_, ?_, ?_, ?_, ?_, ?_, ?_⟩
  · rw [List.map_append, h.names]
    rfl
  · rw [List.map_append, h.identifiers, hmembers]
    rfl
  · rw [hmembers]
    exact List.Nodup.append h.distinct (List.nodup_singleton _)
      (List.disjoint_singleton.mpr hnew)
  · intro m' hm'
    rw [registered_congr hinterfaces]
    rcases List.mem_append.mp hm' with hm' | hm'
    · exact h.registered m' hm'
    · rw [List.mem_singleton.mp hm']
      exact ⟨hfound, hregistered⟩
  · intro m' hm'
    rw [hbaselines]
    rcases List.mem_append.mp hm' with hm' | hm'
    · have hne : m'.interfaceId ≠ m.interfaceId := by
        intro heq
        rw [← h.identifiers, ← heq] at hnew
        exact hnew (List.mem_map_of_mem hm')
      have hkept : acc.state.baselines.insert m.interfaceId
          (baselineFromObservation (m.observation tick) marker) m'.interfaceId =
          acc.state.baselines m'.interfaceId := Baselines.insert_ne _ _ hne
      obtain ⟨marker', hsome⟩ := h.recorded m' hm'
      exact ⟨marker', hkept.trans hsome⟩
    · rw [List.mem_singleton.mp hm']
      exact ⟨marker, Baselines.insert_self _ _ _⟩
  · intro y hy
    by_cases hold : y ∈ acc.state.db.trafficSamples.rows
    · rcases h.stored y hold with hbefore | ⟨m', hm', hsampled⟩
      · exact Or.inl hbefore
      · exact Or.inr ⟨m', List.mem_append_left _ hm', hsampled⟩
    · obtain ⟨previous, deltas, id, hprevious, hclass, hrow⟩ :=
        persistCounterObservation_stored hpersist hy hold
      refine Or.inr ⟨m, List.mem_append_right _ (List.mem_singleton.mpr rfl), previous, deltas, id,
        ?_, hclass, hrow⟩
      exact (hsampling.others _ hnew).symm.trans hprevious
  · rw [List.map_append, List.sum_append, h.rx, hrxSum]
    rfl
  · rw [List.map_append, List.sum_append, h.tx, htxSum]
    rfl

/-- The identifiers of one more member. -/
theorem Recording.active_join (h : Recording tick aggregateId before done acc)
    (interfaceId id : Int) : id ∈ interfaceId :: acc.activeInterfaceIds ↔
      id = aggregateId ∨ id ∈ acc.aggregateMembers ++ [interfaceId] := by
  rw [List.mem_cons, h.active, List.mem_append, List.mem_singleton]
  tauto

/-- The loop after a registered member. -/
theorem Recording.registered (h : Recording tick aggregateId before done acc)
    (hsampling : Sampling tick before acc.aggregateMembers acc.state) {outcomes : StorageOutcomes}
    {wanName : String} {interface : InterfaceEntry} {interfaceId : Int}
    (hfound : tick.data.interfaceNamed wanName = some interface)
    (hregistered : acc.state.db.Registered tick.routerId (durableInterfaceKey interface)
      interfaceId) :
    Recording tick aggregateId before (done ++ [wanName])
      (sampleRegistered outcomes tick.routerId tick.data interface interfaceId acc) := by
  unfold sampleRegistered
  split
  swap
  · exact Recording.incomplete (h.active_join interfaceId) rfl
  · rename_i rxCounter txCounter hrx htx
    unfold persistMember
    cases hpersist : persistCounterObservation outcomes (memberObservation tick.routerId tick.data
        interfaceId rxCounter txCounter) acc.state with
    | mk result s' =>
        simp only [hpersist]
        generalize hloop : ({ acc with
          state := s'
          activeInterfaceIds := interfaceId :: acc.activeInterfaceIds
          aggregateMembers := acc.aggregateMembers ++ [interfaceId] } : MemberLoop) = next
        obtain ⟨hnoteState, hnoteMembers, hnoteComplete, hnoteRx, hnoteTx⟩ :=
          next.noteAnswer_fields interface.name result
        constructor
        · intro id
          rw [MemberLoop.addCounters_activeInterfaceIds, MemberLoop.noteAnswer_activeInterfaceIds,
            MemberLoop.addCounters_aggregateMembers, hnoteMembers, ← hloop]
          exact h.active_join interfaceId id
        · intro hclean hcomplete
          obtain ⟨hcomplete', hrxSum, htxSum⟩ := MemberLoop.addCounters_complete _ hcomplete
          obtain ⟨hclean', outcome, hok⟩ :=
            MemberLoop.noteAnswer_clean (MemberLoop.addCounters_clean hclean)
          rw [hok] at hpersist
          rw [hnoteComplete, ← hloop] at hcomplete'
          rw [← hloop] at hclean'
          obtain ⟨readings, hall⟩ := h.recorded hclean' hcomplete'
          refine ⟨_, hall.snoc (m := ⟨wanName, interface, interfaceId, rxCounter, txCounter⟩)
            hsampling hfound hregistered hpersist ?_ ?_ ?_ ?_⟩
          · rw [MemberLoop.addCounters_state, hnoteState, ← hloop]
          · rw [MemberLoop.addCounters_aggregateMembers, hnoteMembers, ← hloop]
          · rw [hrxSum, hnoteRx, ← hloop]
          · rw [htxSum, hnoteTx, ← hloop]

/-- A registration keeps what was recorded. -/
theorem AllRecorded.upsert (h : AllRecorded tick before done acc readings) {routerId : Int}
    {key : String} {record : RouterInterfaceRecord} {db' : TrafficDb}
    (hupserted : Upserted acc.state.db routerId key record db') :
    AllRecorded tick before done { acc with state := { acc.state with db := db' } } readings where
  names := h.names
  identifiers := h.identifiers
  distinct := h.distinct
  registered := fun m hm => ⟨(h.registered m hm).1, hupserted.keeps (h.registered m hm).2⟩
  recorded := h.recorded
  stored := by
    simp only [hupserted.sameTraffic.samples]
    exact h.stored
  rx := h.rx
  tx := h.tx

/-- The loop after one more name. -/
theorem Recording.member (h : Recording tick aggregateId before done acc)
    (hsampling : Sampling tick before acc.aggregateMembers acc.state) (outcomes : MemberOutcomes)
    (wanName : String) :
    Recording tick aggregateId before (done ++ [wanName])
      (sampleMember outcomes tick.routerId tick.data wanName acc) := by
  unfold sampleMember
  cases hfound : tick.data.interfaceNamed wanName with
  | none => exact Recording.incomplete h.active rfl
  | some interface =>
      simp only
      cases hupsert : outcomes.upsert.run (upsertRouterInterface tick.routerId
          (durableInterfaceKey interface) interface.name "wan" interface.hardwareId
          tick.data.counterSampleTime.unixMs) acc.state.db with
      | mk answer db =>
          rcases StorageOutcome.run_cases hupsert with
            ⟨⟨e, he⟩, hdb⟩ | ⟨record, hok, hanswer⟩
          · subst he hdb
            exact Recording.incomplete h.active rfl
          · have hupserted := upsertRouterInterface_ok hok
            rcases hanswer with hanswer | ⟨_, e, hanswer⟩
            · subst hanswer
              have hsampled : Sampling tick before acc.aggregateMembers
                  { acc.state with db := db } := hsampling.upsert hupserted
              have hnext : Recording tick aggregateId before done
                  { acc with state := { acc.state with db := db } } := by
                refine ⟨h.active, ?_⟩
                intro hclean hcomplete
                obtain ⟨readings, hall⟩ := h.recorded hclean hcomplete
                exact ⟨readings, hall.upsert hupserted⟩
              exact hnext.registered hsampled hfound hupserted.registered
            · subst hanswer
              exact Recording.incomplete h.active rfl

/-- The whole loop. -/
theorem Recording.members (h : Recording tick aggregateId before done acc)
    (hlooped : Looped tick before done acc) {outcomes : Nat → MemberOutcomes} {index : Nat}
    {rest : List String} (hnames : ∀ name ∈ rest, name ∈ tick.wanNames) :
    Recording tick aggregateId before (done ++ rest)
      (sampleMembers outcomes tick.routerId tick.data index rest acc) := by
  induction rest generalizing done acc index with
  | nil => simpa [sampleMembers] using h
  | cons wanName rest ih =>
      have hnext := h.member hlooped.sampling (outcomes index) wanName
      have hlooped' := hlooped.member (outcomes index) (hnames wanName List.mem_cons_self)
      have hrest : Recording tick aggregateId before (done ++ [wanName] ++ rest)
          (sampleMembers outcomes tick.routerId tick.data (index + 1) rest
            (sampleMember (outcomes index) tick.routerId tick.data wanName acc)) :=
        ih hnext hlooped' (fun name hname => hnames name (List.mem_cons_of_mem _ hname))
      rw [List.append_assoc] at hrest
      exact hrest

theorem Recording.initial (aggregateId : Int) (before : PollerState) :
    Recording tick aggregateId before []
      (MemberLoop.start before aggregateId tick.wanNames) where
  active := fun id => by simp [MemberLoop.start]
  recorded := fun _ _ => ⟨[], rfl, rfl, List.nodup_nil, by simp, by simp,
    fun _ hy => Or.inl hy, rfl, rfl⟩

end

/-! ## After a successful tick -/

/-- A successful tick: the aggregate is registered, the loop records every
member, and the aggregate is recorded when they are complete. -/
structure Ticked.Recorded {tick : Tick} {s before mid : PollerState} {aggregateId : Int}
    {acc : MemberLoop} (h : Ticked tick s aggregateId before acc mid) : Prop where
  members : Recording tick aggregateId before tick.wanNames acc
  clean : acc.Clean
  aggregate : acc.aggregateComplete = true → ∃ marker, mid.baselines =
    acc.state.baselines.insert aggregateId
      (baselineFromObservation (aggregateObservation tick.routerId tick.data aggregateId acc)
        marker)
  step : tickStep s tick =
    { mid with baselines := mid.baselines.retain (fun id => acc.activeInterfaceIds.contains id) }

/-- The record of the aggregate, when no storage call reports an error. -/
theorem persistAggregate_clean {outcomes : StorageOutcomes} {routerId : Int} {data : RouterData}
    {aggregateId : Int} {acc : MemberLoop}
    (h : ∀ error ∈ (persistAggregate outcomes routerId data aggregateId acc).1,
      error.ofStorage = false) :
    acc.Clean ∧ (acc.aggregateComplete = true → ∃ marker,
      (persistAggregate outcomes routerId data aggregateId acc).2.baselines =
        acc.state.baselines.insert aggregateId
          (baselineFromObservation (aggregateObservation routerId data aggregateId acc)
            marker)) := by
  unfold persistAggregate at h ⊢
  cases hcomplete : acc.aggregateComplete with
  | false =>
      rw [hcomplete] at h
      exact ⟨h, fun hcontra => by cases hcontra⟩
  | true =>
      rw [hcomplete] at h
      simp only [if_true] at h ⊢
      cases hpersist : persistCounterObservation outcomes
          (aggregateObservation routerId data aggregateId acc) acc.state with
      | mk result state => cases result with
        | ok outcome =>
            rw [hpersist] at h
            exact ⟨h, fun _ => (persistCounterObservation_accepted hpersist).1⟩
        | error e =>
            rw [hpersist] at h
            have hstorage := h (.aggregateNotPersisted e)
              (List.mem_append_right _ (List.mem_singleton.mpr rfl))
            cases hstorage

/-- The inversion of a successful tick. -/
theorem Tick.Succeeds.ticked {tick : Tick} {s : PollerState}
    (hwellFormed : s.db.InterfacesWellFormed) (h : tick.Succeeds s) :
    ∃ aggregateId before acc mid, ∃ hticked : Ticked tick s aggregateId before acc mid,
      hticked.Recorded := by
  unfold Tick.Succeeds persistExactTraffic at h
  cases hupsert : tick.outcomes.aggregateUpsert.run (upsertRouterInterface tick.routerId
      aggregateInterfaceKey "Aggregate" "aggregate" none tick.data.counterSampleTime.unixMs)
      s.db with
  | mk answer db =>
      rw [hupsert] at h
      rcases StorageOutcome.run_cases hupsert with ⟨⟨e, he⟩, hdb⟩ | ⟨record, hok, hanswer⟩
      · subst he
        cases h
      · have hupserted := upsertRouterInterface_ok hok
        rcases hanswer with hanswer | ⟨_, e, hanswer⟩
        · subst hanswer
          have hlooped : Looped tick { s with db := db } tick.wanNames
              (sampleMembers tick.outcomes.members tick.routerId tick.data 0 tick.wanNames
                (MemberLoop.start { s with db := db } record.id tick.wanNames)) :=
            (Looped.initial (hupserted.wellFormed hwellFormed) record.id).members
              (fun _ hname => hname)
          have hrecording : Recording tick record.id { s with db := db } tick.wanNames
              (sampleMembers tick.outcomes.members tick.routerId tick.data 0 tick.wanNames
                (MemberLoop.start { s with db := db } record.id tick.wanNames)) :=
            (Recording.initial record.id { s with db := db }).members
              (Looped.initial (hupserted.wellFormed hwellFormed) record.id)
              (fun _ hname => hname)
          simp only [Except.toOption, Option.any_some, List.all_eq_true, Bool.not_eq_true'] at h
          obtain ⟨hclean, haggregate⟩ := persistAggregate_clean h
          refine ⟨record.id, { s with db := db }, _, _, ⟨hupserted.registered, hupserted.keeps, rfl,
            hupserted.sameTraffic.samples, hlooped, persistAggregate_cases _ _ _ _ _⟩, hrecording,
            hclean, haggregate, ?_⟩
          unfold tickStep persistExactTraffic
          rw [hupsert]
        · subst hanswer
          cases h

/-- The baselines were taken together: that of an aggregate holds the sums of the
counters in those of the members that the last tick sampled, which are of the
same time. -/
def TakenTogether (last : Tick) (s : PollerState) : Prop :=
  ∀ routerId aggregateId baseline, s.db.Registered routerId aggregateInterfaceKey aggregateId →
    s.baselines aggregateId = some baseline →
    ∃ readings : List MemberReading,
      memberIds s.db last = readings.map (fun m => m.interfaceId) ∧
      (readings.map (fun m => m.interfaceId)).Nodup ∧
      (∀ m ∈ readings, ∃ marker, s.baselines m.interfaceId =
        some (baselineFromObservation (m.observation last) marker)) ∧
      baseline.observedAtMs = last.data.counterSampleTime.unixMs ∧
      (readings.map (fun m => m.rxCounter.toNat)).sum = baseline.rxCounter.toNat ∧
      (readings.map (fun m => m.txCounter.toNat)).sum = baseline.txCounter.toNat

section

variable {tick : Tick} {s before mid : PollerState} {aggregateId : Int} {acc : MemberLoop}
  {readings : List MemberReading}

/-- The members are those whose names the database resolves after the tick. -/
theorem AllRecorded.memberId_eq (h : AllRecorded tick before tick.wanNames acc readings)
    (hticked : Ticked tick s aggregateId before acc mid) {m : MemberReading} (hm : m ∈ readings) :
    memberId mid.db tick m.wanName = some m.interfaceId := by
  obtain ⟨hfound, hregistered⟩ := h.registered m hm
  have hwellFormed := wellFormed_congr hticked.interfaces hticked.looped.sampling.wellFormed
  simp only [memberId, hfound, Option.bind_some]
  exact interfaceByKey_of_registered hwellFormed
    ((registered_congr hticked.interfaces).mpr hregistered)

theorem AllRecorded.memberIds_eq (h : AllRecorded tick before tick.wanNames acc readings)
    (hticked : Ticked tick s aggregateId before acc mid) :
    memberIds mid.db tick = readings.map (fun m => m.interfaceId) := by
  unfold memberIds
  rw [← h.names, List.filterMap_map, ← List.filterMap_eq_map]
  apply List.filterMap_congr
  intro m hm
  exact h.memberId_eq hticked hm

/-- A successful tick takes the baselines together. -/
theorem Tick.Succeeds.takenTogether (hwellFormed : s.db.InterfacesWellFormed)
    (h : tick.Succeeds s) : TakenTogether tick (tickStep s tick) := by
  obtain ⟨aggregateId, before, acc, mid, hticked, hrecorded⟩ := h.ticked hwellFormed
  rw [hrecorded.step]
  intro routerId id baseline hregistered hsome
  have hsampling := hticked.looped.sampling
  have hretained : id ∈ acc.activeInterfaceIds ∧ mid.baselines id = some baseline := by
    simp only [Baselines.retain, List.contains_iff_mem] at hsome
    split at hsome
    · exact ⟨‹_›, hsome⟩
    · cases hsome
  obtain ⟨hactive, hbaseline⟩ := hretained
  -- the only aggregate that keeps a baseline is the one of the tick
  have hid : id = aggregateId := by
    rcases (hrecorded.members.active id).mp hactive with hid | hmember
    · exact hid
    · exact absurd hmember
        (hsampling.not_member ((registered_congr hticked.interfaces).mp hregistered))
  subst hid
  have hcomplete : acc.aggregateComplete = true := by
    rcases hticked.aggregate with ⟨_, hmid⟩ | ⟨hcomplete, _⟩
    · rw [hmid] at hbaseline
      simp [Baselines.remove] at hbaseline
    · exact hcomplete
  obtain ⟨readings, hall⟩ := hrecorded.members.recorded hrecorded.clean hcomplete
  obtain ⟨marker, hinsert⟩ := hrecorded.aggregate hcomplete
  have hself : baselineFromObservation (aggregateObservation tick.routerId tick.data id acc)
      marker = baseline := by
    rw [hinsert, Baselines.insert_self, Option.some.injEq] at hbaseline
    exact hbaseline
  have hids := hall.memberIds_eq hticked
  refine ⟨readings, hids, hall.identifiers ▸ hall.distinct, ?_, ?_, ?_, ?_⟩
  · intro m hm
    have hmember : m.interfaceId ∈ acc.aggregateMembers := by
      rw [← hall.identifiers]
      exact List.mem_map_of_mem hm
    have hkept : m.interfaceId ∈ acc.activeInterfaceIds :=
      (hrecorded.members.active _).mpr (Or.inr hmember)
    have hne : m.interfaceId ≠ id := by
      intro heq
      exact hsampling.not_member hticked.aggregate_registered (heq ▸ hmember)
    obtain ⟨start, hstart⟩ := hall.recorded m hm
    refine ⟨start, ?_⟩
    have hinserted : mid.baselines m.interfaceId = acc.state.baselines m.interfaceId := by
      rw [hinsert, Baselines.insert_ne _ _ hne]
    simp only [Baselines.retain, List.contains_iff_mem, hkept, if_true, hinserted]
    exact hstart
  · rw [← hself]
    rfl
  · rw [hall.rx, ← hself]
    rfl
  · rw [hall.tx, ← hself]
    rfl

end

/-! ## What a tick stores -/

/-- The tick stores the row. -/
def Tick.Stores (s : PollerState) (tick : Tick) (x : TrafficSample) : Prop :=
  x ∈ (tickStep s tick).db.trafficSamples.rows ∧ x ∉ s.db.trafficSamples.rows

instance (s : PollerState) (tick : Tick) (x : TrafficSample) : Decidable (tick.Stores s x) :=
  inferInstanceAs (Decidable (_ ∧ _))

/-- The tick stores the row for the WAN interface of the name. -/
def Tick.StoresFor (s : PollerState) (tick : Tick) (wanName : String) (y : TrafficSample) : Prop :=
  tick.Stores s y ∧ memberId (tickStep s tick).db tick wanName = some y.interfaceId

/-- The tick stores the row for an aggregate. -/
def Tick.StoresAggregate (s : PollerState) (tick : Tick) (x : TrafficSample) : Prop :=
  tick.Stores s x ∧ ∃ routerId,
    (tickStep s tick).db.Registered routerId aggregateInterfaceKey x.interfaceId

/-- The two ticks sample the same interfaces. -/
def SameMembership (s : PollerState) (last tick : Tick) : Prop :=
  ∀ id, id ∈ memberIds s.db last ↔ id ∈ memberIds (tickStep s tick).db tick

theorem SameMembership.of_eq {s : PollerState} {last tick : Tick}
    (h : memberIds s.db last = memberIds (tickStep s tick).db tick) :
    SameMembership s last tick := by
  intro id
  rw [h]

section

variable {tick : Tick} {s before mid : PollerState} {aggregateId : Int} {acc : MemberLoop}
  {readings : List MemberReading}

/-- The row that a successful tick stores for a member is its exact sample since
the baseline that it had. -/
theorem AllRecorded.storesFor (h : AllRecorded tick before tick.wanNames acc readings)
    (hticked : Ticked tick s aggregateId before acc mid) (hrecorded : hticked.Recorded)
    {m : MemberReading} (hm : m ∈ readings) {y : TrafficSample}
    (hy : tick.StoresFor s m.wanName y) : m.Sampled tick before y := by
  obtain ⟨⟨hstored, hnew⟩, hid⟩ := hy
  rw [hrecorded.step] at hstored hid
  have hmember : y.interfaceId = m.interfaceId :=
    Option.some.inj (hid.symm.trans (h.memberId_eq hticked hm))
  have hne : y.interfaceId ≠ aggregateId := by
    intro heq
    apply hticked.looped.sampling.not_member hticked.aggregate_registered
    rw [← h.identifiers, ← heq, hmember]
    exact List.mem_map_of_mem hm
  have hloop : y ∈ acc.state.db.trafficSamples.rows := by
    rcases hticked.aggregate with ⟨_, hmid⟩ | ⟨_, result, hpersist⟩
    · rw [hmid] at hstored
      exact hstored
    · rcases (persistCounterObservation_touches hpersist).samples y hstored with hloop | hself
      · exact hloop
      · exact absurd hself hne
  rcases h.stored y hloop with hold | ⟨m', hm', hsampled⟩
  · rw [hticked.samples] at hold
    exact absurd hold hnew
  · have hrow : y.interfaceId = m'.interfaceId := by
      obtain ⟨_, _, _, _, _, hrow⟩ := hsampled
      rw [hrow]
      rfl
    have hdistinct : (readings.map (fun m => m.interfaceId)).Nodup := h.identifiers ▸ h.distinct
    have hsame : m' = m := List.inj_on_of_nodup_map hdistinct hm' hm (hrow.symm.trans hmember)
    rwa [hsame] at hsampled

end

/-- The counter of received bytes in a baseline. -/
def baselineRx (s : PollerState) (interfaceId : Int) : UInt64 :=
  ((s.baselines interfaceId).map (fun previous => previous.rxCounter)).getD 0

/-- The counter of sent bytes in a baseline. -/
def baselineTx (s : PollerState) (interfaceId : Int) : UInt64 :=
  ((s.baselines interfaceId).map (fun previous => previous.txCounter)).getD 0

/-- The row has the span, and the bytes that the member's counters moved by since
its baseline. -/
structure MemberReading.Covers (m : MemberReading) (s : PollerState)
    (startedAtMs endedAtMs : Int) (y : TrafficSample) : Prop where
  started : y.startedAtMs = startedAtMs
  ended : y.endedAtMs = endedAtMs
  download : y.downloadBytes = (counterDelta (baselineRx s m.interfaceId) m.rxCounter : Nat)
  upload : y.uploadBytes = (counterDelta (baselineTx s m.interfaceId) m.txCounter : Nat)

/-- A sample of a member covers the time since its baseline. -/
theorem MemberReading.Sampled.covers {m : MemberReading} {tick : Tick} {s : PollerState}
    {y : TrafficSample} (h : m.Sampled tick s y) {start : CounterBaseline}
    (hstart : s.baselines m.interfaceId = some start) :
    m.Covers s start.observedAtMs tick.data.counterSampleTime.unixMs y := by
  obtain ⟨previous, deltas, id, hprevious, hclass, rfl⟩ := h
  have hsame : previous = start := Option.some.inj (hprevious.symm.trans hstart)
  subst hsame
  obtain ⟨_, _, _, hdownload, hupload⟩ := classifyInterval_sample hclass
  refine ⟨rfl, rfl, ?_, ?_⟩
  · simp only [baselineRx, hprevious, Option.map_some, Option.getD_some]
    exact hdownload
  · simp only [baselineTx, hprevious, Option.map_some, Option.getD_some]
    exact hupload

/-- Two lists that agree element by element have one sum. -/
theorem sum_of_forall₂ {α β : Type} {R : α → β → Prop} {f : α → Nat} {g : β → Int}
    {l : List α} {rows : List β} (h : List.Forall₂ R l rows)
    (heq : ∀ a b, R a b → g b = (f a : Nat)) : (rows.map g).sum = ((l.map f).sum : Nat) := by
  induction h with
  | nil => rfl
  | cons hab _ ih =>
      rw [List.map_cons, List.sum_cons, List.map_cons, List.sum_cons, ih, heq _ _ hab]
      push_cast
      rfl

/-- The sums over two ticks of what the same interfaces hold. -/
theorem sum_of_perm {α β : Type} {l : List α} {l' : List β} {idOf : α → Int} {idOf' : β → Int}
    {value : α → Nat} (view : Int → Nat)
    (hperm : (l.map idOf).Perm (l'.map idOf')) (hview : ∀ a ∈ l, view (idOf a) = value a) :
    (l.map value).sum = (l'.map (fun b => view (idOf' b))).sum := by
  have hleft : l.map value = (l.map idOf).map view := by
    rw [List.map_map]
    exact List.map_congr_left (fun a ha => (hview a ha).symm)
  have hright : l'.map (fun b => view (idOf' b)) = (l'.map idOf').map view := by
    rw [List.map_map]
    rfl
  rw [hleft, hright]
  exact (hperm.map view).sum_eq

/-! ## The sum -/

/-- From baselines that were taken together, a successful tick over the same
members stores for the aggregate the sum of what it stores for them. -/
theorem TakenTogether.sum {earlier : List Tick} {s : PollerState} (hknown : Known earlier s)
    {last tick : Tick} (htogether : TakenTogether last s) (hsucceeds : tick.Succeeds s)
    (hmembership : SameMembership s last tick) {rows : List TrafficSample}
    (hrows : List.Forall₂ (tick.StoresFor s) tick.wanNames rows) {x : TrafficSample}
    (hx : tick.StoresAggregate s x)
    (hdownload : (rows.map (fun y => y.downloadBytes)).sum < 2 ^ 63)
    (hupload : (rows.map (fun y => y.uploadBytes)).sum < 2 ^ 63) :
    (∀ y ∈ rows, y.startedAtMs = x.startedAtMs ∧ y.endedAtMs = x.endedAtMs) ∧
      x.downloadBytes = (rows.map (fun y => y.downloadBytes)).sum ∧
      x.uploadBytes = (rows.map (fun y => y.uploadBytes)).sum := by
  obtain ⟨aggregateId, before, acc, mid, hticked, hrecorded⟩ :=
    hsucceeds.ticked hknown.wellFormed
  obtain ⟨⟨hstored, hnew⟩, router, hregistered⟩ := hx
  rw [hrecorded.step] at hstored hregistered
  obtain ⟨hcomplete, baseline, deltas, id, hbaseline, hclass, hrow⟩ :=
    hticked.stored hstored hnew hregistered
  obtain ⟨readings, hall⟩ := hrecorded.members.recorded hrecorded.clean hcomplete
  obtain ⟨taken, hids, hdistinct, hbaselines, htime, hrx, htx⟩ :=
    htogether _ _ _ (hticked.aggregate_known hknown hbaseline) hbaseline
  have hperm : (taken.map (fun m => m.interfaceId)).Perm
      (readings.map (fun m => m.interfaceId)) := by
    have hnow : (readings.map (fun m => m.interfaceId)).Nodup := hall.identifiers ▸ hall.distinct
    refine (List.perm_ext_iff_of_nodup hdistinct hnow).mpr ?_
    intro interfaceId
    have hsame := hmembership interfaceId
    rw [hrecorded.step] at hsame
    rwa [hids, hall.memberIds_eq hticked] at hsame
  -- every member starts from the baseline that the last tick took
  have hstart : ∀ m ∈ readings, ∃ start, s.baselines m.interfaceId = some start ∧
      start.observedAtMs = baseline.observedAtMs := by
    intro m hm
    have hmem : m.interfaceId ∈ taken.map (fun m => m.interfaceId) :=
      hperm.mem_iff.mpr (List.mem_map_of_mem hm)
    obtain ⟨m', hm', hid⟩ := List.mem_map.mp hmem
    obtain ⟨marker, hsome⟩ := hbaselines m' hm'
    rw [hid] at hsome
    exact ⟨_, hsome, htime.symm⟩
  have hrxSum : baseline.rxCounter.toNat =
      (readings.map (fun m => (baselineRx s m.interfaceId).toNat)).sum := by
    rw [← hrx]
    refine sum_of_perm (fun id => (baselineRx s id).toNat) hperm ?_
    intro m hm
    obtain ⟨marker, hsome⟩ := hbaselines m hm
    simp only [baselineRx, hsome]
    rfl
  have htxSum : baseline.txCounter.toNat =
      (readings.map (fun m => (baselineTx s m.interfaceId).toNat)).sum := by
    rw [← htx]
    refine sum_of_perm (fun id => (baselineTx s id).toNat) hperm ?_
    intro m hm
    obtain ⟨marker, hsome⟩ := hbaselines m hm
    simp only [baselineTx, hsome]
    rfl
  have hpairs : List.Forall₂
      (fun m => m.Covers s baseline.observedAtMs tick.data.counterSampleTime.unixMs)
      readings rows := by
    rw [← hall.names, List.forall₂_map_left_iff] at hrows
    refine List.forall₂_iff_get.mpr ⟨hrows.length_eq, ?_⟩
    intro i hi hi'
    have hm := List.get_mem readings ⟨i, hi⟩
    have hsampled := hall.storesFor hticked hrecorded hm (hrows.get hi hi')
    rw [MemberReading.Sampled, hticked.baselines] at hsampled
    obtain ⟨start, hsome, hat⟩ := hstart _ hm
    rw [← hat]
    exact MemberReading.Sampled.covers hsampled hsome
  have hdownloads := sum_of_forall₂ (g := fun y : TrafficSample => y.downloadBytes) hpairs
    (fun m y h => h.download)
  have huploads := sum_of_forall₂ (g := fun y : TrafficSample => y.uploadBytes) hpairs
    (fun m y h => h.upload)
  obtain ⟨_, _, _, hdownloadBytes, huploadBytes⟩ := classifyInterval_sample hclass
  refine ⟨?_, ?_, ?_⟩
  · intro y hy
    obtain ⟨i, hi⟩ := List.mem_iff_get.mp hy
    have hlt : i.val < readings.length := by
      rw [hpairs.length_eq]
      exact i.isLt
    have hcovers := hpairs.get hlt i.isLt
    rw [← hi, hrow]
    exact ⟨hcovers.started, hcovers.ended⟩
  · rw [hdownloads] at hdownload ⊢
    rw [← counterDelta_sum hrxSum hall.rx (by exact_mod_cast hdownload), hrow]
    exact hdownloadBytes
  · rw [huploads] at hupload ⊢
    rw [← counterDelta_sum htxSum hall.tx (by exact_mod_cast hupload), hrow]
    exact huploadBytes

/-- In a run of successful ticks, whenever a tick over the members of the tick
before stores a sample for each of them and one for the aggregate, the
aggregate's has the span of theirs and the sums of their bytes. -/
theorem aggregate_is_sum_of_members {s : PollerState} (hwellFormed : s.db.InterfacesWellFormed)
    (hfresh : ∀ id, s.baselines id = none) {earlier : List Tick} {last tick : Tick}
    (hsucceeds : Along tickStep Tick.Succeeds s (earlier ++ [last, tick]))
    (hmembership : SameMembership (run tickStep s (earlier ++ [last])) last tick)
    {rows : List TrafficSample}
    (hrows : List.Forall₂ (tick.StoresFor (run tickStep s (earlier ++ [last]))) tick.wanNames rows)
    {x : TrafficSample} (hx : tick.StoresAggregate (run tickStep s (earlier ++ [last])) x)
    (hdownload : (rows.map (fun y => y.downloadBytes)).sum < 2 ^ 63)
    (hupload : (rows.map (fun y => y.uploadBytes)).sum < 2 ^ 63) :
    (∀ y ∈ rows, y.startedAtMs = x.startedAtMs ∧ y.endedAtMs = x.endedAtMs) ∧
      x.downloadBytes = (rows.map (fun y => y.downloadBytes)).sum ∧
      x.uploadBytes = (rows.map (fun y => y.uploadBytes)).sum := by
  obtain ⟨_, hlast, htick, _⟩ := Along.append.mp hsucceeds
  have hknown := Known.run hwellFormed hfresh (earlier ++ [last])
  rw [run_append] at hknown hmembership hrows hx
  have htogether := hlast.takenTogether (Known.run hwellFormed hfresh earlier).wellFormed
  exact htogether.sum hknown htick hmembership hrows hx hdownload hupload

/-- The row of an interface over the ten seconds between two readings. -/
def wrapRow (id interfaceId : Int) (bytes : Nat) : TrafficSample :=
  { id := id, routerId := 1, interfaceId := interfaceId, startedAtMs := 60000, endedAtMs := 70000,
    durationMs := 10000, downloadBytes := bytes, uploadBytes := 0,
    downloadBps := .finite ((bytes : Rat) * 8 / 10), uploadBps := .finite 0, quality := .exact,
    source := exactTrafficSource }

/-- The second reading finds the counter of `ether1`, and with it the sum of the
two, wrapped past `2 ^ 64`. -/
theorem aggregate_is_sum_of_members_wrapped :
    (∀ y ∈ [wrapRow 1 2 14, wrapRow 2 3 1], y.startedAtMs = (wrapRow 3 1 15).startedAtMs ∧
        y.endedAtMs = (wrapRow 3 1 15).endedAtMs) ∧
      (wrapRow 3 1 15).downloadBytes =
        ([wrapRow 1 2 14, wrapRow 2 3 1].map (fun y => y.downloadBytes)).sum ∧
      (wrapRow 3 1 15).uploadBytes =
        ([wrapRow 1 2 14, wrapRow 2 3 1].map (fun y => y.uploadBytes)).sum :=
  @aggregate_is_sum_of_members ⟨TrafficDb.withRouter, Baselines.empty⟩
    ⟨by decide, by decide, by decide⟩ (fun _ => rfl) []
    (twoMemberTick 60 18446744073709551606 5 .committed) (twoMemberTick 70 4 6 .committed)
    (by decide +kernel) (SameMembership.of_eq (by decide +kernel)) _
    (.cons ⟨by decide +kernel, by decide +kernel⟩
      (.cons ⟨by decide +kernel, by decide +kernel⟩ .nil))
    _
    ⟨by decide +kernel, 1,
      ⟨1, 1, aggregateInterfaceKey, "Aggregate", "aggregate", none, 60000, 70000⟩,
      by decide +kernel, rfl, rfl, rfl⟩
    (by decide) (by decide)

end RouterView.Poller
