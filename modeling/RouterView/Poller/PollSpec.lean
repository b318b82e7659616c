/-
  Poller/PollSpec.lean --- what the calls of a poll keep.

  A property that every storage call of a tick keeps, whatever the outcome of
  the call, is kept by the tick; one that resolutions, ticks and maintenance
  keep is kept by the runs of the engine.  Where the calls of a tick take effect and
  are acknowledged, what the tick leaves is read off what they leave.
-/
import RouterView.Db.RouterIdentity
import RouterView.Poller.AggregateSpec
import RouterView.Poller.EngineSpec
import RouterView.Poller.PollTick

set_option autoImplicit false

namespace RouterView.Poller

open RouterView.Config
open RouterView.Foundation
open RouterView.Db

/-! ## Calls -/

/-- A transaction under any outcome leaves the database before it or after it. -/
theorem StorageOutcome.run_keeps {α : Type} {P : TrafficDb → Prop} (outcome : StorageOutcome)
    (transaction : TrafficDb → DatabaseResult (α × TrafficDb)) {db : TrafficDb} (hdb : P db)
    (hok : ∀ a db', transaction db = .ok (a, db') → P db') :
    P (outcome.run transaction db).2 := by
  cases hrun : outcome.run transaction db with
  | mk answer db' =>
      rcases StorageOutcome.run_cases hrun with ⟨_, hsame⟩ | ⟨a, htransaction, _⟩
      · exact hsame ▸ hdb
      · exact hok a db' htransaction

/-! ## Ticks -/

/-- What every storage call of a tick at an instant keeps, and the loss of baselines. -/
structure TickRule (routerId observedAtMs : Int) (P : PollerState → Prop) : Prop where
  upsert : ∀ {s : PollerState} {interfaceKey name kind : String} {hardwareId : Option String}
    {record : RouterInterfaceRecord} {db' : TrafficDb}, P s →
    upsertRouterInterface routerId interfaceKey name kind hardwareId observedAtMs s.db =
      .ok (record, db') → P { s with db := db' }
  observe : ∀ {s s' : PollerState} {outcomes : StorageOutcomes}
    {observation : CounterObservation} {result : DatabaseResult CounterPersistenceOutcome}, P s →
    observation.observedAtMs = observedAtMs →
    persistCounterObservation outcomes observation s = (result, s') → P s'
  forget : ∀ {s : PollerState} {baselines : Baselines}, P s →
    (∀ id baseline, baselines id = some baseline → s.baselines id = some baseline) →
    P { s with baselines := baselines }

theorem Baselines.remove_le {baselines : Baselines} {interfaceId id : Int}
    {baseline : CounterBaseline} (h : baselines.remove interfaceId id = some baseline) :
    baselines id = some baseline := by
  simp only [Baselines.remove] at h
  split at h
  · cases h
  · exact h

theorem Baselines.retain_le {baselines : Baselines} {keep : Int → Bool} {id : Int}
    {baseline : CounterBaseline} (h : baselines.retain keep id = some baseline) :
    baselines id = some baseline := by
  simp only [Baselines.retain] at h
  split at h
  · exact h
  · cases h

@[simp] theorem MemberLoop.noteAnswer_state (acc : MemberLoop) (name : String)
    (result : DatabaseResult CounterPersistenceOutcome) :
    (acc.noteAnswer name result).state = acc.state := by
  unfold MemberLoop.noteAnswer
  split <;> rfl

section

variable {routerId : Int} {P : PollerState → Prop} {data : RouterData}

theorem TickRule.registered (h : TickRule routerId data.counterSampleTime.unixMs P)
    (outcomes : StorageOutcomes)
    (interface : InterfaceEntry) (interfaceId : Int) {acc : MemberLoop} (hacc : P acc.state) :
    P (sampleRegistered outcomes routerId data interface interfaceId acc).state := by
  unfold sampleRegistered
  dsimp only
  split
  · unfold persistMember
    dsimp only
    cases hpersist : persistCounterObservation outcomes
        (memberObservation routerId data interfaceId _ _) acc.state with
    | mk result state =>
        simp only [MemberLoop.addCounters_state, MemberLoop.noteAnswer_state]
        exact h.observe hacc rfl hpersist
  · exact h.forget hacc (fun _ _ hbaseline => Baselines.remove_le hbaseline)

theorem TickRule.member (h : TickRule routerId data.counterSampleTime.unixMs P)
    (outcomes : MemberOutcomes)
    (wanName : String) {acc : MemberLoop} (hacc : P acc.state) :
    P (sampleMember outcomes routerId data wanName acc).state := by
  unfold sampleMember
  split
  · exact hacc
  · rename_i interface _
    have hupsert := outcomes.upsert.run_keeps (P := fun db => P { acc.state with db := db })
      (upsertRouterInterface routerId (durableInterfaceKey interface) interface.name "wan"
        interface.hardwareId data.counterSampleTime.unixMs) hacc
      (fun record db' hok => h.upsert hacc hok)
    split
    · rename_i error db hrun
      rw [hrun] at hupsert
      exact hupsert
    · rename_i record db hrun
      rw [hrun] at hupsert
      exact h.registered outcomes.persist interface record.id hupsert

theorem TickRule.members (h : TickRule routerId data.counterSampleTime.unixMs P)
    (outcomes : Nat → MemberOutcomes)
    (index : Nat) (wanNames : List String) {acc : MemberLoop} (hacc : P acc.state) :
    P (sampleMembers outcomes routerId data index wanNames acc).state := by
  induction wanNames generalizing index acc with
  | nil => exact hacc
  | cons wanName rest ih => exact ih (index + 1) (h.member (outcomes index) wanName hacc)

theorem TickRule.aggregate (h : TickRule routerId data.counterSampleTime.unixMs P)
    (outcomes : StorageOutcomes)
    (aggregateId : Int) {acc : MemberLoop} (hacc : P acc.state) :
    P (persistAggregate outcomes routerId data aggregateId acc).2 := by
  unfold persistAggregate
  split
  · split
    · rename_i outcome state hpersist
      exact h.observe hacc rfl hpersist
    · rename_i error state hpersist
      exact h.observe hacc rfl hpersist
  · exact h.forget hacc (fun _ _ hbaseline => Baselines.remove_le hbaseline)

/-- A tick keeps what its storage calls keep. -/
theorem TickRule.tick (h : TickRule routerId data.counterSampleTime.unixMs P)
    (outcomes : TickOutcomes)
    (wanNames : List String) {s : PollerState} (hs : P s) :
    P (persistExactTraffic outcomes routerId data wanNames s).2 := by
  unfold persistExactTraffic
  have hupsert := outcomes.aggregateUpsert.run_keeps (P := fun db => P { s with db := db })
    (upsertRouterInterface routerId aggregateInterfaceKey "Aggregate" "aggregate" none
      data.counterSampleTime.unixMs) hs (fun record db' hok => h.upsert hs hok)
  split
  · rename_i error db hrun
    rw [hrun] at hupsert
    exact hupsert
  · rename_i aggregate db hrun
    rw [hrun] at hupsert
    have hstart : P (MemberLoop.start { s with db := db } aggregate.id wanNames).state := hupsert
    have hmembers := h.members outcomes.members 0 wanNames hstart
    have haggregate := h.aggregate outcomes.aggregate aggregate.id hmembers
    exact h.forget haggregate (fun _ _ hbaseline => Baselines.retain_le hbaseline)

end

/-! ## The engine -/

namespace PollEngine

/-- What the calls of a poll keep. -/
structure PollRule (config : MergedConfig) (poll : Poll) (P : PollerState → Prop) : Prop where
  resolve : ∀ {s : PollerState} {router : RouterRecord} {db' : TrafficDb}, P s →
    resolveRouter (routerCall config poll) s.db = .ok (router, db') → P { s with db := db' }
  tick : ∀ routerId, TickRule routerId poll.sampledAtMs P

variable {config : MergedConfig} {poll : Poll} {P : PollerState → Prop} {e : PollEngine}

theorem switchRouterScope_cases (routerId : Int) (e : PollEngine) :
    (switchRouterScope routerId e).poller = e.poller ∨
      (switchRouterScope routerId e).poller = { e.poller with baselines := Baselines.empty } := by
  unfold switchRouterScope
  split
  · exact Or.inl rfl
  · exact Or.inr rfl

theorem leaveRouterScope_cases (e : PollEngine) :
    (leaveRouterScope e).poller = e.poller ∨
      (leaveRouterScope e).poller = { e.poller with baselines := Baselines.empty } := by
  unfold leaveRouterScope
  split
  · exact Or.inl rfl
  · exact Or.inr rfl

/-- What the storage calls of a poll keep holds of what is stored. -/
theorem PollRule.stored (h : PollRule config poll P) (he : P e.poller) :
    P (storePoll config poll e).2.poller := by
  have hforget : ∀ {s : PollerState}, P s → P { s with baselines := Baselines.empty } :=
    fun hs => (h.tick 0).forget hs (fun _ _ hbaseline => by cases hbaseline)
  have hresolve := poll.resolution.run_keeps (P := fun db => P { e.poller with db := db })
    (resolveRouter (routerCall config poll)) he (fun router db' hok => h.resolve he hok)
  unfold storePoll
  split
  · rename_i error db hrun
    rw [hrun] at hresolve
    rcases leaveRouterScope_cases { e with poller := { e.poller with db := db } } with
      hscope | hscope
    · exact hscope ▸ hresolve
    · exact hscope ▸ hforget hresolve
  · rename_i router db hrun
    rw [hrun] at hresolve
    have hentered : P (switchRouterScope router.id
        { e with poller := { e.poller with db := db } }).poller := by
      rcases switchRouterScope_cases router.id { e with poller := { e.poller with db := db } } with
        hscope | hscope
      · exact hscope ▸ hresolve
      · exact hscope ▸ hforget hresolve
    have htick := (h.tick router.id).tick poll.storage poll.wanNames hentered
    dsimp only
    split
    · rename_i error poller hpersist
      rw [hpersist] at htick
      exact htick
    · rename_i result poller hpersist
      rw [hpersist] at htick
      exact htick

/-- What the maintenance keeps. -/
structure MaintenanceRule (P : PollerState → Prop) : Prop where
  rollup : ∀ {s : PollerState} {beforeMs : Int} {n : Nat} {db' : TrafficDb}, P s →
    rollupExactSamples beforeMs maintenanceBucketMs s.db = .ok (n, db') → P { s with db := db' }
  retention : ∀ {s : PollerState} {beforeMs : Int} {n : Nat} {db' : TrafficDb}, P s →
    pruneExactHistory beforeMs s.db = .ok (n, db') → P { s with db := db' }

theorem MaintenanceRule.maintained (h : MaintenanceRule P) (he : P e.poller) :
    P (maintain config poll e).poller := by
  have hrollup := poll.rollup.run_keeps (P := fun db => P { e.poller with db := db })
    (rollupExactSamples (daysBefore poll.maintenanceMs config.dbRawRetentionDays)
      maintenanceBucketMs) he (fun n db' hok => h.rollup he hok)
  have hretention : ∀ db, P { e.poller with db := db } → P { e.poller with
      db := (poll.retention.run
        (pruneExactHistory (daysBefore poll.maintenanceMs config.dbTotalRetentionDays)) db).2 } := by
    intro db hdb
    exact poll.retention.run_keeps (P := fun db => P { e.poller with db := db }) _ hdb
      (fun n db' hok => h.retention (s := { e.poller with db := db }) hdb hok)
  exact hretention _ hrollup

theorem fetchAndTransform_engine (config : MergedConfig) (poll : Poll) (e : PollEngine) :
    (fetchAndTransform config poll e).2 = (storePoll config poll e).2 := rfl

/-- What polls and maintenance keep, the ticks of the engine keep. -/
theorem PollRule.ticked (h : PollRule config poll P) (hmaintenance : MaintenanceRule P)
    (he : P e.poller) : P (pollTick config poll e).2.poller := by
  have hstored := h.stored he
  rw [← fetchAndTransform_engine] at hstored
  unfold pollTick
  split
  · rename_i e' hfetch
    rw [hfetch] at hstored
    exact hstored
  · rename_i snapshot e' hfetch
    rw [hfetch] at hstored
    simp only [countSnapshot]
    split
    · exact hmaintenance.maintained hstored
    · exact hstored

/-- What an answer leaves, from what its two calls do. -/
theorem storePoll_of (poll : Poll) {router : RouterRecord} {db : TrafficDb}
    {result : ExactPersistenceResult} {poller : PollerState}
    (hcommitted : poll.resolution = .committed)
    (hresolve : resolveRouter (routerCall config poll) e.poller.db = .ok (router, db))
    (hpersist : persistExactTraffic poll.storage router.id poll.data poll.wanNames
      (switchRouterScope router.id { e with poller := { e.poller with db := db } }).poller =
        (.ok result, poller)) :
    storePoll config poll e =
      (⟨result.errors.map .exactTraffic, some (router.id, result.aggregateInterfaceId)⟩,
        { switchRouterScope router.id { e with poller := { e.poller with db := db } } with
          poller := poller }) := by
  unfold storePoll
  rw [hcommitted, StorageOutcome.run_committed hresolve]
  simp only [hpersist]

/-- A tick whose snapshot is built counts it. -/
theorem pollTick_of_transforms (h : poll.transforms = true) :
    (pollTick config poll e).2 = countSnapshot config poll (storePoll config poll e).2 := by
  unfold pollTick fetchAndTransform
  rw [h]
  rfl

/-- A snapshot that is not the sixtieth is only counted. -/
theorem countSnapshot_of_early (hearly : (e.pollCount + 1) % maintenancePeriod ≠ 0) :
    countSnapshot config poll e = { e with pollCount := e.pollCount + 1 } :=
  if_neg hearly

/-- A tick that records its answer and fails to read the month reports that. -/
theorem pollTick_of_usage {routerId aggregateId : Int} {error : DatabaseError}
    (htransforms : poll.transforms = true)
    (hstored : (storePoll config poll e).1 = ⟨[], some (routerId, aggregateId)⟩)
    (husage : monthlyUsage poll routerId aggregateId (storePoll config poll e).2.poller.db =
      .error error)
    (hquiet : (pollTick config poll e).2.maintenanceErrors = []) :
    (pollTick config poll e).1 = .storageFailure [.monthlyQuery error] := by
  rw [pollTick_of_transforms htransforms] at hquiet
  unfold pollTick fetchAndTransform
  rw [htransforms]
  simp only [hstored, Option.map_some, husage, Option.elim_some, reported, if_true, hquiet]
  rfl

end PollEngine

end RouterView.Poller
