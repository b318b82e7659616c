/-
  Db/Integrity.lean --- what the constraints of the traffic tables promise.

  The unique keys, and the references between the tables in the stronger form
  that the transactions keep: every record belongs to an interface of its own
  router.  Every write keeps them; the adoption is in `Db/Adoption.lean`.
-/
import RouterView.Db.Retention
import RouterView.Db.Routers
import RouterView.Db.RollupWrites
import RouterView.Db.LegacyImport

set_option autoImplicit false

namespace RouterView.Db

open RouterView.Foundation

/-! ## The invariant -/

/-- The interface exists and belongs to the router. -/
def TrafficDb.Owns (db : TrafficDb) (routerId interfaceId : Int) : Prop :=
  ∃ i ∈ db.routerInterfaces.rows, i.id = interfaceId ∧ i.routerId = routerId

theorem TrafficDb.ownsInterface_iff {db : TrafficDb} {routerId interfaceId : Int} :
    db.ownsInterface routerId interfaceId = true ↔ db.Owns routerId interfaceId := by
  simp [TrafficDb.ownsInterface, TrafficDb.Owns]

/-- The routers and the interfaces. -/
structure TrafficDb.Registry (db : TrafficDb) : Prop where
  routers : db.routers.Keyed (fun r => r.id)
  identities : ∀ r ∈ db.routers.rows, ∀ r' ∈ db.routers.rows,
    r.hardwareIdentity ≠ none → r.hardwareIdentity = r'.hardwareIdentity → r = r'
  interfaceIds : db.routerInterfaces.Keyed (fun i => i.id)
  interfaces : db.InterfacesWellFormed
  parents : ∀ i ∈ db.routerInterfaces.rows, ∃ r ∈ db.routers.rows, r.id = i.routerId

/-- The records of the interfaces. -/
structure TrafficDb.Records (db : TrafficDb) : Prop where
  sampleIds : db.trafficSamples.Keyed (fun s => s.id)
  sampleKeys : ∀ a ∈ db.trafficSamples.rows, ∀ b ∈ db.trafficSamples.rows, a.sameKey b → a = b
  samples : ∀ s ∈ db.trafficSamples.rows, db.Owns s.routerId s.interfaceId
  rollups : ∀ r ∈ db.trafficRollups.rows, db.Owns r.routerId r.interfaceId
  checkpoints : ∀ c ∈ db.counterCheckpoints, db.Owns c.routerId c.interfaceId
  gapIds : db.trafficGaps.Keyed (fun g => g.id)
  gapKeys : ∀ a ∈ db.trafficGaps.rows, ∀ b ∈ db.trafficGaps.rows, a.sameKey b → a = b
  gaps : ∀ g ∈ db.trafficGaps.rows, ∃ i, g.interfaceId = some i ∧ db.Owns g.routerId i

/-- The database keeps its constraints. -/
structure TrafficDb.Intact (db : TrafficDb) : Prop where
  registry : db.Registry
  records : db.Records

section

variable {db db' : TrafficDb}

/-- The owner of an interface is one router. -/
theorem TrafficDb.Registry.owner_eq (h : db.Registry) {r r' i : Int} (ho : db.Owns r i)
    (ho' : db.Owns r' i) : r = r' := by
  obtain ⟨x, hx, hid, hr⟩ := ho
  obtain ⟨y, hy, hid', hr'⟩ := ho'
  have hsame := h.interfaces.identifiers x hx y hy (hid.trans hid'.symm)
  rw [← hr, ← hr', hsame]

theorem TrafficDb.Registry.congr (h : db.Registry) (hrouters : db'.routers = db.routers)
    (hinterfaces : db'.routerInterfaces = db.routerInterfaces) : db'.Registry where
  routers := hrouters ▸ h.routers
  identities := hrouters ▸ h.identities
  interfaceIds := hinterfaces ▸ h.interfaceIds
  interfaces := ⟨hinterfaces ▸ h.interfaces.issued, hinterfaces ▸ h.interfaces.identifiers,
    hinterfaces ▸ h.interfaces.keys⟩
  parents := hrouters ▸ hinterfaces ▸ h.parents

/-- The records stay where every owner does. -/
theorem TrafficDb.Records.of_sameTraffic (h : db.Records)
    (hsamples : db'.trafficSamples = db.trafficSamples)
    (hrollups : db'.trafficRollups = db.trafficRollups)
    (hcheckpoints : db'.counterCheckpoints = db.counterCheckpoints)
    (hgaps : db'.trafficGaps = db.trafficGaps)
    (howns : ∀ {r i}, db.Owns r i → db'.Owns r i) : db'.Records where
  sampleIds := hsamples ▸ h.sampleIds
  sampleKeys := hsamples ▸ h.sampleKeys
  samples := by
    rw [hsamples]
    exact fun s hs => howns (h.samples s hs)
  rollups := by
    rw [hrollups]
    exact fun r hr => howns (h.rollups r hr)
  checkpoints := by
    rw [hcheckpoints]
    exact fun c hc => howns (h.checkpoints c hc)
  gapIds := hgaps ▸ h.gapIds
  gapKeys := hgaps ▸ h.gapKeys
  gaps := by
    rw [hgaps]
    intro g hg
    obtain ⟨i, hi, hg⟩ := h.gaps g hg
    exact ⟨i, hi, howns hg⟩

theorem TrafficDb.Intact.empty : TrafficDb.empty.Intact := by
  refine ⟨⟨Table.Keyed.empty _, ?_, Table.Keyed.empty _, ⟨?_, ?_, ?_⟩, ?_⟩,
    ⟨Table.Keyed.empty _, ?_, ?_, ?_, ?_, Table.Keyed.empty _, ?_, ?_⟩⟩ <;>
    simp [TrafficDb.empty]

/-! ## Insertions -/

/-- A condition on the rows of a table after an insertion. -/
theorem forall_insert {α : Type} {t : Table α} {row : Int → α} {P : α → Prop}
    (hold : ∀ x ∈ t.rows, P x) (hnew : P (row (t.sequence + 1))) :
    ∀ x ∈ (t.insert row).rows, P x := by
  intro x hx
  rcases List.mem_append.mp hx with hx | hx
  · exact hold x hx
  · rw [List.mem_singleton.mp hx]
    exact hnew

/-- A unique key after the insertion of a row with a new one. -/
theorem unique_insert {α : Type} {t : Table α} {row : Int → α} {sameKey : α → α → Prop}
    (hsymm : ∀ {a b}, sameKey a b → sameKey b a)
    (hold : ∀ a ∈ t.rows, ∀ b ∈ t.rows, sameKey a b → a = b)
    (hnew : ∀ a ∈ t.rows, ∀ id, ¬ sameKey a (row id)) :
    ∀ a ∈ (t.insert row).rows, ∀ b ∈ (t.insert row).rows, sameKey a b → a = b := by
  intro a ha b hb hsame
  simp only [Table.insert_rows, List.mem_append, List.mem_singleton] at ha hb
  rcases ha with ha | rfl <;> rcases hb with hb | rfl
  · exact hold a ha b hb hsame
  · exact absurd hsame (hnew a ha _)
  · exact absurd (hsymm hsame) (hnew b hb _)
  · rfl

theorem TrafficSample.sameKey_symm {a b : TrafficSample} (h : a.sameKey b) : b.sameKey a :=
  ⟨h.1.symm, h.2.1.symm, h.2.2.1.symm, h.2.2.2.symm⟩

theorem TrafficGap.sameKey_symm {a b : TrafficGap} (h : a.sameKey b) : b.sameKey a :=
  ⟨h.1.symm, ⟨h.2.1.1.symm, h.2.1.1 ▸ h.2.1.2⟩, h.2.2.1.symm, h.2.2.2.1.symm, h.2.2.2.2.symm⟩

theorem TrafficDb.Intact.insertSample (h : db.Intact) {s : TrafficSampleInput}
    (howns : db.Owns s.routerId s.interfaceId)
    (hnew : ∀ a ∈ db.trafficSamples.rows, ∀ id, ¬ a.sameKey { s with id := id }) :
    (db.insertSample s).Intact where
  registry := h.registry.congr rfl rfl
  records := {
    h.records with
    sampleIds := h.records.sampleIds.insert (fun _ => rfl)
    sampleKeys := unique_insert TrafficSample.sameKey_symm h.records.sampleKeys hnew
    samples := forall_insert h.records.samples howns }

theorem TrafficDb.Intact.insertGap (h : db.Intact) {g : TrafficGapInput} {i : Int}
    (hinterface : g.interfaceId = some i) (howns : db.Owns g.routerId i)
    (hnew : ∀ a ∈ db.trafficGaps.rows, ∀ id, ¬ a.sameKey { g with id := id }) :
    (db.insertGap g).Intact where
  registry := h.registry.congr rfl rfl
  records := {
    h.records with
    gapIds := h.records.gapIds.insert (fun _ => rfl)
    gapKeys := unique_insert TrafficGap.sameKey_symm h.records.gapKeys hnew
    gaps := forall_insert h.records.gaps ⟨i, hinterface, howns⟩ }

theorem TrafficDb.Intact.insertRollup (h : db.Intact) {row : Int → TrafficRollup}
    (howns : ∀ id, db.Owns (row id).routerId (row id).interfaceId) :
    TrafficDb.Intact { db with trafficRollups := db.trafficRollups.insert row } where
  registry := h.registry.congr rfl rfl
  records := { h.records with rollups := forall_insert h.records.rollups (howns _) }

theorem TrafficDb.Intact.putCheckpoint (h : db.Intact) {c : CounterCheckpoint}
    (howns : db.Owns c.routerId c.interfaceId) : (db.putCheckpoint c).Intact where
  registry := h.registry.congr rfl rfl
  records := {
    h.records with
    checkpoints := by
      intro x hx
      rcases List.mem_cons.mp hx with rfl | hx
      · exact howns
      · exact h.records.checkpoints x (List.mem_of_mem_filter hx) }

/-- A row for a new interface. -/
theorem TrafficDb.Intact.insertInterface (h : db.Intact) {row : Int → RouterInterfaceRecord}
    (hid : ∀ id, (row id).id = id)
    (hparent : ∀ id, ∃ r ∈ db.routers.rows, r.id = (row id).routerId)
    (hfresh : ∀ i ∈ db.routerInterfaces.rows, ∀ id,
      ¬ (i.routerId = (row id).routerId ∧ i.interfaceKey = (row id).interfaceKey)) :
    TrafficDb.Intact { db with routerInterfaces := db.routerInterfaces.insert row } where
  registry := {
    routers := h.registry.routers
    identities := h.registry.identities
    interfaceIds := h.registry.interfaceIds.insert hid
    interfaces := h.registry.interfaces.insert hid hfresh
    parents := forall_insert h.registry.parents (hparent _) }
  records := by
    refine h.records.of_sameTraffic ?_ ?_ ?_ ?_ ?_ <;> try rfl
    rintro r i ⟨x, hx, hi, hr⟩
    exact ⟨x, List.mem_append_left _ hx, hi, hr⟩

/-- A change of the routers that keeps those with interfaces. -/
theorem TrafficDb.Intact.setRouters (h : db.Intact) {routers : Table RouterRecord}
    (hkeyed : routers.Keyed (fun r => r.id))
    (hidentities : ∀ r ∈ routers.rows, ∀ r' ∈ routers.rows,
      r.hardwareIdentity ≠ none → r.hardwareIdentity = r'.hardwareIdentity → r = r')
    (hparents : ∀ i ∈ db.routerInterfaces.rows, ∃ r ∈ routers.rows, r.id = i.routerId) :
    TrafficDb.Intact { db with routers := routers } where
  registry := {
    routers := hkeyed
    identities := hidentities
    interfaceIds := h.registry.interfaceIds
    interfaces := ⟨h.registry.interfaces.issued, h.registry.interfaces.identifiers,
      h.registry.interfaces.keys⟩
    parents := hparents }
  records := h.records.of_sameTraffic rfl rfl rfl rfl (fun h => h)

/-- The routers after an update of one of them. -/
theorem TrafficDb.mem_updateRouter {id : Int} {f : RouterRecord → RouterRecord}
    {x : RouterRecord} (hx : x ∈ (db.updateRouter id f).routers.rows) :
    ∃ y ∈ db.routers.rows, (y.id ≠ id ∧ x = y) ∨ (y.id = id ∧ x = f y) := by
  rcases Table.mem_updateWhere_iff.mp hx with ⟨hx, hne⟩ | ⟨y, hy, hid, rfl⟩
  · exact ⟨x, hx, Or.inl ⟨of_decide_eq_false hne, rfl⟩⟩
  · exact ⟨y, hy, Or.inr ⟨of_decide_eq_true hid, rfl⟩⟩

theorem TrafficDb.updateRouter_keeps {id : Int} {f : RouterRecord → RouterRecord}
    {y : RouterRecord} (hy : y ∈ db.routers.rows) :
    (if y.id = id then f y else y) ∈ (db.updateRouter id f).routers.rows := by
  apply Table.mem_updateWhere_iff.mpr
  split
  · rename_i hid
    exact Or.inr ⟨y, hy, decide_eq_true hid, rfl⟩
  · rename_i hid
    exact Or.inl ⟨hy, decide_eq_false hid⟩

theorem TrafficDb.updateRouter_other {id : Int} {f : RouterRecord → RouterRecord}
    {y : RouterRecord} (hy : y ∈ db.routers.rows) (hne : y.id ≠ id) :
    y ∈ (db.updateRouter id f).routers.rows :=
  Table.mem_updateWhere_iff.mpr (Or.inl ⟨hy, decide_eq_false hne⟩)

/-- An update of one router that leaves its identity to it alone. -/
theorem TrafficDb.Intact.updateRouter (h : db.Intact) {id : Int}
    {f : RouterRecord → RouterRecord} (hid : ∀ r, (f r).id = r.id)
    (hidentity : ∀ r ∈ db.routers.rows, r.id = id → ∀ r' ∈ db.routers.rows, r'.id ≠ id →
      (f r).hardwareIdentity ≠ none → (f r).hardwareIdentity ≠ r'.hardwareIdentity) :
    (db.updateRouter id f).Intact := by
  apply h.setRouters
  · exact h.registry.routers.updateWhere _ (fun r _ => hid r)
  · intro x hx y hy hsome hsame
    obtain ⟨r, hr, hcase⟩ := TrafficDb.mem_updateRouter hx
    obtain ⟨r', hr', hcase'⟩ := TrafficDb.mem_updateRouter hy
    rcases hcase with ⟨hne, rfl⟩ | ⟨heq, rfl⟩ <;> rcases hcase' with ⟨hne', rfl⟩ | ⟨heq', rfl⟩
    · exact h.registry.identities x hr y hr' hsome hsame
    · exact absurd hsame.symm (hidentity r' hr' heq' x hr hne
        (fun hnone => hsome (hsame.trans hnone)))
    · exact absurd hsame (hidentity r hr heq y hr' hne' hsome)
    · rw [h.registry.routers.eq_of_key_eq hr hr' (heq.trans heq'.symm)]
  · intro i hi
    obtain ⟨r, hr, hparent⟩ := h.registry.parents i hi
    refine ⟨_, TrafficDb.updateRouter_keeps hr, ?_⟩
    split
    · rw [hid, hparent]
    · exact hparent

theorem TrafficDb.Intact.insertRouter (h : db.Intact) {internalUuid : String}
    {hardwareIdentity : Option String} {fallbackTarget identitySource : String}
    {observedAtMs : Int}
    (hnew : ∀ r ∈ db.routers.rows, hardwareIdentity ≠ none →
      r.hardwareIdentity ≠ hardwareIdentity) :
    (insertRouter internalUuid hardwareIdentity fallbackTarget identitySource observedAtMs
      db).Intact := by
  apply h.setRouters
  · exact h.registry.routers.insert (fun _ => rfl)
  · intro r hr r' hr' hsome hsame
    simp only [Table.insert_rows, List.mem_append, List.mem_singleton] at hr hr'
    rcases hr with hr | rfl <;> rcases hr' with hr' | rfl
    · exact h.registry.identities r hr r' hr' hsome hsame
    · exact absurd hsame (hnew r hr (fun hnone => hsome (hsame.trans hnone)))
    · exact absurd hsame.symm (hnew r' hr' hsome)
    · rfl
  · intro i hi
    obtain ⟨r, hr, hid⟩ := h.registry.parents i hi
    exact ⟨r, List.mem_append_left _ hr, hid⟩

/-! ## Commits -/

theorem TrafficDb.existingSample_eq_none {s : TrafficSampleInput}
    (h : db.existingSample s = none) :
    ∀ a ∈ db.trafficSamples.rows, ∀ id, ¬ a.sameKey { s with id := id } := by
  intro a ha id hsame
  have hnot := List.find?_eq_none.mp h a ha
  simp only [TrafficSampleInput.on, Bool.and_eq_true, decide_eq_true_eq] at hnot
  exact hnot ⟨⟨hsame.1, hsame.2.1⟩, hsame.2.2⟩

theorem TrafficDb.existingGap_eq_none {g : TrafficGapInput} (h : db.existingGap g = none) :
    ∀ a ∈ db.trafficGaps.rows, ∀ id, ¬ a.sameKey { g with id := id } := by
  intro a ha id hsame
  have hnot := List.find?_eq_none.mp h a ha
  simp only [decide_eq_true_eq] at hnot
  exact hnot ⟨hsame.1, hsame.2.1.1, hsame.2.2⟩

theorem commitSampleAndCheckpoint_owns {s : TrafficSampleInput} {c : CounterCheckpoint}
    {b : Bool} (h : commitSampleAndCheckpoint s c db = .ok (b, db')) :
    db.Owns s.routerId s.interfaceId := by
  unfold commitSampleAndCheckpoint at h
  obtain ⟨_, _, h⟩ := bind_eq_ok_iff.mp h
  obtain ⟨_, _, h⟩ := bind_eq_ok_iff.mp h
  obtain ⟨_, h⟩ := ensure_bind_eq_ok_iff.mp h
  obtain ⟨howns, _⟩ := ensure_bind_eq_ok_iff.mp h
  exact TrafficDb.ownsInterface_iff.mp howns

theorem TrafficDb.ensureInterfaceOwner_ok {r i : Int} {u : Unit}
    (h : db.ensureInterfaceOwner r (some i) = .ok u) : db.Owns r i := by
  simp only [TrafficDb.ensureInterfaceOwner, ensure_eq_ok_iff, TrafficDb.ownsRouterInterface,
    Bool.and_eq_true] at h
  exact TrafficDb.ownsInterface_iff.mp h.2

theorem commitGapAndCheckpoint_owns {g : TrafficGapInput} {c : CounterCheckpoint}
    {b : Bool} (h : commitGapAndCheckpoint g c db = .ok (b, db')) :
    db.Owns c.routerId c.interfaceId := by
  unfold commitGapAndCheckpoint at h
  obtain ⟨_, _, h⟩ := bind_eq_ok_iff.mp h
  obtain ⟨_, _, h⟩ := bind_eq_ok_iff.mp h
  obtain ⟨⟨hinterface, hrouter, _⟩, h⟩ := ensure_bind_eq_ok_iff.mp h
  obtain ⟨_, howner, _⟩ := bind_eq_ok_iff.mp h
  rw [hinterface, hrouter] at howner
  exact TrafficDb.ensureInterfaceOwner_ok howner

theorem initializeCheckpointIfAbsent_owns {c : CounterCheckpoint} {b : Bool}
    (h : initializeCheckpointIfAbsent c db = .ok (b, db')) :
    db.Owns c.routerId c.interfaceId := by
  unfold initializeCheckpointIfAbsent at h
  obtain ⟨_, _, h⟩ := bind_eq_ok_iff.mp h
  obtain ⟨_, howner, _⟩ := bind_eq_ok_iff.mp h
  exact TrafficDb.ensureInterfaceOwner_ok howner

theorem TrafficDb.Intact.commitSample (hi : db.Intact) {s : TrafficSampleInput}
    {c : CounterCheckpoint} {b : Bool}
    (h : commitSampleAndCheckpoint s c db = .ok (b, db')) : db'.Intact := by
  have howns := commitSampleAndCheckpoint_owns h
  rcases commitSampleAndCheckpoint_cases h with ⟨_, hnew⟩ | ⟨_, _, hsame⟩
  · rw [hnew.result]
    apply TrafficDb.Intact.putCheckpoint
    · exact hi.insertSample howns (TrafficDb.existingSample_eq_none hnew.fresh)
    · rw [← hnew.routerId, ← hnew.interfaceId]
      exact howns
  · rw [hsame]
    exact hi

theorem TrafficDb.Intact.commitGap (hi : db.Intact) {g : TrafficGapInput}
    {c : CounterCheckpoint} {b : Bool}
    (h : commitGapAndCheckpoint g c db = .ok (b, db')) : db'.Intact := by
  have howns := commitGapAndCheckpoint_owns h
  rcases commitGapAndCheckpoint_cases h with ⟨_, hnew⟩ | ⟨_, _, hsame⟩
  · rw [hnew.result]
    apply TrafficDb.Intact.putCheckpoint
    · apply hi.insertGap hnew.interfaceId
      · rw [hnew.routerId]
        exact howns
      · exact TrafficDb.existingGap_eq_none hnew.fresh
    · exact howns
  · rw [hsame]
    exact hi

theorem TrafficDb.Intact.initialize (hi : db.Intact) {c : CounterCheckpoint} {b : Bool}
    (h : initializeCheckpointIfAbsent c db = .ok (b, db')) : db'.Intact := by
  have howns := initializeCheckpointIfAbsent_owns h
  rcases initializeCheckpointIfAbsent_cases h with ⟨_, _, hput⟩ | ⟨_, _, hsame⟩
  · rw [hput]
    exact hi.putCheckpoint howns
  · rw [hsame]
    exact hi

/-! ## Registration -/

theorem TrafficDb.Intact.putInterface (h : db.Intact) {routerId : Int}
    {interfaceKey name kind : String} {hardwareId : Option String} {observedAtMs : Int}
    (hparent : ∃ r ∈ db.routers.rows, r.id = routerId) :
    (putInterface routerId interfaceKey name kind hardwareId observedAtMs db).Intact := by
  have hsame := putInterface_sameTraffic routerId interfaceKey name kind hardwareId observedAtMs
    db
  have hmem : ∀ i ∈ (RouterView.Db.putInterface routerId interfaceKey name kind hardwareId
      observedAtMs db).routerInterfaces.rows,
      (∃ j ∈ db.routerInterfaces.rows, i.routerId = j.routerId) ∨ i.routerId = routerId := by
    intro i hi
    unfold RouterView.Db.putInterface at hi
    split at hi
    · rcases List.mem_append.mp hi with hi | hi
      · exact Or.inl ⟨i, hi, rfl⟩
      · rw [List.mem_singleton.mp hi]
        exact Or.inr rfl
    · rcases Table.mem_updateWhere_iff.mp hi with ⟨hi, _⟩ | ⟨j, hj, _, rfl⟩
      · exact Or.inl ⟨i, hi, rfl⟩
      · exact Or.inl ⟨j, hj, rfl⟩
  refine ⟨⟨hsame.routers ▸ h.registry.routers, hsame.routers ▸ h.registry.identities, ?_,
    putInterface_wellFormed h.registry.interfaces, ?_⟩, ?_⟩
  · unfold RouterView.Db.putInterface
    split
    · dsimp only
      apply h.registry.interfaceIds.insert
      exact fun _ => rfl
    · dsimp only
      apply h.registry.interfaceIds.useKey.updateWhere
      exact fun _ _ => rfl
  · intro i hi
    rw [hsame.routers]
    rcases hmem i hi with ⟨j, hj, hij⟩ | hij
    · rw [hij]
      exact h.registry.parents j hj
    · rw [hij]
      exact hparent
  · refine h.records.of_sameTraffic hsame.samples hsame.rollups hsame.checkpoints hsame.gaps ?_
    rintro r i ⟨x, hx, hid, hr⟩
    have hregistered : db.Registered x.routerId x.interfaceKey x.id := ⟨x, hx, rfl, rfl, rfl⟩
    have hkept : (RouterView.Db.putInterface routerId interfaceKey name kind hardwareId
        observedAtMs db).Registered x.routerId x.interfaceKey x.id :=
      registered_putInterface hregistered
    obtain ⟨y, hy, hyr, _, hyi⟩ := hkept
    exact ⟨y, hy, hyi.trans hid, hyr.trans hr⟩

theorem TrafficDb.Intact.upsertInterface (hi : db.Intact) {routerId : Int}
    {interfaceKey name kind : String} {hardwareId : Option String} {observedAtMs : Int}
    {record : RouterInterfaceRecord}
    (h : upsertRouterInterface routerId interfaceKey name kind hardwareId observedAtMs db =
      .ok (record, db')) : db'.Intact := by
  unfold upsertRouterInterface at h
  obtain ⟨_, h⟩ := ensure_bind_eq_ok_iff.mp h
  obtain ⟨hparent, h⟩ := ensure_bind_eq_ok_iff.mp h
  obtain ⟨found, _, h⟩ := bind_eq_ok_iff.mp h
  simp only [pure_eq_ok, Except.ok.injEq, Prod.mk.injEq] at h
  rw [← h.2]
  apply hi.putInterface
  simpa using hparent

/-! ## Retention -/

theorem TrafficDb.Intact.prune (h : db.Intact) (hpruned : Pruned db db') : db'.Intact := by
  obtain ⟨keepSamples, hsamples⟩ := hpruned.samples
  obtain ⟨keepRollups, hrollups⟩ := hpruned.rollups
  obtain ⟨keepGaps, hgaps⟩ := hpruned.gaps
  have hsub : ∀ {α : Type} {t : Table α} {keep : α → Bool} {x : α},
      x ∈ (t.deleteWhere keep).2.rows → x ∈ t.rows := fun hx => List.mem_of_mem_filter hx
  rw [hpruned.frame, hsamples, hrollups, hgaps]
  exact {
    registry := h.registry.congr rfl rfl
    records := {
      sampleIds := h.records.sampleIds.deleteWhere keepSamples
      sampleKeys := fun a ha b hb => h.records.sampleKeys a (hsub ha) b (hsub hb)
      samples := fun s hs => h.records.samples s (hsub hs)
      rollups := fun r hr => h.records.rollups r (hsub hr)
      checkpoints := h.records.checkpoints
      gapIds := h.records.gapIds.deleteWhere keepGaps
      gapKeys := fun a ha b hb => h.records.gapKeys a (hsub ha) b (hsub hb)
      gaps := fun g hg => h.records.gaps g (hsub hg) } }

/-! ## Rollups -/

/-- The rows of the second table descend from rows of the first with the same
identifier and the same unique key. -/
structure Descends (t t' : Table TrafficSample) : Prop where
  keyed : t'.Keyed (fun s => s.id)
  rows : ∀ x ∈ t'.rows, ∃ y ∈ t.rows, x.id = y.id ∧ x.sameKey y

theorem TrafficSample.sameKey_refl (a : TrafficSample) : a.sameKey a := ⟨rfl, rfl, rfl, rfl⟩

theorem TrafficSample.sameKey_trans {a b c : TrafficSample} (hab : a.sameKey b)
    (hbc : b.sameKey c) : a.sameKey c :=
  ⟨hab.1.trans hbc.1, hab.2.1.trans hbc.2.1, hab.2.2.1.trans hbc.2.2.1,
    hab.2.2.2.trans hbc.2.2.2⟩

theorem Descends.refl {t : Table TrafficSample} (h : t.Keyed (fun s => s.id)) : Descends t t :=
  ⟨h, fun x hx => ⟨x, hx, rfl, x.sameKey_refl⟩⟩

theorem Descends.writeRemainder {t mid t' : Table TrafficSample} (h : Descends t mid)
    {remainder : RawTrafficRemainder} (hwrite : writeRemainder remainder mid = .ok t') :
    Descends t t' := by
  unfold RouterView.Db.writeRemainder at hwrite
  obtain ⟨_, hwrite⟩ := ensure_bind_eq_ok_iff.mp hwrite
  obtain ⟨_, hwrite⟩ := ensure_bind_eq_ok_iff.mp hwrite
  obtain ⟨_, hwrite⟩ := ensure_bind_eq_ok_iff.mp hwrite
  simp only [pure_eq_ok, Except.ok.injEq] at hwrite
  rw [← hwrite]
  refine ⟨h.keyed.updateWhere _ (fun _ _ => rfl), ?_⟩
  intro x hx
  rcases Table.mem_updateWhere_iff.mp hx with ⟨hx, _⟩ | ⟨z, hz, _, rfl⟩
  · exact h.rows x hx
  · obtain ⟨y, hy, hid, hkey⟩ := h.rows z hz
    exact ⟨y, hy, hid, hkey⟩

theorem Descends.deleteConsumed {t mid t' : Table TrafficSample} (h : Descends t mid) {id : Int}
    (hwrite : deleteConsumed id mid = .ok t') : Descends t t' := by
  unfold RouterView.Db.deleteConsumed at hwrite
  obtain ⟨_, hwrite⟩ := ensure_bind_eq_ok_iff.mp hwrite
  simp only [pure_eq_ok, Except.ok.injEq] at hwrite
  rw [← hwrite]
  exact ⟨h.keyed.deleteWhere _, fun x hx => h.rows x (List.mem_of_mem_filter hx)⟩

/-- The interfaces of the rows of a rollup table. -/
def RollupOwners (P : Int → Int → Prop) (t : Table TrafficRollup) : Prop :=
  ∀ r ∈ t.rows, P r.routerId r.interfaceId

/-- The interfaces of the buckets. -/
def BucketOwners (P : Int → Int → Prop) (buckets : OrdMap BucketKey RollupBucket) : Prop :=
  ∀ entry ∈ buckets.entries, P entry.1.routerId entry.1.interfaceId

theorem RollupOwners.writeBucket {P : Int → Int → Prop} {t t' : Table TrafficRollup}
    (h : RollupOwners P t) {bucketSizeMs : Int} {entry : BucketKey × RollupBucket}
    (hentry : P entry.1.routerId entry.1.interfaceId)
    (hwrite : writeBucket bucketSizeMs entry t = .ok t') : RollupOwners P t' := by
  have hupsert : t' = (upsertRollup (rollupRow bucketSizeMs entry.1 entry.2)
      entry.2.batchStartMs t).2 := (congrArg Prod.snd (writeBucket_ok hwrite).2).symm
  rw [hupsert]
  simp only [upsertRollup]
  split
  · intro r hr
    rcases Table.mem_updateWhere_iff.mp hr with ⟨hr, _⟩ | ⟨z, hz, _, rfl⟩
    · exact h r hr
    · exact h z hz
  · exact forall_insert h hentry

theorem BucketOwners.cutSegment {P : Int → Int → Prop} {bucketSizeMs plannedConsumedEnd : Int}
    {sample : TrafficSample} {segmentStart segmentEnd : Int}
    {buckets buckets' : OrdMap BucketKey RollupBucket} (h : BucketOwners P buckets)
    (hsample : P sample.routerId sample.interfaceId)
    (hcut : cutSegment bucketSizeMs plannedConsumedEnd sample segmentStart buckets =
      .ok (segmentEnd, buckets')) : BucketOwners P buckets' := by
  unfold RouterView.Db.cutSegment at hcut
  obtain ⟨_, _, hcut⟩ := bind_eq_ok_iff.mp hcut
  obtain ⟨_, _, hcut⟩ := bind_eq_ok_iff.mp hcut
  obtain ⟨_, hcut⟩ := ensure_bind_eq_ok_iff.mp hcut
  simp only [pure_eq_ok, Except.ok.injEq, Prod.mk.injEq] at hcut
  rw [← hcut.2]
  intro entry hentry
  rcases OrdMap.mem_alterEntries_key hentry with hkey | hold
  · rw [hkey]
    exact hsample
  · exact h entry hold

theorem BucketOwners.consumeSegments {P : Int → Int → Prop}
    {bucketSizeMs plannedConsumedEnd : Int} {sample : TrafficSample}
    (hsample : P sample.routerId sample.interfaceId) {budget left : Nat}
    {segmentStart stopped : Int} {buckets buckets' : OrdMap BucketKey RollupBucket}
    (h : BucketOwners P buckets)
    (hloop : consumeSegments bucketSizeMs plannedConsumedEnd sample budget segmentStart buckets =
      .ok (left, stopped, buckets')) : BucketOwners P buckets' := by
  induction budget generalizing segmentStart buckets with
  | zero =>
      simp only [RouterView.Db.consumeSegments, Except.ok.injEq, Prod.mk.injEq] at hloop
      rw [← hloop.2.2]
      exact h
  | succ remaining ih =>
      unfold RouterView.Db.consumeSegments at hloop
      split at hloop
      · obtain ⟨⟨_, _⟩, hcut, hloop⟩ := bind_eq_ok_iff.mp hloop
        exact ih (h.cutSegment hsample hcut) hloop
      · simp only [Except.ok.injEq, Prod.mk.injEq] at hloop
        rw [← hloop.2.2]
        exact h

theorem BucketOwners.consumeSample {P : Int → Int → Prop} {beforeMs bucketSizeMs : Int}
    {sample : TrafficSample} (hsample : P sample.routerId sample.interfaceId)
    {progress progress' : RollupProgress} (h : BucketOwners P progress.buckets)
    (hstep : consumeSample beforeMs bucketSizeMs sample progress = .ok progress') :
    BucketOwners P progress'.buckets := by
  unfold RouterView.Db.consumeSample at hstep
  obtain ⟨_, _, hstep⟩ := bind_eq_ok_iff.mp hstep
  dsimp only at hstep
  split at hstep
  · simp only [pure_eq_ok, Except.ok.injEq] at hstep
    rw [← hstep]
    exact h
  · obtain ⟨⟨_, _, _⟩, hsegments, hstep⟩ := bind_eq_ok_iff.mp hstep
    have hbuckets := h.consumeSegments hsample hsegments
    split at hstep
    · simp only [pure_eq_ok, Except.ok.injEq] at hstep
      rw [← hstep]
      exact hbuckets
    · obtain ⟨_, _, hstep⟩ := bind_eq_ok_iff.mp hstep
      simp only [pure_eq_ok, Except.ok.injEq] at hstep
      rw [← hstep]
      exact hbuckets

theorem BucketOwners.consumeSamples {P : Int → Int → Prop} {beforeMs bucketSizeMs : Int}
    {batch : List TrafficSample} (hbatch : ∀ s ∈ batch, P s.routerId s.interfaceId)
    {progress progress' : RollupProgress} (h : BucketOwners P progress.buckets)
    (hloop : consumeSamples beforeMs bucketSizeMs batch progress = .ok progress') :
    BucketOwners P progress'.buckets := by
  induction batch generalizing progress with
  | nil =>
      simp only [RouterView.Db.consumeSamples, Except.ok.injEq] at hloop
      rw [← hloop]
      exact h
  | cons sample rest ih =>
      unfold RouterView.Db.consumeSamples at hloop
      split at hloop
      · simp only [Except.ok.injEq] at hloop
        rw [← hloop]
        exact h
      · obtain ⟨next, hstep, hloop⟩ := bind_eq_ok_iff.mp hloop
        exact ih (fun s hs => hbatch s (List.mem_cons_of_mem _ hs))
          (h.consumeSample (hbatch sample List.mem_cons_self) hstep) hloop

/-- What a successful rollup does to the tables, whatever its arguments. -/
structure RollupWrote (db db' : TrafficDb) : Prop where
  samples : Descends db.trafficSamples db'.trafficSamples
  rollups : ∀ P : Int → Int → Prop, RollupOwners P db.trafficRollups →
    (∀ s ∈ db.trafficSamples.rows, P s.routerId s.interfaceId) → RollupOwners P db'.trafficRollups
  frame : db' = { db with
    trafficSamples := db'.trafficSamples
    trafficRollups := db'.trafficRollups }

theorem rollupExactSamplesBatch_wrote {beforeMs bucketSizeMs : Int} {batchSize n : Nat}
    (hids : db.trafficSamples.Keyed (fun s => s.id))
    (h : rollupExactSamplesBatch beforeMs bucketSizeMs batchSize db = .ok (n, db')) :
    RollupWrote db db' := by
  obtain ⟨progress, rollups, remained, kept, hpasses, _, rfl⟩ :=
    rollupExactSamplesBatch_eq_ok_iff.mp h
  refine ⟨?_, ?_, rfl⟩
  · have hdescends : Descends db.trafficSamples remained := by
      apply writeAll_invariant (fun _ t => Descends db.trafficSamples t) _ (Descends.refl hids)
        hpasses.remainders
      intro _ _ _ _ _ _ hdone hwrite
      exact hdone.writeRemainder hwrite
    apply writeAll_invariant (fun _ t => Descends db.trafficSamples t) _ hdescends hpasses.deletions
    intro _ _ _ _ _ _ hdone hwrite
    exact hdone.deleteConsumed hwrite
  · intro P hP hsamples
    have hbuckets : BucketOwners P progress.buckets := by
      apply BucketOwners.consumeSamples (fun s hs => hsamples s (mem_rollupSampleBatch hs).1) _
        hpasses.loop
      intro entry hentry
      cases hentry
    apply writeAll_invariant (fun _ t => RollupOwners P t) _ hP hpasses.buckets
    intro done a later _ _ hsplit hdone hwrite
    apply hdone.writeBucket _ hwrite
    apply hbuckets
    rw [hsplit]
    exact List.mem_append_right _ List.mem_cons_self

theorem TrafficDb.Intact.rollup (h : db.Intact) (hwrote : RollupWrote db db') : db'.Intact := by
  have hframe := hwrote.frame
  have howns : ∀ {r i}, db.Owns r i → db'.Owns r i := by
    intro r i ho
    rw [hframe]
    exact ho
  refine ⟨?_, ?_⟩
  · rw [hframe]
    exact h.registry.congr rfl rfl
  · constructor
    · exact hwrote.samples.keyed
    · intro a ha b hb hsame
      obtain ⟨x, hx, hxid, hxkey⟩ := hwrote.samples.rows a ha
      obtain ⟨y, hy, hyid, hykey⟩ := hwrote.samples.rows b hb
      have hxy : x = y := h.records.sampleKeys x hx y hy
        (TrafficSample.sameKey_trans (TrafficSample.sameKey_symm hxkey)
          (TrafficSample.sameKey_trans hsame hykey))
      apply hwrote.samples.keyed.eq_of_key_eq ha hb
      rw [hxid, hyid, hxy]
    · intro s hs
      obtain ⟨y, hy, _, hkey⟩ := hwrote.samples.rows s hs
      rw [hkey.1, hkey.2.1]
      exact howns (h.records.samples y hy)
    · exact hwrote.rollups db'.Owns (fun r hr => howns (h.records.rollups r hr))
        (fun s hs => howns (h.records.samples s hs))
    · intro c hc
      rw [hframe] at hc
      exact howns (h.records.checkpoints c hc)
    · rw [hframe]
      exact h.records.gapIds
    · rw [hframe]
      exact h.records.gapKeys
    · intro g hg
      rw [hframe] at hg
      obtain ⟨i, hi, ho⟩ := h.records.gaps g hg
      exact ⟨i, hi, howns ho⟩

/-! ## The import -/

theorem TrafficDb.Intact.registerLegacyRouter (h : db.Intact) (nowMs : Int) :
    (registerLegacyRouter nowMs db).Intact := by
  unfold RouterView.Db.registerLegacyRouter
  split
  · exact h.setRouters h.registry.routers.useKey h.registry.identities h.registry.parents
  · exact h.insertRouter (fun _ _ hsome => absurd rfl hsome)

theorem TrafficDb.Intact.registerLegacyInterface (h : db.Intact) {nowMs routerId : Int}
    (hrouter : ∃ r ∈ db.routers.rows, r.id = routerId) (wanName : String) :
    (registerLegacyInterface nowMs routerId db wanName).Intact ∧
      (registerLegacyInterface nowMs routerId db wanName).routers = db.routers := by
  unfold RouterView.Db.registerLegacyInterface
  split
  · refine ⟨⟨?_, h.records.of_sameTraffic rfl rfl rfl rfl (fun howns => howns)⟩, rfl⟩
    exact { h.registry with
      interfaceIds := h.registry.interfaceIds.useKey
      interfaces := h.registry.interfaces.useKey }
  · rename_i hnone
    refine ⟨h.insertInterface (fun _ => rfl) (fun _ => hrouter) ?_, rfl⟩
    intro i hi _ hkey
    apply hnone
    rw [List.any_eq_true]
    exact ⟨i, hi, decide_eq_true hkey⟩

theorem TrafficDb.legacyInterface_owns {routerId : Int} {wanName : Option String}
    {i : RouterInterfaceRecord} (h : db.legacyInterface routerId wanName = some i) :
    db.Owns routerId i.id := by
  have hkeyed := List.find?_some h
  rw [decide_eq_true_eq] at hkeyed
  exact ⟨i, List.mem_of_find?_eq_some h, rfl, hkeyed.1⟩

theorem TrafficDb.Intact.importPoint (h : db.Intact) (routerId : Int)
    (point : LegacyPoint × Option Int) : (importPoint routerId db point).Intact := by
  unfold RouterView.Db.importPoint
  split
  · exact h
  · rename_i i hinterface
    simp only
    split
    · refine ⟨h.registry.congr rfl rfl, ?_⟩
      exact { h.records with sampleIds := h.records.sampleIds.useKey }
    · rename_i hnone
      refine h.insertSample (TrafficDb.legacyInterface_owns hinterface) ?_
      intro a ha _ hsame
      apply hnone
      rw [List.any_eq_true]
      refine ⟨a, ha, ?_⟩
      rw [Bool.and_eq_true, TrafficSampleInput.on, decide_eq_true_eq, decide_eq_true_eq]
      exact ⟨⟨hsame.1, hsame.2.1⟩, hsame.2.2⟩

theorem TrafficDb.Intact.importMinute (h : db.Intact) (routerId : Int) (minute : LegacyMinute) :
    (importMinute routerId db minute).Intact := by
  unfold RouterView.Db.importMinute
  split
  · exact h
  · rename_i i hinterface
    split
    · split
      · exact ⟨h.registry.congr rfl rfl, { h.records with }⟩
      · exact h.insertRollup (fun _ => TrafficDb.legacyInterface_owns hinterface)
    · exact h

/-- What every step of a pass keeps, the pass keeps. -/
theorem foldl_keeps {α β : Type} (P : β → Prop) {f : β → α → β} (hstep : ∀ b a, P b → P (f b a))
    {b : β} (hb : P b) (l : List α) : P (l.foldl f b) := by
  induction l generalizing b with
  | nil => exact hb
  | cons a rest ih => exact ih (hstep b a hb)

theorem TrafficDb.Intact.registerAll (h : db.Intact) {nowMs routerId : Int}
    (hrouter : ∃ r ∈ db.routers.rows, r.id = routerId) (wanNames : List String) :
    (wanNames.foldl (RouterView.Db.registerLegacyInterface nowMs routerId) db).Intact := by
  refine (foldl_keeps (fun db : TrafficDb => db.Intact ∧ ∃ r ∈ db.routers.rows, r.id = routerId)
    ?_ ⟨h, hrouter⟩ wanNames).1
  intro db wanName hdb
  have hregister : (RouterView.Db.registerLegacyInterface nowMs routerId db wanName).Intact ∧
      (RouterView.Db.registerLegacyInterface nowMs routerId db wanName).routers = db.routers :=
    hdb.1.registerLegacyInterface hdb.2 wanName
  rw [hregister.2]
  exact ⟨hregister.1, hdb.2⟩

theorem importLegacyTraffic_intact (h : db.Intact) {nowMs : Int}
    {legacy : LegacyTraffic} (himport : importLegacyTraffic nowMs legacy db = .ok db') :
    db'.Intact := by
  unfold importLegacyTraffic at himport
  split at himport
  · simp only [pure_eq_ok, Except.ok.injEq] at himport
    rw [← himport]
    exact h
  · obtain ⟨router, hrouter, himport⟩ := bind_eq_ok_iff.mp himport
    obtain ⟨_, himport⟩ := ensure_bind_eq_ok_iff.mp himport
    simp only [pure_eq_ok, Except.ok.injEq] at himport
    rw [← himport]
    have hparent : ∃ r ∈ (registerLegacyRouter nowMs db).routers.rows, r.id = router.id :=
      ⟨router, List.mem_of_find?_eq_some (okOr_eq_ok_iff.mp hrouter), rfl⟩
    apply foldl_keeps TrafficDb.Intact (fun _ minute hdb => hdb.importMinute router.id minute)
    apply foldl_keeps TrafficDb.Intact (fun _ point hdb => hdb.importPoint router.id point)
    exact (h.registerLegacyRouter nowMs).registerAll hparent _

end

end RouterView.Db
