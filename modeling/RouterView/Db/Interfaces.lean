/-
  Db/Interfaces.lean --- the registration of routers and their interfaces.

  `insert_router` and `upsert_router_interface` of `db/traffic_v4.rs`.  The foreign key on the
  router is enforced by the storage engine.  An interface keeps its row, and
  with it its key, for as long as the router exists: registering it again only
  refreshes its names.

  An upsert of a known interface uses up an identifier, as an `AUTOINCREMENT` column does.
-/
import RouterView.Db.CommitSpec
import RouterView.Foundation.Text

set_option autoImplicit false

namespace RouterView.Db

open RouterView.Foundation

/-- `insert_router`; the generated identifier is an argument. -/
def insertRouter (internalUuid : String) (hardwareIdentity : Option String)
    (fallbackTarget identitySource : String) (observedAtMs : Int) (db : TrafficDb) : TrafficDb :=
  { db with
    routers := db.routers.insert (fun id =>
      { id := id, internalUuid := internalUuid, hardwareIdentity := hardwareIdentity,
        fallbackTarget := fallbackTarget, identitySource := identitySource,
        firstSeenAtMs := observedAtMs, lastSeenAtMs := observedAtMs }) }

/-- The row has the unique key of the upsert. -/
def RouterInterfaceRecord.keyed (record : RouterInterfaceRecord) (routerId : Int)
    (interfaceKey : String) : Bool :=
  decide (record.routerId = routerId ∧ record.interfaceKey = interfaceKey)

/-- `interface_by_key`. -/
def TrafficDb.interfaceByKey (db : TrafficDb) (routerId : Int) (interfaceKey : String) :
    Option RouterInterfaceRecord :=
  db.routerInterfaces.rows.find? (fun record => record.keyed routerId interfaceKey)

/-- The statement of the upsert: insert the row, or refresh the stored one. -/
def putInterface (routerId : Int) (interfaceKey name kind : String)
    (hardwareId : Option String) (observedAtMs : Int) (db : TrafficDb) : TrafficDb :=
  match db.interfaceByKey routerId interfaceKey with
  | none =>
      { db with
        routerInterfaces := db.routerInterfaces.insert (fun id =>
          { id := id, routerId := routerId, interfaceKey := interfaceKey, name := name,
            kind := kind, hardwareId := hardwareId, firstSeenAtMs := observedAtMs,
            lastSeenAtMs := observedAtMs }) }
  | some _ =>
      { db with
        routerInterfaces := (db.routerInterfaces.useKey.updateWhere
          (fun record => record.keyed routerId interfaceKey)
          (fun record =>
            { record with
              name := name, kind := kind,
              hardwareId := hardwareId.or record.hardwareId,
              lastSeenAtMs := observedAtMs })).2 }

/-- `upsert_router_interface`. -/
def upsertRouterInterface (routerId : Int) (interfaceKey name kind : String)
    (hardwareId : Option String) (observedAtMs : Int) (db : TrafficDb) :
    DatabaseResult (RouterInterfaceRecord × TrafficDb) := do
  ensure (isBlank interfaceKey = false ∧ isBlank name = false ∧ isBlank kind = false)
    (.invalidCommand "interface key, name, and kind must not be empty")
  ensure (db.routers.rows.any (fun router => decide (router.id = routerId)) = true) .sqlite
  let db' := putInterface routerId interfaceKey name kind hardwareId observedAtMs db
  let record ← okOr (db'.interfaceByKey routerId interfaceKey)
    (.verification "upserted interface could not be reloaded")
  return (record, db')

/-! ## Registered interfaces -/

/-- The interface table is as its keys make it: one row for each identifier,
all of them handed out already, and one row for each router and interface key. -/
structure TrafficDb.InterfacesWellFormed (db : TrafficDb) : Prop where
  issued : ∀ i ∈ db.routerInterfaces.rows, i.id ≤ db.routerInterfaces.sequence
  identifiers : ∀ i ∈ db.routerInterfaces.rows, ∀ j ∈ db.routerInterfaces.rows,
    i.id = j.id → i = j
  keys : ∀ i ∈ db.routerInterfaces.rows, ∀ j ∈ db.routerInterfaces.rows,
    i.routerId = j.routerId → i.interfaceKey = j.interfaceKey → i = j

/-- The router's interface `interfaceKey` has the identifier `id`. -/
def TrafficDb.Registered (db : TrafficDb) (routerId : Int) (interfaceKey : String)
    (id : Int) : Prop :=
  ∃ record ∈ db.routerInterfaces.rows,
    record.routerId = routerId ∧ record.interfaceKey = interfaceKey ∧ record.id = id

/-- The upsert touches the interface table only. -/
structure SameTraffic (db db' : TrafficDb) : Prop where
  routers : db'.routers = db.routers
  samples : db'.trafficSamples = db.trafficSamples
  rollups : db'.trafficRollups = db.trafficRollups
  checkpoints : db'.counterCheckpoints = db.counterCheckpoints
  gaps : db'.trafficGaps = db.trafficGaps

theorem putInterface_sameTraffic (routerId : Int) (interfaceKey name kind : String)
    (hardwareId : Option String) (observedAtMs : Int) (db : TrafficDb) :
    SameTraffic db (putInterface routerId interfaceKey name kind hardwareId observedAtMs db) := by
  unfold putInterface
  split <;> exact ⟨rfl, rfl, rfl, rfl, rfl⟩

theorem registered_putInterface {routerId : Int} {interfaceKey name kind : String}
    {hardwareId : Option String} {observedAtMs : Int} {db : TrafficDb}
    {routerId' id : Int} {key : String} (h : db.Registered routerId' key id) :
    (putInterface routerId interfaceKey name kind hardwareId observedAtMs db).Registered
      routerId' key id := by
  obtain ⟨record, hrecord, hr, hk, hi⟩ := h
  unfold putInterface
  split
  · exact ⟨record, by simp [hrecord], hr, hk, hi⟩
  · by_cases hkeyed : record.keyed routerId interfaceKey = true
    · exact ⟨_, Table.mem_updateWhere_iff.mpr (Or.inr ⟨record, hrecord, hkeyed, rfl⟩), hr, hk, hi⟩
    · exact ⟨record, Table.mem_updateWhere_iff.mpr (Or.inl ⟨hrecord, by simpa using hkeyed⟩),
        hr, hk, hi⟩

theorem TrafficDb.InterfacesWellFormed.insert {db : TrafficDb}
    (h : db.InterfacesWellFormed) {row : Int → RouterInterfaceRecord}
    (hid : ∀ id, (row id).id = id)
    (hfresh : ∀ i ∈ db.routerInterfaces.rows, ∀ id,
      ¬ (i.routerId = (row id).routerId ∧ i.interfaceKey = (row id).interfaceKey)) :
    TrafficDb.InterfacesWellFormed
      { db with routerInterfaces := db.routerInterfaces.insert row } where
  issued := by
    intro i hi
    simp only [Table.insert_rows, List.mem_append, List.mem_singleton] at hi
    rcases hi with hold | rfl
    · exact le_trans (h.issued i hold) (by simp [Table.insert])
    · simp [hid, Table.insert]
  identifiers := by
    intro i hi j hj hij
    simp only [Table.insert_rows, List.mem_append, List.mem_singleton] at hi hj
    rcases hi with hi | rfl <;> rcases hj with hj | rfl
    · exact h.identifiers i hi j hj hij
    · have := h.issued i hi
      rw [hid] at hij
      omega
    · have := h.issued j hj
      rw [hid] at hij
      omega
    · rfl
  keys := by
    intro i hi j hj hr hk
    simp only [Table.insert_rows, List.mem_append, List.mem_singleton] at hi hj
    rcases hi with hi | rfl <;> rcases hj with hj | rfl
    · exact h.keys i hi j hj hr hk
    · exact absurd ⟨hr, hk⟩ (hfresh i hi _)
    · exact absurd ⟨hr.symm, hk.symm⟩ (hfresh j hj _)
    · rfl

theorem TrafficDb.InterfacesWellFormed.useKey {db : TrafficDb} (h : db.InterfacesWellFormed) :
    TrafficDb.InterfacesWellFormed
      { db with routerInterfaces := db.routerInterfaces.useKey } where
  issued := fun i hi => (h.issued i hi).trans (Int.le_add_one (le_refl _))
  identifiers := h.identifiers
  keys := h.keys

theorem TrafficDb.InterfacesWellFormed.update {db : TrafficDb}
    (h : db.InterfacesWellFormed) (p : RouterInterfaceRecord → Bool)
    {f : RouterInterfaceRecord → RouterInterfaceRecord}
    (hid : ∀ i, (f i).id = i.id) (hrouter : ∀ i, (f i).routerId = i.routerId)
    (hkey : ∀ i, (f i).interfaceKey = i.interfaceKey) :
    TrafficDb.InterfacesWellFormed
      { db with routerInterfaces := (db.routerInterfaces.updateWhere p f).2 } := by
  have hrow : ∀ i ∈ (db.routerInterfaces.updateWhere p f).2.rows,
      ∃ old ∈ db.routerInterfaces.rows, i = (if p old then f old else old) ∧
        i.id = old.id ∧ i.routerId = old.routerId ∧ i.interfaceKey = old.interfaceKey := by
    intro i hi
    obtain ⟨old, hold, rfl⟩ := List.mem_map.mp hi
    refine ⟨old, hold, rfl, ?_⟩
    split
    · exact ⟨hid old, hrouter old, hkey old⟩
    · exact ⟨rfl, rfl, rfl⟩
  refine ⟨?_, ?_, ?_⟩
  · intro i hi
    obtain ⟨old, hold, _, hi', _⟩ := hrow i hi
    rw [hi']
    exact h.issued old hold
  · intro i hi j hj hij
    obtain ⟨x, hx, hix, hxid, _⟩ := hrow i hi
    obtain ⟨y, hy, hjy, hyid, _⟩ := hrow j hj
    rw [hix, hjy, h.identifiers x hx y hy (by rw [← hxid, ← hyid, hij])]
  · intro i hi j hj hr hk
    obtain ⟨x, hx, hix, _, hxr, hxk⟩ := hrow i hi
    obtain ⟨y, hy, hjy, _, hyr, hyk⟩ := hrow j hj
    rw [hix, hjy, h.keys x hx y hy (by rw [← hxr, ← hyr, hr]) (by rw [← hxk, ← hyk, hk])]

theorem TrafficDb.interfaceByKey_eq_none {db : TrafficDb} {routerId : Int}
    {interfaceKey : String} (h : db.interfaceByKey routerId interfaceKey = none) :
    ∀ i ∈ db.routerInterfaces.rows,
      ¬ (i.routerId = routerId ∧ i.interfaceKey = interfaceKey) := by
  intro i hi
  have := List.find?_eq_none.mp h i hi
  simpa [RouterInterfaceRecord.keyed] using this

theorem putInterface_wellFormed {routerId : Int} {interfaceKey name kind : String}
    {hardwareId : Option String} {observedAtMs : Int} {db : TrafficDb}
    (h : db.InterfacesWellFormed) :
    (putInterface routerId interfaceKey name kind hardwareId observedAtMs
      db).InterfacesWellFormed := by
  unfold putInterface
  split
  · rename_i habsent
    exact h.insert (fun _ => rfl)
      (fun i hi _ => TrafficDb.interfaceByKey_eq_none habsent i hi)
  · exact h.useKey.update _ (fun _ => rfl) (fun _ => rfl) (fun _ => rfl)

/-- A successful upsert: the returned row is registered under the key, the
older registrations stand, and the traffic tables are untouched. -/
structure Upserted (db : TrafficDb) (routerId : Int) (interfaceKey : String)
    (record : RouterInterfaceRecord) (db' : TrafficDb) : Prop where
  registered : db'.Registered routerId interfaceKey record.id
  keeps : ∀ {routerId' id key}, db.Registered routerId' key id → db'.Registered routerId' key id
  wellFormed : db.InterfacesWellFormed → db'.InterfacesWellFormed
  sameTraffic : SameTraffic db db'

theorem upsertRouterInterface_ok {routerId : Int} {interfaceKey name kind : String}
    {hardwareId : Option String} {observedAtMs : Int} {db db' : TrafficDb}
    {record : RouterInterfaceRecord}
    (h : upsertRouterInterface routerId interfaceKey name kind hardwareId observedAtMs db =
      .ok (record, db')) :
    Upserted db routerId interfaceKey record db' := by
  unfold upsertRouterInterface at h
  obtain ⟨_, h⟩ := ensure_bind_eq_ok_iff.mp h
  obtain ⟨_, h⟩ := ensure_bind_eq_ok_iff.mp h
  obtain ⟨found, hfound, h⟩ := bind_eq_ok_iff.mp h
  simp only [pure_eq_ok, Except.ok.injEq, Prod.mk.injEq] at h
  obtain ⟨rfl, rfl⟩ := h
  have hfind := okOr_eq_ok_iff.mp hfound
  have hkeyed := List.find?_some hfind
  simp only [RouterInterfaceRecord.keyed, decide_eq_true_eq] at hkeyed
  exact ⟨⟨found, List.mem_of_find?_eq_some hfind, hkeyed.1, hkeyed.2, rfl⟩,
    registered_putInterface, putInterface_wellFormed, putInterface_sameTraffic _ _ _ _ _ _ _⟩

theorem upsertRouterInterface_eq {routerId : Int} {interfaceKey name kind : String}
    {hardwareId : Option String} {observedAtMs : Int} {db db' : TrafficDb}
    {record : RouterInterfaceRecord}
    (h : upsertRouterInterface routerId interfaceKey name kind hardwareId observedAtMs db =
      .ok (record, db')) :
    db' = putInterface routerId interfaceKey name kind hardwareId observedAtMs db := by
  unfold upsertRouterInterface at h
  obtain ⟨_, h⟩ := ensure_bind_eq_ok_iff.mp h
  obtain ⟨_, h⟩ := ensure_bind_eq_ok_iff.mp h
  obtain ⟨_, _, h⟩ := bind_eq_ok_iff.mp h
  simp only [pure_eq_ok, Except.ok.injEq, Prod.mk.injEq] at h
  exact h.2.symm

/-- A database with one registered router. -/
def TrafficDb.withRouter : TrafficDb :=
  insertRouter "9c5f" (some "HEX0815") "192.168.88.1" "hardware" 0 TrafficDb.empty

/-- The router of `withRouter` with one interface, which gets identifier `1`. -/
def TrafficDb.withInterface : TrafficDb :=
  putInterface 1 "routeros:*1" "ether1" "wan" none 0 TrafficDb.withRouter

/-- A named interface of a stored router is registered. -/
theorem upsertRouterInterface_succeeds {routerId : Int} {db : TrafficDb}
    (interfaceKey name kind : String) (hardwareId : Option String) (observedAtMs : Int)
    (hnamed : isBlank interfaceKey = false ∧ isBlank name = false ∧ isBlank kind = false)
    (hrouter : db.routers.rows.any (fun router => decide (router.id = routerId)) = true) :
    ∃ record db', upsertRouterInterface routerId interfaceKey name kind hardwareId observedAtMs
      db = .ok (record, db') := by
  have hfound : ((putInterface routerId interfaceKey name kind hardwareId observedAtMs
      db).interfaceByKey routerId interfaceKey).isSome = true := by
    unfold putInterface
    split
    · simp [TrafficDb.interfaceByKey, RouterInterfaceRecord.keyed]
    · rename_i record hrecord
      have hkeyed := List.find?_some hrecord
      rw [TrafficDb.interfaceByKey, List.find?_isSome]
      refine ⟨_, Table.mem_updateWhere_iff.mpr
        (Or.inr ⟨record, List.mem_of_find?_eq_some hrecord, hkeyed, rfl⟩), hkeyed⟩
  obtain ⟨record, hrecord⟩ := Option.isSome_iff_exists.mp hfound
  refine ⟨record, putInterface routerId interfaceKey name kind hardwareId observedAtMs db, ?_⟩
  unfold upsertRouterInterface
  rw [ensure_of hnamed, ok_bind, ensure_of hrouter, ok_bind]
  simp only [hrecord]
  rfl

/-- An interface that is registered keeps its identifier. -/
theorem Upserted.id_eq {db db' : TrafficDb} {routerId id : Int} {interfaceKey : String}
    {record : RouterInterfaceRecord} (h : Upserted db routerId interfaceKey record db')
    (hdb : db.InterfacesWellFormed) (hregistered : db.Registered routerId interfaceKey id) :
    record.id = id := by
  obtain ⟨i, hi, hir, hik, hid⟩ := h.registered
  obtain ⟨j, hj, hjr, hjk, hjd⟩ := h.keeps hregistered
  rw [← hid, ← hjd, (h.wellFormed hdb).keys i hi j hj (hir.trans hjr.symm) (hik.trans hjk.symm)]

end RouterView.Db
