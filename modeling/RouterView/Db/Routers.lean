/-
  Db/Routers.lean --- the identity of routers, and the adoption of legacy history.

  `resolve_router` of `db/traffic_v4.rs` and the functions that it calls.  The
  unique keys of the tables are checked where a statement can violate them: such
  a statement fails, and the transaction with it.  No two rows that a statement
  moves meet each other on the way, since all of them leave one router.

  The identifier that a call would generate is an argument, so that a run says which of them
  are equal.  Left out: the reading of a row into its record.
-/
import RouterView.Db.Interfaces

set_option autoImplicit false

namespace RouterView.Db

open RouterView.Foundation

/-- The fallback target of the router that owns the imported history. -/
def legacyTarget : String := "legacy://unidentified"

/-! ## Lookups -/

namespace TrafficDb

/-- `router_by_hardware_identity`. -/
def routerByHardwareIdentity (db : TrafficDb) (hardwareIdentity : String) :
    Option RouterRecord :=
  db.routers.rows.find? (fun r => decide (r.hardwareIdentity = some hardwareIdentity))

/-- `router_by_fallback_only`; the rows are in the order of their identifiers. -/
def routerByFallbackOnly (db : TrafficDb) (fallbackTarget : String) : Option RouterRecord :=
  db.routers.rows.find? (fun r =>
    decide (r.fallbackTarget = fallbackTarget ∧ r.hardwareIdentity = none))

/-- The later of two routers. -/
def laterRouter (best r : RouterRecord) : RouterRecord :=
  if best.lastSeenAtMs < r.lastSeenAtMs ∨ (best.lastSeenAtMs = r.lastSeenAtMs ∧ best.id < r.id)
  then r
  else best

/-- `router_by_fallback_target`: the most recently seen router of a target. -/
def routerByFallbackTarget (db : TrafficDb) (fallbackTarget : String) : Option RouterRecord :=
  match db.routers.rows.filter (fun r => decide (r.fallbackTarget = fallbackTarget)) with
  | [] => none
  | first :: rest => some (rest.foldl laterRouter first)

/-- `router_by_id`. -/
def routerById (db : TrafficDb) (id : Int) : Option RouterRecord :=
  db.routers.rows.find? (fun r => decide (r.id = id))

/-- `UPDATE routers … WHERE id = …`. -/
def updateRouter (db : TrafficDb) (id : Int) (f : RouterRecord → RouterRecord) : TrafficDb :=
  { db with routers := (db.routers.updateWhere (fun r => decide (r.id = id)) f).2 }

end TrafficDb

/-! ## Deletions with their cascades -/

/-- `DELETE FROM router_interfaces WHERE id = …`. -/
def deleteInterface (id : Int) (db : TrafficDb) : TrafficDb where
  routers := db.routers
  routerInterfaces := (db.routerInterfaces.deleteWhere (fun i => decide (i.id = id))).2
  trafficSamples := (db.trafficSamples.deleteWhere (fun s => decide (s.interfaceId = id))).2
  trafficRollups := (db.trafficRollups.deleteWhere (fun r => decide (r.interfaceId = id))).2
  counterCheckpoints := db.counterCheckpoints.filter (fun c => !decide (c.interfaceId = id))
  trafficGaps := (db.trafficGaps.deleteWhere (fun g => decide (g.interfaceId = some id))).2

/-- The rows that refer to a router by its identifier. -/
def deleteRouterRows (id : Int) (db : TrafficDb) : TrafficDb where
  routers := (db.routers.deleteWhere (fun r => decide (r.id = id))).2
  routerInterfaces := (db.routerInterfaces.deleteWhere (fun i => decide (i.routerId = id))).2
  trafficSamples := (db.trafficSamples.deleteWhere (fun s => decide (s.routerId = id))).2
  trafficRollups := (db.trafficRollups.deleteWhere (fun r => decide (r.routerId = id))).2
  counterCheckpoints := db.counterCheckpoints.filter (fun c => !decide (c.routerId = id))
  trafficGaps := (db.trafficGaps.deleteWhere (fun g => decide (g.routerId = id))).2

/-- `DELETE FROM routers WHERE id = …`. -/
def deleteRouter (id : Int) (db : TrafficDb) : TrafficDb :=
  let owned := db.routerInterfaces.rows.filter (fun i => decide (i.routerId = id))
  deleteRouterRows id (owned.foldl (fun db i => deleteInterface i.id db) db)

/-! ## Adoption -/

/-- The two samples have the same unique key. -/
def TrafficSample.sameKey (a b : TrafficSample) : Prop :=
  a.routerId = b.routerId ∧ a.interfaceId = b.interfaceId ∧ a.endedAtMs = b.endedAtMs ∧
    a.source = b.source

instance (a b : TrafficSample) : Decidable (a.sameKey b) := inferInstanceAs (Decidable (_ ∧ _))

/-- The two rollups have the same unique key. -/
def TrafficRollup.sameKey (a b : TrafficRollup) : Prop :=
  a.routerId = b.routerId ∧ a.interfaceId = b.interfaceId ∧ a.bucketSizeMs = b.bucketSizeMs ∧
    a.bucketStartMs = b.bucketStartMs ∧ a.source = b.source

instance (a b : TrafficRollup) : Decidable (a.sameKey b) := inferInstanceAs (Decidable (_ ∧ _))

/-- The two gaps have the same unique key; an absent interface equals none. -/
def TrafficGap.sameKey (a b : TrafficGap) : Prop :=
  a.routerId = b.routerId ∧ (a.interfaceId = b.interfaceId ∧ a.interfaceId ≠ none) ∧
    a.startedAtMs = b.startedAtMs ∧ a.endedAtMs = b.endedAtMs ∧ a.reason = b.reason

instance (a b : TrafficGap) : Decidable (a.sameKey b) := inferInstanceAs (Decidable (_ ∧ _))

/-- An update of the rows that satisfy `p`, under a unique key. -/
def updateUnique {α : Type} (sameKey : α → α → Prop) [DecidableRel sameKey] (p : α → Bool)
    (f : α → α) (t : Table α) : DatabaseResult (Table α) := do
  let t' := (t.updateWhere p f).2
  ensure (t'.rows.Pairwise (fun a b => ¬ sameKey a b)) .sqlite
  return t'

/-- Where the rows of an interface go. -/
structure Move where
  routerId : Int
  interfaceId : Int
  legacyRouterId : Int
  legacyInterfaceId : Int
  deriving DecidableEq, Repr

/-- `UPDATE {table} SET router_id = …, interface_id = …` for the three history
tables. -/
def moveHistory (move : Move) (db : TrafficDb) : DatabaseResult TrafficDb := do
  let samples ← updateUnique TrafficSample.sameKey
    (fun s => s.on move.legacyRouterId move.legacyInterfaceId)
    (fun s => { s with routerId := move.routerId, interfaceId := move.interfaceId })
    db.trafficSamples
  let rollups ← updateUnique TrafficRollup.sameKey
    (fun r => r.on move.legacyRouterId move.legacyInterfaceId)
    (fun r => { r with routerId := move.routerId, interfaceId := move.interfaceId })
    db.trafficRollups
  let gaps ← updateUnique TrafficGap.sameKey
    (fun g => g.on move.legacyRouterId move.legacyInterfaceId)
    (fun g => { g with routerId := move.routerId, interfaceId := some move.interfaceId })
    db.trafficGaps
  return { db with trafficSamples := samples, trafficRollups := rollups, trafficGaps := gaps }

/-- The checkpoint belongs to the interface. -/
def CounterCheckpoint.on (c : CounterCheckpoint) (routerId interfaceId : Int) : Bool :=
  decide (c.routerId = routerId ∧ c.interfaceId = interfaceId)

/-- `UPDATE counter_checkpoints SET router_id = …`. -/
def moveCheckpoint (move : Move) (db : TrafficDb) : DatabaseResult TrafficDb := do
  let moves := db.counterCheckpoints.any
    (fun c => c.on move.legacyRouterId move.legacyInterfaceId)
  let taken := db.counterCheckpoints.any (fun c => c.on move.routerId move.legacyInterfaceId)
  ensure ((moves && taken) = false) .sqlite
  return { db with
    counterCheckpoints := db.counterCheckpoints.map (fun c =>
      if c.on move.legacyRouterId move.legacyInterfaceId then { c with routerId := move.routerId }
      else c) }

/-- `DELETE FROM counter_checkpoints WHERE router_id = … AND interface_id = …`. -/
def dropCheckpoint (routerId interfaceId : Int) (db : TrafficDb) : TrafficDb :=
  { db with
    counterCheckpoints := db.counterCheckpoints.filter (fun c => !c.on routerId interfaceId) }

/-- One interface of the legacy router: its rows go to the interface with the same
key, or the interface goes to the router. -/
def adoptInterface (targetRouterId observedAtMs legacyRouterId : Int)
    (interface : RouterInterfaceRecord) (db : TrafficDb) : DatabaseResult TrafficDb :=
  match db.interfaceByKey targetRouterId interface.interfaceKey with
  | some target => do
      let moved ← moveHistory ⟨targetRouterId, target.id, legacyRouterId, interface.id⟩ db
      return deleteInterface interface.id (dropCheckpoint legacyRouterId interface.id moved)
  | none => do
      let move : Move := ⟨targetRouterId, interface.id, legacyRouterId, interface.id⟩
      let moved ← moveHistory move
        { db with
          routerInterfaces := (db.routerInterfaces.updateWhere
            (fun i => decide (i.id = interface.id))
            (fun i =>
              { i with
                routerId := targetRouterId
                lastSeenAtMs := max i.lastSeenAtMs observedAtMs })).2 }
      moveCheckpoint move moved

/-- The loop over the interfaces. -/
def adoptInterfaces (targetRouterId observedAtMs legacyRouterId : Int) :
    List RouterInterfaceRecord → TrafficDb → DatabaseResult TrafficDb
  | [], db => .ok db
  | interface :: rest, db => do
      let db' ← adoptInterface targetRouterId observedAtMs legacyRouterId interface db
      adoptInterfaces targetRouterId observedAtMs legacyRouterId rest db'

/-- The gaps of a router without an interface. -/
def moveRouterGaps (targetRouterId legacyRouterId : Int) (db : TrafficDb) : TrafficDb :=
  { db with
    trafficGaps := (db.trafficGaps.updateWhere
      (fun g => decide (g.routerId = legacyRouterId ∧ g.interfaceId = none))
      (fun g => { g with routerId := targetRouterId })).2 }

/-- The times of a router that adopts another one. -/
def adoptTimes (legacy : Option RouterRecord) (observedAtMs : Int) (r : RouterRecord) :
    RouterRecord :=
  { r with
    firstSeenAtMs := min r.firstSeenAtMs
      ((legacy.map (fun l => l.firstSeenAtMs)).getD r.firstSeenAtMs)
    lastSeenAtMs := max r.lastSeenAtMs observedAtMs }

/-- One legacy router. -/
def adoptRouter (targetRouterId observedAtMs legacyRouterId : Int) (db : TrafficDb) :
    DatabaseResult TrafficDb := do
  let interfaces := db.routerInterfaces.rows.filter
    (fun i => decide (i.routerId = legacyRouterId))
  let moved ← adoptInterfaces targetRouterId observedAtMs legacyRouterId interfaces db
  let adopted := moveRouterGaps targetRouterId legacyRouterId moved
  let seen := adopted.updateRouter targetRouterId
    (adoptTimes (adopted.routerById legacyRouterId) observedAtMs)
  return deleteRouter legacyRouterId seen

/-- The loop over the legacy routers. -/
def adoptRouters (targetRouterId observedAtMs : Int) :
    List Int → TrafficDb → DatabaseResult TrafficDb
  | [], db => .ok db
  | legacyRouterId :: rest, db => do
      let db' ← adoptRouter targetRouterId observedAtMs legacyRouterId db
      adoptRouters targetRouterId observedAtMs rest db'

/-- `adopt_legacy_history`. -/
def adoptLegacyHistory (targetRouterId observedAtMs : Int) (db : TrafficDb) :
    DatabaseResult TrafficDb :=
  adoptRouters targetRouterId observedAtMs
    ((db.routers.rows.filter (fun r =>
      decide (r.fallbackTarget = legacyTarget ∧ r.id ≠ targetRouterId))).map (fun r => r.id)) db

/-! ## Resolution -/

/-- The arguments of `resolve_router`, with the identifier that it would generate. -/
structure RouterCall where
  internalUuid : String
  hardwareIdentity : Option String
  fallbackTarget : String
  observedAtMs : Int
  deriving DecidableEq, Repr

/-- The trimmed identity, if any. -/
def RouterCall.identity (call : RouterCall) : Option String :=
  (call.hardwareIdentity.map trim).filter (fun value => !value.isEmpty)

/-- The trimmed target. -/
def RouterCall.target (call : RouterCall) : String := trim call.fallbackTarget

/-- `insert_router`, under the unique key of the generated identifiers. -/
def insertNewRouter (call : RouterCall) (identitySource : String) (db : TrafficDb) :
    DatabaseResult (Int × TrafficDb) := do
  ensure (∀ r ∈ db.routers.rows, r.internalUuid ≠ call.internalUuid) .sqlite
  let db' := insertRouter call.internalUuid call.identity call.target identitySource
    call.observedAtMs db
  return (db'.routers.sequence, db')

/-- The router of a call before the adoption: found, upgraded or inserted. -/
def selectRouter (call : RouterCall) (db : TrafficDb) : DatabaseResult (Int × TrafficDb) :=
  let existing := match call.identity with
    | some identity => db.routerByHardwareIdentity identity
    | none => db.routerByFallbackTarget call.target
  match existing with
  | some router =>
      .ok (router.id, db.updateRouter router.id (fun r =>
        { r with fallbackTarget := call.target, lastSeenAtMs := call.observedAtMs }))
  | none =>
      match call.identity with
      | some identity =>
          match db.routerByFallbackOnly call.target with
          | some router =>
              .ok (router.id, db.updateRouter router.id (fun r =>
                { r with
                  hardwareIdentity := some identity
                  identitySource := "hardware"
                  lastSeenAtMs := call.observedAtMs }))
          | none => insertNewRouter call "hardware" db
      | none => insertNewRouter call "fallback" db

/-- `resolve_router`. -/
def resolveRouter (call : RouterCall) (db : TrafficDb) :
    DatabaseResult (RouterRecord × TrafficDb) := do
  ensure (call.target.isEmpty = false)
    (.invalidCommand "router fallback target must not be empty")
  let (id, selected) ← selectRouter call db
  let adopted ← adoptLegacyHistory id call.observedAtMs selected
  let router ← okOr (adopted.routerById id)
    (.verification "resolved router disappeared before commit")
  return (router, adopted)

end RouterView.Db
