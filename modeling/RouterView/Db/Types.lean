/-
  Db/Types.lean --- the traffic database: errors, rows and tables.

  The tables of schema version 4 that hold routers, interfaces, samples,
  rollups, checkpoints and gaps, as `db/schema.rs` creates them and
  `db/traffic_v4.rs` reads and writes them.  Columns that no statement of the
  model reads (`created_at_ms`, the average rates of a rollup) are left out.
  An INTEGER column is an `Int`; `TrafficDb.WellTyped` says that every cell is
  a signed 64-bit integer, which is what the storage engine stores.

  Scope: the rows that the traffic statements read and write.  The connection, its lock and
  its prepared statements are left out, and so are the indexes that only make a statement
  faster; a unique index is checked by the statement that can violate it.
-/
import RouterView.Foundation.Amounts
import RouterView.Foundation.Checked
import RouterView.Foundation.Table
import RouterView.Foundation.F64
import RouterView.Foundation.Span

set_option autoImplicit false

namespace RouterView.Db

open RouterView.Foundation

/-! ## Errors -/

/-- `DatabaseError`, restricted to the variants of the modelled functions.
`sqlite` stands for any error reported by the storage engine itself. -/
inductive DatabaseError where
  | sqlite
  | verification (message : String)
  | invalidCommand (message : String)
  | trafficQueryTooLarge (maxSourceRows : Nat)
  deriving DecidableEq, Repr

/-- `DatabaseResult`. -/
abbrev DatabaseResult (α : Type) : Type := Except DatabaseError α

/-! ## Rows -/

/-- `TrafficQuality`; the column is constrained to these two values. -/
inductive TrafficQuality where
  | exact
  | estimated
  deriving DecidableEq, Repr

/-- A row of `routers`. -/
structure RouterRecord where
  id : Int
  internalUuid : String
  hardwareIdentity : Option String
  fallbackTarget : String
  identitySource : String
  firstSeenAtMs : Int
  lastSeenAtMs : Int
  deriving DecidableEq, Repr

/-- A row of `router_interfaces`. -/
structure RouterInterfaceRecord where
  id : Int
  routerId : Int
  interfaceKey : String
  name : String
  kind : String
  hardwareId : Option String
  firstSeenAtMs : Int
  lastSeenAtMs : Int
  deriving DecidableEq, Repr

/-- `TrafficSampleInput`: a sample before it has a row. -/
structure TrafficSampleInput where
  routerId : Int
  interfaceId : Int
  startedAtMs : Int
  endedAtMs : Int
  durationMs : Int
  downloadBytes : Int
  uploadBytes : Int
  downloadBps : F64
  uploadBps : F64
  quality : TrafficQuality
  source : String
  deriving DecidableEq, Repr

/-- A row of `traffic_samples`. -/
structure TrafficSample extends TrafficSampleInput where
  id : Int
  deriving DecidableEq, Repr

/-- A row of `traffic_rollups`. -/
structure TrafficRollup where
  id : Int
  routerId : Int
  interfaceId : Int
  bucketStartMs : Int
  bucketEndMs : Int
  bucketSizeMs : Int
  exactDownloadBytes : Int
  exactUploadBytes : Int
  estimatedDownloadBytes : Int
  estimatedUploadBytes : Int
  exactDurationMs : Int
  estimatedDurationMs : Int
  sampleCount : Int
  source : String
  deriving DecidableEq, Repr

/-- A row of `counter_checkpoints`, keyed by router and interface. -/
structure CounterCheckpoint where
  routerId : Int
  interfaceId : Int
  rxCounter : String
  txCounter : String
  observedAtMs : Int
  rebootMarker : Option String
  deriving DecidableEq, Repr

/-- `CounterCheckpointInput`: the same fields, borrowed. -/
abbrev CounterCheckpointInput : Type := CounterCheckpoint

/-- `TrafficGapInput`: a gap before it has a row. -/
structure TrafficGapInput where
  routerId : Int
  interfaceId : Option Int
  startedAtMs : Int
  endedAtMs : Int
  reason : String
  details : Option String
  deriving DecidableEq, Repr

/-- A row of `traffic_gaps`. -/
structure TrafficGap extends TrafficGapInput where
  id : Int
  deriving DecidableEq, Repr

/-- The traffic tables of the database. -/
structure TrafficDb where
  routers : Table RouterRecord
  routerInterfaces : Table RouterInterfaceRecord
  trafficSamples : Table TrafficSample
  trafficRollups : Table TrafficRollup
  counterCheckpoints : List CounterCheckpoint
  trafficGaps : Table TrafficGap
  deriving DecidableEq, Repr

/-- The freshly created tables. -/
def TrafficDb.empty : TrafficDb where
  routers := Table.empty
  routerInterfaces := Table.empty
  trafficSamples := Table.empty
  trafficRollups := Table.empty
  counterCheckpoints := []
  trafficGaps := Table.empty

/-! ## Rows of one interface -/

/-- The sample belongs to the interface. -/
def TrafficSampleInput.on (s : TrafficSampleInput) (routerId interfaceId : Int) : Bool :=
  decide (s.routerId = routerId ∧ s.interfaceId = interfaceId)

/-- The rollup belongs to the interface. -/
def TrafficRollup.on (r : TrafficRollup) (routerId interfaceId : Int) : Bool :=
  decide (r.routerId = routerId ∧ r.interfaceId = interfaceId)

/-- The gap belongs to the interface. -/
def TrafficGapInput.on (g : TrafficGapInput) (routerId interfaceId : Int) : Bool :=
  decide (g.routerId = routerId ∧ g.interfaceId = some interfaceId)

/-- The span of a sample. -/
def TrafficSampleInput.span (s : TrafficSampleInput) : Span Int := ⟨s.startedAtMs, s.endedAtMs⟩

/-- The span of a rollup. -/
def TrafficRollup.span (r : TrafficRollup) : Span Int := ⟨r.bucketStartMs, r.bucketEndMs⟩

/-- The span of a gap. -/
def TrafficGapInput.span (g : TrafficGapInput) : Span Int := ⟨g.startedAtMs, g.endedAtMs⟩

namespace TrafficDb

/-- The samples of one interface. -/
def samplesOn (db : TrafficDb) (routerId interfaceId : Int) : List TrafficSample :=
  db.trafficSamples.rows.filter (fun s => s.on routerId interfaceId)

/-- The rollups of one interface. -/
def rollupsOn (db : TrafficDb) (routerId interfaceId : Int) : List TrafficRollup :=
  db.trafficRollups.rows.filter (fun r => r.on routerId interfaceId)

/-- The gaps of one interface. -/
def gapsOn (db : TrafficDb) (routerId interfaceId : Int) : List TrafficGap :=
  db.trafficGaps.rows.filter (fun g => g.on routerId interfaceId)

/-- `checkpoint_for_connection`. -/
def checkpointFor (db : TrafficDb) (routerId interfaceId : Int) : Option CounterCheckpoint :=
  db.counterCheckpoints.find?
    (fun c => decide (c.routerId = routerId ∧ c.interfaceId = interfaceId))

/-- The interface row exists and belongs to the router. -/
def ownsInterface (db : TrafficDb) (routerId interfaceId : Int) : Bool :=
  db.routerInterfaces.rows.any
    (fun i => decide (i.id = interfaceId ∧ i.routerId = routerId))

/-- The router row exists, and the interface, when given, is one of its own. -/
def ownsRouterInterface (db : TrafficDb) (routerId : Int) (interfaceId : Option Int) : Bool :=
  db.routers.rows.any (fun router => decide (router.id = routerId)) &&
    match interfaceId with
    | none => true
    | some interfaceId => db.ownsInterface routerId interfaceId

/-- `ensure_interface_owner`. -/
def ensureInterfaceOwner (db : TrafficDb) (routerId : Int) (interfaceId : Option Int) :
    DatabaseResult Unit :=
  ensure (db.ownsRouterInterface routerId interfaceId = true)
    (.invalidCommand "traffic record references an unknown router interface")

end TrafficDb

/-! ## Cell ranges -/

/-- Every INTEGER cell of the row is a signed 64-bit integer. -/
structure TrafficSample.WellTyped (s : TrafficSample) : Prop where
  startedAtMs : IsI64 s.startedAtMs
  endedAtMs : IsI64 s.endedAtMs
  durationMs : IsI64 s.durationMs
  downloadBytes : IsI64 s.downloadBytes
  uploadBytes : IsI64 s.uploadBytes

/-- Every INTEGER cell of the row is a signed 64-bit integer. -/
structure TrafficRollup.WellTyped (r : TrafficRollup) : Prop where
  bucketStartMs : IsI64 r.bucketStartMs
  bucketEndMs : IsI64 r.bucketEndMs
  bucketSizeMs : IsI64 r.bucketSizeMs
  exactDownloadBytes : IsI64 r.exactDownloadBytes
  exactUploadBytes : IsI64 r.exactUploadBytes
  estimatedDownloadBytes : IsI64 r.estimatedDownloadBytes
  estimatedUploadBytes : IsI64 r.estimatedUploadBytes
  exactDurationMs : IsI64 r.exactDurationMs
  estimatedDurationMs : IsI64 r.estimatedDurationMs
  sampleCount : IsI64 r.sampleCount

/-- Every INTEGER cell that a traffic query reads is a signed 64-bit integer. -/
structure TrafficDb.WellTyped (db : TrafficDb) : Prop where
  samples : ∀ s ∈ db.trafficSamples.rows, s.WellTyped
  rollups : ∀ r ∈ db.trafficRollups.rows, r.WellTyped

/-- A timestamp whose magnitude is below `2 ^ 62`, so that the difference of
any two of them is a signed 64-bit integer. -/
def IsTimestamp (t : Int) : Prop := -4611686018427387904 < t ∧ t < 4611686018427387904

instance (t : Int) : Decidable (IsTimestamp t) := inferInstanceAs (Decidable (_ ∧ _))

theorem IsTimestamp.sub_isI64 {s t : Int} (hs : IsTimestamp s) (ht : IsTimestamp t) :
    IsI64 (s - t) := by
  simp only [IsTimestamp, IsI64, i64Min, i64Max] at *
  omega

theorem IsTimestamp.satSub_eq {s t : Int} (hs : IsTimestamp s) (ht : IsTimestamp t) :
    satSub s t = s - t :=
  RouterView.Foundation.satSub_eq (hs.sub_isI64 ht)

end RouterView.Db
