/-
  Maintenance/Schema.lean --- the migrations of the database.

  `apply_migrations` of `db/schema.rs` over a database of any shape: every table
  may be absent, the legacy tables may lack the wan name or keep it outside the
  key, and the tables of the administrator and of the sessions may lack the
  columns that later versions added.  Any statement may fail, for instance on a
  full disk, a trigger or a column of an unexpected type.

  Scope: the ladder inside its one transaction.  Left out: the backup that precedes it, the
  indexes, and the text of the statements.
-/
import RouterView.Foundation.Checked
import RouterView.Auth.Store
import RouterView.Secrets.Rotation
import RouterView.Maintenance.Export

set_option autoImplicit false

namespace RouterView.Maintenance

open RouterView.Foundation
open RouterView.Db (LegacyPoint LegacyMinute LegacyTraffic TrafficSample TrafficRollup TrafficDb
  TrafficGap CounterCheckpoint RouterRecord RouterInterfaceRecord importLegacyTraffic)
open RouterView.Auth (AuthSessionRecord AuthMethod PairingCode SetupToken)
open RouterView.Secrets (SecretRow)

/-! ## Legacy tables -/

/-- The rows of a legacy table: what they share is the name of the interface. -/
class LegacyRow (α : Type) where
  /-- `LegacyTable::name`. -/
  tableName : String
  /-- `LegacyTable::key`. -/
  keyColumn : String
  key : α → Int
  wanName : α → Option String
  withWanName : α → String → α
  wanName_withWanName : ∀ row name, wanName (withWanName row name) = some name
  withWanName_twice : ∀ row name again,
    withWanName (withWanName row name) again = withWanName row again

instance : LegacyRow LegacyPoint where
  tableName := "traffic_points"
  keyColumn := "ts"
  key p := p.ts
  wanName p := p.wanName
  withWanName p name := { p with wanName := some name }
  wanName_withWanName _ _ := rfl
  withWanName_twice _ _ _ := rfl

instance : LegacyRow LegacyMinute where
  tableName := "traffic_1m"
  keyColumn := "bucket"
  key m := m.bucket
  wanName m := m.wanName
  withWanName m name := { m with wanName := some name }
  wanName_withWanName _ _ := rfl
  withWanName_twice _ _ _ := rfl

section

variable {α : Type} [LegacyRow α]

/-- The row with `COALESCE(wan_name, '')`. -/
def named (row : α) : α := LegacyRow.withWanName row ((LegacyRow.wanName row).getD "")

/-- The primary key of a normalized legacy table. -/
def rowKey (row : α) : Int × Option String := (LegacyRow.key row, LegacyRow.wanName row)

/-- How a table declares its column `wan_name`. -/
structure WanColumn where
  inPrimaryKey : Bool
  notNull : Bool
  deriving DecidableEq, Repr

/-- A legacy table, with the declaration of `wan_name` if it has the column. -/
structure LegacyTable (α : Type) [LegacyRow α] where
  wanColumn : Option WanColumn
  rows : List α
  absent : wanColumn = none → ∀ row ∈ rows, LegacyRow.wanName row = none

/-- The declaration of a normalized table. -/
def normalizedColumn : WanColumn := ⟨true, true⟩

/-- `LegacyTable::create_sql`. -/
def LegacyTable.created : LegacyTable α where
  wanColumn := some normalizedColumn
  rows := []
  absent := by simp

/-- A normalized table with the rows. -/
def LegacyTable.normalized (rows : List α) : LegacyTable α where
  wanColumn := some normalizedColumn
  rows := rows
  absent := by simp

end

/-! ## The database -/

/-- The table `admins`; its check admits one row. -/
structure AdminTable where
  hasCredentialVersion : Bool
  row : Option Auth.AdminRecord
  deriving DecidableEq

/-- The columns that version 7 adds to `auth_sessions`. -/
inductive SessionColumn where
  | authMethod
  | displayName
  | providerName
  | identityIssuer
  | identitySubject
  | oidcPolicyFingerprint
  deriving DecidableEq, Repr

/-- The table `auth_sessions`; what a row holds for an absent column means nothing. -/
structure SessionTable where
  added : List SessionColumn
  rows : List AuthSessionRecord
  deriving DecidableEq

/-- A row of `database_migrations`. -/
structure MigrationRow where
  version : Int
  name : String
  sourceVersion : Int
  backupPath : Option String
  backupSha256 : Option String
  legacyPointsCount : Nat
  legacyRollupsCount : Nat
  deriving DecidableEq, Repr

/-- The traffic tables, as far as they exist. -/
structure TrafficTables where
  routers : Option (Table RouterRecord)
  routerInterfaces : Option (Table RouterInterfaceRecord)
  trafficSamples : Option (Table TrafficSample)
  trafficRollups : Option (Table TrafficRollup)
  counterCheckpoints : Option (List CounterCheckpoint)
  trafficGaps : Option (Table TrafficGap)
  deriving DecidableEq

/-- `CREATE TABLE IF NOT EXISTS` of all six tables. -/
def TrafficTables.created (tables : TrafficTables) : TrafficDb where
  routers := tables.routers.getD Table.empty
  routerInterfaces := tables.routerInterfaces.getD Table.empty
  trafficSamples := tables.trafficSamples.getD Table.empty
  trafficRollups := tables.trafficRollups.getD Table.empty
  counterCheckpoints := tables.counterCheckpoints.getD []
  trafficGaps := tables.trafficGaps.getD Table.empty

/-- All six tables. -/
def TrafficTables.ofDb (db : TrafficDb) : TrafficTables where
  routers := some db.routers
  routerInterfaces := some db.routerInterfaces
  trafficSamples := some db.trafficSamples
  trafficRollups := some db.trafficRollups
  counterCheckpoints := some db.counterCheckpoints
  trafficGaps := some db.trafficGaps

/-- The database: `user_version`, the tables that the program knows, as far as they
exist, and the names of the others. -/
structure Database where
  userVersion : Int
  otherTables : List String
  trafficPoints : Option (LegacyTable LegacyPoint)
  traffic1m : Option (LegacyTable LegacyMinute)
  config : Option (List ConfigRow)
  deviceOverrides : Option (List DeviceOverrideRow)
  probeTargets : Option (List ProbeTargetRow)
  databaseMigrations : Option (List MigrationRow)
  schemaMigrations : Option (List String)
  encryptedSecrets : Option (List SecretRow)
  admins : Option AdminTable
  authSessions : Option SessionTable
  pairingCodes : Option (List PairingCode)
  setupTokens : Option (Option SetupToken)
  traffic : TrafficTables

/-! ## Statements -/

/-- The statements of the transaction that can fail for a reason that is not in the
rows. -/
inductive Statement where
  | begin
  | createMigrations
  | createCore
  | createLegacy (table : String)
  | renameLegacy (table : String)
  | copyLegacy (table : String)
  | dropTemporary (table : String)
  | createSecurity
  | addCredentialVersion
  | recordCredentialVersion
  | createTraffic
  | importTraffic
  | createRollupCutoffIndex
  | createRetentionCutoffIndexes
  | addSessionColumn (column : SessionColumn)
  | backfillSessions
  | recordMigration (version : Int)
  | setUserVersion
  | commit
  deriving DecidableEq, Repr

/-- What a migration is given: the failures of its statements, the time and the backup
(its path and digest). -/
structure MigrationEnv where
  failure : Statement → Option DatabaseError
  nowMs : Int
  backup : Option (String × String)

/-- Execute a statement. -/
def MigrationEnv.execute (env : MigrationEnv) (statement : Statement) : Except DatabaseError Unit :=
  match env.failure statement with
  | some e => .error e
  | none => .ok ()

/-- The error of a statement that names a table or column that does not exist. -/
def noSuch (what : String) : DatabaseError := .sqlite .other ("no such " ++ what)

/-! ## Version 1 -/

/-- `migrate_v1_core`. -/
def migrateV1Core (env : MigrationEnv) (db : Database) : Except DatabaseError Database := do
  env.execute .createCore
  return { db with
    trafficPoints := some (db.trafficPoints.getD LegacyTable.created)
    traffic1m := some (db.traffic1m.getD LegacyTable.created)
    config := some (db.config.getD [])
    deviceOverrides := some (db.deviceOverrides.getD [])
    probeTargets := some (db.probeTargets.getD [])
    databaseMigrations := some (db.databaseMigrations.getD []) }

/-! ## Version 2 -/

/-- `normalize_legacy_table` of an existing table. -/
def normalizeExisting {α : Type} [LegacyRow α] (env : MigrationEnv) (otherTables : List String)
    (table : LegacyTable α) : Except DatabaseError (LegacyTable α) := do
  if table.wanColumn = some normalizedColumn then return table
  else
    let name := LegacyRow.tableName α
    let temporary := "__routerview_" ++ name ++ "_v1"
    ensure (temporary ∉ otherTables)
      (.verification ("temporary migration table " ++ temporary ++ " already exists"))
    let before := table.rows.length
    env.execute (.renameLegacy name)
    env.execute (.createLegacy name)
    env.execute (.copyLegacy name)
    let wanExpression : α → String := fun row =>
      if table.wanColumn.isSome then (LegacyRow.wanName row).getD "" else ""
    let empty : KeyedTable (rowKey : α → Int × Option String) := KeyedTable.empty
    let copied ← orFailed (name ++ "." ++ LegacyRow.keyColumn α ++ ", " ++ name ++ ".wan_name")
      (empty.insertAll
        (table.rows.map (fun row => LegacyRow.withWanName row (wanExpression row))))
    let after := copied.rows.length
    ensure (before = after)
      (.verification (name ++ " row count changed while normalizing primary key: " ++
        toString before ++ " -> " ++ toString after))
    env.execute (.dropTemporary name)
    return LegacyTable.normalized copied.rows

/-- `normalize_legacy_table`. -/
def normalizeLegacyTable {α : Type} [LegacyRow α] (env : MigrationEnv)
    (otherTables : List String) :
    Option (LegacyTable α) → Except DatabaseError (LegacyTable α)
  | none => do
      env.execute (.createLegacy (LegacyRow.tableName α))
      return LegacyTable.created
  | some table => normalizeExisting env otherTables table

/-- `migrate_v2_legacy_composite_keys`. -/
def migrateV2LegacyCompositeKeys (env : MigrationEnv) (db : Database) :
    Except DatabaseError Database := do
  let points ← normalizeLegacyTable env db.otherTables db.trafficPoints
  let minutes ← normalizeLegacyTable env db.otherTables db.traffic1m
  return { db with trafficPoints := some points, traffic1m := some minutes }

/-! ## Version 3 -/

/-- `INSERT OR IGNORE INTO schema_migrations(name)`. -/
def recordSchemaMigration (name : String) (rows : List String) : List String :=
  if name ∈ rows then rows else rows ++ [name]

/-- `ALTER TABLE admins ADD COLUMN credential_version` with its default. -/
def AdminTable.addCredentialVersion (table : AdminTable) : AdminTable where
  hasCredentialVersion := true
  row := table.row.map (fun admin => { admin with credentialVersion := 1 })

/-- The column is added unless it exists. -/
def ensureCredentialVersion (env : MigrationEnv) (table : AdminTable) :
    Except DatabaseError AdminTable := do
  if table.hasCredentialVersion = true then return table
  else
    env.execute .addCredentialVersion
    return table.addCredentialVersion

/-- `migrate_v3_security`. -/
def migrateV3Security (env : MigrationEnv) (db : Database) : Except DatabaseError Database := do
  env.execute .createSecurity
  let recorded := recordSchemaMigration "security_auth_secrets_v1" (db.schemaMigrations.getD [])
  let admins ← ensureCredentialVersion env (db.admins.getD ⟨true, none⟩)
  env.execute .recordCredentialVersion
  return { db with
    schemaMigrations := some (recordSchemaMigration "admin_credential_version_v1" recorded)
    encryptedSecrets := some (db.encryptedSecrets.getD [])
    admins := some admins
    authSessions := some (db.authSessions.getD ⟨[], []⟩)
    pairingCodes := some (db.pairingCodes.getD [])
    setupTokens := some (db.setupTokens.getD none) }

/-! ## Version 4 -/

/-- `LegacyCounts`. -/
structure LegacyCounts where
  trafficPoints : Nat
  traffic1m : Nat
  deriving DecidableEq, Repr

/-- The `Debug` text of the counts. -/
def LegacyCounts.debug (counts : LegacyCounts) : String :=
  "LegacyCounts \x7b traffic_points: " ++ toString counts.trafficPoints ++ ", traffic_1m: " ++
    toString counts.traffic1m ++ " \x7d"

/-- `legacy_counts`. -/
def legacyCounts (db : Database) : LegacyCounts where
  trafficPoints := (db.trafficPoints.map (fun table => table.rows.length)).getD 0
  traffic1m := (db.traffic1m.map (fun table => table.rows.length)).getD 0

/-- The legacy rows, as the statements of the import read them. -/
def legacyTraffic (db : Database) : Except DatabaseError LegacyTraffic := do
  let points ← okOr db.trafficPoints (noSuch "table: traffic_points")
  let minutes ← okOr db.traffic1m (noSuch "table: traffic_1m")
  ensure (points.wanColumn.isSome = true ∧ minutes.wanColumn.isSome = true)
    (noSuch "column: wan_name")
  return ⟨points.rows, minutes.rows⟩

/-- The error of the import, as the migration reports it. -/
def ofTrafficError : Db.DatabaseError → DatabaseError
  | .sqlite => .sqlite .other "legacy traffic import"
  | .verification message => .verification message
  | .invalidCommand message => .invalidCommand message
  | .trafficQueryTooLarge limit =>
      .verification ("traffic query exceeds " ++ toString limit ++ " source rows")

/-- No two routers have the same hardware identity. -/
def UniqueIdentities (db : TrafficDb) : Prop :=
  (db.routers.rows.filterMap (fun r => r.hardwareIdentity)).Nodup

instance (db : TrafficDb) : Decidable (UniqueIdentities db) :=
  inferInstanceAs (Decidable (List.Nodup _))

/-- `migrate_v4_exact_traffic`. -/
def migrateV4ExactTraffic (env : MigrationEnv) (legacy : LegacyCounts) (db : Database) :
    Except DatabaseError Database := do
  env.execute .createTraffic
  let traffic := db.traffic.created
  ensure (UniqueIdentities traffic) (uniqueFailed "routers.hardware_identity")
  if legacy.trafficPoints = 0 ∧ legacy.traffic1m = 0 then
    return { db with traffic := .ofDb traffic }
  else
    let rows ← legacyTraffic db
    env.execute .importTraffic
    let imported ← (importLegacyTraffic env.nowMs rows traffic).mapError ofTrafficError
    return { db with traffic := .ofDb imported }

/-! ## Versions 5 and 6 -/

/-- `migrate_v5_rollup_cutoff_index`. -/
def migrateV5RollupCutoffIndex (env : MigrationEnv) (db : Database) :
    Except DatabaseError Database := do
  env.execute .createRollupCutoffIndex
  ensure (db.traffic.trafficSamples.isSome = true) (noSuch "table: main.traffic_samples")
  return db

/-- `migrate_v6_retention_cutoff_indexes`. -/
def migrateV6RetentionCutoffIndexes (env : MigrationEnv) (db : Database) :
    Except DatabaseError Database := do
  env.execute .createRetentionCutoffIndexes
  ensure (db.traffic.trafficSamples.isSome = true) (noSuch "table: main.traffic_samples")
  ensure (db.traffic.trafficRollups.isSome = true) (noSuch "table: main.traffic_rollups")
  ensure (db.traffic.trafficGaps.isSome = true) (noSuch "table: main.traffic_gaps")
  return db

/-! ## Version 7 -/

/-- The default of an added column. -/
def SessionColumn.fill (row : AuthSessionRecord) : SessionColumn → AuthSessionRecord
  | authMethod => { row with authMethod := .password }
  | displayName => { row with displayName := "" }
  | providerName => { row with providerName := none }
  | identityIssuer => { row with identityIssuer := none }
  | identitySubject => { row with identitySubject := none }
  | oidcPolicyFingerprint => { row with oidcPolicyFingerprint := none }

/-- `ALTER TABLE auth_sessions ADD COLUMN`, unless the column exists. -/
def addSessionColumn (env : MigrationEnv) (table : SessionTable) (column : SessionColumn) :
    Except DatabaseError SessionTable := do
  if column ∈ table.added then return table
  else
    env.execute (.addSessionColumn column)
    return ⟨table.added ++ [column], table.rows.map (fun row => column.fill row)⟩

/-- The `UPDATE` of the sessions without a display name. -/
def backfillSession (row : AuthSessionRecord) : AuthSessionRecord :=
  if row.displayName = "" then
    { row with
      authMethod := if row.kind = .fixed then .pairing else .password
      displayName := row.username }
  else row

/-- The columns, in the order in which they are added. -/
def sessionColumns : List SessionColumn :=
  [.authMethod, .displayName, .providerName, .identityIssuer, .identitySubject,
    .oidcPolicyFingerprint]

/-- `migrate_v7_oidc_sessions`. -/
def migrateV7OidcSessions (env : MigrationEnv) (db : Database) : Except DatabaseError Database := do
  let table ← okOr db.authSessions (noSuch "table: auth_sessions")
  let altered ← sessionColumns.foldlM (addSessionColumn env) table
  env.execute .backfillSessions
  return { db with authSessions := some ⟨altered.added, altered.rows.map backfillSession⟩ }

/-! ## The transaction -/

/-- `record_migration`: `ON CONFLICT(version) DO NOTHING`. -/
def recordMigration (env : MigrationEnv) (version : Int) (name : String) (sourceVersion : Int)
    (legacy : LegacyCounts) (db : Database) : Except DatabaseError Database := do
  env.execute (.recordMigration version)
  let rows := db.databaseMigrations.getD []
  if rows.any (fun row => decide (row.version = version)) then return db
  else
    return { db with
      databaseMigrations := some (rows ++ [{
        version := version
        name := name
        sourceVersion := sourceVersion
        backupPath := env.backup.map (fun backup => backup.1)
        backupSha256 := env.backup.map (fun backup => backup.2)
        legacyPointsCount := legacy.trafficPoints
        legacyRollupsCount := legacy.traffic1m }]) }

/-- One step of the ladder: the migration to a version and its record. -/
def migrateTo (env : MigrationEnv) (version : Int) (name : String) (sourceVersion : Int)
    (legacy : LegacyCounts) (migrate : Database → Except DatabaseError Database) (db : Database) :
    Except DatabaseError Database :=
  if sourceVersion < version then
    migrate db >>= recordMigration env version name sourceVersion legacy
  else .ok db

/-- The pairing codes whose session is missing, and the references of the traffic
tables. -/
def violations (db : Database) : Nat :=
  foreignKeyViolations db.traffic.created +
    (db.pairingCodes.getD []).countP (fun code =>
      ((db.authSessions.map (fun table => table.rows)).getD []).all
        (fun session => decide (session.id ≠ code.createdBySessionId)))

/-- The checks before the commit. -/
def finishMigration (env : MigrationEnv) (before : LegacyCounts) (db : Database) :
    Except DatabaseError Database := do
  let after := legacyCounts db
  ensure (before = after)
    (.verification ("legacy row counts changed during migration: before=" ++ before.debug ++
      ", after=" ++ after.debug))
  ensure (violations db = 0)
    (.verification ("migration produced " ++ toString (violations db) ++
      " foreign-key violations"))
  env.execute .setUserVersion
  env.execute .commit
  return { db with userVersion := currentSchemaVersion }

/-- The statements of the transaction. -/
def migrationSteps (env : MigrationEnv) (originalVersion : Int) (before : LegacyCounts)
    (db : Database) : Except DatabaseError Database := do
  env.execute .begin
  env.execute .createMigrations
  let db := { db with databaseMigrations := some (db.databaseMigrations.getD []) }
  let db ← migrateTo env 1 "core_schema" originalVersion before (migrateV1Core env) db
  let db ← migrateTo env 2 "legacy_traffic_composite_keys" originalVersion before
    (migrateV2LegacyCompositeKeys env) db
  let db ← migrateTo env 3 "security_and_configuration" originalVersion before
    (migrateV3Security env) db
  let db ← migrateTo env 4 "router_scoped_exact_traffic" originalVersion before
    (migrateV4ExactTraffic env before) db
  let db ← migrateTo env 5 "traffic_rollup_cutoff_index" originalVersion before
    (migrateV5RollupCutoffIndex env) db
  let db ← migrateTo env 6 "traffic_retention_cutoff_indexes" originalVersion before
    (migrateV6RetentionCutoffIndexes env) db
  let db ← migrateTo env 7 "oidc_session_identity" originalVersion before
    (migrateV7OidcSessions env) db
  finishMigration env before db

/-- `apply_migrations`. -/
def applyMigrations (env : MigrationEnv) (originalVersion : Int) (db : Database) :
    Except DatabaseError Unit × Database :=
  if originalVersion > currentSchemaVersion then
    (.error (.unsupportedVersion originalVersion currentSchemaVersion), db)
  else if originalVersion = currentSchemaVersion then (.ok (), db)
  else transact (migrationSteps env originalVersion (legacyCounts db)) db

end RouterView.Maintenance
