/-
  Maintenance/SchemaSpec.lean --- a migration is all or nothing and loses no row.

  Every step of the ladder keeps the rows of every table: a table that exists is
  the same afterwards, a legacy table up to the spelling of an absent name, the
  administrator and the sessions up to added columns.  The last step is the only
  one that writes sessions.
-/
import RouterView.Maintenance.Schema

set_option autoImplicit false

namespace RouterView.Maintenance

open RouterView.Foundation
open RouterView.Db (LegacyPoint LegacyMinute)
open RouterView.Auth (AuthSessionRecord)

/-! ## What is kept -/

/-- A table that exists is the same afterwards. -/
def Kept {α : Type} (before after : Option α) : Prop :=
  ∀ table, before = some table → after = some table

/-- The rows of a log are kept; later ones may follow. -/
def LogKept {α : Type} (before after : Option (List α)) : Prop :=
  ∀ rows, before = some rows → ∃ rows', after = some rows' ∧ rows <+: rows'

/-- Every legacy row has its key, its rates and its name, where no name is the empty
one. -/
def LegacyKept {α : Type} [LegacyRow α] (before after : Option (LegacyTable α)) : Prop :=
  ∀ table, before = some table →
    ∃ table', after = some table' ∧ table'.rows.map named = table.rows.map named

/-- The administrator, up to the version of the credentials where there was none. -/
structure AdminKept (table table' : AdminTable) : Prop where
  row : table'.row.map (fun admin => (admin.username, admin.passwordHash)) =
    table.row.map (fun admin => (admin.username, admin.passwordHash))
  complete : table.hasCredentialVersion = true → table' = table

/-- All tables but that of the sessions. -/
structure TablesKept (db db' : Database) : Prop where
  trafficPoints : LegacyKept db.trafficPoints db'.trafficPoints
  traffic1m : LegacyKept db.traffic1m db'.traffic1m
  config : Kept db.config db'.config
  deviceOverrides : Kept db.deviceOverrides db'.deviceOverrides
  probeTargets : Kept db.probeTargets db'.probeTargets
  encryptedSecrets : Kept db.encryptedSecrets db'.encryptedSecrets
  pairingCodes : Kept db.pairingCodes db'.pairingCodes
  setupTokens : Kept db.setupTokens db'.setupTokens
  databaseMigrations : LogKept db.databaseMigrations db'.databaseMigrations
  schemaMigrations : LogKept db.schemaMigrations db'.schemaMigrations
  admins : ∀ table, db.admins = some table →
    ∃ table', db'.admins = some table' ∧ AdminKept table table'

/-- All tables, the sessions unchanged. -/
structure AllKept (db db' : Database) : Prop extends TablesKept db db' where
  authSessions : Kept db.authSessions db'.authSessions

section

variable {α : Type} {a b c : Option α}

theorem Kept.refl (a : Option α) : Kept a a := fun _ h => h

theorem Kept.trans (hab : Kept a b) (hbc : Kept b c) : Kept a c := fun x h => hbc x (hab x h)

/-- `CREATE TABLE IF NOT EXISTS`. -/
theorem Kept.created (a : Option α) (table : α) : Kept a (some (a.getD table)) := by
  rintro x rfl
  rfl

theorem LogKept.refl (a : Option (List α)) : LogKept a a :=
  fun rows h => ⟨rows, h, List.prefix_refl rows⟩

theorem LogKept.trans {a b c : Option (List α)} (hab : LogKept a b) (hbc : LogKept b c) :
    LogKept a c := by
  intro rows h
  obtain ⟨rows', h', hstart⟩ := hab rows h
  obtain ⟨rows'', h'', hstart'⟩ := hbc rows' h'
  exact ⟨rows'', h'', hstart.trans hstart'⟩

theorem LogKept.grown {a : Option (List α)} {rows : List α} (h : a.getD [] <+: rows) :
    LogKept a (some rows) := by
  rintro x rfl
  exact ⟨rows, rfl, h⟩

variable [LegacyRow α]

theorem LegacyKept.refl (a : Option (LegacyTable α)) : LegacyKept a a :=
  fun table h => ⟨table, h, rfl⟩

theorem LegacyKept.trans {a b c : Option (LegacyTable α)} (hab : LegacyKept a b)
    (hbc : LegacyKept b c) : LegacyKept a c := by
  intro table h
  obtain ⟨table', h', hrows⟩ := hab table h
  obtain ⟨table'', h'', hrows'⟩ := hbc table' h'
  exact ⟨table'', h'', hrows'.trans hrows⟩

theorem LegacyKept.created (a : Option (LegacyTable α)) :
    LegacyKept a (some (a.getD LegacyTable.created)) := by
  rintro table rfl
  exact ⟨table, rfl, rfl⟩

end

theorem AdminKept.refl (table : AdminTable) : AdminKept table table := ⟨rfl, fun _ => rfl⟩

theorem AdminKept.trans {a b c : AdminTable} (hab : AdminKept a b) (hbc : AdminKept b c) :
    AdminKept a c := by
  refine ⟨hbc.row.trans hab.row, ?_⟩
  intro hcomplete
  have hb := hab.complete hcomplete
  have hc := hbc.complete (hb ▸ hcomplete)
  exact hc.trans hb

theorem TablesKept.refl (db : Database) : TablesKept db db where
  trafficPoints := LegacyKept.refl _
  traffic1m := LegacyKept.refl _
  config := Kept.refl _
  deviceOverrides := Kept.refl _
  probeTargets := Kept.refl _
  encryptedSecrets := Kept.refl _
  pairingCodes := Kept.refl _
  setupTokens := Kept.refl _
  databaseMigrations := LogKept.refl _
  schemaMigrations := LogKept.refl _
  admins := fun table h => ⟨table, h, AdminKept.refl table⟩

theorem TablesKept.trans {a b c : Database} (hab : TablesKept a b) (hbc : TablesKept b c) :
    TablesKept a c where
  trafficPoints := hab.trafficPoints.trans hbc.trafficPoints
  traffic1m := hab.traffic1m.trans hbc.traffic1m
  config := hab.config.trans hbc.config
  deviceOverrides := hab.deviceOverrides.trans hbc.deviceOverrides
  probeTargets := hab.probeTargets.trans hbc.probeTargets
  encryptedSecrets := hab.encryptedSecrets.trans hbc.encryptedSecrets
  pairingCodes := hab.pairingCodes.trans hbc.pairingCodes
  setupTokens := hab.setupTokens.trans hbc.setupTokens
  databaseMigrations := hab.databaseMigrations.trans hbc.databaseMigrations
  schemaMigrations := hab.schemaMigrations.trans hbc.schemaMigrations
  admins := by
    intro table h
    obtain ⟨table', h', hkept⟩ := hab.admins table h
    obtain ⟨table'', h'', hkept'⟩ := hbc.admins table' h'
    exact ⟨table'', h'', hkept.trans hkept'⟩

theorem AllKept.refl (db : Database) : AllKept db db :=
  ⟨TablesKept.refl db, Kept.refl _⟩

theorem AllKept.trans {a b c : Database} (hab : AllKept a b) (hbc : AllKept b c) : AllKept a c :=
  ⟨hab.toTablesKept.trans hbc.toTablesKept, hab.authSessions.trans hbc.authSessions⟩

/-! ## The legacy tables -/

section

variable {α : Type} [LegacyRow α]

theorem named_withWanName (row : α) (name : String) :
    named (LegacyRow.withWanName row name) = LegacyRow.withWanName row name := by
  rw [named, LegacyRow.wanName_withWanName, Option.getD_some, LegacyRow.withWanName_twice]

theorem named_named (row : α) : named (named row) = named row := named_withWanName row _

/-- What the copy makes of a row is the row with its name. -/
theorem LegacyTable.copied (table : LegacyTable α) {row : α} (h : row ∈ table.rows) :
    LegacyRow.withWanName row
      (if table.wanColumn.isSome then (LegacyRow.wanName row).getD "" else "") = named row := by
  cases hcolumn : table.wanColumn with
  | none =>
      rw [named, table.absent hcolumn row h]
      rfl
  | some column => rfl

/-- A table is normalized without a loss, or the migration fails. -/
theorem normalizeExisting_ok {env : MigrationEnv} {otherTables : List String}
    {table table' : LegacyTable α} (h : normalizeExisting env otherTables table = .ok table') :
    table'.rows.map named = table.rows.map named ∧ table'.wanColumn = some normalizedColumn := by
  unfold normalizeExisting at h
  split at h
  · rename_i hcolumn
    cases h
    exact ⟨rfl, hcolumn⟩
  · obtain ⟨_, h⟩ := ensure_bind_eq_ok_iff.mp h
    obtain ⟨_, _, h⟩ := bind_eq_ok_iff.mp h
    obtain ⟨_, _, h⟩ := bind_eq_ok_iff.mp h
    obtain ⟨_, _, h⟩ := bind_eq_ok_iff.mp h
    obtain ⟨copied, hcopied, h⟩ := bind_eq_ok_iff.mp h
    obtain ⟨_, h⟩ := ensure_bind_eq_ok_iff.mp h
    obtain ⟨_, _, h⟩ := bind_eq_ok_iff.mp h
    cases h
    refine ⟨?_, rfl⟩
    have hrows := KeyedTable.rows_insertAll (orFailed_eq_ok.mp hcopied)
    rw [KeyedTable.empty, List.nil_append] at hrows
    have hnamed : copied.rows = table.rows.map named := by
      rw [hrows]
      exact List.map_congr_left (fun row hrow => table.copied hrow)
    change copied.rows.map named = _
    rw [hnamed, List.map_map]
    exact List.map_congr_left (fun row _ => named_named row)

theorem normalizeLegacyTable_ok {env : MigrationEnv} {otherTables : List String}
    {before : Option (LegacyTable α)} {table : LegacyTable α}
    (h : normalizeLegacyTable env otherTables before = .ok table) :
    LegacyKept before (some table) := by
  rintro old rfl
  exact ⟨table, rfl, (normalizeExisting_ok h).1⟩

end

/-! ## The steps -/

section

variable {env : MigrationEnv}

theorem migrateV1Core_keeps : Keeps AllKept (migrateV1Core env) := by
  intro db db' h
  obtain ⟨_, _, h⟩ := bind_eq_ok_iff.mp h
  cases h
  exact { AllKept.refl db with
    trafficPoints := LegacyKept.created _
    traffic1m := LegacyKept.created _
    config := Kept.created _ _
    deviceOverrides := Kept.created _ _
    probeTargets := Kept.created _ _
    databaseMigrations := LogKept.grown (List.prefix_refl _) }

theorem migrateV2LegacyCompositeKeys_keeps :
    Keeps AllKept (migrateV2LegacyCompositeKeys env) := by
  intro db db' h
  obtain ⟨points, hpoints, h⟩ := bind_eq_ok_iff.mp h
  obtain ⟨minutes, hminutes, h⟩ := bind_eq_ok_iff.mp h
  cases h
  exact { AllKept.refl db with
    trafficPoints := normalizeLegacyTable_ok hpoints
    traffic1m := normalizeLegacyTable_ok hminutes }

theorem recordSchemaMigration_extends (name : String) (rows : List String) :
    rows <+: recordSchemaMigration name rows := by
  unfold recordSchemaMigration
  split
  · exact List.prefix_refl rows
  · exact List.prefix_append rows [name]

theorem ensureCredentialVersion_ok {table table' : AdminTable}
    (h : ensureCredentialVersion env table = .ok table') : AdminKept table table' := by
  unfold ensureCredentialVersion at h
  split at h
  · cases h
    exact AdminKept.refl table
  · rename_i hmissing
    obtain ⟨_, _, h⟩ := bind_eq_ok_iff.mp h
    cases h
    refine ⟨?_, fun hcomplete => absurd hcomplete hmissing⟩
    simp [AdminTable.addCredentialVersion, Function.comp_def]

theorem migrateV3Security_keeps : Keeps AllKept (migrateV3Security env) := by
  intro db db' h
  obtain ⟨_, _, h⟩ := bind_eq_ok_iff.mp h
  obtain ⟨admins, hadmins, h⟩ := bind_eq_ok_iff.mp h
  obtain ⟨_, _, h⟩ := bind_eq_ok_iff.mp h
  cases h
  exact { AllKept.refl db with
    encryptedSecrets := Kept.created _ _
    authSessions := Kept.created _ _
    pairingCodes := Kept.created _ _
    setupTokens := Kept.created _ _
    schemaMigrations := LogKept.grown
      ((recordSchemaMigration_extends _ _).trans (recordSchemaMigration_extends _ _))
    admins := by
      intro table htable
      rw [htable] at hadmins
      exact ⟨admins, rfl, ensureCredentialVersion_ok hadmins⟩ }

theorem migrateV4ExactTraffic_keeps (legacy : LegacyCounts) :
    Keeps AllKept (migrateV4ExactTraffic env legacy) := by
  intro db db' h
  obtain ⟨_, _, h⟩ := bind_eq_ok_iff.mp h
  obtain ⟨_, h⟩ := ensure_bind_eq_ok_iff.mp h
  split at h
  · cases h
    exact { AllKept.refl db with }
  · obtain ⟨_, _, h⟩ := bind_eq_ok_iff.mp h
    obtain ⟨_, _, h⟩ := bind_eq_ok_iff.mp h
    obtain ⟨_, _, h⟩ := bind_eq_ok_iff.mp h
    cases h
    exact { AllKept.refl db with }

/-- The indexes have no rows. -/
theorem migrateV5RollupCutoffIndex_keeps : Keeps AllKept (migrateV5RollupCutoffIndex env) := by
  intro db db' h
  obtain ⟨_, _, h⟩ := bind_eq_ok_iff.mp h
  obtain ⟨_, h⟩ := ensure_bind_eq_ok_iff.mp h
  cases h
  exact AllKept.refl db

theorem migrateV6RetentionCutoffIndexes_keeps :
    Keeps AllKept (migrateV6RetentionCutoffIndexes env) := by
  intro db db' h
  obtain ⟨_, _, h⟩ := bind_eq_ok_iff.mp h
  obtain ⟨_, h⟩ := ensure_bind_eq_ok_iff.mp h
  obtain ⟨_, h⟩ := ensure_bind_eq_ok_iff.mp h
  obtain ⟨_, h⟩ := ensure_bind_eq_ok_iff.mp h
  cases h
  exact AllKept.refl db

theorem recordMigration_keeps (version : Int) (name : String) (sourceVersion : Int)
    (legacy : LegacyCounts) :
    Keeps AllKept (recordMigration env version name sourceVersion legacy) := by
  intro db db' h
  obtain ⟨_, _, h⟩ := bind_eq_ok_iff.mp h
  dsimp only at h
  split at h
  · cases h
    exact AllKept.refl db
  · cases h
    exact { AllKept.refl db with
      databaseMigrations := LogKept.grown (List.prefix_append _ _) }

/-- A migration and its record. -/
theorem migrateTo_keeps {migrate : Database → Except DatabaseError Database}
    (hmigrate : Keeps AllKept migrate) (version : Int) (name : String) (sourceVersion : Int)
    (legacy : LegacyCounts) :
    Keeps AllKept (migrateTo env version name sourceVersion legacy migrate) :=
  Keeps.onlyIf AllKept.refl _
    (hmigrate.andThen AllKept.trans (recordMigration_keeps version name sourceVersion legacy))

end

/-! ## Sessions -/

/-- The row without the columns of version 7. -/
def baseColumns (row : AuthSessionRecord) : AuthSessionRecord :=
  sessionColumns.foldl SessionColumn.fill row

/-- The rows have the same value in the column. -/
def SessionColumn.Agrees (row row' : AuthSessionRecord) : SessionColumn → Prop
  | authMethod => row'.authMethod = row.authMethod
  | displayName => row'.displayName = row.displayName
  | providerName => row'.providerName = row.providerName
  | identityIssuer => row'.identityIssuer = row.identityIssuer
  | identitySubject => row'.identitySubject = row.identitySubject
  | oidcPolicyFingerprint => row'.oidcPolicyFingerprint = row.oidcPolicyFingerprint

/-- The session has a display name already. -/
def HasDisplayName (added : List SessionColumn) (row : AuthSessionRecord) : Prop :=
  .displayName ∈ added ∧ row.displayName ≠ ""

/-- A session of a table with the added columns, up to further columns and up to the
method and the display name of one that has no display name. -/
structure SessionKept (added : List SessionColumn) (row row' : AuthSessionRecord) : Prop where
  base : baseColumns row' = baseColumns row
  columns : ∀ column ∈ added,
    column.Agrees row row' ∨
      ((column = .authMethod ∨ column = .displayName) ∧ ¬ HasDisplayName added row)
  backfilled : ¬ HasDisplayName added row →
    row'.displayName = row.username ∧
      row'.authMethod = if row.kind = .fixed then .pairing else .password

/-- The columns that were there are as before; a new display name is empty. -/
structure SessionWidened (old added : List SessionColumn) (row row' : AuthSessionRecord) :
    Prop where
  base : baseColumns row' = baseColumns row
  columns : ∀ column ∈ old, column.Agrees row row'
  unnamed : .displayName ∈ added → .displayName ∉ old → row'.displayName = ""

section

variable {env : MigrationEnv} {old added : List SessionColumn} {row row' : AuthSessionRecord}

theorem SessionColumn.agrees_refl (column : SessionColumn) (row : AuthSessionRecord) :
    column.Agrees row row := by
  cases column <;> rfl

theorem SessionColumn.agrees_fill {column other : SessionColumn} (h : other ≠ column)
    (hagrees : other.Agrees row row') : other.Agrees row (column.fill row') := by
  cases column <;> cases other <;> first | exact absurd rfl h | exact hagrees

theorem SessionColumn.fill_username (row : AuthSessionRecord) (column : SessionColumn) :
    (column.fill row).username = row.username := by
  cases column <;> rfl

theorem SessionColumn.fill_kind (row : AuthSessionRecord) (column : SessionColumn) :
    (column.fill row).kind = row.kind := by
  cases column <;> rfl

theorem baseColumns_username (row : AuthSessionRecord) :
    (baseColumns row).username = row.username := by
  simp only [baseColumns, sessionColumns, List.foldl_cons, List.foldl_nil,
    SessionColumn.fill_username]

theorem baseColumns_kind (row : AuthSessionRecord) : (baseColumns row).kind = row.kind := by
  simp only [baseColumns, sessionColumns, List.foldl_cons, List.foldl_nil, SessionColumn.fill_kind]

theorem baseColumns_fill (column : SessionColumn) (row : AuthSessionRecord) :
    baseColumns (column.fill row) = baseColumns row := by
  cases column <;> rfl

theorem baseColumns_backfillSession (row : AuthSessionRecord) :
    baseColumns (backfillSession row) = baseColumns row := by
  unfold backfillSession
  split <;> rfl

/-- One more column. -/
theorem SessionWidened.fill (h : SessionWidened old added row row') {column : SessionColumn}
    (hnew : column ∉ added) (hold : ∀ c ∈ old, c ∈ added) :
    SessionWidened old (added ++ [column]) row (column.fill row') := by
  have hother : ∀ c ∈ old, c ≠ column := fun c hc heq => hnew (heq ▸ hold c hc)
  refine ⟨(baseColumns_fill column row').trans h.base, ?_, ?_⟩
  · exact fun c hc => SessionColumn.agrees_fill (hother c hc) (h.columns c hc)
  · intro hmem hno
    by_cases hcolumn : column = .displayName
    · subst hcolumn
      rfl
    · have hmem' : SessionColumn.displayName ∈ added := by
        rcases List.mem_append.mp hmem with hmem | hmem
        · exact hmem
        · exact absurd (List.mem_singleton.mp hmem).symm hcolumn
      have hfilled : SessionColumn.displayName.Agrees row' (column.fill row') :=
        SessionColumn.agrees_fill (Ne.symm hcolumn) (SessionColumn.agrees_refl _ row')
      exact hfilled.trans (h.unnamed hmem' hno)

/-- The rows of a table with further columns. -/
structure TableWidened (table table' : SessionTable) : Prop where
  columns : ∀ column ∈ table.added, column ∈ table'.added
  rows : List.Forall₂ (SessionWidened table.added table'.added) table.rows table'.rows

theorem TableWidened.refl (table : SessionTable) : TableWidened table table := by
  refine ⟨fun _ h => h, List.forall₂_same.mpr ?_⟩
  intro row _
  exact ⟨rfl, fun column _ => column.agrees_refl row, fun hmem hno => absurd hmem hno⟩

theorem TableWidened.addSessionColumn {table table' table'' : SessionTable}
    (h : TableWidened table table') {column : SessionColumn}
    (hstep : addSessionColumn env table' column = .ok table'') :
    TableWidened table table'' ∧ column ∈ table''.added ∧
      ∀ c ∈ table'.added, c ∈ table''.added := by
  unfold Maintenance.addSessionColumn at hstep
  split at hstep
  · rename_i hmem
    cases hstep
    exact ⟨h, hmem, fun _ hc => hc⟩
  · rename_i hnew
    obtain ⟨_, _, hstep⟩ := bind_eq_ok_iff.mp hstep
    cases hstep
    refine ⟨⟨fun c hc => List.mem_append_left _ (h.columns c hc), ?_⟩,
      List.mem_append_right _ (List.mem_singleton.mpr rfl),
      fun c hc => List.mem_append_left _ hc⟩
    rw [List.forall₂_map_right_iff]
    exact h.rows.imp (fun _ _ hrow => hrow.fill hnew h.columns)

theorem TableWidened.all {table table' table'' : SessionTable} {columns : List SessionColumn}
    (h : TableWidened table table')
    (hsteps : columns.foldlM (Maintenance.addSessionColumn env) table' = .ok table'') :
    TableWidened table table'' ∧ (∀ c ∈ columns, c ∈ table''.added) ∧
      ∀ c ∈ table'.added, c ∈ table''.added := by
  induction columns generalizing table' with
  | nil =>
      cases hsteps
      exact ⟨h, by simp, fun _ hc => hc⟩
  | cons column rest ih =>
      rw [List.foldlM_cons] at hsteps
      obtain ⟨mid, hmid, hsteps⟩ := bind_eq_ok_iff.mp hsteps
      obtain ⟨hwidened, hcolumn, hkept⟩ := h.addSessionColumn hmid
      obtain ⟨hall, hrest, hlater⟩ := ih hwidened hsteps
      refine ⟨hall, ?_, fun c hc => hlater c (hkept c hc)⟩
      intro c hc
      rcases List.mem_cons.mp hc with rfl | hc
      · exact hlater c hcolumn
      · exact hrest c hc

/-- The backfill of a row whose table has all columns. -/
theorem SessionWidened.backfill (h : SessionWidened old added row row')
    (hall : .displayName ∈ added) : SessionKept old row (backfillSession row') := by
  have husername : row'.username = row.username := by
    rw [← baseColumns_username, h.base, baseColumns_username]
  have hkind : row'.kind = row.kind := by
    rw [← baseColumns_kind, h.base, baseColumns_kind]
  -- without a display name of its own the row has an empty one now
  have hempty : ¬ HasDisplayName old row → row'.displayName = "" := by
    intro hnot
    by_cases hmem : SessionColumn.displayName ∈ old
    · have hname : row'.displayName = row.displayName := h.columns .displayName hmem
      rw [HasDisplayName, not_and, not_not] at hnot
      rw [hname]
      exact hnot hmem
    · exact h.unnamed hall hmem
  constructor
  · rw [baseColumns_backfillSession, h.base]
  · intro column hcolumn
    have hagrees := h.columns column hcolumn
    unfold backfillSession
    split
    · rename_i hname
      by_cases hhas : HasDisplayName old row
      · have hsame : row'.displayName = row.displayName := h.columns .displayName hhas.1
        exact absurd (hsame.symm.trans hname) hhas.2
      · cases column with
        | authMethod => exact Or.inr ⟨Or.inl rfl, hhas⟩
        | displayName => exact Or.inr ⟨Or.inr rfl, hhas⟩
        | providerName => exact Or.inl hagrees
        | identityIssuer => exact Or.inl hagrees
        | identitySubject => exact Or.inl hagrees
        | oidcPolicyFingerprint => exact Or.inl hagrees
    · exact Or.inl hagrees
  · intro hnot
    rw [backfillSession, if_pos (hempty hnot), husername, hkind]
    exact ⟨rfl, rfl⟩

/-- The sessions after the last step. -/
theorem migrateV7OidcSessions_ok {db db' : Database}
    (h : migrateV7OidcSessions env db = .ok db') :
    TablesKept db db' ∧ ∃ table table', db.authSessions = some table ∧
      db'.authSessions = some table' ∧
      List.Forall₂ (SessionKept table.added) table.rows table'.rows := by
  obtain ⟨table, htable, h⟩ := bind_eq_ok_iff.mp h
  obtain ⟨altered, haltered, h⟩ := bind_eq_ok_iff.mp h
  obtain ⟨_, _, h⟩ := bind_eq_ok_iff.mp h
  cases h
  obtain ⟨hwidened, hall, _⟩ := (TableWidened.refl table).all haltered
  have hothers : TablesKept db
      { db with authSessions := some ⟨altered.added, altered.rows.map backfillSession⟩ } :=
    { TablesKept.refl db with }
  refine ⟨hothers, table, _, okOr_eq_ok_iff.mp htable, rfl, ?_⟩
  rw [List.forall₂_map_right_iff]
  exact hwidened.rows.imp (fun _ _ hrow => hrow.backfill (hall _ (by decide)))

end

/-! ## The transaction -/

/-- No row is lost. -/
structure Lossless (db db' : Database) : Prop where
  tables : TablesKept db db'
  sessions : ∀ table, db.authSessions = some table →
    ∃ table', db'.authSessions = some table' ∧
      List.Forall₂ (SessionKept table.added) table.rows table'.rows

section

variable {env : MigrationEnv} {originalVersion : Int} {before : LegacyCounts} {db db' : Database}

theorem finishMigration_ok (h : finishMigration env before db = .ok db') :
    db' = { db with userVersion := currentSchemaVersion } := by
  obtain ⟨_, h⟩ := ensure_bind_eq_ok_iff.mp h
  obtain ⟨_, h⟩ := ensure_bind_eq_ok_iff.mp h
  obtain ⟨_, _, h⟩ := bind_eq_ok_iff.mp h
  obtain ⟨_, _, h⟩ := bind_eq_ok_iff.mp h
  cases h
  rfl

/-- The last step of the ladder is always taken. -/
theorem migrateToV7_ok (hversion : originalVersion < currentSchemaVersion)
    (h : migrateTo env 7 "oidc_session_identity" originalVersion before
      (migrateV7OidcSessions env) db = .ok db') : Lossless db db' := by
  have hlt : originalVersion < 7 := hversion
  unfold migrateTo at h
  rw [if_pos hlt] at h
  obtain ⟨mid, hmid, h⟩ := bind_eq_ok_iff.mp h
  obtain ⟨htables, table, table', htable, htable', hrows⟩ := migrateV7OidcSessions_ok hmid
  have hrecorded := recordMigration_keeps _ _ _ _ _ _ h
  refine ⟨htables.trans hrecorded.toTablesKept, ?_⟩
  intro old hold
  rw [htable] at hold
  cases hold
  exact ⟨table', hrecorded.authSessions table' htable', hrows⟩

/-- The whole transaction loses no row and leaves the current version. -/
theorem migrationSteps_ok (hversion : originalVersion < currentSchemaVersion)
    (h : migrationSteps env originalVersion before db = .ok db') :
    Lossless db db' ∧ db'.userVersion = currentSchemaVersion := by
  obtain ⟨_, _, h⟩ := bind_eq_ok_iff.mp h
  obtain ⟨_, _, h⟩ := bind_eq_ok_iff.mp h
  obtain ⟨db1, h1, h⟩ := bind_eq_ok_iff.mp h
  obtain ⟨db2, h2, h⟩ := bind_eq_ok_iff.mp h
  obtain ⟨db3, h3, h⟩ := bind_eq_ok_iff.mp h
  obtain ⟨db4, h4, h⟩ := bind_eq_ok_iff.mp h
  obtain ⟨db5, h5, h⟩ := bind_eq_ok_iff.mp h
  obtain ⟨db6, h6, h⟩ := bind_eq_ok_iff.mp h
  obtain ⟨db7, h7, h⟩ := bind_eq_ok_iff.mp h
  have hcreated : AllKept db
      { db with databaseMigrations := some (db.databaseMigrations.getD []) } :=
    { AllKept.refl db with databaseMigrations := LogKept.grown (List.prefix_refl _) }
  have hkept : AllKept db db6 :=
    hcreated.trans (((((migrateTo_keeps migrateV1Core_keeps _ _ _ _ _ _ h1).trans
      (migrateTo_keeps migrateV2LegacyCompositeKeys_keeps _ _ _ _ _ _ h2)).trans
      (migrateTo_keeps migrateV3Security_keeps _ _ _ _ _ _ h3)).trans
      (migrateTo_keeps (migrateV4ExactTraffic_keeps before) _ _ _ _ _ _ h4)).trans
      ((migrateTo_keeps migrateV5RollupCutoffIndex_keeps _ _ _ _ _ _ h5).trans
        (migrateTo_keeps migrateV6RetentionCutoffIndexes_keeps _ _ _ _ _ _ h6)))
  have hlast := migrateToV7_ok hversion h7
  rw [finishMigration_ok h]
  have htables : TablesKept db { db7 with userVersion := currentSchemaVersion } :=
    { hkept.toTablesKept.trans hlast.tables with }
  refine ⟨⟨htables, ?_⟩, rfl⟩
  intro table htable
  exact hlast.sessions table (hkept.authSessions table htable)

end

/-- A migration fails and leaves the database as it was, or it leaves the current
version without the loss of a row, and another one changes nothing. -/
theorem applyMigrations_all_or_nothing (env : MigrationEnv) (db : Database) :
    (∃ e, applyMigrations env db.userVersion db = (.error e, db)) ∨
      ∃ db', applyMigrations env db.userVersion db = (.ok (), db') ∧
        db'.userVersion = currentSchemaVersion ∧ (db' = db ∨ Lossless db db') ∧
        ∀ again, applyMigrations again db'.userVersion db' = (.ok (), db') := by
  have hagain : ∀ (db : Database), db.userVersion = currentSchemaVersion → ∀ again,
      applyMigrations again db.userVersion db = (.ok (), db) := by
    intro db hversion again
    rw [hversion, applyMigrations, if_neg (lt_irrefl _), if_pos rfl]
  rcases lt_trichotomy db.userVersion currentSchemaVersion with hlt | heq | hgt
  · have hrun : applyMigrations env db.userVersion db =
        transact (migrationSteps env db.userVersion (legacyCounts db)) db := by
      rw [applyMigrations, if_neg (not_lt.mpr (le_of_lt hlt)), if_neg (ne_of_lt hlt)]
    rw [hrun]
    rcases transact_cases (migrationSteps env db.userVersion (legacyCounts db)) db with
      herror | ⟨db', hsteps, hok⟩
    · exact Or.inl herror
    · obtain ⟨hlossless, hversion⟩ := migrationSteps_ok hlt hsteps
      exact Or.inr ⟨db', hok, hversion, Or.inr hlossless, hagain db' hversion⟩
  · exact Or.inr ⟨db, hagain db heq env, heq, Or.inl rfl, hagain db heq⟩
  · left
    exact ⟨_, by rw [applyMigrations, if_pos hgt]⟩

/-- No statement fails. -/
def quietEnv : MigrationEnv := ⟨fun _ => none, 5, none⟩

/-- The database before any table is created. -/
def bareDatabase : Database where
  userVersion := 0
  otherTables := []
  trafficPoints := none
  traffic1m := none
  config := none
  deviceOverrides := none
  probeTargets := none
  databaseMigrations := none
  schemaMigrations := none
  encryptedSecrets := none
  admins := none
  authSessions := none
  pairingCodes := none
  setupTokens := none
  traffic := ⟨none, none, none, none, none, none⟩

/-- A first database: its points have no wan name yet, and its minutes a name outside
the key. -/
def firstDatabase : Database :=
  { bareDatabase with
    trafficPoints := some ⟨none, [⟨5000, .finite 9, .finite 7, none⟩], by decide⟩
    traffic1m := some ⟨some ⟨false, false⟩, [⟨60000, .finite 9, .finite 7, none⟩], by simp⟩
    config := some [⟨"router_ip", "192.168.88.1"⟩] }

example :
    let result := applyMigrations quietEnv 0 firstDatabase
    result.1.toOption.isSome = true ∧ result.2.userVersion = 7 ∧
      result.2.trafficPoints.map (fun table => table.rows) =
        some [⟨5000, .finite 9, .finite 7, some ""⟩] ∧
      result.2.traffic.created.trafficSamples.rows.length = 1 := by
  decide +kernel

/-- Two rows whose names are one after the migration: it fails. -/
example :
    (applyMigrations quietEnv 1
      { firstDatabase with
        userVersion := 1
        trafficPoints := some ⟨some ⟨true, false⟩,
          [⟨5000, .finite 9, .finite 7, none⟩, ⟨5000, .finite 8, .finite 6, some ""⟩], by simp⟩
        }).1 = .error (uniqueFailed "traffic_points.ts, traffic_points.wan_name") := by
  decide +kernel

/-- A session that a later program stored without a display name. -/
def namelessSession : AuthSessionRecord where
  id := "browser"
  tokenHash := [1]
  csrfHash := [2]
  username := "operator"
  role := .viewer
  kind := .standard
  authMethod := .oidc
  displayName := ""
  providerName := some "provider"
  identityIssuer := some "issuer"
  identitySubject := some "subject"
  oidcPolicyFingerprint := some [3]
  label := none
  createdAt := 100
  lastSeenAt := 100
  idleExpiresAt := none
  absoluteExpiresAt := 1000
  revokedAt := none

/-- A database of version 6 whose table of sessions has the columns of version 7. -/
def newerSessions : Database :=
  { bareDatabase with
    userVersion := 6
    authSessions := some ⟨sessionColumns, [namelessSession]⟩
    traffic := .ofDb Db.TrafficDb.empty }

/-- The migration changes a column that the row had: the method of a session without a
display name. -/
theorem applyMigrations_keepsSessions_fails :
    (applyMigrations quietEnv newerSessions.userVersion newerSessions).1.toOption.isSome = true ∧
      newerSessions.authSessions = some ⟨sessionColumns, [namelessSession]⟩ ∧
      SessionColumn.authMethod ∈ sessionColumns ∧
      ∃ row, (applyMigrations quietEnv newerSessions.userVersion newerSessions).2.authSessions =
          some ⟨sessionColumns, [row]⟩ ∧
        row.id = namelessSession.id ∧ ¬ SessionColumn.authMethod.Agrees namelessSession row := by
  refine ⟨by decide +kernel, rfl, by decide, backfillSession namelessSession, by decide +kernel,
    by decide, ?_⟩
  intro hagrees
  cases hagrees

end RouterView.Maintenance
