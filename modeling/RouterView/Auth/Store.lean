/-
  Auth/Store.lean --- administrators, sessions and pairing codes in storage.

  The statements of `db/mod.rs` on the tables `admins`, `auth_sessions`,
  `pairing_codes` and `setup_tokens`.  Each function is one transaction.  Times
  are seconds since the epoch; they and the credential version are integers,
  whose sums in the statements stay far from the ends of the 64-bit range.  A
  column with a CHECK on its text is an enumeration, and the uniqueness
  constraints are those of the tables.

  Left out: the lock of the connection, and the reading of a row into its record.  A
  statement either takes effect or fails; a failure of the storage is an error of the
  request that is not followed further.
-/
import RouterView.Foundation.Amounts
import RouterView.Foundation.Checked
import RouterView.Foundation.UniqueTable

set_option autoImplicit false

namespace RouterView.Auth

open RouterView.Foundation

/-! ## Rows -/

/-- The column `role`. -/
inductive Role where
  | viewer
  | admin
  deriving DecidableEq, Repr

/-- The column `kind`. -/
inductive SessionKind where
  | standard
  | fixed
  deriving DecidableEq, Repr

/-- The column `auth_method`. -/
inductive AuthMethod where
  | password
  | oidc
  | pairing
  deriving DecidableEq, Repr

/-- A digest. -/
abbrev Hash : Type := List UInt8

/-- `AdminRecord`. -/
structure AdminRecord where
  username : String
  passwordHash : String
  credentialVersion : Int
  deriving DecidableEq, Repr

/-- `AuthSessionRecord`. -/
structure AuthSessionRecord where
  id : String
  tokenHash : Hash
  csrfHash : Hash
  username : String
  role : Role
  kind : SessionKind
  authMethod : AuthMethod
  displayName : String
  providerName : Option String
  identityIssuer : Option String
  identitySubject : Option String
  oidcPolicyFingerprint : Option Hash
  label : Option String
  createdAt : Int
  lastSeenAt : Int
  idleExpiresAt : Option Int
  absoluteExpiresAt : Int
  revokedAt : Option Int
  deriving DecidableEq, Repr

/-- `PairingRecord`. -/
structure PairingRecord where
  id : String
  role : Role
  label : String
  expiresAt : Int
  deriving DecidableEq, Repr

/-- A row of `pairing_codes`. -/
structure PairingCode extends PairingRecord where
  codeHash : Hash
  createdBySessionId : String
  createdAt : Int
  usedAt : Option Int
  deriving DecidableEq, Repr

/-- The row of `setup_tokens`. -/
structure SetupToken where
  tokenHash : Hash
  expiresAt : Int
  usedAt : Option Int
  deriving DecidableEq, Repr

instance : UniqueRow AuthSessionRecord where
  clash a b := decide (a.id = b.id ∨ a.tokenHash = b.tokenHash)
  clash_self a := by simp
  clash_comm a b := by simp only [eq_comm]

instance : UniqueRow PairingCode where
  clash a b := decide (a.id = b.id ∨ a.codeHash = b.codeHash)
  clash_self a := by simp
  clash_comm a b := by simp only [eq_comm]

/-- The tables. -/
structure AuthDb where
  admin : Option AdminRecord
  sessions : UniqueTable AuthSessionRecord
  pairingCodes : UniqueTable PairingCode
  setupToken : Option SetupToken
  deriving DecidableEq

/-- `rusqlite::Error`: a record that the function itself refuses, or an error of
the storage engine. -/
inductive RusqliteError where
  | invalidQuery
  | sqliteFailure
  deriving DecidableEq, Repr

/-- What a transaction returns. -/
abbrev RusqliteResult (α : Type) : Type := Except RusqliteError α

/-! ## Administrator -/

/-- `create_admin`. -/
def createAdmin (username passwordHash : String) (db : AuthDb) : RusqliteResult AuthDb := do
  ensure (db.admin = none) .sqliteFailure
  return { db with admin := some ⟨username, passwordHash, 1⟩ }

/-- `replace_admin_password`: the credential version goes up, and every session
and every pairing code is withdrawn. -/
def replaceAdminPassword (username passwordHash : String) (now : Int) (db : AuthDb) : AuthDb :=
  { db with
    admin := db.admin.map (fun admin =>
      { username := username
        passwordHash := passwordHash
        credentialVersion := admin.credentialVersion + 1 })
    sessions := db.sessions.updateWhere (fun session => session.revokedAt.isNone)
      (fun session => { session with revokedAt := some now }) (fun _ _ => rfl)
    pairingCodes := db.pairingCodes.updateWhere (fun pairing => pairing.usedAt.isNone)
      (fun pairing => { pairing with usedAt := some now }) (fun _ _ => rfl) }

/-! ## Sessions -/

/-- `insert_session_inner`. -/
def insertSessionInner (session : AuthSessionRecord) (db : AuthDb) : RusqliteResult AuthDb := do
  let sessions ← okOr (db.sessions.insert session) .sqliteFailure
  return { db with sessions := sessions }

/-- `insert_standard_session_if_admin_version`. -/
def insertStandardSessionIfAdminVersion (session : AuthSessionRecord)
    (expectedCredentialVersion : Int) (db : AuthDb) : RusqliteResult (Bool × AuthDb) :=
  let credentialsUnchanged := db.admin.any (fun admin =>
    decide (admin.username = session.username ∧
      admin.credentialVersion = expectedCredentialVersion))
  if credentialsUnchanged = false ∨ session.kind ≠ .standard ∨ session.role ≠ .admin ∨
      session.authMethod ≠ .password then
    .ok (false, db)
  else do
    let db' ← insertSessionInner session db
    return (true, db')

/-- `insert_oidc_session`. -/
def insertOidcSession (session : AuthSessionRecord) (db : AuthDb) : RusqliteResult AuthDb := do
  ensure (session.kind = .standard ∧ session.authMethod = .oidc ∧
    session.identityIssuer.isSome = true ∧ session.identitySubject.isSome = true ∧
    session.oidcPolicyFingerprint.isSome = true) .invalidQuery
  insertSessionInner session db

/-- `consume_setup_and_create_admin_and_session`. -/
def consumeSetupAndCreateAdminAndSession (tokenHash : Hash) (now : Int)
    (username passwordHash : String) (session : AuthSessionRecord) (db : AuthDb) :
    RusqliteResult (Bool × AuthDb) := do
  ensure (session.username = username ∧ session.role = .admin ∧ session.kind = .standard ∧
    session.authMethod = .password) .invalidQuery
  let consumable := db.admin.isNone && db.setupToken.any (fun token =>
    decide (token.tokenHash = tokenHash ∧ token.usedAt = none ∧ now < token.expiresAt))
  if consumable then
    let db' ← insertSessionInner session
      { db with
        setupToken := db.setupToken.map (fun token => { token with usedAt := some now })
        admin := some ⟨username, passwordHash, 1⟩ }
    return (true, db')
  else return (false, db)

/-- The row is the session that the caller names. -/
def AuthSessionRecord.named (session : AuthSessionRecord) (id username : String) (role : Role)
    (kind : SessionKind) : Bool :=
  decide (session.id = id ∧ session.username = username ∧ session.role = role ∧
    session.kind = kind)

/-- Neither revoked nor past one of its expiries. -/
def AuthSessionRecord.activeAt (session : AuthSessionRecord) (now : Int) : Bool :=
  session.revokedAt.isNone && decide (now < session.absoluteExpiresAt) &&
    session.idleExpiresAt.all (fun expiry => decide (now < expiry))

/-- `session_is_active_inner`, which `session_is_active` runs on its own. -/
def sessionIsActive (id username : String) (role : Role) (kind : SessionKind) (now : Int)
    (db : AuthDb) : Bool :=
  db.sessions.rows.any (fun session => session.named id username role kind && session.activeAt now)

/-- The literal of the touching statement. -/
def touchIdleSecs : Int := 43200

/-- The row after it was touched. -/
def AuthSessionRecord.touch (session : AuthSessionRecord) (now : Int) : AuthSessionRecord :=
  { session with
    lastSeenAt := now
    idleExpiresAt := match session.kind with
      | .standard => some (now + touchIdleSecs)
      | .fixed => none }

/-- The condition of the touching statement. -/
def AuthSessionRecord.touchable (session : AuthSessionRecord) (id username : String)
    (role : Role) (kind : SessionKind) (now minimumIntervalSecs : Int) : Bool :=
  session.named id username role kind && session.activeAt now &&
    decide (session.lastSeenAt ≤ now - minimumIntervalSecs)

/-- `touch_session_if_active_throttled`. -/
def touchSessionIfActiveThrottled (id username : String) (role : Role) (kind : SessionKind)
    (now minimumIntervalSecs : Int) (db : AuthDb) : Bool × AuthDb :=
  let touched : AuthSessionRecord → Bool := fun session =>
    session.touchable id username role kind now minimumIntervalSecs
  let db' := { db with
    sessions := db.sessions.updateWhere touched (fun session => session.touch now)
      (fun _ _ => rfl) }
  let changed := db.sessions.countWhere touched
  (if changed = 1 then true else sessionIsActive id username role kind now db', db')

/-- The sessions that satisfy `p` and are not revoked yet are revoked. -/
def revokeWhere (p : AuthSessionRecord → Bool) (now : Int) (db : AuthDb) : Nat × AuthDb :=
  let revoked : AuthSessionRecord → Bool := fun session => p session && session.revokedAt.isNone
  (db.sessions.countWhere revoked,
    { db with
      sessions := db.sessions.updateWhere revoked
        (fun session => { session with revokedAt := some now }) (fun _ _ => rfl) })

/-- `revoke_session`. -/
def revokeSession (id : String) (now : Int) (db : AuthDb) : Bool × AuthDb :=
  let result := revokeWhere (fun session => decide (session.id = id)) now db
  (decide (result.1 = 1), result.2)

/-- `revoke_oidc_sessions_with_other_policy`. -/
def revokeOidcSessionsWithOtherPolicy (currentFingerprint : Option Hash) (now : Int)
    (db : AuthDb) : Nat × AuthDb :=
  match currentFingerprint with
  | some fingerprint =>
      revokeWhere (fun session => decide (session.authMethod = .oidc ∧
        session.oidcPolicyFingerprint ≠ some fingerprint)) now db
  | none => revokeWhere (fun session => decide (session.authMethod = .oidc)) now db

/-- `session_by_token_hash`. -/
def sessionByTokenHash (tokenHash : Hash) (db : AuthDb) : Option AuthSessionRecord :=
  db.sessions.rows.find? (fun session => decide (session.tokenHash = tokenHash))

/-! ## Pairing codes -/

/-- An administrator's session that is active now. -/
def AuthSessionRecord.adminActiveAt (session : AuthSessionRecord) (now : Int) : Bool :=
  decide (session.role = .admin) && session.activeAt now

/-- The row of a new code. -/
def newPairingCode (pairing : PairingRecord) (codeHash : Hash) (creatorSessionId : String)
    (now : Int) : PairingCode :=
  { toPairingRecord := pairing
    codeHash := codeHash
    createdBySessionId := creatorSessionId
    createdAt := now
    usedAt := none }

/-- `insert_pairing_if_authorized`. -/
def insertPairingIfAuthorized (pairing : PairingRecord) (codeHash : Hash)
    (creatorSessionId creatorUsername : String) (creatorRole : Role) (creatorKind : SessionKind)
    (now : Int) (expectedCredentialVersion : Option Int) (db : AuthDb) :
    RusqliteResult (Bool × AuthDb) :=
  let authorized := db.sessions.rows.any (fun session =>
      session.named creatorSessionId creatorUsername creatorRole creatorKind &&
        session.adminActiveAt now) &&
    expectedCredentialVersion.all (fun version =>
      db.admin.any (fun admin => decide (admin.credentialVersion = version)))
  if authorized then do
    let pairingCodes ← okOr
      (db.pairingCodes.insert (newPairingCode pairing codeHash creatorSessionId now))
      .sqliteFailure
    return (true, { db with pairingCodes := pairingCodes })
  else .ok (false, db)

/-- The creator of a code, as the join finds it, if it may still pair. -/
def AuthDb.activeCreator (db : AuthDb) (pairing : PairingCode) (now : Int) :
    Option AuthSessionRecord :=
  db.sessions.rows.find? (fun session =>
    decide (session.id = pairing.createdBySessionId) && session.adminActiveAt now)

/-- The code can be used now. -/
def AuthDb.eligible (db : AuthDb) (codeHash : Hash) (now : Int) (pairing : PairingCode) : Bool :=
  decide (pairing.codeHash = codeHash) && pairing.usedAt.isNone &&
    decide (now < pairing.expiresAt) && (db.activeCreator pairing now).isSome

/-- `pairing_is_eligible`. -/
def pairingIsEligible (codeHash : Hash) (now : Int) (db : AuthDb) : Bool :=
  db.pairingCodes.rows.any (fun pairing => db.eligible codeHash now pairing)

/-- The session that a code is exchanged for. -/
def pairedSession (pairing : PairingCode) (creator : AuthSessionRecord) (now : Int)
    (sessionId : String) (tokenHash csrfHash : Hash)
    (viewerLifetimeSecs adminLifetimeSecs : Int) : AuthSessionRecord where
  id := sessionId
  tokenHash := tokenHash
  csrfHash := csrfHash
  username := creator.username
  role := pairing.role
  kind := .fixed
  authMethod := .pairing
  displayName := creator.displayName
  providerName := none
  identityIssuer := none
  identitySubject := none
  oidcPolicyFingerprint := none
  label := some pairing.label
  createdAt := now
  lastSeenAt := now
  idleExpiresAt := none
  absoluteExpiresAt := satAdd now
    (match pairing.role with
    | .viewer => viewerLifetimeSecs
    | .admin => adminLifetimeSecs)
  revokedAt := none

/-- `consume_pairing_and_insert_session`. -/
def consumePairingAndInsertSession (codeHash : Hash) (now : Int) (sessionId : String)
    (tokenHash csrfHash : Hash) (viewerLifetimeSecs adminLifetimeSecs : Int) (db : AuthDb) :
    RusqliteResult (Option AuthSessionRecord × AuthDb) :=
  match db.pairingCodes.rows.find? (fun pairing => db.eligible codeHash now pairing) with
  | none => .ok (none, db)
  | some pairing =>
      match db.activeCreator pairing now with
      | none => .ok (none, db)
      | some creator => do
          let session := pairedSession pairing creator now sessionId tokenHash csrfHash
            viewerLifetimeSecs adminLifetimeSecs
          let db' ← insertSessionInner session db
          let consumed : PairingCode → Bool := fun row =>
            decide (row.id = pairing.id) && row.usedAt.isNone
          if db'.pairingCodes.countWhere consumed = 1 then
            return (some session,
              { db' with
                pairingCodes := db'.pairingCodes.updateWhere consumed
                  (fun row => { row with usedAt := some now }) (fun _ _ => rfl) })
          else return (none, db)

end RouterView.Auth
