/-
  Auth/Requests.lean --- the requests of `auth.rs` on the session store.

  A login reads the administrator's record, verifies the password against it,
  and inserts a session; the creation of a pairing code for an administrator
  does the same before it inserts the code; the exchange of a code looks at it
  before it consumes it.  Between two of these steps any other request may run.
  A request that is refused, rate limited or cancelled takes no further step.
  The password hash and its verification are parameters.

  Left out: the limiters (`Auth/Login.lean`, `Auth/PairingLimiter.lean`), the cookies and
  the JSON of the responses.  A token that a request draws at random is an argument.
-/
import RouterView.Auth.Sessions
import RouterView.Foundation.Text

set_option autoImplicit false

namespace RouterView.Auth

open RouterView.Foundation

/-! ## Constants -/

/-- `FIXED_VIEWER_SECS`. -/
def fixedViewerSecs : Int := 180 * 24 * 60 * 60

/-- `FIXED_ADMIN_SECS`. -/
def fixedAdminSecs : Int := 30 * 24 * 60 * 60

/-- `PAIRING_SECS`. -/
def pairingSecs : Int := 10 * 60

/-- `HTTP_SESSION_TOUCH_SECS`. -/
def httpSessionTouchSecs : Int := 5 * 60

/-! ## Authentication -/

/-- The fields of `SessionContext` that name the session in later statements. -/
structure SessionContext where
  id : String
  username : String
  role : Role
  kind : SessionKind
  authMethod : AuthMethod
  oidcPolicyFingerprint : Option Hash
  csrfHash : Hash
  deriving DecidableEq, Repr

/-- The context of a session. -/
def AuthSessionRecord.context (session : AuthSessionRecord) : SessionContext where
  id := session.id
  username := session.username
  role := session.role
  kind := session.kind
  authMethod := session.authMethod
  oidcPolicyFingerprint := session.oidcPolicyFingerprint
  csrfHash := session.csrfHash

/-- `session_policy_valid`, for the fingerprint of the configured policy. -/
def sessionPolicyValid (policyFingerprint : Option Hash) (authMethod : AuthMethod)
    (fingerprint : Option Hash) : Bool :=
  decide (authMethod ≠ .oidc) ||
    policyFingerprint.any (fun expected => decide (fingerprint = some expected))

/-- `authenticate_headers`, after the cookie was read: the context, and the state
after the session was revoked where it is found expired or out of policy. -/
def authenticateHeaders (policyFingerprint : Option Hash) (tokenHash : Hash) (now : Int)
    (db : AuthDb) : Option SessionContext × AuthDb :=
  match sessionByTokenHash tokenHash db with
  | none => (none, db)
  | some session =>
      if session.activeAt now = false then
        if session.revokedAt = none then (none, (revokeSession session.id now db).2)
        else (none, db)
      else if sessionPolicyValid policyFingerprint session.authMethod
          session.oidcPolicyFingerprint = false then
        (none, (revokeSession session.id now db).2)
      else (some session.context, db)

/-- Only an active session authenticates, and then nothing changes; otherwise the
only change is that the session is revoked. -/
theorem authenticateHeaders_cases (policyFingerprint : Option Hash) (tokenHash : Hash) (now : Int)
    (db : AuthDb) :
    (∃ session ∈ db.sessions.rows, session.tokenHash = tokenHash ∧
      session.activeAt now = true ∧
      authenticateHeaders policyFingerprint tokenHash now db = (some session.context, db)) ∨
    authenticateHeaders policyFingerprint tokenHash now db = (none, db) ∨
    ∃ id, authenticateHeaders policyFingerprint tokenHash now db =
      (none, sessionStep db ⟨now, .revoke id⟩) := by
  unfold authenticateHeaders
  cases hfind : sessionByTokenHash tokenHash db with
  | none => exact Or.inr (Or.inl rfl)
  | some session =>
      simp only
      split
      · split
        · exact Or.inr (Or.inr ⟨session.id, rfl⟩)
        · exact Or.inr (Or.inl rfl)
      · rename_i hactive
        split
        · exact Or.inr (Or.inr ⟨session.id, rfl⟩)
        · have htoken := List.find?_some hfind
          exact Or.inl ⟨session, List.mem_of_find?_eq_some hfind, of_decide_eq_true htoken,
            Bool.eq_true_of_not_eq_false hactive, rfl⟩

/-! ## Requests in progress -/

section

variable (verify : String → String → Bool)

/-- A record of the administrator whose password was verified. -/
structure VerifiedAdmin where
  record : AdminRecord
  password : String
  verified : verify password record.passwordHash = true

/-- How far a login is. -/
inductive LoginStage where
  | read (username password : String) (admin : Option AdminRecord)
  | verified (admin : VerifiedAdmin verify)

/-- What a new code may grant: a viewer's access, or an administrator's on a
verified password. -/
inductive PairingGrant where
  | viewer
  | admin (admin : VerifiedAdmin verify)

/-- How far the creation of a pairing code is. -/
inductive PairingStage where
  | read (creator : SessionContext) (label password : String) (admin : AdminRecord)
  | granted (creator : SessionContext) (label : String) (grant : PairingGrant verify)

/-- The state of the service: the tables, and the requests in progress. -/
structure AuthSystem where
  db : AuthDb
  logins : Nat → Option (LoginStage verify)
  pairings : Nat → Option (PairingStage verify)
  preflights : Nat → Option Hash

/-- The role that the code gets. -/
def PairingGrant.role {verify : String → String → Bool} : PairingGrant verify → Role
  | .viewer => .viewer
  | .admin _ => .admin

/-- `expected_credential_version`. -/
def PairingGrant.expectedCredentialVersion {verify : String → String → Bool} :
    PairingGrant verify → Option Int
  | .viewer => none
  | .admin verified => some verified.record.credentialVersion

/-- Put a stage, or drop the request. -/
def setStage {α : Type} (stages : Nat → Option α) (request : Nat) (stage : Option α) :
    Nat → Option α :=
  fun other => if other = request then stage else stages other

/-- The password that is verified: one that is too long is replaced. -/
def boundedPassword (password : String) : String :=
  if password.utf8ByteSize ≤ 128 then password else "invalid-password-input"

/-- The verification of a password: a password that is too long, or that the
record does not match, ends the request. -/
def verifiedAdmin (password : String) (admin : AdminRecord) : Option (VerifiedAdmin verify) :=
  if h : password.utf8ByteSize ≤ 128 ∧ verify (boundedPassword password) admin.passwordHash = true
  then some ⟨admin, boundedPassword password, h.2⟩
  else none

/-- The verification of a login.  Without an administrator of that name a dummy
hash is verified, to no effect. -/
def verifiedLogin (username password : String) (admin : Option AdminRecord) :
    Option (VerifiedAdmin verify) :=
  admin.bind (fun admin =>
    if admin.username = username then verifiedAdmin verify password admin else none)

/-! ## Steps -/

/-- A step of a request. -/
inductive AuthStep where
  | loginRead (request : Nat) (username password : String)
  | loginVerify (request : Nat)
  | loginInsert (request : Nat) (tokens : SessionTokens)
  | pairingRead (request : Nat) (creator : SessionContext) (label : String) (role : Role)
      (password : Option String)
  | pairingVerify (request : Nat)
  | pairingInsert (request : Nat) (pairingId : String) (codeHash : Hash)
  | pairPreflight (request : Nat) (codeHash : Hash)
  | pairConsume (request : Nat) (tokens : SessionTokens)
  | establishOidc (identity : OidcIdentity) (tokens : SessionTokens)
  | setup (setupTokenHash : Hash) (username passwordHash : String) (tokens : SessionTokens)
  | createAdmin (username passwordHash : String)
  | resetPassword (username passwordHash : String)
  | touch (context : SessionContext)
  | check (context : SessionContext)
  | revoke (id : String)
  | revokeOtherPolicy (currentFingerprint : Option Hash)

/-- A step and the clock that it reads. -/
structure AuthEvent where
  now : Int
  step : AuthStep

/-- The operation on the store that a step performs, if any. -/
def storeOp (s : AuthSystem verify) (event : AuthEvent) : Option SessionOp :=
  match event.step with
  | .loginInsert request tokens =>
      match s.logins request with
      | some (.verified admin) =>
          some (.insertStandard (newSession tokens admin.record.username .admin .standard none
            standardAbsoluteSecs event.now) admin.record.credentialVersion)
      | _ => none
  | .pairingInsert request pairingId codeHash =>
      match s.pairings request with
      | some (.granted creator label grant) =>
          some (.createPairing ⟨pairingId, grant.role, label, event.now + pairingSecs⟩ codeHash
            creator.id creator.username creator.role creator.kind grant.expectedCredentialVersion)
      | _ => none
  | .pairConsume request tokens =>
      (s.preflights request).map (fun codeHash =>
        .pair codeHash tokens.id tokens.tokenHash tokens.csrfHash fixedViewerSecs fixedAdminSecs)
  | .establishOidc identity tokens =>
      if s.db.admin.isSome then some (.insertOidc (newOidcSession tokens identity event.now))
      else none
  | .setup setupTokenHash username passwordHash tokens =>
      some (.setup setupTokenHash username passwordHash
        (newSession tokens username .admin .standard none standardAbsoluteSecs event.now))
  | .createAdmin username passwordHash => some (.createAdmin username passwordHash)
  | .resetPassword username passwordHash => some (.resetPassword username passwordHash)
  | .touch context =>
      some (.touch context.id context.username context.role context.kind httpSessionTouchSecs)
  | .check context => some (.check context.id context.username context.role context.kind)
  | .revoke id => some (.revoke id)
  | .revokeOtherPolicy currentFingerprint => some (.revokeOtherPolicy currentFingerprint)
  | .loginRead _ _ _ | .loginVerify _ | .pairingRead _ _ _ _ _ | .pairingVerify _
  | .pairPreflight _ _ => none

/-- The logins after a step. -/
def nextLogins (s : AuthSystem verify) (event : AuthEvent) : Nat → Option (LoginStage verify) :=
  match event.step with
  | .loginRead request username password =>
      setStage s.logins request (some (.read username password s.db.admin))
  | .loginVerify request =>
      match s.logins request with
      | some (.read username password admin) =>
          setStage s.logins request
            ((verifiedLogin verify username password admin).map LoginStage.verified)
      | _ => s.logins
  | .loginInsert request _ => setStage s.logins request none
  | _ => s.logins

/-- The first stage of the creation of a pairing code. -/
def firstPairingStage (db : AuthDb) (creator : SessionContext) (label : String) (role : Role)
    (password : Option String) : Option (PairingStage verify) :=
  if (trim label).isEmpty = true ∨ 80 < (trim label).utf8ByteSize then none
  else
    match role with
    | .viewer => some (.granted creator (trim label) .viewer)
    | .admin =>
        db.admin.bind (fun admin =>
          password.map (fun password => .read creator (trim label) password admin))

/-- The creations of pairing codes after a step. -/
def nextPairings (s : AuthSystem verify) (event : AuthEvent) :
    Nat → Option (PairingStage verify) :=
  match event.step with
  | .pairingRead request creator label role password =>
      setStage s.pairings request (firstPairingStage verify s.db creator label role password)
  | .pairingVerify request =>
      match s.pairings request with
      | some (.read creator label password admin) =>
          setStage s.pairings request ((verifiedAdmin verify password admin).map (fun admin =>
            .granted creator label (.admin admin)))
      | _ => s.pairings
  | .pairingInsert request _ _ => setStage s.pairings request none
  | _ => s.pairings

/-- The exchanges of codes after a step. -/
def nextPreflights (s : AuthSystem verify) (event : AuthEvent) : Nat → Option Hash :=
  match event.step with
  | .pairPreflight request codeHash =>
      setStage s.preflights request
        (if pairingIsEligible codeHash event.now s.db then some codeHash else none)
  | .pairConsume request _ => setStage s.preflights request none
  | _ => s.preflights

/-- The store after a step. -/
def nextDb (s : AuthSystem verify) (event : AuthEvent) : AuthDb :=
  match storeOp verify s event with
  | some op => sessionStep s.db ⟨event.now, op⟩
  | none => s.db

/-- The state after a step. -/
def authStep (s : AuthSystem verify) (event : AuthEvent) : AuthSystem verify where
  db := nextDb verify s event
  logins := nextLogins verify s event
  pairings := nextPairings verify s event
  preflights := nextPreflights verify s event

/-- A store before any request. -/
def AuthSystem.idle (db : AuthDb) : AuthSystem verify := ⟨db, fun _ => none, fun _ => none,
  fun _ => none⟩

end

end RouterView.Auth
