/-
  Auth/Sessions.lean --- the life of a session.

  A row of the session table is only ever touched while it is active, or
  revoked once.  So a session that was inactive stays inactive, and one that is
  used often enough stays active until it is revoked or expires.
-/
import RouterView.Auth.StoreSpec
import RouterView.Foundation.Run

set_option autoImplicit false

namespace RouterView.Auth

open RouterView.Foundation

/-! ## Operations -/

/-- An operation on the session store. -/
inductive SessionOp where
  | createAdmin (username passwordHash : String)
  | resetPassword (username passwordHash : String)
  | insertStandard (session : AuthSessionRecord) (expectedCredentialVersion : Int)
  | insertOidc (session : AuthSessionRecord)
  | setup (setupTokenHash : Hash) (username passwordHash : String) (session : AuthSessionRecord)
  | createPairing (pairing : PairingRecord) (codeHash : Hash)
      (creatorSessionId creatorUsername : String) (creatorRole : Role) (creatorKind : SessionKind)
      (expectedCredentialVersion : Option Int)
  | pair (codeHash : Hash) (sessionId : String) (tokenHash csrfHash : Hash)
      (viewerLifetimeSecs adminLifetimeSecs : Int)
  | touch (id username : String) (role : Role) (kind : SessionKind) (minimumIntervalSecs : Int)
  | check (id username : String) (role : Role) (kind : SessionKind)
  | revoke (id : String)
  | revokeOtherPolicy (currentFingerprint : Option Hash)
  deriving DecidableEq

/-- An operation and the clock that it reads. -/
structure SessionEvent where
  now : Int
  op : SessionOp
  deriving DecidableEq

/-- The state after a transaction that may fail: a failed one is rolled back. -/
def committed (db : AuthDb) : RusqliteResult AuthDb → AuthDb
  | .ok db' => db'
  | .error _ => db

/-- The state after an operation. -/
def sessionStep (db : AuthDb) (event : SessionEvent) : AuthDb :=
  match event.op with
  | .createAdmin username passwordHash => committed db (createAdmin username passwordHash db)
  | .resetPassword username passwordHash =>
      replaceAdminPassword username passwordHash event.now db
  | .insertStandard session version =>
      committed db ((insertStandardSessionIfAdminVersion session version db).map Prod.snd)
  | .insertOidc session => committed db (insertOidcSession session db)
  | .setup setupTokenHash username passwordHash session =>
      committed db ((consumeSetupAndCreateAdminAndSession setupTokenHash event.now username
        passwordHash session db).map Prod.snd)
  | .createPairing pairing codeHash creatorId creatorUsername creatorRole creatorKind version =>
      committed db ((insertPairingIfAuthorized pairing codeHash creatorId creatorUsername
        creatorRole creatorKind event.now version db).map Prod.snd)
  | .pair codeHash sessionId tokenHash csrfHash viewerLifetimeSecs adminLifetimeSecs =>
      committed db ((consumePairingAndInsertSession codeHash event.now sessionId tokenHash csrfHash
        viewerLifetimeSecs adminLifetimeSecs db).map Prod.snd)
  | .touch id username role kind minimumIntervalSecs =>
      (touchSessionIfActiveThrottled id username role kind event.now minimumIntervalSecs db).2
  | .check _ _ _ _ => db
  | .revoke id => (revokeSession id event.now db).2
  | .revokeOtherPolicy currentFingerprint =>
      (revokeOidcSessionsWithOtherPolicy currentFingerprint event.now db).2

/-! ## One operation -/

section

variable {now : Int} {db : AuthDb} {x y : AuthSessionRecord}

/-- What holds before a transaction and after it when it succeeds holds after it. -/
theorem committed_of {P : AuthDb → Prop} {result : RusqliteResult AuthDb} (hself : P db)
    (h : ∀ db', result = .ok db' → P db') : P (committed db result) := by
  cases hresult : result with
  | error e => exact hself
  | ok db' => exact h db' hresult

theorem committed_snd_of {α : Type} {P : AuthDb → Prop} {result : RusqliteResult (α × AuthDb)}
    (hself : P db) (h : ∀ a db', result = .ok (a, db') → P db') :
    P (committed db (result.map Prod.snd)) := by
  cases hresult : result with
  | error e => exact hself
  | ok answer => exact h answer.1 answer.2 hresult

theorem touchSessionIfActiveThrottled_kept (id username : String) (role : Role)
    (kind : SessionKind) (minimumIntervalSecs : Int) :
    SessionsKept now db
      (touchSessionIfActiveThrottled id username role kind now minimumIntervalSecs db).2 := by
  refine SessionsKept.updateWhere rfl ?_
  intro x hx
  simp only [AuthSessionRecord.touchable, Bool.and_eq_true] at hx
  exact .touched hx.1.2

theorem revokeWhere_kept (p : AuthSessionRecord → Bool) :
    SessionsKept now db (revokeWhere p now db).2 := by
  refine SessionsKept.updateWhere rfl ?_
  intro x hx
  simp only [Bool.and_eq_true, Option.isNone_iff_eq_none] at hx
  exact .revoked hx.2

/-- What an operation makes of the administrator's record. -/
inductive AdminChange (op : SessionOp) : Option AdminRecord → Option AdminRecord → Prop where
  | same (admin : Option AdminRecord) : AdminChange op admin admin
  | created (admin : AdminRecord) : AdminChange op none (some admin)
  | replaced (admin : AdminRecord) (username passwordHash : String)
      (hop : op = .resetPassword username passwordHash) :
      AdminChange op (some admin) (some ⟨username, passwordHash, admin.credentialVersion + 1⟩)

/-- What an operation does to the tables. -/
structure StoreEffect (event : SessionEvent) (db db' : AuthDb) : Prop where
  sessions : SessionsKept event.now db db'
  codes : CodesEvolve db db' ∨
    ∃ pairing codeHash creatorId creatorUsername creatorRole creatorKind version,
      event.op = .createPairing pairing codeHash creatorId creatorUsername creatorRole
        creatorKind version ∧
      PairingInserted (newPairingCode pairing codeHash creatorId event.now) event.now version db db'
  admin : AdminChange event.op db.admin db'.admin

theorem StoreEffect.refl (event : SessionEvent) (db : AuthDb) : StoreEffect event db db :=
  ⟨SessionsKept.refl _ db, Or.inl (CodesEvolve.of_eq rfl), .same _⟩

/-- An insert of a session leaves the other tables alone. -/
theorem SessionInserted.effect {event : SessionEvent} {session : AuthSessionRecord} {db' : AuthDb}
    (h : SessionInserted session db db') : StoreEffect event db db' :=
  ⟨h.kept, Or.inl (CodesEvolve.of_eq h.codes), h.admin ▸ .same _⟩

/-- An operation keeps every session, touches it while it is active, or revokes
it; it uses codes, or creates one; and it replaces the administrator's record,
or creates it. -/
theorem sessionStep_effect (db : AuthDb) (event : SessionEvent) :
    StoreEffect event db (sessionStep db event) := by
  obtain ⟨now, op⟩ := event
  have hrefl := StoreEffect.refl ⟨now, op⟩ db
  cases op with
  | createAdmin username passwordHash =>
      refine committed_of hrefl ?_
      intro db' h
      unfold createAdmin at h
      rw [ensure_bind_eq_ok_iff] at h
      cases h.2
      refine ⟨SessionsKept.refl now db, Or.inl (CodesEvolve.of_eq rfl), ?_⟩
      rw [h.1]
      exact .created _
  | resetPassword username passwordHash =>
      refine ⟨?_, Or.inl ?_, ?_⟩
      · refine SessionsKept.updateWhere rfl ?_
        intro x hx
        exact .revoked (Option.isNone_iff_eq_none.mp hx)
      · refine ⟨fun row => if row.usedAt.isNone then { row with usedAt := some now } else row, ?_, ?_⟩
        · intro x
          beta_reduce
          split
          · rename_i hunused
            exact .used now (Option.isNone_iff_eq_none.mp hunused)
          · exact .same
        · simp [sessionStep, replaceAdminPassword]
      · cases hadmin : db.admin with
        | none =>
            simp only [sessionStep, replaceAdminPassword, hadmin, Option.map_none]
            exact .same none
        | some admin =>
            simp only [sessionStep, replaceAdminPassword, hadmin, Option.map_some]
            exact .replaced admin username passwordHash rfl
  | insertStandard session version =>
      refine committed_snd_of hrefl ?_
      intro inserted db' h
      rcases insertStandardSessionIfAdminVersion_ok h with ⟨_, hsame⟩ | ⟨_, hinserted, _⟩
      · rw [hsame]
        exact hrefl
      · exact hinserted.effect
  | insertOidc session =>
      refine committed_of hrefl ?_
      intro db' h
      exact (insertOidcSession_ok h).effect
  | setup setupTokenHash username passwordHash session =>
      refine committed_snd_of hrefl ?_
      intro consumed db' h
      rcases consumeSetupAndCreateAdminAndSession_ok h with hsame | ⟨hnone, hcodes, hrows, hadmin⟩
      · rw [hsame]
        exact hrefl
      · refine ⟨SessionsKept.of_append hrows, Or.inl (CodesEvolve.of_eq hcodes), ?_⟩
        rw [hnone, hadmin]
        exact .created _
  | createPairing pairing codeHash creatorId creatorUsername creatorRole creatorKind version =>
      refine committed_snd_of hrefl ?_
      intro inserted db' h
      rcases insertPairingIfAuthorized_ok h with hsame | hinserted
      · rw [hsame]
        exact hrefl
      · refine ⟨?_, Or.inr ⟨_, _, _, _, _, _, _, rfl, hinserted⟩, hinserted.admin ▸ .same _⟩
        apply SessionsKept.of_subset
        rw [hinserted.sessions]
        exact fun x hx => hx
  | pair codeHash sessionId tokenHash csrfHash viewerLifetimeSecs adminLifetimeSecs =>
      refine committed_snd_of hrefl ?_
      intro answer db' h
      rcases consumePairingAndInsertSession_ok h with ⟨_, hsame⟩ | ⟨_, _, _, _, _, hpaired⟩
      · rw [hsame]
        exact hrefl
      · exact ⟨SessionsKept.of_append hpaired.sessions, Or.inl (CodesEvolve.mark hpaired.codes),
          hpaired.admin ▸ .same _⟩
  | touch id username role kind minimumIntervalSecs =>
      exact ⟨touchSessionIfActiveThrottled_kept id username role kind minimumIntervalSecs,
        Or.inl (CodesEvolve.of_eq rfl), .same _⟩
  | check id username role kind => exact hrefl
  | revoke id => exact ⟨revokeWhere_kept _, Or.inl (CodesEvolve.of_eq rfl), .same _⟩
  | revokeOtherPolicy currentFingerprint =>
      cases currentFingerprint with
      | none => exact ⟨revokeWhere_kept _, Or.inl (CodesEvolve.of_eq rfl), .same _⟩
      | some fingerprint => exact ⟨revokeWhere_kept _, Or.inl (CodesEvolve.of_eq rfl), .same _⟩

end

/-! ## New sessions -/

/-- `STANDARD_IDLE_SECS`. -/
def standardIdleSecs : Int := 12 * 60 * 60

/-- `STANDARD_ABSOLUTE_SECS`. -/
def standardAbsoluteSecs : Int := 7 * 24 * 60 * 60

/-- The tokens of a new session: its identifier and the digests of its secrets. -/
structure SessionTokens where
  id : String
  tokenHash : Hash
  csrfHash : Hash
  deriving DecidableEq, Repr

/-- `new_session`; the generated tokens are an argument. -/
def newSession (tokens : SessionTokens) (username : String) (role : Role) (kind : SessionKind)
    (label : Option String) (lifetime now : Int) : AuthSessionRecord where
  id := tokens.id
  tokenHash := tokens.tokenHash
  csrfHash := tokens.csrfHash
  username := username
  role := role
  kind := kind
  authMethod := match kind with
    | .fixed => .pairing
    | .standard => .password
  displayName := username
  providerName := none
  identityIssuer := none
  identitySubject := none
  oidcPolicyFingerprint := none
  label := label
  createdAt := now
  lastSeenAt := now
  idleExpiresAt := match kind with
    | .standard => some (now + standardIdleSecs)
    | .fixed => none
  absoluteExpiresAt := now + lifetime
  revokedAt := none

/-- `OidcIdentity`, the columns of a session that come from it. -/
structure OidcIdentity where
  username : String
  role : Role
  displayName : String
  providerName : String
  issuer : String
  subject : String
  policyFingerprint : Hash
  deriving DecidableEq, Repr

/-- The session of `establish_oidc_session`. -/
def newOidcSession (tokens : SessionTokens) (identity : OidcIdentity) (now : Int) :
    AuthSessionRecord :=
  { newSession tokens identity.username identity.role .standard none standardAbsoluteSecs now with
    authMethod := .oidc
    displayName := identity.displayName
    providerName := some identity.providerName
    identityIssuer := some identity.issuer
    identitySubject := some identity.subject
    oidcPolicyFingerprint := some identity.policyFingerprint }

/-- A standard session as it is inserted at `now`. -/
structure StartsAt (now : Int) (x : AuthSessionRecord) : Prop where
  kind : x.kind = .standard
  seen : x.lastSeenAt = now
  idle : x.idleExpiresAt = some (now + touchIdleSecs)

/-- Every path that inserts a standard session inserts one that starts then. -/
theorem newSession_startsAt (tokens : SessionTokens) (username : String) (role : Role)
    (label : Option String) (lifetime now : Int) :
    StartsAt now (newSession tokens username role .standard label lifetime now) :=
  ⟨rfl, rfl, rfl⟩

/-! ## The life of a session -/

/-- The events happen one after the other, from `t` on. -/
def Clocked : Int → List SessionEvent → Prop
  | _, [] => True
  | t, e :: rest => t ≤ e.now ∧ Clocked e.now rest

instance Clocked.decidable : (t : Int) → (events : List SessionEvent) → Decidable (Clocked t events)
  | _, [] => isTrue trivial
  | t, e :: rest =>
      match Int.decLe t e.now, Clocked.decidable e.now rest with
      | isTrue he, isTrue hrest => isTrue ⟨he, hrest⟩
      | isFalse he, _ => isFalse (fun h => he h.1)
      | _, isFalse hrest => isFalse (fun h => hrest h.2)

theorem Clocked.mono {s t : Int} {events : List SessionEvent} (hst : s ≤ t)
    (h : Clocked t events) : Clocked s events := by
  cases events with
  | nil => trivial
  | cons e rest => exact ⟨hst.trans h.1, h.2⟩

section

variable {db db' : AuthDb} {x y : AuthSessionRecord} {t now : Int}

theorem activeAt_eq_true : x.activeAt t = true ↔
    x.revokedAt = none ∧ t < x.absoluteExpiresAt ∧
      ∀ expiry, x.idleExpiresAt = some expiry → t < expiry := by
  simp only [AuthSessionRecord.activeAt, Bool.and_eq_true, Option.isNone_iff_eq_none,
    decide_eq_true_eq, Option.all_eq_true, and_assoc]

/-- Inactivity lasts, as long as the row does not change. -/
theorem activeAt_mono {later : Int} (htime : t ≤ later) (h : x.activeAt later = true) :
    x.activeAt t = true := by
  rw [activeAt_eq_true] at h ⊢
  obtain ⟨hrevoked, habsolute, hidle⟩ := h
  exact ⟨hrevoked, htime.trans_lt habsolute, fun expiry hsome => htime.trans_lt (hidle expiry hsome)⟩

/-- An operation does not bring an inactive session back. -/
theorem SessionChange.inactive (h : SessionChange now x y) (htime : t ≤ now)
    (hinactive : x.activeAt t = false) : y.activeAt t = false := by
  cases h with
  | same => exact hinactive
  | touched hactive =>
      rw [activeAt_mono htime hactive] at hinactive
      cases hinactive
  | revoked _ => simp [AuthSessionRecord.activeAt]

/-- The rows of one identifier are one row. -/
theorem eq_of_id (db : AuthDb) (hx : x ∈ db.sessions.rows) (hy : y ∈ db.sessions.rows)
    (hid : y.id = x.id) : y = x :=
  db.sessions.eq_of_clash hy hx (by simp [UniqueRow.clash, hid])

/-- The session of an identifier is one row. -/
theorem sessionIsActive_eq (hx : x ∈ db.sessions.rows) :
    sessionIsActive x.id x.username x.role x.kind t db = x.activeAt t := by
  rw [Bool.eq_iff_iff, sessionIsActive, List.any_eq_true]
  constructor
  · rintro ⟨y, hy, hactive⟩
    rw [Bool.and_eq_true] at hactive
    have hid := hactive.1
    simp only [AuthSessionRecord.named, decide_eq_true_eq] at hid
    rw [← eq_of_id db hx hy hid.1]
    exact hactive.2
  · intro hactive
    refine ⟨x, hx, ?_⟩
    simp [AuthSessionRecord.named, hactive]

/-- Every row of a run has a successor at its end, and a revoked one is it. -/
theorem run_kept (events : List SessionEvent) (hx : x ∈ db.sessions.rows) :
    ∃ y ∈ (run sessionStep db events).sessions.rows, SameSession x y ∧
      (x.revokedAt.isSome = true → y = x) := by
  induction events generalizing db x with
  | nil => exact ⟨x, hx, SameSession.refl x, fun _ => rfl⟩
  | cons e rest ih =>
      obtain ⟨y, hy, hchange⟩ := (sessionStep_effect db e).sessions x hx
      obtain ⟨z, hz, hsame, hrevoked⟩ := ih hy
      refine ⟨z, hz, hchange.sameSession.trans hsame, ?_⟩
      intro hx'
      have hyx := hchange.revoked_of hx'
      rw [hrevoked (hyx ▸ hx'), hyx]

/-- A session that is inactive stays inactive. -/
theorem run_inactive {events : List SessionEvent} (hclock : Clocked t events)
    (hx : x ∈ db.sessions.rows) (hinactive : x.activeAt t = false) :
    ∃ y ∈ (run sessionStep db events).sessions.rows, SameSession x y ∧ y.activeAt t = false := by
  induction events generalizing db x with
  | nil => exact ⟨x, hx, SameSession.refl x, hinactive⟩
  | cons e rest ih =>
      obtain ⟨y, hy, hchange⟩ := (sessionStep_effect db e).sessions x hx
      obtain ⟨z, hz, hsame, hdead⟩ :=
        ih (hclock.2.mono hclock.1) hy (hchange.inactive hclock.1 hinactive)
      exact ⟨z, hz, hchange.sameSession.trans hsame, hdead⟩

theorem touchable_eq_true {id username : String} {role : Role} {kind : SessionKind}
    {interval : Int} : x.touchable id username role kind now interval = true ↔
      x.named id username role kind = true ∧ x.activeAt now = true ∧
        x.lastSeenAt ≤ now - interval := by
  simp only [AuthSessionRecord.touchable, Bool.and_eq_true, decide_eq_true_eq, and_assoc]

/-- A touched row is active, and still the session that the caller names. -/
theorem touch_named_active {id username : String} {role : Role} {kind : SessionKind}
    (hactive : x.activeAt now = true) :
    (x.touch now).named id username role kind = x.named id username role kind ∧
      (x.touch now).activeAt now = true := by
  refine ⟨rfl, ?_⟩
  rw [activeAt_eq_true] at hactive ⊢
  obtain ⟨hrevoked, habsolute, _⟩ := hactive
  refine ⟨hrevoked, habsolute, ?_⟩
  intro expiry hsome
  simp only [AuthSessionRecord.touch] at hsome
  split at hsome
  · rw [Option.some.injEq, touchIdleSecs] at hsome
    omega
  · cases hsome

section

variable (id username : String) (role : Role) (kind : SessionKind) (now interval : Int)
  (db : AuthDb)

/-- The rows of the table after a touch. -/
theorem touch_rows :
    (touchSessionIfActiveThrottled id username role kind now interval db).2.sessions.rows =
      db.sessions.rows.map (fun x =>
        if x.touchable id username role kind now interval then x.touch now else x) :=
  rfl

/-- A touch leaves the active check as it was. -/
theorem touch_sessionIsActive :
    sessionIsActive id username role kind now
        (touchSessionIfActiveThrottled id username role kind now interval db).2 =
      sessionIsActive id username role kind now db := by
  unfold sessionIsActive
  rw [touch_rows, List.any_map]
  congr 1
  funext x
  simp only [Function.comp_apply]
  split
  · rename_i htouchable
    obtain ⟨hnamed, hactive, _⟩ := touchable_eq_true.mp htouchable
    have htouch : (x.touch now).named id username role kind = x.named id username role kind ∧
        (x.touch now).activeAt now = true := touch_named_active hactive
    rw [htouch.1, htouch.2, hnamed, hactive]
  · rfl

/-- A touch answers what the active check answers. -/
theorem touch_eq_sessionIsActive :
    (touchSessionIfActiveThrottled id username role kind now interval db).1 =
      sessionIsActive id username role kind now db := by
  have hanswer : (touchSessionIfActiveThrottled id username role kind now interval db).1 =
      if db.sessions.countWhere (fun x => x.touchable id username role kind now interval) = 1
      then true
      else sessionIsActive id username role kind now
        (touchSessionIfActiveThrottled id username role kind now interval db).2 := rfl
  rw [hanswer, touch_sessionIsActive]
  split
  · rename_i hone
    have hpositive : 0 < db.sessions.rows.countP
        (fun x => x.touchable id username role kind now interval) := by
      have hcount : db.sessions.rows.countP
          (fun x => x.touchable id username role kind now interval) = 1 := hone
      omega
    obtain ⟨x, hx, htouchable⟩ := List.countP_pos_iff.mp hpositive
    obtain ⟨hnamed, hactive, _⟩ := touchable_eq_true.mp htouchable
    unfold sessionIsActive
    rw [eq_comm, List.any_eq_true]
    exact ⟨x, hx, by rw [hnamed, hactive]; rfl⟩
  · rfl

/-- A touch changes two columns of a session that it names and that is active. -/
def TouchedOnly (id username : String) (role : Role) (kind : SessionKind) (now : Int)
    (x y : AuthSessionRecord) : Prop :=
  y = x ∨ (x.named id username role kind = true ∧ x.activeAt now = true ∧
    y = { x with lastSeenAt := y.lastSeenAt, idleExpiresAt := y.idleExpiresAt })

theorem touch_touchedOnly :
    List.Forall₂ (TouchedOnly id username role kind now) db.sessions.rows
      (touchSessionIfActiveThrottled id username role kind now interval db).2.sessions.rows := by
  rw [touch_rows, List.forall₂_map_right_iff, List.forall₂_same]
  intro x _
  split
  · rename_i htouchable
    obtain ⟨hnamed, hactive, _⟩ := touchable_eq_true.mp htouchable
    exact Or.inr ⟨hnamed, hactive, rfl⟩
  · exact Or.inl rfl

end

/-! ## Sessions in use -/

/-- Between `last` and `deadline`, no pause between two of the touches `op`, and
none after the last of them, is as long as the idle limit less the interval. -/
def KeptUp (op : SessionOp) (interval : Int) : Int → List SessionEvent → Int → Prop
  | last, [], deadline => deadline - last < standardIdleSecs - interval
  | last, e :: rest, deadline =>
      if e.op = op then
        e.now - last < standardIdleSecs - interval ∧ KeptUp op interval e.now rest deadline
      else KeptUp op interval last rest deadline

instance KeptUp.decidable (op : SessionOp) (interval : Int) :
    (last : Int) → (events : List SessionEvent) → (deadline : Int) →
      Decidable (KeptUp op interval last events deadline)
  | last, [], deadline =>
      inferInstanceAs (Decidable (deadline - last < standardIdleSecs - interval))
  | last, e :: rest, deadline =>
      have : Decidable (KeptUp op interval e.now rest deadline) := KeptUp.decidable op interval _ _ _
      have : Decidable (KeptUp op interval last rest deadline) := KeptUp.decidable op interval _ _ _
      inferInstanceAs (Decidable (if e.op = op then
        e.now - last < standardIdleSecs - interval ∧ KeptUp op interval e.now rest deadline
      else KeptUp op interval last rest deadline))

/-- The row of a standard session whose last attempt at a touch was at `last`. -/
structure InUse (interval last : Int) (x : AuthSessionRecord) : Prop where
  kind : x.kind = .standard
  idle : x.idleExpiresAt = some (x.lastSeenAt + touchIdleSecs)
  recent : last ≤ x.lastSeenAt + interval

/-- An operation other than a revocation keeps a session in use. -/
theorem InUse.change {interval last : Int} (h : InUse interval last x) (hinterval : 0 ≤ interval)
    (hchange : SessionChange now x y) (hlast : last ≤ now) (hunrevoked : y.revokedAt = none) :
    InUse interval last y := by
  cases hchange with
  | same => exact h
  | touched _ =>
      refine ⟨h.kind, ?_, ?_⟩
      · simp [AuthSessionRecord.touch, h.kind]
      · simp only [AuthSessionRecord.touch]
        omega
  | revoked _ => cases hunrevoked

/-- A touch in time, performed or throttled, keeps a session in use from then on. -/
theorem InUse.touched {interval last : Int} (h : InUse interval last x) (hinterval : 0 ≤ interval)
    (hpause : now - last < standardIdleSecs - interval) (hunrevoked : x.revokedAt = none)
    (habsolute : now < x.absoluteExpiresAt) :
    InUse interval now
      (if x.touchable x.id x.username x.role x.kind now interval then x.touch now else x) := by
  have hrecent := h.recent
  have hactive : x.activeAt now = true := by
    rw [activeAt_eq_true]
    refine ⟨hunrevoked, habsolute, ?_⟩
    intro expiry hsome
    rw [h.idle, Option.some.injEq] at hsome
    simp only [standardIdleSecs] at hpause
    simp only [touchIdleSecs] at hsome
    omega
  split
  · refine ⟨h.kind, ?_, ?_⟩
    · simp [AuthSessionRecord.touch, h.kind]
    · simp only [AuthSessionRecord.touch]
      omega
  · rename_i hthrottled
    rw [touchable_eq_true] at hthrottled
    have hnamed : x.named x.id x.username x.role x.kind = true := by simp [AuthSessionRecord.named]
    refine ⟨h.kind, h.idle, ?_⟩
    by_contra hold
    exact hthrottled ⟨hnamed, hactive, by omega⟩

/-- A session in use is active until it is revoked or expires. -/
theorem InUse.run {interval : Int} (hinterval : 0 ≤ interval) {events : List SessionEvent}
    {last deadline : Int} (h : InUse interval last x) (hx : x ∈ db.sessions.rows)
    (hclock : Clocked last events) {op : SessionOp}
    (hop : op = .touch x.id x.username x.role x.kind interval)
    (hkept : KeptUp op interval last events deadline) (hend : ∀ e ∈ events, e.now ≤ deadline)
    (hunrevoked : ∀ y ∈ (run sessionStep db events).sessions.rows, y.id = x.id →
      y.revokedAt = none)
    (habsolute : deadline < x.absoluteExpiresAt) :
    ∃ y ∈ (run sessionStep db events).sessions.rows, SameSession x y ∧
      y.activeAt deadline = true := by
  induction events generalizing db x last with
  | nil =>
      have hrecent := h.recent
      have hpause : deadline - last < standardIdleSecs - interval := hkept
      refine ⟨x, hx, SameSession.refl x, ?_⟩
      rw [activeAt_eq_true]
      refine ⟨hunrevoked x hx rfl, habsolute, ?_⟩
      intro expiry hsome
      rw [h.idle, Option.some.injEq] at hsome
      simp only [standardIdleSecs] at hpause
      simp only [touchIdleSecs] at hsome
      omega
  | cons e rest ih =>
      -- a row that was revoked by now would still be revoked at the end
      have hlives : ∀ y ∈ (sessionStep db e).sessions.rows, y.id = x.id → y.revokedAt = none := by
        intro y hy hid
        by_contra hrevoked
        obtain ⟨z, hz, hsame, hkeeps⟩ := run_kept rest hy
        have hzy := hkeeps (Option.isSome_iff_ne_none.mpr hrevoked)
        exact hrevoked (hzy ▸ hunrevoked z hz (hsame.id.trans hid))
      have hnext : ∀ y ∈ (sessionStep db e).sessions.rows, SameSession x y → ∀ last',
          InUse interval last' y → Clocked last' rest → KeptUp op interval last' rest deadline →
          ∃ z ∈ (run sessionStep db (e :: rest)).sessions.rows, SameSession x z ∧
            z.activeAt deadline = true := by
        intro y hy hsame last' huse hclock' hkept'
        obtain ⟨z, hz, hsame', hactive⟩ := ih huse hy hclock'
          (by rw [hop, hsame.id, hsame.username, hsame.role, hsame.kind]) hkept'
          (fun e' he' => hend e' (List.mem_cons_of_mem _ he'))
          (fun z hz hid => hunrevoked z hz (hid.trans hsame.id))
          (by rw [hsame.absoluteExpiresAt]; exact habsolute)
        exact ⟨z, hz, hsame.trans hsame', hactive⟩
      unfold KeptUp at hkept
      by_cases htouch : e.op = op
      · rw [if_pos htouch] at hkept
        obtain ⟨hpause, hkept⟩ := hkept
        have hstep : sessionStep db e = (touchSessionIfActiveThrottled x.id x.username x.role x.kind
            e.now interval db).2 := by
          rw [sessionStep, htouch, hop]
        have hy : (if x.touchable x.id x.username x.role x.kind e.now interval then x.touch e.now
            else x) ∈ (sessionStep db e).sessions.rows := by
          rw [hstep, touch_rows]
          exact List.mem_map_of_mem (f := fun x' => if x'.touchable x.id x.username x.role x.kind
            e.now interval then x'.touch e.now else x') hx
        have hsame : SameSession x (if x.touchable x.id x.username x.role x.kind e.now interval then
            x.touch e.now else x) := by
          split <;> exact ⟨rfl, rfl, rfl, rfl, rfl⟩
        have hunrevoked' : x.revokedAt = none := by
          obtain ⟨y, hy', hchange⟩ := (sessionStep_effect db e).sessions x hx
          by_contra hrevoked
          have hyx := hchange.revoked_of (Option.isSome_iff_ne_none.mpr hrevoked)
          exact hrevoked (hyx ▸ hlives y hy' hchange.sameSession.id)
        have hbefore : e.now < x.absoluteExpiresAt :=
          (hend e List.mem_cons_self).trans_lt habsolute
        exact hnext _ hy hsame e.now (h.touched hinterval hpause hunrevoked' hbefore) hclock.2 hkept
      · rw [if_neg htouch] at hkept
        obtain ⟨y, hy, hchange⟩ := (sessionStep_effect db e).sessions x hx
        have hsame := hchange.sameSession
        exact hnext y hy hsame last
          (h.change hinterval hchange hclock.1 (hlives y hy hsame.id))
          (hclock.2.mono hclock.1) hkept

end

/-- The life of a session from any state on, in any run.  It stays one row, with
the same expiry; once inactive it is never active again; a touch answers what
the active check answers, and changes two columns of an active session; and a
standard session that is touched often enough is active until it is revoked or
expires. -/
theorem session_lifecycle {db : AuthDb} {t : Int} {events : List SessionEvent}
    (hclock : Clocked t events) {x : AuthSessionRecord} (hx : x ∈ db.sessions.rows) :
    (∃ y ∈ (run sessionStep db events).sessions.rows, SameSession x y ∧
      ∀ z ∈ (run sessionStep db events).sessions.rows, z.id = x.id → z = y) ∧
    (x.activeAt t = false → ∀ later, t ≤ later → ∀ username role kind,
      sessionIsActive x.id username role kind later (run sessionStep db events) = false) ∧
    (∀ id username role kind now interval,
      (touchSessionIfActiveThrottled id username role kind now interval
          (run sessionStep db events)).1 =
        sessionIsActive id username role kind now (run sessionStep db events) ∧
      ∃ sessions, (touchSessionIfActiveThrottled id username role kind now interval
          (run sessionStep db events)).2 = { run sessionStep db events with sessions := sessions } ∧
        List.Forall₂ (TouchedOnly id username role kind now)
          (run sessionStep db events).sessions.rows sessions.rows) ∧
    (StartsAt t x → ∀ interval deadline, 0 ≤ interval → (∀ e ∈ events, e.now ≤ deadline) →
      KeptUp (.touch x.id x.username x.role x.kind interval) interval t events deadline →
      (∀ y ∈ (run sessionStep db events).sessions.rows, y.id = x.id → y.revokedAt = none) →
      deadline < x.absoluteExpiresAt →
      sessionIsActive x.id x.username x.role x.kind deadline (run sessionStep db events) =
        true) := by
  refine ⟨?_, ?_, ?_, ?_⟩
  · obtain ⟨y, hy, hsame, _⟩ := run_kept events hx
    exact ⟨y, hy, hsame, fun z hz hid => eq_of_id _ hy hz (hid.trans hsame.id.symm)⟩
  · intro hinactive later hlater username role kind
    obtain ⟨y, hy, hsame, hdead⟩ := run_inactive hclock hx hinactive
    rw [Bool.eq_false_iff]
    intro hactive
    rw [sessionIsActive, List.any_eq_true] at hactive
    obtain ⟨z, hz, hboth⟩ := hactive
    rw [Bool.and_eq_true] at hboth
    have hid := hboth.1
    simp only [AuthSessionRecord.named, decide_eq_true_eq] at hid
    rw [eq_of_id _ hy hz (hid.1.trans hsame.id.symm)] at hboth
    rw [activeAt_mono hlater hboth.2] at hdead
    cases hdead
  · intro id username role kind now interval
    refine ⟨touch_eq_sessionIsActive id username role kind now interval _, _, rfl, ?_⟩
    exact touch_touchedOnly id username role kind now interval _
  · intro hstarts interval deadline hinterval hend hkept hunrevoked habsolute
    have huse : InUse interval t x := by
      refine ⟨hstarts.kind, ?_, ?_⟩
      · rw [hstarts.idle, hstarts.seen]
      · rw [hstarts.seen]
        omega
    obtain ⟨y, hy, hsame, hactive⟩ := huse.run hinterval hx hclock rfl hkept hend hunrevoked
      habsolute
    rw [← hsame.id, ← hsame.username, ← hsame.role, ← hsame.kind, sessionIsActive_eq hy]
    exact hactive

/-- A session of the administrator that begins at time zero. -/
def firstSession : AuthSessionRecord :=
  newSession ⟨"session", [1], [2]⟩ "admin" .admin .standard none standardAbsoluteSecs 0

/-- The tables with that session. -/
def AuthDb.withSession : AuthDb where
  admin := some ⟨"admin", "hash", 1⟩
  sessions := ⟨[firstSession], List.pairwise_singleton _ _⟩
  pairingCodes := UniqueTable.empty
  setupToken := none

/-- The session is touched, once too early to count. -/
def usedRun : List SessionEvent :=
  [⟨40000, .touch "session" "admin" .admin .standard 300⟩,
    ⟨40100, .touch "session" "admin" .admin .standard 300⟩,
    ⟨82000, .touch "session" "admin" .admin .standard 300⟩]

theorem session_lifecycle_usedRun :
    sessionIsActive "session" "admin" .admin .standard 120000
      (run sessionStep AuthDb.withSession usedRun) = true :=
  (@session_lifecycle AuthDb.withSession 0 usedRun (by decide) firstSession (by decide)).2.2.2 (newSession_startsAt _ _ _ _ _ _) 300 120000 (by decide)
    (by decide) (by decide) (by decide) (by decide)

end RouterView.Auth
