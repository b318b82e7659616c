/-
  Auth/Reset.lean --- what a password reset withdraws.

  A reset revokes every session and uses up every pairing code, and no later
  step undoes either.  It also raises the credential version, which the inserts
  of a login and of an administrator's pairing code compare with the version
  that their password was verified against.
-/
import RouterView.Auth.Requests

set_option autoImplicit false

namespace RouterView.Auth

open RouterView.Foundation

/-! ## One step -/

section

variable {verify : String → String → Bool} {s : AuthSystem verify} {event : AuthEvent}

/-- A step does nothing to the store, or one operation. -/
theorem nextDb_cases (s : AuthSystem verify) (event : AuthEvent) :
    (authStep verify s event).db = s.db ∨ ∃ op, storeOp verify s event = some op ∧
      (authStep verify s event).db = sessionStep s.db ⟨event.now, op⟩ := by
  cases hop : storeOp verify s event with
  | none =>
      left
      simp only [authStep, nextDb, hop]
  | some op =>
      right
      refine ⟨op, rfl, ?_⟩
      simp only [authStep, nextDb, hop]

/-- A revoked session stays as it is. -/
theorem authStep_revoked {x : AuthSessionRecord} (hx : x ∈ s.db.sessions.rows)
    (hrevoked : x.revokedAt.isSome = true) : x ∈ (authStep verify s event).db.sessions.rows := by
  rcases nextDb_cases s event with hsame | ⟨op, _, hstep⟩
  · rw [hsame]
    exact hx
  · rw [hstep]
    obtain ⟨y, hy, hchange⟩ := (sessionStep_effect s.db ⟨event.now, op⟩).sessions x hx
    rwa [hchange.revoked_of hrevoked] at hy

/-- A used code stays as it is. -/
theorem sessionStep_used {db : AuthDb} {event : SessionEvent} {c : PairingCode}
    (hc : c ∈ db.pairingCodes.rows) (hused : c.usedAt.isSome = true) :
    c ∈ (sessionStep db event).pairingCodes.rows := by
  rcases (sessionStep_effect db event).codes with
    ⟨f, hf, hrows⟩ | ⟨_, _, _, _, _, _, _, _, hinserted⟩
  · rw [hrows]
    have hmem := List.mem_map_of_mem (f := f) hc
    rwa [(hf c).used_of hused] at hmem
  · rw [hinserted.rows]
    exact List.mem_append_left _ hc

theorem authStep_used {c : PairingCode} (hc : c ∈ s.db.pairingCodes.rows)
    (hused : c.usedAt.isSome = true) : c ∈ (authStep verify s event).db.pairingCodes.rows := by
  rcases nextDb_cases s event with hsame | ⟨op, _, hstep⟩
  · rw [hsame]
    exact hc
  · rw [hstep]
    exact sessionStep_used hc hused

/-- The credential version does not go down. -/
theorem authStep_version {version : Int}
    (h : ∃ admin, s.db.admin = some admin ∧ version ≤ admin.credentialVersion) :
    ∃ admin, (authStep verify s event).db.admin = some admin ∧
      version ≤ admin.credentialVersion := by
  obtain ⟨admin, hadmin, hversion⟩ := h
  rcases nextDb_cases s event with hsame | ⟨op, _, hstep⟩
  · rw [hsame]
    exact ⟨admin, hadmin, hversion⟩
  · have heffect := (sessionStep_effect s.db ⟨event.now, op⟩).admin
    rw [← hstep, hadmin] at heffect
    generalize (authStep verify s event).db.admin = after at heffect
    cases heffect with
    | same => exact ⟨admin, rfl, hversion⟩
    | replaced _ username passwordHash _ =>
        refine ⟨_, rfl, ?_⟩
        simp only
        omega

end

/-! ## Runs -/

section

variable {verify : String → String → Bool} {s : AuthSystem verify}

theorem run_revoked {x : AuthSessionRecord} (hx : x ∈ s.db.sessions.rows)
    (hrevoked : x.revokedAt.isSome = true) (events : List AuthEvent) :
    x ∈ (run (authStep verify) s events).db.sessions.rows := by
  induction events generalizing s with
  | nil => exact hx
  | cons event rest ih => exact ih (authStep_revoked hx hrevoked)

theorem run_used {c : PairingCode} (hc : c ∈ s.db.pairingCodes.rows)
    (hused : c.usedAt.isSome = true) (events : List AuthEvent) :
    c ∈ (run (authStep verify) s events).db.pairingCodes.rows := by
  induction events generalizing s with
  | nil => exact hc
  | cons event rest ih => exact ih (authStep_used hc hused)

theorem run_version {version : Int}
    (h : ∃ admin, s.db.admin = some admin ∧ version ≤ admin.credentialVersion)
    (events : List AuthEvent) :
    ∃ admin, (run (authStep verify) s events).db.admin = some admin ∧
      version ≤ admin.credentialVersion := by
  induction events generalizing s with
  | nil => exact h
  | cons event rest ih => exact ih (authStep_version h)

end

/-! ## Withdrawn credentials -/

section

variable {db : AuthDb}

/-- A revoked row answers every active check of its identifier. -/
theorem sessionIsActive_revoked {x : AuthSessionRecord} (hx : x ∈ db.sessions.rows)
    (hrevoked : x.revokedAt.isSome = true) (username : String) (role : Role) (kind : SessionKind)
    (now : Int) : sessionIsActive x.id username role kind now db = false := by
  rw [sessionIsActive, List.any_eq_false]
  intro y hy hactive
  rw [Bool.and_eq_true] at hactive
  have hid := hactive.1
  simp only [AuthSessionRecord.named, decide_eq_true_eq] at hid
  rw [eq_of_id db hx hy hid.1, activeAt_eq_true] at hactive
  rw [hactive.2.1] at hrevoked
  cases hrevoked

/-- A used code is the only one of its hash, so the hash is not eligible. -/
theorem not_eligible_of_used {c : PairingCode} (hc : c ∈ db.pairingCodes.rows)
    (hused : c.usedAt.isSome = true) (now : Int) :
    ∀ row ∈ db.pairingCodes.rows, db.eligible c.codeHash now row = false := by
  intro row hrow
  rw [Bool.eq_false_iff]
  intro heligible
  simp only [AuthDb.eligible, Bool.and_eq_true, decide_eq_true_eq,
    Option.isNone_iff_eq_none] at heligible
  obtain ⟨⟨⟨hhash, hunused⟩, _⟩, _⟩ := heligible
  have hsame := db.pairingCodes.eq_of_clash hrow hc (by simp [UniqueRow.clash, hhash])
  rw [hsame] at hunused
  rw [hunused] at hused
  cases hused

theorem consume_of_used {c : PairingCode} (hc : c ∈ db.pairingCodes.rows)
    (hused : c.usedAt.isSome = true) (now : Int) (sessionId : String) (tokenHash csrfHash : Hash)
    (viewerLifetimeSecs adminLifetimeSecs : Int) :
    consumePairingAndInsertSession c.codeHash now sessionId tokenHash csrfHash viewerLifetimeSecs
      adminLifetimeSecs db = .ok (none, db) := by
  unfold consumePairingAndInsertSession
  have hnone : db.pairingCodes.rows.find? (fun pairing => db.eligible c.codeHash now pairing) =
      none := by
    rw [List.find?_eq_none]
    intro row hrow
    rw [not_eligible_of_used hc hused now row hrow]
    decide
  rw [hnone]

theorem replaceAdminPassword_session {x : AuthSessionRecord} (hx : x ∈ db.sessions.rows)
    (username passwordHash : String) (now : Int) :
    ∃ y ∈ (replaceAdminPassword username passwordHash now db).sessions.rows, y.id = x.id ∧
      y.revokedAt.isSome = true := by
  refine ⟨if x.revokedAt.isNone then { x with revokedAt := some now } else x,
    List.mem_map_of_mem (f := fun x => if x.revokedAt.isNone then
      { x with revokedAt := some now } else x) hx, ?_⟩
  cases hrevoked : x.revokedAt with
  | none => simp
  | some time => simp [hrevoked]

theorem replaceAdminPassword_code {c : PairingCode} (hc : c ∈ db.pairingCodes.rows)
    (username passwordHash : String) (now : Int) :
    ∃ d ∈ (replaceAdminPassword username passwordHash now db).pairingCodes.rows,
      d.codeHash = c.codeHash ∧ d.usedAt.isSome = true := by
  refine ⟨if c.usedAt.isNone then { c with usedAt := some now } else c,
    List.mem_map_of_mem (f := fun c => if c.usedAt.isNone then
      { c with usedAt := some now } else c) hc, ?_⟩
  cases hused : c.usedAt with
  | none => simp
  | some time => simp [hused]

/-- An insert on another credential version than the current one does nothing. -/
theorem insertStandard_stale {admin : AdminRecord} (hadmin : db.admin = some admin)
    {version : Int} (hstale : admin.credentialVersion ≠ version) (session : AuthSessionRecord) :
    insertStandardSessionIfAdminVersion session version db = .ok (false, db) := by
  simp [insertStandardSessionIfAdminVersion, hadmin, hstale]

theorem insertPairing_stale {admin : AdminRecord} (hadmin : db.admin = some admin)
    {version : Int} (hstale : admin.credentialVersion ≠ version) (pairing : PairingRecord)
    (codeHash : Hash) (creatorId creatorUsername : String) (creatorRole : Role)
    (creatorKind : SessionKind) (now : Int) :
    insertPairingIfAuthorized pairing codeHash creatorId creatorUsername creatorRole creatorKind
      now (some version) db = .ok (false, db) := by
  simp [insertPairingIfAuthorized, hadmin, hstale]

end

section

variable (verify : String → String → Bool)

/-- No insert of a request whose password was verified against the version, or
an older one, changes the store. -/
def InsertsRefused (version : Int) (s : AuthSystem verify) : Prop :=
  (∀ request tokens now (admin : VerifiedAdmin verify),
    s.logins request = some (.verified admin) → admin.record.credentialVersion ≤ version →
    (authStep verify s ⟨now, .loginInsert request tokens⟩).db = s.db) ∧
  ∀ request pairingId codeHash now creator label (admin : VerifiedAdmin verify),
    s.pairings request = some (.granted creator label (.admin admin)) →
    admin.record.credentialVersion ≤ version →
    (authStep verify s ⟨now, .pairingInsert request pairingId codeHash⟩).db = s.db

theorem insertsRefused {version : Int} {s : AuthSystem verify}
    (h : ∃ admin, s.db.admin = some admin ∧ version + 1 ≤ admin.credentialVersion) :
    InsertsRefused verify version s := by
  obtain ⟨current, hcurrent, hversion⟩ := h
  constructor
  · intro request tokens now admin hstage hold
    have hstale : current.credentialVersion ≠ admin.record.credentialVersion := by omega
    simp only [authStep, nextDb, storeOp, hstage, sessionStep,
      insertStandard_stale hcurrent hstale]
    rfl
  · intro request pairingId codeHash now creator label admin hstage hold
    have hstale : current.credentialVersion ≠ admin.record.credentialVersion := by omega
    simp only [authStep, nextDb, storeOp, hstage, sessionStep,
      PairingGrant.expectedCredentialVersion, insertPairing_stale hcurrent hstale]
    rfl

/-- After a reset, at any time of any run: the sessions from before it are
inactive, the codes from before it cannot be consumed, and a password that was
verified against the old credentials inserts nothing. -/
theorem reset_revokes_everything (s : AuthSystem verify) (earlier later : List AuthEvent)
    (username passwordHash : String) (now : Int) :
    (∀ x ∈ (run (authStep verify) s earlier).db.sessions.rows, ∀ user role kind time,
      sessionIsActive x.id user role kind time
        (run (authStep verify) s
          (earlier ++ ⟨now, .resetPassword username passwordHash⟩ :: later)).db = false) ∧
    (∀ c ∈ (run (authStep verify) s earlier).db.pairingCodes.rows,
      ∀ time sessionId tokenHash csrfHash viewerLifetimeSecs adminLifetimeSecs,
        consumePairingAndInsertSession c.codeHash time sessionId tokenHash csrfHash
          viewerLifetimeSecs adminLifetimeSecs (run (authStep verify) s
            (earlier ++ ⟨now, .resetPassword username passwordHash⟩ :: later)).db =
          .ok (none, (run (authStep verify) s
            (earlier ++ ⟨now, .resetPassword username passwordHash⟩ :: later)).db)) ∧
    ∀ admin, (run (authStep verify) s earlier).db.admin = some admin →
      InsertsRefused verify admin.credentialVersion (run (authStep verify) s
        (earlier ++ ⟨now, .resetPassword username passwordHash⟩ :: later)) := by
  rw [run_append, run_cons]
  generalize run (authStep verify) s earlier = before
  have hreset : (authStep verify before ⟨now, .resetPassword username passwordHash⟩).db =
      replaceAdminPassword username passwordHash now before.db := rfl
  refine ⟨?_, ?_, ?_⟩
  · intro x hx user role kind time
    obtain ⟨y, hy, hid, hrevoked⟩ := replaceAdminPassword_session hx username passwordHash now
    rw [← hreset] at hy
    rw [← hid]
    exact sessionIsActive_revoked (run_revoked hy hrevoked later) hrevoked user role kind time
  · intro c hc time sessionId tokenHash csrfHash viewerLifetimeSecs adminLifetimeSecs
    obtain ⟨d, hd, hhash, hused⟩ := replaceAdminPassword_code hc username passwordHash now
    rw [← hreset] at hd
    rw [← hhash]
    exact consume_of_used (run_used hd hused later) hused time sessionId tokenHash csrfHash
      viewerLifetimeSecs adminLifetimeSecs
  · intro admin hadmin
    refine insertsRefused verify (run_version ⟨⟨username, passwordHash,
      admin.credentialVersion + 1⟩, ?_, le_rfl⟩ later)
    rw [hreset, replaceAdminPassword, hadmin]
    rfl

end

end RouterView.Auth
