/-
  Auth/PolicySpec.lean --- OIDC sessions are bound to their policy.

  Every OIDC session in the store was created by a login of some process, and
  carries the fingerprint of that process's policy.  A later process with
  another policy revokes it before its first request, and no revocation is ever
  taken back.
-/
import RouterView.Auth.Policy

set_option autoImplicit false

namespace RouterView.Auth

open RouterView.Foundation

/-! ## Where rows come from -/

/-- The columns that bind a session to its policy. -/
structure SameBinding (x y : AuthSessionRecord) : Prop where
  id : y.id = x.id
  authMethod : y.authMethod = x.authMethod
  oidcPolicyFingerprint : y.oidcPolicyFingerprint = x.oidcPolicyFingerprint

theorem SessionChange.sameBinding {now : Int} {x y : AuthSessionRecord}
    (h : SessionChange now x y) : SameBinding x y := by
  cases h with
  | same => exact ⟨rfl, rfl, rfl⟩
  | touched _ => exact ⟨rfl, rfl, rfl⟩
  | revoked _ => exact ⟨rfl, rfl, rfl⟩

/-- An OIDC session of the second table is one of the first. -/
def OidcRowsFrom (db db' : AuthDb) : Prop :=
  ∀ y ∈ db'.sessions.rows, y.authMethod = .oidc → ∃ x ∈ db.sessions.rows, SameBinding x y

section

variable {now : Int} {db db' : AuthDb}

theorem OidcRowsFrom.refl (db : AuthDb) : OidcRowsFrom db db :=
  fun y hy _ => ⟨y, hy, ⟨rfl, rfl, rfl⟩⟩

/-- An update that leaves the binding of every row alone. -/
theorem OidcRowsFrom.updateWhere {p : AuthSessionRecord → Bool}
    {f : AuthSessionRecord → AuthSessionRecord}
    (hrows : db'.sessions.rows = db.sessions.rows.map (fun x => if p x then f x else x))
    (hf : ∀ x, SameBinding x (f x)) : OidcRowsFrom db db' := by
  intro y hy _
  rw [hrows] at hy
  obtain ⟨x, hx, rfl⟩ := List.mem_map.mp hy
  refine ⟨x, hx, ?_⟩
  split
  · exact hf x
  · exact ⟨rfl, rfl, rfl⟩

/-- An insert of a session that is no OIDC session. -/
theorem OidcRowsFrom.append {inserted : AuthSessionRecord} (hmethod : inserted.authMethod ≠ .oidc)
    (hrows : db'.sessions.rows = db.sessions.rows ++ [inserted]) : OidcRowsFrom db db' := by
  intro y hy hoidc
  rw [hrows] at hy
  rcases List.mem_append.mp hy with hold | hnew
  · exact ⟨y, hold, ⟨rfl, rfl, rfl⟩⟩
  · rw [List.mem_singleton.mp hnew] at hoidc
    exact absurd hoidc hmethod

theorem insertStandardSessionIfAdminVersion_method {session : AuthSessionRecord} {version : Int}
    (h : insertStandardSessionIfAdminVersion session version db = .ok (true, db')) :
    session.authMethod = .password := by
  unfold insertStandardSessionIfAdminVersion at h
  simp only at h
  split at h
  · cases h
  · rename_i hguard
    simp only [not_or, ne_eq, not_not] at hguard
    exact hguard.2.2.2

theorem consumeSetupAndCreateAdminAndSession_method {tokenHash : Hash}
    {username passwordHash : String} {session : AuthSessionRecord} {answer : Bool × AuthDb}
    (h : consumeSetupAndCreateAdminAndSession tokenHash now username passwordHash session db =
      .ok answer) : session.authMethod = .password := by
  unfold consumeSetupAndCreateAdminAndSession at h
  rw [ensure_bind_eq_ok_iff] at h
  exact h.1.2.2.2

/-- The operation inserts an OIDC session. -/
def SessionOp.insertsOidc : SessionOp → Bool
  | .insertOidc _ => true
  | _ => false

/-- Only the insert of an OIDC session adds one. -/
theorem sessionStep_oidcRowsFrom (db : AuthDb) (event : SessionEvent)
    (hop : event.op.insertsOidc = false) : OidcRowsFrom db (sessionStep db event) := by
  obtain ⟨now, op⟩ := event
  have hrefl := OidcRowsFrom.refl db
  cases op with
  | createAdmin username passwordHash =>
      refine committed_of hrefl ?_
      intro db' h
      unfold createAdmin at h
      rw [ensure_bind_eq_ok_iff] at h
      cases h.2
      exact hrefl
  | resetPassword username passwordHash =>
      exact OidcRowsFrom.updateWhere rfl (fun _ => ⟨rfl, rfl, rfl⟩)
  | insertStandard session version =>
      refine committed_snd_of hrefl ?_
      intro inserted db' h
      rcases insertStandardSessionIfAdminVersion_ok h with ⟨_, hsame⟩ | ⟨htrue, hinserted, _⟩
      · rw [hsame]
        exact hrefl
      · rw [htrue] at h
        have hmethod := insertStandardSessionIfAdminVersion_method h
        exact OidcRowsFrom.append (by rw [hmethod]; decide) hinserted.rows
  | insertOidc session => cases hop
  | setup setupTokenHash username passwordHash session =>
      refine committed_snd_of hrefl ?_
      intro consumed db' h
      have hmethod := consumeSetupAndCreateAdminAndSession_method h
      rcases consumeSetupAndCreateAdminAndSession_ok h with hsame | ⟨_, _, hrows, _⟩
      · rw [hsame]
        exact hrefl
      · exact OidcRowsFrom.append (by rw [hmethod]; decide) hrows
  | createPairing pairing codeHash creatorId creatorUsername creatorRole creatorKind version =>
      refine committed_snd_of hrefl ?_
      intro inserted db' h
      rcases insertPairingIfAuthorized_ok h with hsame | hinserted
      · rw [hsame]
        exact hrefl
      · intro y hy _
        rw [hinserted.sessions] at hy
        exact ⟨y, hy, ⟨rfl, rfl, rfl⟩⟩
  | pair codeHash sessionId tokenHash csrfHash viewerLifetimeSecs adminLifetimeSecs =>
      refine committed_snd_of hrefl ?_
      intro answer db' h
      rcases consumePairingAndInsertSession_ok h with
        ⟨_, hsame⟩ | ⟨_, _, session, _, hsession, hpaired⟩
      · rw [hsame]
        exact hrefl
      · refine OidcRowsFrom.append ?_ hpaired.sessions
        rw [hsession]
        simp [pairedSession]
  | touch id username role kind minimumIntervalSecs =>
      exact OidcRowsFrom.updateWhere rfl (fun _ => ⟨rfl, rfl, rfl⟩)
  | check id username role kind => exact hrefl
  | revoke id => exact OidcRowsFrom.updateWhere rfl (fun _ => ⟨rfl, rfl, rfl⟩)
  | revokeOtherPolicy currentFingerprint =>
      cases currentFingerprint with
      | none => exact OidcRowsFrom.updateWhere rfl (fun _ => ⟨rfl, rfl, rfl⟩)
      | some fingerprint => exact OidcRowsFrom.updateWhere rfl (fun _ => ⟨rfl, rfl, rfl⟩)

end

/-! ## One event -/

section

variable {sha256 : List UInt8 → Hash} {verify : String → String → Bool}

/-- A local step inserts no OIDC session. -/
theorem storeOp_local {s : AuthSystem verify} {event : AuthEvent} {op : SessionOp}
    (hlocal : event.step.isLocal = true) (h : storeOp verify s event = some op) :
    op.insertsOidc = false := by
  obtain ⟨now, step⟩ := event
  cases step with
  | establishOidc identity tokens => cases hlocal
  | loginInsert request tokens =>
      simp only [storeOp] at h
      split at h
      · cases h
        rfl
      · cases h
  | pairingInsert request pairingId codeHash =>
      simp only [storeOp] at h
      split at h
      · cases h
        rfl
      · cases h
  | pairConsume request tokens =>
      simp only [storeOp, Option.map_eq_some_iff] at h
      obtain ⟨_, _, rfl⟩ := h
      rfl
  | _ => cases h <;> rfl

/-- The completion of a login inserts a session from the configuration of the
process, or does nothing. -/
structure LoginInsert (sha256 : List UInt8 → Hash) (s : Process verify) (claims : VerifiedClaims)
    (tokens : SessionTokens) (now : Int) (config : OidcConfig) (session : AuthSessionRecord) :
    Prop where
  configured : s.config = some config
  id : session.id = tokens.id
  authMethod : session.authMethod = .oidc
  fingerprint : session.oidcPolicyFingerprint = some (policyFingerprint sha256 config)
  inserted : SessionInserted session s.auth.db
    (processStep sha256 verify s (.login claims tokens now)).auth.db

theorem oidcIdentity_fingerprint {config : OidcConfig} {claims : VerifiedClaims}
    {identity : OidcIdentity} (h : oidcIdentity sha256 config claims = some identity) :
    identity.policyFingerprint = policyFingerprint sha256 config := by
  simp only [oidcIdentity, Option.map_eq_some_iff] at h
  obtain ⟨role, _, rfl⟩ := h
  rfl

theorem sessionStep_insertOidc (db : AuthDb) (session : AuthSessionRecord) (now : Int) :
    sessionStep db ⟨now, .insertOidc session⟩ = db ∨
      SessionInserted session db (sessionStep db ⟨now, .insertOidc session⟩) := by
  cases hinsert : insertOidcSession session db with
  | error e => exact Or.inl (by simp only [sessionStep, hinsert, committed])
  | ok db' =>
      right
      simp only [sessionStep, hinsert, committed]
      exact insertOidcSession_ok hinsert

theorem processStep_login (sha256 : List UInt8 → Hash) (s : Process verify)
    (claims : VerifiedClaims) (tokens : SessionTokens) (now : Int) :
    (processStep sha256 verify s (.login claims tokens now)).auth.db = s.auth.db ∨
      ∃ config session, LoginInsert sha256 s claims tokens now config session := by
  cases hidentity : s.config.bind (fun config => oidcIdentity sha256 config claims) with
  | none => exact Or.inl (by simp only [processStep, hidentity])
  | some identity =>
      have hstep : (processStep sha256 verify s (.login claims tokens now)).auth =
          authStep verify s.auth ⟨now, .establishOidc identity tokens⟩ := by
        simp only [processStep, hidentity]
      rw [Option.bind_eq_some_iff] at hidentity
      obtain ⟨config, hconfig, hidentity⟩ := hidentity
      rcases nextDb_cases s.auth ⟨now, .establishOidc identity tokens⟩ with hsame | ⟨op, hop, hdb⟩
      · exact Or.inl (hstep ▸ hsame)
      · simp only [storeOp] at hop
        split at hop
        swap
        · cases hop
        cases hop
        rw [← hstep] at hdb
        rcases sessionStep_insertOidc s.auth.db (newOidcSession tokens identity now) now with
          hsame | hinserted
        · exact Or.inl (hdb.trans hsame)
        · refine Or.inr ⟨config, newOidcSession tokens identity now, hconfig, rfl, rfl, ?_, ?_⟩
          · rw [← oidcIdentity_fingerprint hidentity]
            rfl
          · rw [hdb]
            exact hinserted

/-- An event other than a login does nothing to the tables, or one operation
that inserts no OIDC session. -/
theorem processStep_other (sha256 : List UInt8 → Hash) (s : Process verify) (event : ProcessEvent)
    (hlogin : ∀ claims tokens now, event ≠ .login claims tokens now) :
    (processStep sha256 verify s event).auth.db = s.auth.db ∨ ∃ now op, op.insertsOidc = false ∧
      (processStep sha256 verify s event).auth.db = sessionStep s.auth.db ⟨now, op⟩ := by
  cases event with
  | start config now =>
      exact Or.inr ⟨now, .revokeOtherPolicy (config.map (policyFingerprint sha256)), rfl, rfl⟩
  | login claims tokens now => exact absurd rfl (hlogin claims tokens now)
  | authenticate tokenHash now =>
      rcases authenticateHeaders_cases (s.policyFingerprint sha256 verify) tokenHash now
          s.auth.db with ⟨_, _, _, _, hsame⟩ | hsame | ⟨id, hrevoke⟩
      · exact Or.inl (by simp only [processStep, hsame])
      · exact Or.inl (by simp only [processStep, hsame])
      · exact Or.inr ⟨now, .revoke id, rfl, by simp only [processStep, hrevoke]⟩
  | request event =>
      rcases nextDb_cases s.auth event.1 with hsame | ⟨op, hop, hdb⟩
      · exact Or.inl hsame
      · exact Or.inr ⟨event.1.now, op, storeOp_local event.2 hop, hdb⟩

/-- What an event does to the sessions. -/
structure ProcessEffect (sha256 : List UInt8 → Hash) (s : Process verify) (event : ProcessEvent) :
    Prop where
  kept : ∃ now, SessionsKept now s.auth.db (processStep sha256 verify s event).auth.db
  created : (createdSession sha256 verify s event = none ∧
      OidcRowsFrom s.auth.db (processStep sha256 verify s event).auth.db) ∨
    ∃ claims tokens now config session, event = .login claims tokens now ∧
      LoginInsert sha256 s claims tokens now config session ∧
      createdSession sha256 verify s event = some (session.id, config.policy)

theorem hasSession_eq_true {db : AuthDb} {id : String} :
    db.hasSession id = true ↔ ∃ x ∈ db.sessions.rows, x.id = id := by
  simp [AuthDb.hasSession]

theorem ProcessEffect.of_same {s : Process verify} {event : ProcessEvent}
    (h : (processStep sha256 verify s event).auth.db = s.auth.db) :
    ProcessEffect sha256 s event := by
  refine ⟨⟨0, h ▸ SessionsKept.refl 0 _⟩, Or.inl ⟨?_, h ▸ OidcRowsFrom.refl _⟩⟩
  cases event with
  | login claims tokens now =>
      simp only [createdSession]
      rw [h, if_neg]
      rintro ⟨hbefore, hafter⟩
      rw [hbefore] at hafter
      cases hafter
  | _ => rfl

theorem processStep_effect (sha256 : List UInt8 → Hash) (s : Process verify)
    (event : ProcessEvent) :
    ProcessEffect sha256 s event := by
  by_cases hlogin : ∃ claims tokens now, event = .login claims tokens now
  · obtain ⟨claims, tokens, now, rfl⟩ := hlogin
    rcases processStep_login sha256 s claims tokens now with
      hsame | ⟨config, session, hinsert⟩
    · exact ProcessEffect.of_same hsame
    · refine ⟨⟨now, hinsert.inserted.kept⟩,
        Or.inr ⟨claims, tokens, now, config, session, rfl, hinsert, ?_⟩⟩
      have hbefore : s.auth.db.hasSession tokens.id = false := by
        rw [Bool.eq_false_iff]
        intro hbefore
        obtain ⟨x, hx, hid⟩ := hasSession_eq_true.mp hbefore
        exact hinsert.inserted.fresh x hx (hid.trans hinsert.id.symm)
      have hafter : (processStep sha256 verify s (.login claims tokens now)).auth.db.hasSession
          tokens.id = true := by
        refine hasSession_eq_true.mpr ⟨session, ?_, hinsert.id⟩
        rw [hinsert.inserted.rows]
        exact List.mem_append_right _ List.mem_cons_self
      simp only [createdSession]
      rw [if_pos ⟨hbefore, hafter⟩, hinsert.configured, hinsert.id]
      rfl
  · have hother : ∀ claims tokens now, event ≠ .login claims tokens now :=
      fun claims tokens now heq => hlogin ⟨claims, tokens, now, heq⟩
    rcases processStep_other sha256 s event hother with hsame | ⟨now, op, hop, hdb⟩
    · exact ProcessEffect.of_same hsame
    · refine ⟨⟨now, hdb ▸ (sessionStep_effect s.auth.db ⟨now, op⟩).sessions⟩,
        Or.inl ⟨?_, hdb ▸ sessionStep_oidcRowsFrom s.auth.db ⟨now, op⟩ hop⟩⟩
      cases event with
      | login claims tokens now => exact absurd rfl (hother claims tokens now)
      | _ => rfl

/-- The configuration after an event. -/
theorem processStep_config (sha256 : List UInt8 → Hash) (s : Process verify)
    (event : ProcessEvent) :
    (processStep sha256 verify s event).config = s.config ∨
      ∃ config now, event = .start config now ∧
        (processStep sha256 verify s event).config = config := by
  cases event with
  | start config now => exact Or.inr ⟨config, now, rfl, rfl⟩
  | login claims tokens now =>
      left
      simp only [processStep]
      split <;> rfl
  | authenticate tokenHash now => exact Or.inl rfl
  | request event => exact Or.inl rfl

end

/-! ## The binding -/

section

variable (sha256 : List UInt8 → Hash) {verify : String → String → Bool}

/-- The OIDC sessions of the store are those that were created, each with the
fingerprint of its policy; and the process runs under one of the policies. -/
structure PolicyKept (policies : List OidcPolicy) (created : List (String × OidcPolicy))
    (s : Process verify) : Prop where
  known : ∀ x ∈ s.auth.db.sessions.rows, x.authMethod = .oidc →
    ∃ policy, (x.id, policy) ∈ created
  stored : ∀ id policy, (id, policy) ∈ created → policy ∈ policies ∧
    ∃ x ∈ s.auth.db.sessions.rows, x.id = id ∧ x.authMethod = .oidc ∧
      x.oidcPolicyFingerprint = some (sha256 policy.bytes)
  current : ∀ config, s.config = some config → config.policy ∈ policies

variable {sha256} {policies : List OidcPolicy} {created : List (String × OidcPolicy)}
  {s : Process verify}

theorem PolicyKept.idle {db : AuthDb} (hdb : ∀ x ∈ db.sessions.rows, x.authMethod ≠ .oidc) :
    PolicyKept sha256 policies [] (Process.idle verify db) :=
  ⟨fun x hx hoidc => absurd hoidc (hdb x hx), fun _ _ h => absurd h List.not_mem_nil,
    fun _ h => by cases h⟩

/-- A session of the store stays there, with its fingerprint. -/
theorem processStep_bound (event : ProcessEvent) {id : String} {fingerprint : Option Hash}
    (h : ∃ x ∈ s.auth.db.sessions.rows, x.id = id ∧ x.authMethod = .oidc ∧
      x.oidcPolicyFingerprint = fingerprint) :
    ∃ x ∈ (processStep sha256 verify s event).auth.db.sessions.rows,
      x.id = id ∧ x.authMethod = .oidc ∧ x.oidcPolicyFingerprint = fingerprint := by
  obtain ⟨x, hx, hid, hmethod, hfingerprint⟩ := h
  obtain ⟨now, hkept⟩ := (processStep_effect sha256 s event).kept
  obtain ⟨y, hy, hchange⟩ := hkept x hx
  have hbinding := hchange.sameBinding
  exact ⟨y, hy, hbinding.id.trans hid, hbinding.authMethod.trans hmethod,
    hbinding.oidcPolicyFingerprint.trans hfingerprint⟩

/-- An event keeps the binding, with the session that it creates. -/
theorem PolicyKept.step (h : PolicyKept sha256 policies created s) (event : ProcessEvent)
    (hevent : ∀ policy, event.startedPolicy = some policy → policy ∈ policies) :
    PolicyKept sha256 policies (created ++ (createdSession sha256 verify s event).toList)
      (processStep sha256 verify s event) := by
  have hcurrent : ∀ config, (processStep sha256 verify s event).config = some config →
      config.policy ∈ policies := by
    intro config hconfig
    rcases processStep_config sha256 s event with hsame | ⟨started, now, rfl, hstarted⟩
    · exact h.current config (hsame ▸ hconfig)
    · rw [hstarted] at hconfig
      exact hevent config.policy (by rw [hconfig]; rfl)
  have hstored : ∀ id policy, (id, policy) ∈ created → policy ∈ policies ∧
      ∃ x ∈ (processStep sha256 verify s event).auth.db.sessions.rows, x.id = id ∧
        x.authMethod = .oidc ∧ x.oidcPolicyFingerprint = some (sha256 policy.bytes) := by
    intro id policy hcreated
    exact ⟨(h.stored id policy hcreated).1, processStep_bound event (h.stored id policy hcreated).2⟩
  rcases (processStep_effect sha256 s event).created with
    ⟨hnone, hrows⟩ | ⟨claims, tokens, now, config, session, rfl, hinsert, hcreated⟩
  · rw [hnone, Option.toList_none, List.append_nil]
    refine ⟨?_, hstored, hcurrent⟩
    intro y hy hoidc
    obtain ⟨x, hx, hbinding⟩ := hrows y hy hoidc
    rw [hbinding.id]
    exact h.known x hx (hbinding.authMethod ▸ hoidc)
  · rw [hcreated, Option.toList_some]
    refine ⟨?_, ?_, hcurrent⟩
    · intro y hy hoidc
      rw [hinsert.inserted.rows] at hy
      rcases List.mem_append.mp hy with hold | hnew
      · obtain ⟨policy, hpolicy⟩ := h.known y hold hoidc
        exact ⟨policy, List.mem_append_left _ hpolicy⟩
      · rw [List.mem_singleton.mp hnew]
        exact ⟨config.policy, List.mem_append_right _ List.mem_cons_self⟩
    · intro id policy hmem
      rcases List.mem_append.mp hmem with hold | hnew
      · exact hstored id policy hold
      · obtain ⟨rfl, rfl⟩ := Prod.mk.inj (List.mem_singleton.mp hnew)
        refine ⟨h.current config hinsert.configured, session, ?_, rfl, hinsert.authMethod,
          hinsert.fingerprint⟩
        rw [hinsert.inserted.rows]
        exact List.mem_append_right _ List.mem_cons_self

/-- The binding after a run: of the sessions from before it, and of those that
it creates. -/
theorem PolicyKept.run (h : PolicyKept sha256 policies created s) {events : List ProcessEvent}
    (hevents : ∀ event ∈ events, ∀ policy, event.startedPolicy = some policy →
      policy ∈ policies) :
    PolicyKept sha256 policies (created ++ createdSessions sha256 verify s events)
      (run (processStep sha256 verify) s events) := by
  induction events generalizing s created with
  | nil =>
      rw [createdSessions, emitted, List.append_nil]
      exact h
  | cons event rest ih =>
      have hstep := h.step event (hevents event List.mem_cons_self)
      have hrest := ih hstep (fun e he => hevents e (List.mem_cons_of_mem _ he))
      rw [List.append_assoc] at hrest
      exact hrest

end

/-! ## Revocation -/

section

variable {sha256 : List UInt8 → Hash} {verify : String → String → Bool} {s : Process verify}
  {db : AuthDb} {x : AuthSessionRecord}

/-- A revoked session stays as it is, whatever processes follow. -/
theorem processStep_revoked (hx : x ∈ s.auth.db.sessions.rows)
    (hrevoked : x.revokedAt.isSome = true) (event : ProcessEvent) :
    x ∈ (processStep sha256 verify s event).auth.db.sessions.rows := by
  obtain ⟨now, hkept⟩ := (processStep_effect sha256 s event).kept
  obtain ⟨y, hy, hchange⟩ := hkept x hx
  rwa [hchange.revoked_of hrevoked] at hy

theorem processRun_revoked (hx : x ∈ s.auth.db.sessions.rows)
    (hrevoked : x.revokedAt.isSome = true) (events : List ProcessEvent) :
    x ∈ (run (processStep sha256 verify) s events).auth.db.sessions.rows := by
  induction events generalizing s with
  | nil => exact hx
  | cons event rest ih => exact ih (processStep_revoked hx hrevoked event)

theorem revokeWhere_revoked {p : AuthSessionRecord → Bool} {now : Int}
    (hx : x ∈ db.sessions.rows) (hp : p x = true) :
    ∃ y ∈ (revokeWhere p now db).2.sessions.rows, y.id = x.id ∧ y.revokedAt.isSome = true := by
  refine ⟨if p x && x.revokedAt.isNone then { x with revokedAt := some now } else x,
    List.mem_map_of_mem (f := fun x => if p x && x.revokedAt.isNone then
      { x with revokedAt := some now } else x) hx, ?_⟩
  cases hrevoked : x.revokedAt with
  | none => simp [hp]
  | some time => simp [hrevoked]

/-- The start of a process revokes the OIDC sessions of another fingerprint. -/
theorem revokeOtherPolicy_revoked {current : Option Hash} {fingerprint : Hash} (now : Int)
    (hx : x ∈ db.sessions.rows) (hmethod : x.authMethod = .oidc)
    (hfingerprint : x.oidcPolicyFingerprint = some fingerprint)
    (hother : current ≠ some fingerprint) :
    ∃ y ∈ (revokeOidcSessionsWithOtherPolicy current now db).2.sessions.rows,
      y.id = x.id ∧ y.revokedAt.isSome = true := by
  cases current with
  | none => exact revokeWhere_revoked hx (by simp [hmethod])
  | some other =>
      refine revokeWhere_revoked hx ?_
      rw [decide_eq_true_eq]
      refine ⟨hmethod, ?_⟩
      rw [hfingerprint]
      exact fun heq => hother heq.symm

/-- The code of a creator that is revoked is not exchanged. -/
theorem consume_of_revoked_creator {code : PairingCode} (hcode : code ∈ db.pairingCodes.rows)
    (hx : x ∈ db.sessions.rows) (hrevoked : x.revokedAt.isSome = true)
    (hcreator : code.createdBySessionId = x.id) (now : Int) (sessionId : String)
    (tokenHash csrfHash : Hash) (viewerLifetimeSecs adminLifetimeSecs : Int) :
    consumePairingAndInsertSession code.codeHash now sessionId tokenHash csrfHash
      viewerLifetimeSecs adminLifetimeSecs db = .ok (none, db) := by
  have hnone : db.pairingCodes.rows.find?
      (fun pairing => db.eligible code.codeHash now pairing) = none := by
    rw [List.find?_eq_none]
    intro row hrow heligible
    simp only [AuthDb.eligible, Bool.and_eq_true, decide_eq_true_eq, Option.isSome_iff_exists]
      at heligible
    obtain ⟨⟨⟨hhash, _⟩, _⟩, creator, hactive⟩ := heligible
    have hrowcode := db.pairingCodes.eq_of_clash hrow hcode (by simp [UniqueRow.clash, hhash])
    have hfound := List.find?_some hactive
    simp only [hrowcode, Bool.and_eq_true, decide_eq_true_eq, AuthSessionRecord.adminActiveAt]
      at hfound
    have hsame := eq_of_id db hx (List.mem_of_find?_eq_some hactive) (hfound.1.trans hcreator)
    rw [hsame, activeAt_eq_true] at hfound
    rw [hfound.2.2.1] at hrevoked
    cases hrevoked
  unfold consumePairingAndInsertSession
  rw [hnone]

/-- Only an active session that the policy admits authenticates a request. -/
theorem authenticateHeaders_some {policyFingerprint : Option Hash} {tokenHash : Hash} {now : Int}
    {context : SessionContext}
    (h : (authenticateHeaders policyFingerprint tokenHash now db).1 = some context) :
    ∃ session ∈ db.sessions.rows, context = session.context ∧ session.activeAt now = true ∧
      sessionPolicyValid policyFingerprint session.authMethod session.oidcPolicyFingerprint =
        true := by
  unfold authenticateHeaders at h
  cases hfind : sessionByTokenHash tokenHash db with
  | none =>
      rw [hfind] at h
      cases h
  | some session =>
      simp only [hfind] at h
      split at h
      · split at h <;> cases h
      · rename_i hactive
        split at h
        · cases h
        · rename_i hvalid
          cases h
          exact ⟨session, List.mem_of_find?_eq_some hfind, rfl,
            Bool.eq_true_of_not_eq_false hactive, Bool.eq_true_of_not_eq_false hvalid⟩

/-- The session is of no use: no request is authenticated by it, no open
connection of it goes on, and none of its codes is exchanged. -/
structure Withdrawn (sha256 : List UInt8 → Hash) (s : Process verify) (id : String) : Prop where
  inactive : ∀ username role kind now, sessionIsActive id username role kind now s.auth.db = false
  unauthenticated : ∀ tokenHash now context,
    (authenticateHeaders (s.policyFingerprint sha256 verify) tokenHash now s.auth.db).1 =
      some context → context.id ≠ id
  disconnected : ∀ context now, context.id = id →
    revalidateSession (s.policyFingerprint sha256 verify) context now s.auth.db = false
  unpaired : ∀ code ∈ s.auth.db.pairingCodes.rows, code.createdBySessionId = id →
    ∀ now sessionId tokenHash csrfHash viewerLifetimeSecs adminLifetimeSecs,
      consumePairingAndInsertSession code.codeHash now sessionId tokenHash csrfHash
        viewerLifetimeSecs adminLifetimeSecs s.auth.db = .ok (none, s.auth.db)

theorem withdrawn_of_revoked (hx : x ∈ s.auth.db.sessions.rows)
    (hrevoked : x.revokedAt.isSome = true) : Withdrawn sha256 s x.id := by
  have hinactive := sessionIsActive_revoked hx hrevoked
  refine ⟨hinactive, ?_, ?_, ?_⟩
  · intro tokenHash now context h hid
    obtain ⟨session, hsession, rfl, hactive, _⟩ := authenticateHeaders_some h
    rw [eq_of_id s.auth.db hx hsession hid, activeAt_eq_true] at hactive
    rw [hactive.1] at hrevoked
    cases hrevoked
  · intro context now hid
    rw [revalidateSession, hid, hinactive, Bool.and_false]
  · intro code hcode hcreator now sessionId tokenHash csrfHash viewerLifetime adminLifetime
    exact consume_of_revoked_creator hcode hx hrevoked hcreator now sessionId tokenHash csrfHash
      viewerLifetime adminLifetime

end

/-! ## Runs of processes -/

section

variable (sha256 : List UInt8 → Hash) (verify : String → String → Bool)

/-- The policies that the events start processes with. -/
def startedPolicies (events : List ProcessEvent) : List OidcPolicy :=
  events.filterMap ProcessEvent.startedPolicy

theorem mem_startedPolicies {events : List ProcessEvent} {event : ProcessEvent}
    (hevent : event ∈ events) {policy : OidcPolicy} (h : event.startedPolicy = some policy) :
    policy ∈ startedPolicies events :=
  List.mem_filterMap.mpr ⟨event, hevent, h⟩

variable {sha256} {policies : List OidcPolicy}

/-- The digest tells the policies apart. -/
theorem CollisionFree.policy_eq (hsha : CollisionFree sha256 policies)
    (hnul : ∀ policy ∈ policies, policy.NulFree) {p q : OidcPolicy} (hp : p ∈ policies)
    (hq : q ∈ policies) (h : sha256 p.bytes = sha256 q.bytes) : p = q :=
  OidcPolicy.bytes_injective (hnul p hp) (hnul q hq) (hsha p hp q hq h)

/-- What the check of the policy lets pass. -/
theorem sessionPolicyValid_oidc {current fingerprint : Option Hash}
    (h : sessionPolicyValid current .oidc fingerprint = true) :
    ∃ expected, current = some expected ∧ fingerprint = some expected := by
  simp only [sessionPolicyValid, ne_eq, not_true_eq_false, decide_false, Bool.false_or,
    Option.any_eq_true, decide_eq_true_eq] at h
  exact h

variable {verify} {created : List (String × OidcPolicy)} {s : Process verify}

/-- An OIDC session that authenticates was created under the current policy, and
under no other. -/
theorem PolicyKept.authenticated (h : PolicyKept sha256 policies created s)
    (hsha : CollisionFree sha256 policies) (hnul : ∀ policy ∈ policies, policy.NulFree)
    {tokenHash : Hash} {now : Int} {context : SessionContext}
    (hcontext : (authenticateHeaders (s.policyFingerprint sha256 verify) tokenHash now
      s.auth.db).1 = some context) (hoidc : context.authMethod = .oidc) :
    ∃ policy, (∀ other, (context.id, other) ∈ created ↔ other = policy) ∧
      s.config.map OidcConfig.policy = some policy := by
  obtain ⟨session, hsession, rfl, _, hvalid⟩ := authenticateHeaders_some hcontext
  have hmethod : session.authMethod = .oidc := hoidc
  rw [hmethod] at hvalid
  obtain ⟨expected, hcurrent, hfingerprint⟩ := sessionPolicyValid_oidc hvalid
  obtain ⟨config, hconfig, rfl⟩ := Option.map_eq_some_iff.mp hcurrent
  have honly : ∀ other, (session.id, other) ∈ created → other = config.policy := by
    intro other hother
    obtain ⟨hpolicy, x, hx, hid, _, hbound⟩ := h.stored session.id other hother
    rw [eq_of_id s.auth.db hsession hx hid, hfingerprint, Option.some.injEq] at hbound
    exact (hsha.policy_eq hnul (h.current config hconfig) hpolicy hbound).symm
  obtain ⟨policy, hpolicy⟩ := h.known session hsession hmethod
  refine ⟨config.policy, ?_, by rw [hconfig]; rfl⟩
  intro other
  constructor
  · exact honly other
  · rintro rfl
    rw [← honly policy hpolicy]
    exact hpolicy

/-- The start of a process under another policy withdraws a created session. -/
theorem PolicyKept.withdrawn (h : PolicyKept sha256 policies created s)
    (hsha : CollisionFree sha256 policies) (hnul : ∀ policy ∈ policies, policy.NulFree)
    {config : Option OidcConfig} {now : Int}
    (hconfig : ∀ policy, (ProcessEvent.start config now).startedPolicy = some policy →
      policy ∈ policies)
    {id : String} {policy : OidcPolicy} (hcreated : (id, policy) ∈ created)
    (hother : config.map OidcConfig.policy ≠ some policy) (later : List ProcessEvent) :
    Withdrawn sha256 (Foundation.run (processStep sha256 verify) s (.start config now :: later))
      id := by
  obtain ⟨hpolicy, x, hx, rfl, hmethod, hbound⟩ := h.stored id policy hcreated
  have hdiffers : config.map (policyFingerprint sha256) ≠ some (sha256 policy.bytes) := by
    intro hsame
    obtain ⟨current, rfl, hdigest⟩ := Option.map_eq_some_iff.mp hsame
    have hallowed : current.policy ∈ policies := hconfig current.policy rfl
    exact hother (congrArg some (hsha.policy_eq hnul hallowed hpolicy hdigest))
  obtain ⟨y, hy, hid, hrevoked⟩ := revokeOtherPolicy_revoked now hx hmethod hbound hdiffers
  rw [run_cons, ← hid]
  exact withdrawn_of_revoked
    (processRun_revoked (s := processStep sha256 verify s (.start config now)) hy hrevoked later)
    hrevoked

variable (sha256 verify)

/-- In every run of processes, a request is authenticated by an OIDC session only
under the policy that the session was created under; and a session from before
the start of a process with another policy is withdrawn for good, whatever
policies follow. -/
theorem oidc_sessions_bound (db : AuthDb)
    (hdb : ∀ x ∈ db.sessions.rows, x.authMethod ≠ .oidc) (events : List ProcessEvent)
    (hnul : ∀ policy ∈ startedPolicies events, policy.NulFree)
    (hsha : CollisionFree sha256 (startedPolicies events)) :
    (∀ tokenHash now context,
      (authenticateHeaders
        ((run (processStep sha256 verify) (Process.idle verify db) events).policyFingerprint
          sha256 verify) tokenHash now
        (run (processStep sha256 verify) (Process.idle verify db) events).auth.db).1 =
          some context →
      context.authMethod = .oidc →
      ∃ policy,
        (∀ other, (context.id, other) ∈
          createdSessions sha256 verify (Process.idle verify db) events ↔ other = policy) ∧
        (run (processStep sha256 verify) (Process.idle verify db) events).config.map
          OidcConfig.policy = some policy) ∧
    ∀ earlier config now later id policy, events = earlier ++ .start config now :: later →
      (id, policy) ∈ createdSessions sha256 verify (Process.idle verify db) earlier →
      config.map OidcConfig.policy ≠ some policy →
      Withdrawn sha256 (run (processStep sha256 verify) (Process.idle verify db) events) id := by
  have hidle : PolicyKept sha256 (startedPolicies events) [] (Process.idle verify db) :=
    PolicyKept.idle hdb
  constructor
  · intro tokenHash now context hcontext hoidc
    have hrun := hidle.run
      (fun event (hevent : event ∈ events) policy h => mem_startedPolicies hevent h)
    exact hrun.authenticated hsha hnul hcontext hoidc
  · rintro earlier config now later id policy rfl hcreated hother
    have hearlier := hidle.run (fun event (hevent : event ∈ earlier) policy h =>
      mem_startedPolicies (List.mem_append_left _ hevent) h)
    rw [run_append]
    refine hearlier.withdrawn hsha hnul ?_ hcreated hother later
    intro started h
    exact mem_startedPolicies (List.mem_append_right _ List.mem_cons_self) h

end

/-- A configuration. -/
def operatorsConfig : OidcConfig where
  issuerUrl := "https://idp.example/tenant/"
  clientId := "routerview"
  providerName := "Example SSO"
  groupsClaim := "groups"
  viewerGroup := "readers"
  adminGroup := "operators"

/-- The configuration with another group of administrators. -/
def changedConfig : OidcConfig := { operatorsConfig with adminGroup := "different-operators" }

/-- SHA-256 on the encodings of the two policies. -/
def tabulatedSha256 (bytes : List UInt8) : Hash :=
  if bytes = operatorsConfig.policy.bytes then
    [205, 133, 194, 233, 34, 97, 136, 100, 44, 110, 9, 248, 6, 138, 79, 87, 47, 48, 170, 228,
      187, 255, 73, 213, 63, 110, 148, 255, 20, 250, 27, 23]
  else if bytes = changedConfig.policy.bytes then
    [214, 187, 67, 245, 32, 155, 130, 105, 18, 213, 109, 230, 211, 25, 184, 189, 44, 19, 45,
      245, 234, 227, 132, 214, 40, 174, 123, 200, 37, 222, 128, 104]
  else []

/-- The first process lets a user in; the second has another group of
administrators, and the third the first one again. -/
def policyRun : List ProcessEvent :=
  [.start (some operatorsConfig) 10,
    .login ⟨"user", "User", "subject", ["operators"]⟩ ⟨"login", [5], [6]⟩ 20,
    .start (some changedConfig) 30, .start (some operatorsConfig) 40]

theorem oidc_sessions_bound_policyRun :
    Withdrawn tabulatedSha256 (run (processStep tabulatedSha256 (fun _ _ => false))
      (Process.idle (fun _ _ => false) AuthDb.withSession) policyRun) "login" :=
  (oidc_sessions_bound tabulatedSha256 (fun _ _ => false) AuthDb.withSession (by decide) policyRun
    (by decide +kernel) (by decide +kernel)).2 (policyRun.take 2) (some changedConfig) 30
    [.start (some operatorsConfig) 40] "login" operatorsConfig.policy rfl (by decide +kernel)
    (by decide)

end RouterView.Auth
