/-
  Auth/GateSpec.lean --- who gets through the gate.

  Whatever happens between the two looks at the session store, the handler of a request
  runs only for the session of its cookie, while that session is active, and for a
  request that may change something only from a page of the application.
-/
import RouterView.Auth.Gate
import RouterView.Auth.Sessions
import RouterView.Oidc.FlowSpec

set_option autoImplicit false

namespace RouterView.Auth

open RouterView.Foundation

variable {sha256 : String → Hash} {publicOrigin : String} {policyFingerprint : Option Hash}

/-! ## Checks -/

theorem validateOrigin_ok {headers : GateHeaders}
    (h : validateOrigin headers publicOrigin = .ok ()) :
    headers.origin.head? = some (some publicOrigin) := by
  unfold validateOrigin at h
  obtain ⟨origin, horigin, h⟩ := bind_eq_ok_iff.mp h
  rw [ensure_eq_ok_iff] at h
  rw [okOr_eq_ok_iff, h] at horigin
  exact Option.join_eq_some_iff.mp horigin

theorem nonEmpty_eq_some {text result : String} (h : nonEmpty text = some result) :
    result = text ∧ text ≠ "" := by
  unfold nonEmpty at h
  split at h
  · cases h
  · next hempty =>
      refine ⟨(Option.some.inj h).symm, ?_⟩
      rintro rfl
      exact hempty rfl

/-- A list whose first element is given and whose rest is empty. -/
theorem eq_singleton {α : Type} {l : List α} {a : α} (hhead : l.head? = some a)
    (htail : l.tail.isEmpty = true) : l = [a] := by
  cases l with
  | nil => cases hhead
  | cons first rest =>
      cases hhead
      have hrest : rest = [] := List.isEmpty_iff.mp htail
      rw [hrest]

/-- One CSRF header and one CSRF cookie, both with the token of the session. -/
structure CarriesToken (sha256 : String → Hash) (headers : GateHeaders) (csrfHash : Hash) : Prop where
  header : ∃ token, headers.csrfToken = [some token] ∧ token ≠ "" ∧ sha256 token = csrfHash
  cookie : ∃ token, cookieValues headers csrfCookie = [token] ∧ token ≠ "" ∧
    sha256 token = csrfHash

theorem validateCsrf_ok {headers : GateHeaders} {expectedHash : Hash} :
    validateCsrf sha256 headers expectedHash = .ok () ↔
      CarriesToken sha256 headers expectedHash := by
  constructor
  · intro h
    unfold validateCsrf at h
    obtain ⟨headerToken, hheader, h⟩ := bind_eq_ok_iff.mp h
    obtain ⟨honce, h⟩ := ensure_bind_eq_ok_iff.mp h
    obtain ⟨cookieToken, hcookie, h⟩ := bind_eq_ok_iff.mp h
    obtain ⟨honceCookie, h⟩ := ensure_bind_eq_ok_iff.mp h
    obtain ⟨hcookies, hexpected⟩ := ensure_eq_ok_iff.mp h
    rw [Oidc.constantTimeEq_iff] at hcookies hexpected
    rw [okOr_eq_ok_iff] at hheader hcookie
    obtain ⟨sent, hsent, hsome⟩ := Option.bind_eq_some_iff.mp hheader
    obtain ⟨stored, hstored, hsome'⟩ := Option.bind_eq_some_iff.mp hcookie
    obtain ⟨rfl, hne⟩ := nonEmpty_eq_some hsome
    obtain ⟨rfl, hne'⟩ := nonEmpty_eq_some hsome'
    exact ⟨⟨_, eq_singleton (Option.join_eq_some_iff.mp hsent) honce, hne, hexpected⟩,
      ⟨_, eq_singleton hstored honceCookie, hne', hcookies.symm.trans hexpected⟩⟩
  · rintro ⟨⟨headerToken, hheader, hne, hexpected⟩, ⟨cookieToken, hcookie, hne', hsame⟩⟩
    have hempty : headerToken.isEmpty = false := by simpa [String.isEmpty_iff] using hne
    have hempty' : cookieToken.isEmpty = false := by simpa [String.isEmpty_iff] using hne'
    unfold validateCsrf
    refine bind_eq_ok_iff.mpr ⟨headerToken, ?_, ensure_bind_eq_ok_iff.mpr ⟨?_, ?_⟩⟩
    · simp [hheader, nonEmpty, hempty, okOr]
    · simp [hheader]
    · refine bind_eq_ok_iff.mpr ⟨cookieToken, ?_, ensure_bind_eq_ok_iff.mpr ⟨?_, ?_⟩⟩
      · simp [hcookie, nonEmpty, hempty', okOr]
      · simp [hcookie]
      · rw [hexpected, hsame]
        have hequal := (Oidc.constantTimeEq_iff expectedHash expectedHash).mpr rfl
        exact ensure_of ⟨hequal, hequal⟩

/-- What the gate asks of a request for a session. -/
structure Admitted (sha256 : String → Hash) (publicOrigin : String) (request : Request)
    (session : SessionContext) : Prop where
  origin : request.isWebsocket = true ∨ request.isMutation = true →
    request.headers.origin.head? = some (some publicOrigin)
  csrf : request.isMutation = true → CarriesToken sha256 request.headers session.csrfHash
  role : request.isMutation = true →
    session.role = .admin ∨ request.path = "/api/auth/logout"

theorem admit_ok {request : Request} {session : SessionContext}
    (h : permit sha256 publicOrigin request session = .ok ()) :
    Admitted sha256 publicOrigin request session := by
  unfold permit at h
  by_cases hmutation : request.isMutation = true
  · simp only [hmutation, or_true, if_true] at h
    obtain ⟨_, horigin, h⟩ := bind_eq_ok_iff.mp h
    obtain ⟨_, hcsrf, h⟩ := bind_eq_ok_iff.mp h
    refine ⟨fun _ => validateOrigin_ok horigin, fun _ => validateCsrf_ok.mp hcsrf, fun _ => ?_⟩
    simpa [SessionContext.isAdmin] using ensure_eq_ok_iff.mp h
  · refine ⟨?_, fun h => absurd h hmutation, fun h => absurd h hmutation⟩
    intro hprotected
    have hwebsocket := hprotected.resolve_right hmutation
    simp only [hwebsocket, true_or, if_true] at h
    obtain ⟨_, horigin, _⟩ := bind_eq_ok_iff.mp h
    exact validateOrigin_ok horigin

/-! ## Requests in flight -/

theorem SessionChange.context {now : Int} {x y : AuthSessionRecord} (h : SessionChange now x y) :
    y.context = x.context ∧ y.tokenHash = x.tokenHash := by
  cases h with
  | same => exact ⟨rfl, rfl⟩
  | touched _ => exact ⟨rfl, rfl⟩
  | revoked _ => exact ⟨rfl, rfl⟩

/-- The request carries the token of the session, and passed the checks for it. -/
structure Presents (sha256 : String → Hash) (publicOrigin : String) (passed : Passed)
    (x : AuthSessionRecord) : Prop where
  session : x.context = passed.session
  token : ∃ token, cookieValue passed.request.headers sessionCookie = some token ∧
    sha256 token = x.tokenHash
  admitted : Admitted sha256 publicOrigin passed.request passed.session

theorem Presents.change {now : Int} {passed : Passed} {x y : AuthSessionRecord}
    (h : Presents sha256 publicOrigin passed x) (hchange : SessionChange now x y) :
    Presents sha256 publicOrigin passed y where
  session := hchange.context.1.trans h.session
  token := by
    obtain ⟨token, hcookie, hhash⟩ := h.token
    exact ⟨token, hcookie, hhash.trans hchange.context.2.symm⟩
  admitted := h.admitted

namespace Gate

variable {s : Gate}

/-- Every request in flight presents a session of the store. -/
def Covered (sha256 : String → Hash) (publicOrigin : String) (s : Gate) : Prop :=
  ∀ id passed, s.inFlight id = some passed →
    ∃ x ∈ s.db.sessions.rows, Presents sha256 publicOrigin passed x

theorem arrived_cases (request : Request) (now : Int) (s : Gate) :
    ((arrived sha256 publicOrigin policyFingerprint request now s).2 = s.db ∨
      ∃ op, (arrived sha256 publicOrigin policyFingerprint request now s).2 =
        sessionStep s.db ⟨now, op⟩) ∧
    ∀ passed, (arrived sha256 publicOrigin policyFingerprint request now s).1 = some passed →
      (arrived sha256 publicOrigin policyFingerprint request now s).2 = s.db ∧
        ∃ x ∈ s.db.sessions.rows, Presents sha256 publicOrigin passed x := by
  unfold arrived authenticateRequest
  cases htoken : cookieValue request.headers sessionCookie with
  | none => exact ⟨.inl rfl, fun passed h => by cases h⟩
  | some token =>
      dsimp only
      obtain ⟨x, hx, hhash, _, heq⟩ | heq | ⟨id, heq⟩ :=
        authenticateHeaders_cases policyFingerprint (sha256 token) now s.db
      · rw [heq]
        dsimp only
        cases hpermit : permit sha256 publicOrigin request x.context with
        | error e => exact ⟨.inl rfl, fun passed h => by cases h⟩
        | ok _ =>
            refine ⟨.inl rfl, fun passed h => ⟨rfl, x, hx, ?_⟩⟩
            cases h
            exact ⟨rfl, ⟨token, htoken, hhash.symm⟩, admit_ok hpermit⟩
      · rw [heq]
        exact ⟨.inl rfl, fun passed h => by cases h⟩
      · rw [heq]
        exact ⟨.inr ⟨.revoke id, rfl⟩, fun passed h => by cases h⟩

theorem stillActive_db (request : Request) (session : SessionContext) (now : Int) (db : AuthDb) :
    (stillActive request session now db).2 = db ∨
      ∃ op, (stillActive request session now db).2 = sessionStep db ⟨now, op⟩ := by
  unfold stillActive
  split
  · exact .inl rfl
  · exact .inr ⟨.touch session.id session.username session.role session.kind httpSessionTouchSecs,
      rfl⟩

/-- A step of the gate is an operation on the store, or none. -/
theorem step_db (s : Gate) (e : GateEvent) :
    (step sha256 publicOrigin policyFingerprint s e).db = s.db ∨
      ∃ op, (step sha256 publicOrigin policyFingerprint s e).db =
        sessionStep s.db ⟨e.now, op⟩ := by
  cases e with
  | store event => exact .inr ⟨event.op, rfl⟩
  | arrive id request now => exact (arrived_cases request now s).1
  | proceed id now =>
      simp only [step]
      split
      · exact .inl rfl
      · exact stillActive_db _ _ now s.db

/-- Every session has its successor after a step. -/
theorem step_kept (sha256 : String → Hash) (publicOrigin : String)
    (policyFingerprint : Option Hash) (s : Gate) (e : GateEvent) :
    SessionsKept e.now s.db (step sha256 publicOrigin policyFingerprint s e).db := by
  obtain hsame | ⟨op, hop⟩ := step_db s e
  · rw [hsame]
    exact SessionsKept.refl _ _
  · rw [hop]
    exact (sessionStep_effect s.db ⟨e.now, op⟩).sessions

theorem Covered.step (h : Covered sha256 publicOrigin s) (e : GateEvent) :
    Covered sha256 publicOrigin (step sha256 publicOrigin policyFingerprint s e) := by
  have hkept := step_kept sha256 publicOrigin policyFingerprint s e
  have hold : ∀ id passed, s.inFlight id = some passed →
      ∃ y ∈ (Gate.step sha256 publicOrigin policyFingerprint s e).db.sessions.rows,
        Presents sha256 publicOrigin passed y := by
    intro id passed hpassed
    obtain ⟨x, hx, hpresents⟩ := h id passed hpassed
    obtain ⟨y, hy, hchange⟩ := hkept x hx
    exact ⟨y, hy, hpresents.change hchange⟩
  intro other passed hpassed
  cases e with
  | store event => exact hold other passed hpassed
  | arrive id request now =>
      simp only [Gate.step] at hpassed
      split at hpassed
      · obtain ⟨hdb, x, hx, hpresents⟩ := (arrived_cases request now s).2 passed hpassed
        refine ⟨x, ?_, hpresents⟩
        simp only [Gate.step, hdb]
        exact hx
      · exact hold other passed hpassed
  | proceed id now =>
      cases hflight : s.inFlight id with
      | none =>
          simp only [Gate.step, hflight] at hpassed ⊢
          exact h other passed hpassed
      | some mine =>
          simp only [Gate.step, hflight] at hpassed
          split at hpassed
          · cases hpassed
          · exact hold other passed hpassed

theorem covered_idle (sha256 : String → Hash) (publicOrigin : String) (db : AuthDb) : Covered sha256 publicOrigin (idle db) := by
  intro id passed hpassed
  cases hpassed

/-- A handler runs for a session that is active. -/
theorem Covered.handled (h : Covered sha256 publicOrigin s) {e : GateEvent} {run : Handled}
    (hrun : Gate.handled s e = some run) :
    e.now = run.now ∧ ∃ x ∈ s.db.sessions.rows,
      Presents sha256 publicOrigin run.passed x ∧ x.activeAt run.now = true := by
  cases e with
  | store event => cases hrun
  | arrive id request now => cases hrun
  | proceed id now =>
      obtain ⟨passed, hpassed, hactive⟩ := Option.bind_eq_some_iff.mp hrun
      split at hactive
      next hstill =>
        cases hactive
        obtain ⟨x, hx, hpresents⟩ := h id passed hpassed
        refine ⟨rfl, x, hx, hpresents, ?_⟩
        have hsession : sessionIsActive passed.session.id passed.session.username
            passed.session.role passed.session.kind now s.db = true := by
          unfold stillActive at hstill
          split at hstill
          · exact hstill
          · rwa [touch_eq_sessionIsActive] at hstill
        rw [← hpresents.session] at hsession
        exact (sessionIsActive_eq hx).symm.trans hsession
      next => cases hactive

/-! ## Runs -/

theorem covered_run (policyFingerprint : Option Hash) (h : Covered sha256 publicOrigin s)
    (events : List GateEvent) :
    Covered sha256 publicOrigin (run (step sha256 publicOrigin policyFingerprint) s events) :=
  run_preserves (fun _ e ht => ht.step e) h events

/-- The handler of a request runs, whatever happens to the store and in whatever order,
only when the session of its cookie is active then; only from a page of the application
when it is a WebSocket or may change something; and then with one CSRF header and cookie
of the session, which is an administrator's unless it logs out. -/
theorem handled_authorized (sha256 : String → Hash) (publicOrigin : String)
    (policyFingerprint : Option Hash) (db : AuthDb) (events : List GateEvent) :
    ∀ handler ∈ handledBy sha256 publicOrigin policyFingerprint (idle db) events,
      ∃ earlier e later, events = earlier ++ e :: later ∧ e.now = handler.now ∧
        ∃ x ∈ (run (step sha256 publicOrigin policyFingerprint) (idle db)
            earlier).db.sessions.rows,
          Presents sha256 publicOrigin handler.passed x ∧ x.activeAt handler.now = true := by
  intro handler hhandler
  obtain ⟨earlier, e, later, hevents, hrun⟩ := mem_emitted _ hhandler
  have hcovered := covered_run policyFingerprint (covered_idle sha256 publicOrigin db) earlier
  obtain ⟨hnow, x, hx, hpresents, hactive⟩ := hcovered.handled hrun
  exact ⟨earlier, e, later, hevents, hnow, x, hx, hpresents, hactive⟩

/-- A request of a page, under one session cookie. -/
def lateRequest : Request where
  method := .get
  path := "/api/config"
  headers := ⟨[], [], [some "__Host-routerview_session=token"]⟩

theorem handled_authorized_late :
    ∃ earlier e later, [GateEvent.arrive 0 lateRequest 10, .proceed 0 30] = earlier ++ e :: later ∧
      e.now = 30 ∧
      ∃ x ∈ (run (step (fun _ => [1]) "https://routerview.test" none) (idle AuthDb.withSession)
          earlier).db.sessions.rows,
        Presents (fun _ => [1]) "https://routerview.test" ⟨lateRequest, firstSession.context⟩ x ∧
          x.activeAt 30 = true :=
  handled_authorized (fun _ => [1]) "https://routerview.test" none AuthDb.withSession _
    ⟨⟨lateRequest, firstSession.context⟩, 30⟩ (by decide)

/-- A revoked session is the same row at the end of the run. -/
theorem revoked_run {x : AuthSessionRecord} (hrevoked : x.revokedAt.isSome = true)
    (hx : x ∈ s.db.sessions.rows) (events : List GateEvent) :
    x ∈ (run (step sha256 publicOrigin policyFingerprint) s events).db.sessions.rows := by
  induction events generalizing s with
  | nil => exact hx
  | cons e rest ih =>
      obtain ⟨y, hy, hchange⟩ := step_kept sha256 publicOrigin policyFingerprint s e x hx
      rw [hchange.revoked_of hrevoked] at hy
      exact ih hy

/-- No handler runs for a session whose row is revoked. -/
theorem Covered.not_handled (h : Covered sha256 publicOrigin s) {z : AuthSessionRecord}
    (hz : z ∈ s.db.sessions.rows) (hrevoked : z.revokedAt.isSome = true)
    (later : List GateEvent) :
    ∀ handler ∈ handledBy sha256 publicOrigin policyFingerprint s later,
      handler.passed.session.id ≠ z.id := by
  intro handler hhandler hsame
  obtain ⟨before, e, after, _, hrun⟩ := mem_emitted _ hhandler
  obtain ⟨_, y, hy, hpresents, hactive⟩ := (covered_run policyFingerprint h before).handled hrun
  have hkept : z ∈
      (run (Gate.step sha256 publicOrigin policyFingerprint) s before).db.sessions.rows :=
    revoked_run hrevoked hz before
  have hyid : y.id = z.id := by
    rw [← hsame, ← hpresents.session]
    rfl
  rw [eq_of_id _ hkept hy hyid, activeAt_eq_true] at hactive
  rw [hactive.1] at hrevoked
  cases hrevoked

/-- After `revoke_session` the row of the session is revoked, if it was not before. -/
theorem revoked_of_revoke {db : AuthDb} {x : AuthSessionRecord} (hx : x ∈ db.sessions.rows)
    (now : Int) :
    ∃ z ∈ (sessionStep db ⟨now, .revoke x.id⟩).sessions.rows,
      z.id = x.id ∧ z.revokedAt.isSome = true := by
  by_cases hdone : x.revokedAt.isSome = true
  · obtain ⟨y, hy, hchange⟩ := (sessionStep_effect db ⟨now, .revoke x.id⟩).sessions x hx
    exact ⟨y, hy, hchange.sameSession.id, by rw [hchange.revoked_of hdone]; exact hdone⟩
  · have hnone : x.revokedAt.isNone = true := by simpa using hdone
    refine ⟨{ x with revokedAt := some now }, ?_, rfl, rfl⟩
    simp only [sessionStep, revokeSession, revokeWhere, UniqueTable.updateWhere_rows,
      List.mem_map]
    exact ⟨x, hx, by simp [hnone]⟩

/-- Once a session is revoked, by `revoke_session` or by whatever else, no handler runs for
it, not even for a request that was between the two looks at the store. -/
theorem revoked_not_handled (sha256 : String → Hash) (publicOrigin : String)
    (policyFingerprint : Option Hash) (db : AuthDb) (earlier later : List GateEvent)
    (x : AuthSessionRecord)
    (hx : x ∈ (run (step sha256 publicOrigin policyFingerprint) (idle db)
      earlier).db.sessions.rows) :
    (∀ now, ∀ handler ∈ handledBy sha256 publicOrigin policyFingerprint
        (run (step sha256 publicOrigin policyFingerprint) (idle db)
          (earlier ++ [.store ⟨now, .revoke x.id⟩])) later,
      handler.passed.session.id ≠ x.id) ∧
    (x.revokedAt.isSome = true → ∀ handler ∈ handledBy sha256 publicOrigin policyFingerprint
        (run (step sha256 publicOrigin policyFingerprint) (idle db) earlier) later,
      handler.passed.session.id ≠ x.id) := by
  have hcovered := fun events =>
    covered_run policyFingerprint (covered_idle sha256 publicOrigin db) events
  refine ⟨fun now => ?_, fun hrevoked => (hcovered earlier).not_handled hx hrevoked later⟩
  obtain ⟨z, hz, hzid, hzrevoked⟩ := revoked_of_revoke hx now
  have hmem : z ∈ (run (step sha256 publicOrigin policyFingerprint) (idle db)
      (earlier ++ [.store ⟨now, .revoke x.id⟩])).db.sessions.rows := by
    rw [run_append]
    exact hz
  intro handler hhandler hsame
  exact (hcovered _).not_handled hmem hzrevoked later handler hhandler (hsame.trans hzid.symm)

theorem revoked_not_handled_late :
    (handledBy (fun _ => [1]) "https://routerview.test" none
        (run (step (fun _ => [1]) "https://routerview.test" none) (idle AuthDb.withSession)
          ([.arrive 0 lateRequest 10] ++ [.store ⟨20, .revoke "session"⟩]))
        [.proceed 0 30, .arrive 1 lateRequest 40, .proceed 1 50]).filter
      (fun handler => handler.passed.session.id = "session") = [] := by
  obtain ⟨y, hy, hchange⟩ := step_kept (fun _ => [1]) "https://routerview.test" none
    (idle AuthDb.withSession) (.arrive 0 lateRequest 10) firstSession (List.mem_singleton.mpr rfl)
  have hnone := (revoked_not_handled (fun _ => [1]) "https://routerview.test" none
    AuthDb.withSession [.arrive 0 lateRequest 10]
    [.proceed 0 30, .arrive 1 lateRequest 40, .proceed 1 50] y hy).1 20
  rw [show y.id = "session" from hchange.sameSession.id] at hnone
  rw [List.filter_eq_nil_iff]
  intro handler hhandler
  simpa using hnone handler hhandler

end Gate

end RouterView.Auth
