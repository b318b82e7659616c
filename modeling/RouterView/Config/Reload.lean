/-
  Config/Reload.lean --- what a restart makes of the persisted configuration.

  A process starts from a load, accepts requests, and is started again on the
  tables that it left.  The rows give back every field that it published; the
  password comes from the stored secret, and where a request cleared that, a
  load falls back to the environment.
-/
import RouterView.Config.Update

set_option autoImplicit false

namespace RouterView.Config

open RouterView.Foundation
open RouterView.Secrets

/-! ## Rows -/

/-- The rows agree with the configuration: merged with the environment, they give
every field of it but the password. -/
def Agrees (env : Env) (overrides : Rows String) (config : MergedConfig) : Prop :=
  MergedConfig.fromEnvAndDb env overrides = { config with routerPassword := env.routerPassword }

section

variable {env : Env} {rows : Rows String} {current next : MergedConfig} {revision : UInt64}
  {wizard : List (String × String)}

/-- The rows of a load without those that older versions kept the password in. -/
def withoutPlaintext (rows : Rows String) : Rows String :=
  (rows.erase "router_password").erase "routeros_password"

/-- The rows after the transaction of an update. -/
def savedRows (rows : Rows String) (next : MergedConfig) (wizard : List (String × String))
    (revision : UInt64) : Rows String :=
  (putAll rows (persistedRows next ++ wizard)).put "config_revision" (toString revision)

/-- A key that no update writes keeps its row. -/
theorem putAll_of_not_mem {values : List (String × String)} {key : String}
    (h : ∀ value ∈ values, value.1 ≠ key) (rows : Rows String) : putAll rows values key = rows key := by
  induction values generalizing rows with
  | nil => rfl
  | cons value rest ih =>
      have hrest := ih (fun v hv => h v (List.mem_cons_of_mem _ hv)) (rows.put value.1 value.2)
      rw [putAll, List.foldl_cons]
      rw [putAll] at hrest
      rw [hrest]
      exact Rows.put_ne _ _ (Ne.symm (h value List.mem_cons_self))

/-- The wizard's row is under its own key. -/
def WizardOnly (wizard : List (String × String)) : Prop :=
  ∀ value ∈ wizard, value.1 = "wizard_completed"

theorem putAll_append (rows : Rows String) (first second : List (String × String)) :
    putAll rows (first ++ second) = putAll (putAll rows first) second := by
  unfold putAll
  rw [List.foldl_append]

theorem savedRows_of_ne (hwizard : WizardOnly wizard) {key : String}
    (hrevision : key ≠ "config_revision") (hcompleted : key ≠ "wizard_completed") :
    savedRows rows next wizard revision key = putAll rows (persistedRows next) key := by
  unfold savedRows
  rw [Rows.put_ne _ _ hrevision, putAll_append]
  apply putAll_of_not_mem
  intro value hvalue heq
  exact hcompleted (heq ▸ hwizard value hvalue)

theorem savedRows_untouched (hwizard : WizardOnly wizard) {key : String}
    (hrevision : key ≠ "config_revision") (hcompleted : key ≠ "wizard_completed")
    (hkey : ∀ value ∈ persistedRows next, value.1 ≠ key) :
    savedRows rows next wizard revision key = rows key := by
  rw [savedRows_of_ne hwizard hrevision hcompleted]
  exact putAll_of_not_mem hkey rows

/-- The fields that no request changes. -/
structure SameDeployment (current next : MergedConfig) : Prop where
  serverPort : next.serverPort = current.serverPort
  routerManagementCidrs : next.routerManagementCidrs = current.routerManagementCidrs
  allowInsecureRouterHttp : next.allowInsecureRouterHttp = current.allowInsecureRouterHttp

/-- The rows hold the fields that an update writes, as text. -/
structure RowsHold (rows : Rows String) (config : MergedConfig) : Prop where
  routerType : rows "router_type" = some "routeros"
  routerHost : rows "router_host" = some config.routerHost
  routerPort : rows "router_port" = some (toString config.routerPort)
  routerScheme : rows "router_scheme" = some config.routerScheme
  routerUsername : rows "router_username" = some config.routerUsername
  acceptInvalidCerts : rows "accept_invalid_certs" = some (toString config.acceptInvalidCerts)
  pollIntervalSecs : rows "poll_interval_secs" = some (toString config.pollIntervalSecs)
  probeIntervalSecs : rows "probe_interval_secs" = some (toString config.probeIntervalSecs)
  dbRawRetentionDays : rows "db_raw_retention_days" = some (toString config.dbRawRetentionDays)
  dbTotalRetentionDays :
    rows "db_total_retention_days" = some (toString config.dbTotalRetentionDays)
  latencyGoodMs : rows "latency_good_ms" = some (toString config.latencyGoodMs)
  latencyPoorMs : rows "latency_poor_ms" = some (toString config.latencyPoorMs)
  theme : rows "theme" = some config.theme

theorem rowsHold_persistedRows (rows : Rows String) (next : MergedConfig) :
    RowsHold (putAll rows (persistedRows next)) next := by
  constructor <;> simp [putAll, persistedRows, Rows.put]

theorem RowsHold.congr {rows' : Rows String} (h : RowsHold rows next)
    (hsame : ∀ key, key ≠ "router_password" → key ≠ "routeros_password" →
      key ≠ "config_revision" → key ≠ "wizard_completed" → rows' key = rows key) :
    RowsHold rows' next where
  routerType := (hsame _ (by decide) (by decide) (by decide) (by decide)).trans h.routerType
  routerHost := (hsame _ (by decide) (by decide) (by decide) (by decide)).trans h.routerHost
  routerPort := (hsame _ (by decide) (by decide) (by decide) (by decide)).trans h.routerPort
  routerScheme := (hsame _ (by decide) (by decide) (by decide) (by decide)).trans h.routerScheme
  routerUsername :=
    (hsame _ (by decide) (by decide) (by decide) (by decide)).trans h.routerUsername
  acceptInvalidCerts :=
    (hsame _ (by decide) (by decide) (by decide) (by decide)).trans h.acceptInvalidCerts
  pollIntervalSecs :=
    (hsame _ (by decide) (by decide) (by decide) (by decide)).trans h.pollIntervalSecs
  probeIntervalSecs :=
    (hsame _ (by decide) (by decide) (by decide) (by decide)).trans h.probeIntervalSecs
  dbRawRetentionDays :=
    (hsame _ (by decide) (by decide) (by decide) (by decide)).trans h.dbRawRetentionDays
  dbTotalRetentionDays :=
    (hsame _ (by decide) (by decide) (by decide) (by decide)).trans h.dbTotalRetentionDays
  latencyGoodMs := (hsame _ (by decide) (by decide) (by decide) (by decide)).trans h.latencyGoodMs
  latencyPoorMs := (hsame _ (by decide) (by decide) (by decide) (by decide)).trans h.latencyPoorMs
  theme := (hsame _ (by decide) (by decide) (by decide) (by decide)).trans h.theme

theorem withoutPlaintext_of_ne {key : String} (hcanonical : key ≠ "router_password")
    (hlegacy : key ≠ "routeros_password") : withoutPlaintext rows key = rows key := by
  unfold withoutPlaintext
  rw [Rows.erase_ne _ hlegacy, Rows.erase_ne _ hcanonical]

theorem getEither_withoutPlaintext :
    getEither (withoutPlaintext rows) "router_password" "routeros_password" = none := by
  simp [getEither, withoutPlaintext, Rows.erase]

/-- Rows that hold a configuration give it back. -/
theorem RowsHold.agrees (h : RowsHold rows next) (hvalid : next.Valid)
    (hrevision : rows "config_revision" = some (toString next.revision))
    (hpassword : getEither rows "router_password" "routeros_password" = none)
    (hserver : ((rows "server_port").bind parseU16).getD env.serverPort = next.serverPort)
    (hcidrs : env.routerManagementCidrs = next.routerManagementCidrs)
    (hinsecure : env.allowInsecureRouterHttp = next.allowInsecureRouterHttp) :
    Agrees env rows next := by
  have hcert : ∀ b : Bool, decide (toString b = "true" ∨ toString b = "1") = b := by decide
  have hscheme : (some (toAsciiLowercase next.routerScheme)).filter
      (fun s => decide (s = "http" ∨ s = "https")) = some next.routerScheme := by
    rcases hvalid.routerScheme with heq | heq <;> rw [heq] <;> decide
  have htype : RouterType.routerOs = next.routerType := by
    cases next.routerType
    rfl
  have hlower : toAsciiLowercase "routeros" = "routeros" := by decide
  unfold Agrees MergedConfig.fromEnvAndDb
  rw [hpassword]
  simp only [getEither, hrevision, h.routerType, h.routerHost, h.routerPort, h.routerScheme,
    h.routerUsername, h.acceptInvalidCerts, h.pollIntervalSecs, h.probeIntervalSecs,
    h.dbRawRetentionDays, h.dbTotalRetentionDays, h.latencyGoodMs, h.latencyPoorMs, h.theme,
    Option.some_or, Option.map_some, Option.bind_some, Option.getD_some, Option.getD_none,
    parseU64_toString, parseU16_toString, hlower, if_true, hscheme, hcert, hserver, hcidrs,
    hinsecure, htype]

/-- The merged fields of the rows of an update. -/
theorem agrees_savedRows (hagrees : Agrees env (withoutPlaintext rows) current)
    (hsame : SameDeployment current next) (hvalid : next.Valid) (hwizard : WizardOnly wizard) :
    Agrees env (withoutPlaintext (savedRows rows next wizard revision))
      { next with revision := revision } := by
  have hserver := congrArg MergedConfig.serverPort hagrees
  have hcidrs := congrArg MergedConfig.routerManagementCidrs hagrees
  have hinsecure := congrArg MergedConfig.allowInsecureRouterHttp hagrees
  have hport : withoutPlaintext (savedRows rows next wizard revision) "server_port" =
      withoutPlaintext rows "server_port" := by
    rw [withoutPlaintext_of_ne (by decide) (by decide),
      withoutPlaintext_of_ne (by decide) (by decide)]
    apply savedRows_untouched hwizard (by decide) (by decide)
    simp [persistedRows]
  have hholds : RowsHold (withoutPlaintext (savedRows rows next wizard revision))
      { next with revision := revision } := by
    apply RowsHold.congr (rowsHold_persistedRows rows { next with revision := revision })
    intro key h1 h2 h3 h4
    rw [withoutPlaintext_of_ne h1 h2]
    exact savedRows_of_ne hwizard h3 h4
  apply hholds.agrees
  · exact ⟨hvalid.pollIntervalSecs, hvalid.dbRawRetentionDays, hvalid.routerHost,
      hvalid.routerScheme⟩
  · rw [withoutPlaintext_of_ne (by decide) (by decide)]
    exact Rows.put_self _ _ _
  · exact getEither_withoutPlaintext
  · rw [hport]
    exact hserver.trans hsame.serverPort.symm
  · exact hcidrs.trans hsame.routerManagementCidrs.symm
  · exact hinsecure.trans hsame.allowInsecureRouterHttp.symm

end

/-! ## Requests -/

section

variable {suite : CipherSuite} {cipher : SecretCipher} {instanceId : String} {nonce : Nonce}
  {body : ConfigUpdateRequest} {current : MergedConfig} {plan : UpdatePlan} {db db' : ConfigDb}

/-- What a plan does to the stored password. -/
def PasswordPlanned (suite : CipherSuite) (cipher : SecretCipher) (instanceId : String)
    (nonce : Nonce) (current : MergedConfig) (plan : UpdatePlan) : PasswordMode → Prop
  | .keep => plan.next.routerPassword = current.routerPassword ∧
      plan.encryptedPassword = none ∧ plan.deletePassword = false
  | .replace => plan.deletePassword = false ∧ ∃ encrypted,
      plan.encryptedPassword = some encrypted ∧
        encryptPassword suite cipher instanceId nonce plan.next.routerPassword = .ok encrypted
  | .clear => plan.next.routerPassword = "" ∧
      plan.encryptedPassword = none ∧ plan.deletePassword = true

/-- A plan of a request for the configuration that it read. -/
structure Planned (suite : CipherSuite) (cipher : SecretCipher) (instanceId : String)
    (nonce : Nonce) (body : ConfigUpdateRequest) (current : MergedConfig) (plan : UpdatePlan) :
    Prop where
  expectedRevision : plan.expectedRevision = current.revision
  valid : plan.next.validate = .ok ()
  deployment : SameDeployment current plan.next
  persisted : ∃ wizard, WizardOnly wizard ∧ plan.persisted = persistedRows plan.next ++ wizard
  password : PasswordPlanned suite cipher instanceId nonce current plan body.effectiveMode

theorem wizardRow_ok {wizard : List (String × String)} {saved : List String}
    (h : wizardRow body = .ok (wizard, saved)) : WizardOnly wizard := by
  unfold wizardRow at h
  cases hcompleted : body.wizardCompleted with
  | none =>
      simp only [hcompleted, Except.ok.injEq, Prod.mk.injEq] at h
      rw [← h.1]
      exact fun _ hvalue => absurd hvalue List.not_mem_nil
  | some value =>
      simp only [hcompleted] at h
      obtain ⟨completed, _, h⟩ := bind_eq_ok_iff.mp h
      simp only [pure_eq_ok, Except.ok.injEq, Prod.mk.injEq] at h
      rw [← h.1]
      intro row hrow
      rw [List.mem_singleton.mp hrow]

/-- The change of the password by an accepted request. -/
inductive PasswordChanged (suite : CipherSuite) (cipher : SecretCipher) (instanceId : String)
    (nonce : Nonce) (body : ConfigUpdateRequest) (next current : MergedConfig) :
    PasswordChange → Prop where
  | kept (hmode : body.effectiveMode = .keep) (hsame : connectionChanged next current = false) :
      PasswordChanged suite cipher instanceId nonce body next current
        ⟨next.routerPassword, none, false, []⟩
  | replaced {password : String} {encrypted : EncryptedSecret}
      (hmode : body.effectiveMode = .replace) (hpassword : body.routerPassword = some password)
      (hencrypt : encryptPassword suite cipher instanceId nonce password = .ok encrypted) :
      PasswordChanged suite cipher instanceId nonce body next current
        ⟨password, some encrypted, false, ["router_password"]⟩
  | cleared (hmode : body.effectiveMode = .clear) :
      PasswordChanged suite cipher instanceId nonce body next current
        ⟨"", none, true, ["router_password"]⟩

theorem changePassword_cases {next : MergedConfig} {change : PasswordChange}
    (h : changePassword suite cipher instanceId nonce body next current = .ok change) :
    PasswordChanged suite cipher instanceId nonce body next current change := by
  unfold changePassword at h
  cases hmode : body.effectiveMode with
  | keep =>
      simp only [hmode] at h
      obtain ⟨hsame, h⟩ := ensure_bind_eq_ok_iff.mp h
      simp only [pure_eq_ok, Except.ok.injEq] at h
      rw [← h]
      exact .kept hmode hsame
  | replace =>
      simp only [hmode] at h
      obtain ⟨password, hpassword, h⟩ := bind_eq_ok_iff.mp h
      obtain ⟨_, h⟩ := ensure_bind_eq_ok_iff.mp h
      obtain ⟨encrypted, hencrypt, h⟩ := bind_eq_ok_iff.mp h
      simp only [pure_eq_ok, Except.ok.injEq] at h
      rw [← h]
      exact .replaced hmode (okOr_eq_ok_iff.mp hpassword) hencrypt
  | clear =>
      simp only [hmode, Except.ok.injEq] at h
      rw [← h]
      exact .cleared hmode

/-- What an accepted request checked, and the plan that it made. -/
theorem planUpdate_cases (h : planUpdate suite cipher instanceId nonce body current = .ok plan) :
    ∃ certs change wizard wizardSaved,
      body.expectedRevision = some plan.expectedRevision ∧
        plan.expectedRevision = current.revision ∧
        PasswordChanged suite cipher instanceId nonce body (body.applyTo certs current) current
          change ∧
        plan.next.validate = .ok () ∧ wizardRow body = .ok (wizard, wizardSaved) ∧
        plan = {
          expectedRevision := plan.expectedRevision
          next := { body.applyTo certs current with routerPassword := change.password }
          persisted := persistedRows plan.next ++ wizard
          encryptedPassword := change.encrypted
          deletePassword := change.delete
          saved := body.saved ++ change.saved ++ wizardSaved } := by
  unfold planUpdate at h
  obtain ⟨expected, hexpected, h⟩ := bind_eq_ok_iff.mp h
  obtain ⟨hrevision, h⟩ := ensure_bind_eq_ok_iff.mp h
  obtain ⟨certs, _, h⟩ := bind_eq_ok_iff.mp h
  obtain ⟨change, hchange, h⟩ := bind_eq_ok_iff.mp h
  obtain ⟨_, hvalid, h⟩ := bind_eq_ok_iff.mp h
  obtain ⟨⟨wizard, wizardSaved⟩, hwizard, h⟩ := bind_eq_ok_iff.mp h
  simp only [pure_eq_ok, Except.ok.injEq] at h
  subst h
  exact ⟨certs, change, wizard, wizardSaved, okOr_eq_ok_iff.mp hexpected, hrevision,
    changePassword_cases hchange, hvalid, hwizard, rfl⟩

theorem planUpdate_ok (h : planUpdate suite cipher instanceId nonce body current = .ok plan) :
    body.expectedRevision = some plan.expectedRevision ∧
      Planned suite cipher instanceId nonce body current plan := by
  obtain ⟨certs, change, wizard, wizardSaved, hexpected, hrevision, hchange, hvalid, hwizard,
    hplan⟩ := planUpdate_cases h
  refine ⟨hexpected, hrevision, hvalid, ?_, ⟨wizard, wizardRow_ok hwizard, ?_⟩, ?_⟩
  · rw [hplan]
    exact ⟨rfl, rfl, rfl⟩
  · exact congrArg UpdatePlan.persisted hplan
  · cases hchange with
    | kept hmode _ =>
        rw [hmode, hplan]
        exact ⟨rfl, rfl, rfl⟩
    | replaced hmode _ hencrypt =>
        rw [hmode, hplan]
        exact ⟨rfl, _, rfl, hencrypt⟩
    | cleared hmode =>
        rw [hmode, hplan]
        exact ⟨rfl, rfl, rfl⟩

/-- A transaction that took effect found the revision that the plan expected. -/
structure Saved (plan : UpdatePlan) (db db' : ConfigDb) : Prop where
  revision : plan.expectedRevision = db.currentRevision
  config : db'.config = (putAll db.config plan.persisted).put "config_revision"
    (toString (nextRevision plan.expectedRevision))
  secret : db'.secrets "router_password" =
    if plan.deletePassword then none
    else plan.encryptedPassword.or (db.secrets "router_password")

theorem UpdatePlan.save_true (h : plan.save db = (true, db')) : Saved plan db db' := by
  unfold UpdatePlan.save saveConfigTransaction at h
  split at h
  · cases h
  · rename_i hexpected
    have hrevision : plan.expectedRevision = db.currentRevision := by
      by_contra hne
      exact hexpected (by simpa using hne)
    simp only [Prod.mk.injEq, true_and] at h
    rw [← h]
    refine ⟨hrevision, ?_, ?_⟩
    · rw [hrevision]
    · cases plan.deletePassword <;> cases plan.encryptedPassword <;> simp [Rows.erase, Rows.put]

end

/-! ## Processes -/

/-- A running process: what it publishes and what it stored. -/
structure Process where
  instanceId : String
  config : MergedConfig
  db : ConfigDb

/-- A password change of a request, after an earlier one. -/
def laterChange (change : Option PasswordMode) (body : ConfigUpdateRequest) :
    Option PasswordMode :=
  match body.effectiveMode with
  | .keep => change
  | mode => some mode

/-- The last password change of the requests. -/
def lastChange (requests : List (ConfigUpdateRequest × Nonce)) : Option PasswordMode :=
  requests.foldl (fun change request => laterChange change request.1) none

section

variable (suite : CipherSuite) (cipher : SecretCipher)

/-- The start of a process. -/
def start (env : Env) (generatedId : String) (nonce : Nonce) (db : ConfigDb) :
    Except AppError Process := do
  let (instanceId, identified) := db.instanceId generatedId
  let (config, stored) ← load suite cipher env generatedId nonce identified
  return ⟨instanceId, config, stored⟩

/-- A request that runs alone, and is accepted. -/
def accept (p : Process) (request : ConfigUpdateRequest × Nonce) : Except AppError Process := do
  let plan ← planUpdate suite cipher p.instanceId request.2 request.1 p.config
  let (saved, db) := plan.save p.db
  ensure (saved = true) modifiedConflict
  return ⟨p.instanceId, plan.published, db⟩

/-- Requests that are all accepted, one after the other. -/
def acceptAll : List (ConfigUpdateRequest × Nonce) → Process → Except AppError Process
  | [], p => .ok p
  | request :: rest, p => do
      let p' ← accept suite cipher p request
      acceptAll rest p'

end

section

variable {suite : CipherSuite} {cipher : SecretCipher} {env : Env} {p p' : Process}
  {change : Option PasswordMode}

/-- A running process has stored what it publishes: the fields as rows, and the
password as a secret, unless there is none. -/
structure Persisted (suite : CipherSuite) (cipher : SecretCipher) (env : Env)
    (change : Option PasswordMode) (p : Process) : Prop where
  instanceId : p.db.config "instance_id" = some p.instanceId
  conflict : p.db.plaintextConflict = false
  plaintext : p.db.plaintext = none
  agrees : Agrees env p.db.overrides p.config
  valid : p.config.validate = .ok ()
  stored : ∀ encrypted, p.db.secrets "router_password" = some encrypted →
    decryptPassword suite cipher p.instanceId encrypted = .ok p.config.routerPassword ∧
      change ≠ some .clear
  absent : p.db.secrets "router_password" = none →
    p.config.routerPassword = "" ∧ (change ≠ some .clear → env.routerPassword = "")

theorem decryptPassword_encryptPassword (hsuite : suite.Lawful) {instanceId password : String}
    {nonce : Nonce} {encrypted : EncryptedSecret}
    (h : encryptPassword suite cipher instanceId nonce password = .ok encrypted) :
    decryptPassword suite cipher instanceId encrypted = .ok password := by
  unfold encryptPassword secretError at h
  cases hencrypt : cipher.encrypt suite nonce instanceId "router_password" (asBytes password) with
  | error e =>
      rw [hencrypt] at h
      cases h
  | ok secret =>
      rw [hencrypt, Except.ok.injEq] at h
      rw [← h]
      unfold decryptPassword secretError
      rw [SecretCipher.decrypt_encrypt hsuite hencrypt, ok_bind, fromUtf8_asBytes]
      rfl

/-! ### Starts -/

theorem ConfigDb.instanceId_known {db : ConfigDb} {id generated : String}
    (h : db.config "instance_id" = some id) : db.instanceId generated = (id, db) := by
  unfold ConfigDb.instanceId
  rw [h]

/-- A table in which the identifier is known. -/
theorem ConfigDb.instanceId_spec (db : ConfigDb) (generated : String) :
    (db.instanceId generated).2.config "instance_id" = some (db.instanceId generated).1 := by
  unfold ConfigDb.instanceId
  split
  · rename_i existing hexisting
    exact hexisting
  · exact Rows.put_self db.config "instance_id" generated

theorem migrated_overrides (encrypted : EncryptedSecret) (db : ConfigDb) :
    (migratePlaintextRouterPassword encrypted db).overrides = db.overrides := by
  funext key
  by_cases hcanonical : key = "router_password"
  · simp [ConfigDb.overrides, Rows.erase, hcanonical]
  · simp only [ConfigDb.overrides, migratePlaintextRouterPassword, Rows.erase, hcanonical, if_false]
    by_cases hlegacy : key = "routeros_password"
    · rw [if_pos hlegacy, if_pos hlegacy]
    · rw [if_neg hlegacy, if_neg hlegacy]

theorem plaintext_empty {db : ConfigDb} (h : db.plaintext = none) (env : Env) :
    db.plaintext.getD env.routerPassword = env.routerPassword := by
  rw [h]
  rfl

/-- What a load leaves: the merged rows as they were, no password as text, and the
password that it returns as a secret, unless there is none. -/
structure Loaded (suite : CipherSuite) (cipher : SecretCipher) (env : Env) (instanceId : String)
    (db : ConfigDb) (password : String) (stored : ConfigDb) : Prop where
  overrides : stored.overrides = db.overrides
  instanceRow : stored.config "instance_id" = db.config "instance_id"
  conflict : stored.plaintextConflict = false
  plaintext : stored.plaintext = none
  secret : ∀ encrypted, stored.secrets "router_password" = some encrypted →
    decryptPassword suite cipher instanceId encrypted = .ok password
  absent : stored.secrets "router_password" = none → password = "" ∧ env.routerPassword = ""

/-- A migration leaves the password as a secret only. -/
theorem Loaded.migrated {db : ConfigDb} {instanceId password : String}
    {encrypted : EncryptedSecret}
    (h : decryptPassword suite cipher instanceId encrypted = .ok password) :
    Loaded suite cipher env instanceId db password
      (migratePlaintextRouterPassword encrypted db) where
  overrides := migrated_overrides encrypted db
  instanceRow := by simp [migratePlaintextRouterPassword, Rows.erase]
  conflict := by simp [ConfigDb.plaintextConflict, migratePlaintextRouterPassword, Rows.erase]
  plaintext := by
    simp [ConfigDb.plaintext, getEither, migratePlaintextRouterPassword, Rows.erase]
  secret := by
    intro other hother
    simp only [migratePlaintextRouterPassword, Rows.put_self, Option.some.injEq] at hother
    rw [← hother]
    exact h
  absent := by
    intro hnone
    simp only [migratePlaintextRouterPassword, Rows.put_self] at hnone
    cases hnone

/-- What a load of the password that returns did: it decrypted the stored secret, found
no password, or encrypted the one it found. -/
inductive PasswordLoaded (suite : CipherSuite) (cipher : SecretCipher) (env : Env)
    (instanceId : String) (nonce : Nonce) (db : ConfigDb) : String → ConfigDb → Prop where
  | decrypted {encrypted : EncryptedSecret} {password : String}
      (hsecret : db.secrets "router_password" = some encrypted)
      (hdecrypt : decryptPassword suite cipher instanceId encrypted = .ok password)
      (hlegacy : db.plaintext.all (fun legacy => decide (legacy = password)) = true) :
      PasswordLoaded suite cipher env instanceId nonce db password
        (if db.plaintext.isSome then migratePlaintextRouterPassword encrypted db else db)
  | blank (hsecret : db.secrets "router_password" = none)
      (hempty : (db.plaintext.getD env.routerPassword).isEmpty = true) :
      PasswordLoaded suite cipher env instanceId nonce db
        (db.plaintext.getD env.routerPassword) db
  | encrypted {encrypted : EncryptedSecret}
      (hsecret : db.secrets "router_password" = none)
      (hvalue : ¬ (db.plaintext.getD env.routerPassword).isEmpty = true)
      (hencrypt : encryptPassword suite cipher instanceId nonce
        (db.plaintext.getD env.routerPassword) = .ok encrypted) :
      PasswordLoaded suite cipher env instanceId nonce db
        (db.plaintext.getD env.routerPassword)
        (if db.plaintext.isSome then migratePlaintextRouterPassword encrypted db
        else (saveConfigTransaction [] (some ("router_password", encrypted)) none none db).2)

theorem loadPassword_cases {db stored : ConfigDb} {instanceId password : String} {nonce : Nonce}
    (h : loadPassword suite cipher env instanceId nonce db = .ok (password, stored)) :
    PasswordLoaded suite cipher env instanceId nonce db password stored := by
  unfold loadPassword at h
  cases hsecret : db.secrets "router_password" with
  | some encrypted =>
      simp only [hsecret] at h
      obtain ⟨decrypted, hdecrypt, h⟩ := bind_eq_ok_iff.mp h
      obtain ⟨hlegacy, h⟩ := ensure_bind_eq_ok_iff.mp h
      simp only [pure_eq_ok, Except.ok.injEq, Prod.mk.injEq] at h
      obtain ⟨rfl, rfl⟩ := h
      exact .decrypted hsecret hdecrypt hlegacy
  | none =>
      simp only [hsecret] at h
      split at h
      · rename_i hempty
        simp only [Except.ok.injEq, Prod.mk.injEq] at h
        obtain ⟨rfl, rfl⟩ := h
        exact .blank hsecret hempty
      · rename_i hvalue
        obtain ⟨encrypted, hencrypt, h⟩ := bind_eq_ok_iff.mp h
        simp only [pure_eq_ok, Except.ok.injEq, Prod.mk.injEq] at h
        obtain ⟨rfl, rfl⟩ := h
        exact .encrypted hsecret hvalue hencrypt

theorem loadPassword_ok (hsuite : suite.Lawful) {db stored : ConfigDb} {instanceId password : String}
    {nonce : Nonce} (hconflict : db.plaintextConflict = false)
    (h : loadPassword suite cipher env instanceId nonce db = .ok (password, stored)) :
    Loaded suite cipher env instanceId db password stored := by
  cases loadPassword_cases h with
  | decrypted hsecret hdecrypt hlegacy =>
      split
      · exact Loaded.migrated hdecrypt
      · rename_i hplain
        refine ⟨rfl, rfl, hconflict, by simpa using hplain, ?_, ?_⟩
        · intro other hother
          rw [hsecret, Option.some.injEq] at hother
          rw [← hother]
          exact hdecrypt
        · intro hnone
          rw [hsecret] at hnone
          cases hnone
  | blank hsecret hempty =>
      have hplain : db.plaintext = none := by
        cases hsome : db.plaintext with
        | none => rfl
        | some value =>
            rw [hsome, Option.getD_some] at hempty
            have hfilter := (Option.filter_eq_some_iff.mp hsome).2
            rw [hempty] at hfilter
            cases hfilter
      rw [plaintext_empty hplain env] at hempty ⊢
      have henv : env.routerPassword = "" := String.isEmpty_iff.mp hempty
      refine ⟨rfl, rfl, hconflict, hplain, ?_, fun _ => ⟨henv, henv⟩⟩
      intro other hother
      rw [hsecret] at hother
      cases hother
  | encrypted hsecret hvalue hencrypt =>
      have hdecrypt := decryptPassword_encryptPassword hsuite hencrypt
      split
      · exact Loaded.migrated hdecrypt
      · rename_i hplain
        refine ⟨rfl, rfl, hconflict, ?_, ?_, ?_⟩
        · have hnone : db.plaintext = none := by simpa using hplain
          exact hnone
        · intro other hother
          simp only [saveConfigTransaction, Option.any_none, Bool.false_eq_true, if_false,
            Rows.put_self, Option.some.injEq] at hother
          rw [← hother]
          exact hdecrypt
        · intro hnone
          simp only [saveConfigTransaction, Option.any_none, Bool.false_eq_true, if_false,
            Rows.put_self] at hnone
          cases hnone

/-- A load, on tables in which the identifier is known. -/
theorem load_ok {db stored : ConfigDb} {id generated : String} {nonce : Nonce}
    {config : MergedConfig} (hid : db.config "instance_id" = some id)
    (h : load suite cipher env generated nonce db = .ok (config, stored)) :
    db.plaintextConflict = false ∧ config.validate = .ok () ∧
      loadPassword suite cipher env id nonce db = .ok (config.routerPassword, stored) ∧
      config = { MergedConfig.fromEnvAndDb env db.overrides with
        routerPassword := config.routerPassword } := by
  unfold load at h
  rw [ConfigDb.instanceId_known hid] at h
  obtain ⟨hconflict, h⟩ := ensure_bind_eq_ok_iff.mp h
  obtain ⟨⟨password, result⟩, hpassword, h⟩ := bind_eq_ok_iff.mp h
  obtain ⟨_, hvalid, h⟩ := bind_eq_ok_iff.mp h
  simp only [pure_eq_ok, Except.ok.injEq, Prod.mk.injEq] at h
  obtain ⟨rfl, rfl⟩ := h
  exact ⟨hconflict, hvalid, hpassword, rfl⟩

theorem start_persisted (hsuite : suite.Lawful) {generated : String} {nonce : Nonce}
    {db : ConfigDb} (h : start suite cipher env generated nonce db = .ok p) :
    Persisted suite cipher env none p := by
  unfold start at h
  have hid := ConfigDb.instanceId_spec db generated
  obtain ⟨⟨config, stored⟩, hload, h⟩ := bind_eq_ok_iff.mp h
  simp only [pure_eq_ok, Except.ok.injEq] at h
  obtain ⟨hconflict, hvalid, hpassword, hconfig⟩ := load_ok hid hload
  have hloaded := loadPassword_ok hsuite hconflict hpassword
  have hplain : (MergedConfig.fromEnvAndDb env
      (db.instanceId generated).2.overrides).routerPassword = env.routerPassword := by
    have heither : getEither (db.instanceId generated).2.overrides "router_password"
        "routeros_password" = none := getEither_withoutPlaintext
    simp only [MergedConfig.fromEnvAndDb, heither, Option.getD_none]
  rw [← h]
  refine ⟨hloaded.instanceRow.trans hid, hloaded.conflict, hloaded.plaintext, ?_, hvalid, ?_, ?_⟩
  · rw [Agrees, hloaded.overrides, hconfig, ← hplain]
  · exact fun encrypted hencrypted =>
      ⟨hloaded.secret encrypted hencrypted, fun hclear => by cases hclear⟩
  · intro hnone
    obtain ⟨hempty, henv⟩ := hloaded.absent hnone
    exact ⟨hempty, fun _ => henv⟩

/-! ### Requests -/

/-- What the tables say of a plaintext password is a matter of two rows. -/
theorem plaintext_congr {db db' : ConfigDb}
    (hcanonical : db'.config "router_password" = db.config "router_password")
    (hlegacy : db'.config "routeros_password" = db.config "routeros_password") :
    db'.plaintextConflict = db.plaintextConflict ∧ db'.plaintext = db.plaintext := by
  unfold ConfigDb.plaintextConflict ConfigDb.plaintext getEither
  rw [hcanonical, hlegacy]
  exact ⟨rfl, rfl⟩

theorem accept_ok {request : ConfigUpdateRequest × Nonce}
    (h : accept suite cipher p request = .ok p') :
    ∃ plan db, planUpdate suite cipher p.instanceId request.2 request.1 p.config = .ok plan ∧
      plan.save p.db = (true, db) ∧ p' = ⟨p.instanceId, plan.published, db⟩ := by
  unfold accept at h
  obtain ⟨plan, hplan, h⟩ := bind_eq_ok_iff.mp h
  obtain ⟨hsaved, h⟩ := ensure_bind_eq_ok_iff.mp h
  simp only [pure_eq_ok, Except.ok.injEq] at h
  exact ⟨plan, (plan.save p.db).2, hplan, Prod.ext hsaved rfl, h.symm⟩

/-- The stored password after a request, and the one that is published. -/
theorem accept_password (hsuite : suite.Lawful) (hp : Persisted suite cipher env change p)
    {body : ConfigUpdateRequest} {nonce : Nonce} {plan : UpdatePlan} {db : ConfigDb}
    (hplanned : Planned suite cipher p.instanceId nonce body p.config plan)
    (hsaved : Saved plan p.db db) :
    (∀ encrypted, db.secrets "router_password" = some encrypted →
      decryptPassword suite cipher p.instanceId encrypted = .ok plan.next.routerPassword ∧
        laterChange change body ≠ some .clear) ∧
    (db.secrets "router_password" = none →
      plan.next.routerPassword = "" ∧
        (laterChange change body ≠ some .clear → env.routerPassword = "")) := by
  have hpassword := hplanned.password
  have hsecret := hsaved.secret
  unfold laterChange
  cases hmode : body.effectiveMode with
  | keep =>
      rw [hmode] at hpassword
      obtain ⟨hsame, hnone, hdelete⟩ := hpassword
      simp only [hnone, hdelete, Bool.false_eq_true, if_false, Option.none_or] at hsecret
      rw [hsecret, hsame]
      exact ⟨hp.stored, hp.absent⟩
  | replace =>
      rw [hmode] at hpassword
      obtain ⟨hdelete, encrypted, hsome, hencrypted⟩ := hpassword
      simp only [hsome, hdelete, Bool.false_eq_true, if_false, Option.some_or] at hsecret
      rw [hsecret]
      refine ⟨?_, fun hnone => by cases hnone⟩
      intro other hother
      rw [← Option.some.inj hother]
      exact ⟨decryptPassword_encryptPassword hsuite hencrypted, fun hclear => by cases hclear⟩
  | clear =>
      rw [hmode] at hpassword
      obtain ⟨hempty, hnone, hdelete⟩ := hpassword
      simp only [hdelete, if_true] at hsecret
      rw [hsecret]
      refine ⟨fun _ hsome => (by cases hsome), fun _ => ⟨hempty, fun hne => absurd rfl hne⟩⟩

theorem accept_persisted (hsuite : suite.Lawful) (hp : Persisted suite cipher env change p)
    {request : ConfigUpdateRequest × Nonce} (h : accept suite cipher p request = .ok p') :
    Persisted suite cipher env (laterChange change request.1) p' := by
  obtain ⟨plan, db, hplan, hsave, rfl⟩ := accept_ok h
  obtain ⟨_, hplanned⟩ := planUpdate_ok hplan
  have hsaved := UpdatePlan.save_true hsave
  obtain ⟨wizard, hwizard, hpersisted⟩ := hplanned.persisted
  have hrows : db.config =
      savedRows p.db.config plan.next wizard (nextRevision plan.expectedRevision) := by
    rw [hsaved.config, hpersisted, savedRows]
  have huntouched : ∀ key, key = "instance_id" ∨ key = "router_password" ∨
      key = "routeros_password" → db.config key = p.db.config key := by
    intro key hkey
    rw [hrows]
    rcases hkey with rfl | rfl | rfl <;>
      exact savedRows_untouched hwizard (by decide) (by decide) (by simp [persistedRows])
  obtain ⟨hconflict, hplaintext⟩ :=
    plaintext_congr (huntouched _ (by simp)) (huntouched _ (by simp))
  obtain ⟨hstored, habsent⟩ := accept_password hsuite hp hplanned hsaved
  refine ⟨(huntouched _ (Or.inl rfl)).trans hp.instanceId, hconflict.trans hp.conflict,
    hplaintext.trans hp.plaintext, ?_, ?_, hstored, habsent⟩
  · have hagrees : Agrees env db.overrides plan.published := by
      show Agrees env (withoutPlaintext db.config)
        { plan.next with revision := nextRevision plan.expectedRevision }
      rw [hrows]
      exact agrees_savedRows hp.agrees hplanned.deployment
        (MergedConfig.validate_ok hplanned.valid) hwizard
    exact hagrees
  · exact (MergedConfig.validate_congr rfl).trans hplanned.valid

theorem acceptAll_persisted (hsuite : suite.Lawful)
    {requests : List (ConfigUpdateRequest × Nonce)} (hp : Persisted suite cipher env change p)
    (h : acceptAll suite cipher requests p = .ok p') :
    Persisted suite cipher env
      (requests.foldl (fun change request => laterChange change request.1) change) p' := by
  induction requests generalizing p change with
  | nil =>
      rw [acceptAll, Except.ok.injEq] at h
      rw [← h]
      exact hp
  | cons request rest ih =>
      rw [acceptAll] at h
      obtain ⟨next, hnext, h⟩ := bind_eq_ok_iff.mp h
      exact ih (accept_persisted hsuite hp hnext) h

/-! ### Restarts -/

/-- The load of a restart: the merged rows, with the password of the load. -/
theorem start_of_persisted (hp : Persisted suite cipher env change p) (generated : String)
    (nonce : Nonce) :
    start suite cipher env generated nonce p.db = (do
      let (password, stored) ← loadPassword suite cipher env p.instanceId nonce p.db
      let merged := { p.config with routerPassword := password }
      merged.validate
      return ⟨p.instanceId, merged, stored⟩) := by
  have hmerged : ∀ password,
      { MergedConfig.fromEnvAndDb env p.db.overrides with routerPassword := password } =
        { p.config with routerPassword := password } := by
    intro password
    rw [hp.agrees]
  unfold start load
  simp only [ConfigDb.instanceId_known hp.instanceId, hp.conflict, hmerged, ensure, if_true, ok_bind]
  cases loadPassword suite cipher env p.instanceId nonce p.db with
  | error e => rfl
  | ok result =>
      obtain ⟨password, stored⟩ := result
      simp only [ok_bind]
      cases MergedConfig.validate { p.config with routerPassword := password } <;> rfl

/-- A restart loads the published configuration, unless the password was cleared
and the environment has one. -/
theorem restart_iff (hp : Persisted suite cipher env change p) (generated : String)
    (nonce : Nonce) :
    (∃ q, start suite cipher env generated nonce p.db = .ok q ∧ q.config = p.config) ↔
      (env.routerPassword = "" ∨ change ≠ some .clear) := by
  rw [start_of_persisted hp]
  cases hsecret : p.db.secrets "router_password" with
  | some encrypted =>
      obtain ⟨hdecrypt, hchange⟩ := hp.stored encrypted hsecret
      have hload : loadPassword suite cipher env p.instanceId nonce p.db =
          .ok (p.config.routerPassword, p.db) := by
        simp [loadPassword, hsecret, hdecrypt, hp.plaintext, ensure, ok_bind]
      rw [hload, ok_bind]
      constructor
      · exact fun _ => Or.inr hchange
      · intro _
        refine ⟨p, ?_, rfl⟩
        simp only [hp.valid, ok_bind]
        rfl
  | none =>
      obtain ⟨hempty, habsent⟩ := hp.absent hsecret
      by_cases henv : env.routerPassword = ""
      · have hload : loadPassword suite cipher env p.instanceId nonce p.db = .ok ("", p.db) := by
          simp [loadPassword, hsecret, hp.plaintext, henv]
        rw [hload, ok_bind]
        constructor
        · exact fun _ => Or.inl henv
        · intro _
          have hsame : { p.config with routerPassword := "" } = p.config := by rw [← hempty]
          refine ⟨p, ?_, rfl⟩
          simp only [hsame, hp.valid, ok_bind]
          rfl
      · constructor
        · rintro ⟨q, hq, hconfig⟩
          obtain ⟨⟨password, stored⟩, hload, hq⟩ := bind_eq_ok_iff.mp hq
          obtain ⟨_, _, hq⟩ := bind_eq_ok_iff.mp hq
          simp only [pure_eq_ok, Except.ok.injEq] at hq
          have hpassword : password = "" := by
            rw [← hempty, ← hconfig, ← hq]
          simp only [loadPassword, hsecret, hp.plaintext, Option.getD_none] at hload
          rw [if_neg (by simpa using henv)] at hload
          obtain ⟨_, _, hload⟩ := bind_eq_ok_iff.mp hload
          simp only [pure_eq_ok, Except.ok.injEq, Prod.mk.injEq] at hload
          exact absurd (hload.1.trans hpassword) henv
        · rintro (h | hchange)
          · exact absurd h henv
          · exact absurd (habsent hchange) henv

end

/-- A restart on the tables that accepted requests left loads the published
configuration, password and revision included, exactly if the environment has no
password or the last request that changed the password did not clear it. -/
theorem restart_loads_published {suite : CipherSuite} (hsuite : suite.Lawful)
    (cipher : SecretCipher) (env : Env) (generated : String) (nonce : Nonce) (db : ConfigDb)
    (requests : List (ConfigUpdateRequest × Nonce)) (p₀ p : Process)
    (hstart : start suite cipher env generated nonce db = .ok p₀)
    (hrequests : acceptAll suite cipher requests p₀ = .ok p)
    (laterGenerated : String) (laterNonce : Nonce) :
    (∃ q, start suite cipher env laterGenerated laterNonce p.db = .ok q ∧ q.config = p.config) ↔
      (env.routerPassword = "" ∨ lastChange requests ≠ some .clear) := by
  have hp := acceptAll_persisted hsuite (start_persisted hsuite hstart) hrequests
  exact restart_iff hp laterGenerated laterNonce

/-! ### Runs on fixed inputs -/

/-- A deployment with a password in its environment. -/
def deployedEnv : Env where
  routerType := .routerOs
  routerHost := "192.168.88.1"
  routerPort := 443
  routerScheme := "https"
  routerUsername := "admin"
  routerPassword := "from-env"
  acceptInvalidCerts := false
  pollIntervalSecs := 5
  probeIntervalSecs := 60
  serverPort := 3001
  dbRawRetentionDays := 7
  dbTotalRetentionDays := 90
  latencyGoodMs := 50
  latencyPoorMs := 150
  routerManagementCidrs := []
  allowInsecureRouterHttp := false

/-- A request for another router. -/
def moveRequest (host : String) (mode : PasswordMode) (password : Option String)
    (revision : UInt64) : ConfigUpdateRequest where
  expectedRevision := some revision
  routerType := none
  routerHost := some host
  routerPort := none
  routerScheme := none
  routerUsername := none
  routerPassword := password
  passwordMode := some mode
  acceptInvalidCerts := none
  pollIntervalSecs := none
  probeIntervalSecs := none
  dbRawRetentionDays := none
  dbTotalRetentionDays := none
  latencyGoodMs := none
  latencyPoorMs := none
  theme := none
  wizardCompleted := none

/-- The cipher of the runs, and the nonce of all their encryptions. -/
def runCipher : SecretCipher := ⟨[7], "key"⟩

def runNonce : Nonce := ⟨List.replicate 24 0, rfl⟩

/-- A process that starts on empty tables. -/
def firstStart : Except AppError Process :=
  start prefixSuite runCipher deployedEnv "instance" runNonce ⟨fun _ => none, fun _ => none⟩

/-- A first start and requests, all accepted. -/
def livedRun (requests : List ConfigUpdateRequest) : Except AppError Process := do
  let p ← firstStart
  acceptAll prefixSuite runCipher (requests.map (fun request => (request, runNonce))) p

/-- The same, and a restart. -/
def restartedRun (requests : List ConfigUpdateRequest) : Except AppError Process := do
  let p ← livedRun requests
  start prefixSuite runCipher deployedEnv "instance" runNonce p.db

/-- The requests of a run that clears the password and later stores another. -/
def replacedRequests : List ConfigUpdateRequest :=
  [moveRequest "10.0.0.1" .clear none 0, moveRequest "10.0.0.2" .replace (some "another") 1]

theorem restart_loads_published_replacedRun :
    ∃ p₀ p q, firstStart = .ok p₀ ∧
      acceptAll prefixSuite runCipher
        (replacedRequests.map (fun request => (request, runNonce))) p₀ = .ok p ∧
      start prefixSuite runCipher deployedEnv "instance" runNonce p.db = .ok q ∧
      q.config = p.config ∧ p.config.routerPassword = "another" := by
  have hlived : (livedRun replacedRequests).map (fun p => p.config.routerPassword) =
      .ok "another" := by decide +kernel
  cases hrun : livedRun replacedRequests with
  | error e =>
      rw [hrun] at hlived
      cases hlived
  | ok p =>
      obtain ⟨p₀, hstart, hrequests⟩ := bind_eq_ok_iff.mp hrun
      rw [hrun] at hlived
      obtain ⟨q, hq, hconfig⟩ := (restart_loads_published prefixSuite_lawful runCipher deployedEnv
        "instance" runNonce _ _ p₀ p hstart hrequests "instance" runNonce).mpr
          (Or.inr (by decide))
      exact ⟨p₀, p, q, hstart, hrequests, hq, hconfig, Except.ok.inj hlived⟩

/-- After a cleared password, a restart sends the password of the environment to
the new router. -/
theorem restart_loads_published_fails :
    ¬ ∀ (suite : CipherSuite), suite.Lawful → ∀ (cipher : SecretCipher) (env : Env)
      (generated : String) (nonce : Nonce) (db : ConfigDb)
      (requests : List (ConfigUpdateRequest × Nonce)) (p₀ p : Process),
      start suite cipher env generated nonce db = .ok p₀ →
      acceptAll suite cipher requests p₀ = .ok p →
      ∃ q, start suite cipher env generated nonce p.db = .ok q ∧ q.config = p.config := by
  intro hclaim
  have hlived : (livedRun [moveRequest "10.0.0.1" .clear none 0]).map
      (fun p => p.config.routerPassword) = .ok "" := by decide +kernel
  have hrestarted : (restartedRun [moveRequest "10.0.0.1" .clear none 0]).map
      (fun q => q.config.routerPassword) = .ok "from-env" := by decide +kernel
  cases hrun : livedRun [moveRequest "10.0.0.1" .clear none 0] with
  | error e =>
      rw [hrun] at hlived
      cases hlived
  | ok p =>
      obtain ⟨p₀, hstart, hrequests⟩ := bind_eq_ok_iff.mp hrun
      rw [hrun] at hlived
      obtain ⟨q, hq, hconfig⟩ := hclaim prefixSuite prefixSuite_lawful runCipher deployedEnv
        "instance" runNonce _ _ p₀ p hstart hrequests
      rw [restartedRun, hrun, ok_bind, hq] at hrestarted
      have hempty : p.config.routerPassword = "" := Except.ok.inj hlived
      have henv : q.config.routerPassword = "from-env" := Except.ok.inj hrestarted
      rw [hconfig, hempty] at henv
      exact absurd henv (by decide)

end RouterView.Config
