/-
  Config/MigrationSpec.lean --- a load loses no password.

  The tables that a load can leave, and pass through, are those it read, those with the
  instance identifier stored, and those of the finished migration.  In each of them a
  stored secret is as it was, and a password stored as text is there as text or as a
  secret.

  A password that only the environment has is not in the tables before the load saves it.
  From the save on it is, also when the configuration is then refused; before it, the
  tables have no secret.
-/
import RouterView.Config.Migration

set_option autoImplicit false

namespace RouterView.Config

open RouterView.Foundation
open RouterView.Secrets

variable {suite : CipherSuite} {cipher : SecretCipher} {env : Env} {generated : String}
  {nonce : Nonce} {db stored : ConfigDb}

/-! ## The tables of a load -/

/-- The tables that a load can be in. -/
def LoadReaches (suite : CipherSuite) (cipher : SecretCipher) (env : Env) (generated : String)
    (nonce : Nonce) (db s : ConfigDb) : Prop :=
  s = db ∨ s = (db.instanceId generated).2 ∨
    db.plaintextConflict = false ∧ ∃ password,
      loadPassword suite cipher env (db.instanceId generated).1 nonce
        (db.instanceId generated).2 = .ok (password, s)

theorem instanceId_secrets (db : ConfigDb) (generated : String) :
    (db.instanceId generated).2.secrets = db.secrets := by
  unfold ConfigDb.instanceId
  split <;> rfl

theorem instanceId_config (db : ConfigDb) (generated : String) {key : String}
    (hkey : key ≠ "instance_id") :
    (db.instanceId generated).2.config key = db.config key := by
  unfold ConfigDb.instanceId
  split
  · rfl
  · exact Rows.put_ne _ _ hkey

theorem instanceId_plaintext (db : ConfigDb) (generated : String) :
    (db.instanceId generated).2.plaintextConflict = db.plaintextConflict ∧
      (db.instanceId generated).2.plaintext = db.plaintext :=
  plaintext_congr (instanceId_config db generated (by decide))
    (instanceId_config db generated (by decide))

theorem readInstanceId_spec {inv : ConfigDb → Prop} {err : AppError → ConfigDb → Prop}
    (hfailed : err .database db) (hidentified : inv (db.instanceId generated).2) :
    CrashProgram.Triple inv (fun s => s = db) (readInstanceId generated)
      (fun id s => id = (db.instanceId generated).1 ∧ s = (db.instanceId generated).2) err := by
  apply CrashProgram.Triple.bind _ (statement_spec hfailed hidentified)
  rintro ⟨⟩
  apply CrashProgram.Triple.look
  rintro s rfl
  rw [ConfigDb.instanceId_known (ConfigDb.instanceId_spec db generated)]
  exact ⟨rfl, rfl⟩

/-- The statements of a load and the load. -/
theorem loadStatements_spec (suite : CipherSuite) (cipher : SecretCipher) (env : Env)
    (generated : String) (nonce : Nonce) (db : ConfigDb) :
    CrashProgram.Triple (LoadReaches suite cipher env generated nonce db) (fun s => s = db)
      (loadStatements suite cipher env generated nonce)
      (fun config s => load suite cipher env generated nonce db = .ok (config, s))
      (fun _ s => LoadReaches suite cipher env generated nonce db s) := by
  have hread : LoadReaches suite cipher env generated nonce db db := Or.inl rfl
  have hidentified : LoadReaches suite cipher env generated nonce db (db.instanceId generated).2 :=
    Or.inr (Or.inl rfl)
  obtain ⟨_, hplaintext⟩ := instanceId_plaintext db generated
  apply CrashProgram.Triple.bind_known db db (query_spec hread hread)
  apply CrashProgram.Triple.bind_known _ _ (readInstanceId_spec hread hidentified)
  apply CrashProgram.Triple.bind_ofExcept (fun _ _ _ heq => heq ▸ hidentified)
  intro _ hconflict
  rw [ensure_eq_ok_iff] at hconflict
  have hpassword : ∀ password s, loadPassword suite cipher env (db.instanceId generated).1 nonce
      (db.instanceId generated).2 = .ok (password, s) →
        LoadReaches suite cipher env generated nonce db s :=
    fun password _ h => Or.inr (Or.inr ⟨hconflict, password, h⟩)
  apply CrashProgram.Triple.bind_known _ _ (query_spec hidentified hidentified)
  rw [← hplaintext]
  apply CrashProgram.Triple.bind _ (passwordStatements_spec hidentified hpassword)
  intro password
  apply CrashProgram.Triple.bind_ofExcept (fun _ s _ h => hpassword password s h)
  intro _ hvalid
  apply CrashProgram.Triple.pure
  intro s h
  rw [load, ensure_of hconflict]
  simp only [ok_bind, h, hvalid, pure_eq_ok]

/-! ## Loads without a failure -/

theorem query_succeeds {α : Type} (result : ConfigDb → α) (t : ConfigDb) :
    CrashProgram.Succeeds (query result) t (result t) t :=
  (CrashProgram.Succeeds.step _ id t).bind (CrashProgram.Succeeds.look result t)

theorem readInstanceId_succeeds (generated : String) (db : ConfigDb) :
    CrashProgram.Succeeds (readInstanceId generated) db (db.instanceId generated).1
      (db.instanceId generated).2 := by
  have hknown : (db.instanceId generated).2.instanceId generated = db.instanceId generated :=
    ConfigDb.instanceId_known (ConfigDb.instanceId_spec db generated)
  have hlook : CrashProgram.Succeeds
      (CrashProgram.look (fun db => (db.instanceId generated).1) : Loading String)
      (db.instanceId generated).2 ((db.instanceId generated).2.instanceId generated).1
      (db.instanceId generated).2 := CrashProgram.Succeeds.look _ _
  rw [hknown] at hlook
  exact (CrashProgram.Succeeds.step _ _ db).bind hlook

theorem migrateStatements_succeeds (encrypted : EncryptedSecret) (t : ConfigDb) :
    CrashProgram.Succeeds (migrateStatements encrypted) t ()
      (migratePlaintextRouterPassword encrypted t) := by
  refine (CrashProgram.Succeeds.step _ id t).bind ?_
  refine (CrashProgram.Succeeds.look _ t).bind ?_
  rw [if_pos (Rows.put_self _ _ _)]
  exact (CrashProgram.Succeeds.step _ _ t).bind (CrashProgram.Succeeds.step _ id _)

/-- Where a secret is kept or stored, the tables are those of the load. -/
theorem keepSecret_succeeds (had : Bool) (encrypted : EncryptedSecret) (t : ConfigDb) :
    CrashProgram.Succeeds (keepSecret had encrypted) t ()
      (if had then migratePlaintextRouterPassword encrypted t else t) := by
  cases had with
  | true => exact migrateStatements_succeeds encrypted t
  | false => exact CrashProgram.Succeeds.pure () t

theorem storeSecret_succeeds (had : Bool) (encrypted : EncryptedSecret) (t : ConfigDb) :
    CrashProgram.Succeeds (storeSecret had encrypted) t ()
      (if had then migratePlaintextRouterPassword encrypted t
      else (saveConfigTransaction [] (some ("router_password", encrypted)) none none t).2) := by
  cases had with
  | true => exact migrateStatements_succeeds encrypted t
  | false =>
      exact CrashProgram.Succeeds.step _ (fun db =>
        (saveConfigTransaction [] (some ("router_password", encrypted)) none none db).2) t

theorem passwordStatements_succeeds {instanceId password : String} {t : ConfigDb}
    (h : loadPassword suite cipher env instanceId nonce t = .ok (password, stored)) :
    CrashProgram.Succeeds (passwordStatements suite cipher env instanceId nonce t.plaintext
      (t.secrets "router_password")) t password stored := by
  cases loadPassword_cases h with
  | decrypted hsecret hdecrypt hlegacy =>
      rw [hsecret]
      refine (CrashProgram.Succeeds.ofExcept hdecrypt t).bind ?_
      refine (CrashProgram.Succeeds.ofExcept (ensure_of hlegacy) t).bind ?_
      exact (keepSecret_succeeds _ _ t).bind (CrashProgram.Succeeds.pure _ _)
  | blank hsecret hempty =>
      rw [hsecret]
      show CrashProgram.Succeeds (firstPassword suite cipher env instanceId nonce stored.plaintext)
        stored _ stored
      unfold firstPassword
      rw [if_pos hempty]
      exact CrashProgram.Succeeds.pure _ stored
  | encrypted hsecret hvalue hencrypt =>
      rw [hsecret]
      show CrashProgram.Succeeds (firstPassword suite cipher env instanceId nonce t.plaintext) t _ _
      unfold firstPassword
      rw [if_neg hvalue]
      refine (CrashProgram.Succeeds.ofExcept hencrypt t).bind ?_
      exact (storeSecret_succeeds _ _ t).bind (CrashProgram.Succeeds.pure _ _)

/-- What a load that returns did. -/
theorem load_cases {config : MergedConfig}
    (h : load suite cipher env generated nonce db = .ok (config, stored)) :
    db.plaintextConflict = false ∧
      loadPassword suite cipher env (db.instanceId generated).1 nonce (db.instanceId generated).2 =
        .ok (config.routerPassword, stored) ∧
      config.validate = .ok () ∧
      config = { MergedConfig.fromEnvAndDb env db.overrides with
        routerPassword := config.routerPassword } := by
  unfold load at h
  obtain ⟨hconflict, h⟩ := ensure_bind_eq_ok_iff.mp h
  obtain ⟨⟨password, s⟩, hpassword, h⟩ := bind_eq_ok_iff.mp h
  obtain ⟨_, hvalid, h⟩ := bind_eq_ok_iff.mp h
  simp only [pure_eq_ok, Except.ok.injEq, Prod.mk.injEq] at h
  obtain ⟨rfl, rfl⟩ := h
  exact ⟨hconflict, hpassword, hvalid, rfl⟩

/-- Where every statement succeeds, a load that returns does so with its tables. -/
theorem loadStatements_succeeds {config : MergedConfig}
    (h : load suite cipher env generated nonce db = .ok (config, stored)) :
    CrashProgram.Succeeds (loadStatements suite cipher env generated nonce) db config stored := by
  obtain ⟨hconflict, hpassword, hvalid, hconfig⟩ := load_cases h
  have hstatements := passwordStatements_succeeds hpassword
  rw [(instanceId_plaintext db generated).2] at hstatements
  refine (query_succeeds id db).bind ?_
  refine (readInstanceId_succeeds generated db).bind ?_
  refine (CrashProgram.Succeeds.ofExcept (ensure_of hconflict) _).bind ?_
  refine (query_succeeds _ _).bind ?_
  refine hstatements.bind ?_
  dsimp only [id]
  rw [← hconfig]
  exact (CrashProgram.Succeeds.ofExcept hvalid _).bind (CrashProgram.Succeeds.pure _ _)

/-! ## Passwords in the tables -/

/-- The keys that older versions kept the password under. -/
def passwordKeys : List String := ["router_password", "routeros_password"]

/-- The tables hold the password, as text or as a secret. -/
def HoldsPassword (suite : CipherSuite) (cipher : SecretCipher) (instanceId : String)
    (s : ConfigDb) (password : String) : Prop :=
  (∃ key ∈ passwordKeys, s.config key = some password) ∨
    ∃ encrypted, s.secrets "router_password" = some encrypted ∧
      decryptPassword suite cipher instanceId encrypted = .ok password

/-- The credentials of the tables `db` are in the tables `s`: a stored secret is as it was,
and what was stored as text is there as text or as a secret. -/
structure KeepsPassword (suite : CipherSuite) (cipher : SecretCipher) (instanceId : String)
    (db s : ConfigDb) : Prop where
  secret : ∀ encrypted, db.secrets "router_password" = some encrypted →
    s.secrets "router_password" = some encrypted
  plaintext : ∀ key ∈ passwordKeys, ∀ value, db.config key = some value → value ≠ "" →
    HoldsPassword suite cipher instanceId s value

theorem holdsPassword_of_row {instanceId key value : String} {s : ConfigDb}
    (hkey : key ∈ passwordKeys) (h : s.config key = some value) :
    HoldsPassword suite cipher instanceId s value := Or.inl ⟨key, hkey, h⟩

theorem ne_instanceId_of_mem {key : String} (h : key ∈ passwordKeys) : key ≠ "instance_id" := by
  rintro rfl
  exact absurd h (by decide)

/-- Without a conflict the rows with a password agree with the text that is read. -/
theorem plaintext_of_row {key value : String} (hconflict : db.plaintextConflict = false)
    (hkey : key ∈ passwordKeys) (hrow : db.config key = some value) (hvalue : value ≠ "") :
    db.plaintext = some value := by
  have hfilter : (some value).filter (fun value => !value.isEmpty) = some value := by
    rw [Option.filter_some, if_pos]
    simpa using hvalue
  rw [ConfigDb.plaintext, getEither]
  rcases List.mem_cons.mp hkey with rfl | hkey
  · rw [hrow, Option.some_or, hfilter]
  · rw [List.mem_singleton.mp hkey] at hrow
    cases hcanonical : db.config "router_password" with
    | none => rw [Option.none_or, hrow, hfilter]
    | some canonical =>
        have hsame : canonical = value := by
          by_contra hne
          simp [ConfigDb.plaintextConflict, hcanonical, hrow, hne] at hconflict
        rw [Option.some_or, hsame, hfilter]

theorem migrated_secret (encrypted : EncryptedSecret) (db : ConfigDb) :
    (migratePlaintextRouterPassword encrypted db).secrets "router_password" = some encrypted := by
  simp only [migratePlaintextRouterPassword, Rows.put_self]

/-- A load keeps every password that the tables hold. -/
theorem loadPassword_keeps (hsuite : suite.Lawful) {instanceId password : String}
    (hconflict : db.plaintextConflict = false)
    (h : loadPassword suite cipher env instanceId nonce db = .ok (password, stored)) :
    KeepsPassword suite cipher instanceId db stored := by
  cases loadPassword_cases h with
  | @decrypted encrypted password hsecret hdecrypt hlegacy =>
      have hkept : (if db.plaintext.isSome then migratePlaintextRouterPassword encrypted db
          else db).secrets "router_password" = some encrypted := by
        split
        · exact migrated_secret encrypted db
        · exact hsecret
      constructor
      · intro other hother
        rw [hsecret] at hother
        rw [hkept, hother]
      · intro key hkey value hrow hvalue
        have hplain := plaintext_of_row hconflict hkey hrow hvalue
        rw [hplain, Option.all_some, decide_eq_true_eq] at hlegacy
        exact Or.inr ⟨encrypted, hkept, hlegacy ▸ hdecrypt⟩
  | blank hsecret hempty =>
      exact ⟨fun _ h => h, fun key hkey value hrow _ => holdsPassword_of_row hkey hrow⟩
  | @encrypted encrypted hsecret hvalue hencrypt =>
      constructor
      · intro other hother
        rw [hsecret] at hother
        cases hother
      · intro key hkey value hrow hvalue
        have hplain := plaintext_of_row hconflict hkey hrow hvalue
        rw [hplain, Option.getD_some] at hencrypt
        refine Or.inr ⟨encrypted, ?_, decryptPassword_encryptPassword hsuite hencrypt⟩
        rw [hplain, Option.isSome_some, if_pos rfl]
        exact migrated_secret encrypted db

/-- In every table that a load can be in, no password is lost. -/
theorem LoadReaches.keeps (hsuite : suite.Lawful) {s : ConfigDb}
    (h : LoadReaches suite cipher env generated nonce db s) :
    KeepsPassword suite cipher (db.instanceId generated).1 db s := by
  have hrows : ∀ key ∈ passwordKeys,
      (db.instanceId generated).2.config key = db.config key := fun key hkey =>
    instanceId_config db generated (ne_instanceId_of_mem hkey)
  rcases h with rfl | rfl | ⟨hconflict, password, h⟩
  · exact ⟨fun _ h => h, fun key hkey value hrow _ => holdsPassword_of_row hkey hrow⟩
  · refine ⟨fun _ h => (instanceId_secrets db generated).symm ▸ h, ?_⟩
    intro key hkey value hrow _
    exact holdsPassword_of_row hkey ((hrows key hkey).trans hrow)
  · have hkeeps := loadPassword_keeps hsuite
      ((instanceId_plaintext db generated).1.trans hconflict) h
    refine ⟨fun encrypted h => hkeeps.secret encrypted ((instanceId_secrets db generated).symm ▸ h),
      ?_⟩
    intro key hkey value hrow hvalue
    exact hkeeps.plaintext key hkey value ((hrows key hkey).trans hrow) hvalue

/-! ## A second load -/

/-- The merged fields do not depend on the instance identifier. -/
theorem fromEnvAndDb_congr {rows rows' : Rows String}
    (h : ∀ key, key ≠ "instance_id" → rows key = rows' key) :
    MergedConfig.fromEnvAndDb env rows = MergedConfig.fromEnvAndDb env rows' := by
  simp (disch := decide) only [MergedConfig.fromEnvAndDb, getEither, h]

theorem fromEnvAndDb_identified (db : ConfigDb) (generated : String) :
    MergedConfig.fromEnvAndDb env (db.instanceId generated).2.overrides =
      MergedConfig.fromEnvAndDb env db.overrides := by
  apply fromEnvAndDb_congr
  intro key hkey
  simp only [ConfigDb.overrides, Rows.erase, instanceId_config db generated hkey]

/-- A later load reads the same password and writes nothing. -/
theorem Loaded.loadPassword_again {instanceId password : String} {laterNonce : Nonce}
    (h : Loaded suite cipher env instanceId db password stored) :
    loadPassword suite cipher env instanceId laterNonce stored = .ok (password, stored) := by
  cases hsecret : stored.secrets "router_password" with
  | some encrypted =>
      rw [loadPassword_of_secret hsecret (h.secret encrypted hsecret) (by rw [h.plaintext]; rfl),
        h.plaintext]
      rfl
  | none =>
      obtain ⟨rfl, henv⟩ := h.absent hsecret
      rw [loadPassword_of_empty hsecret (by rw [h.plaintext, henv]; rfl), h.plaintext, henv]
      rfl

/-- A load of the tables that a load left. -/
theorem load_again (hsuite : suite.Lawful) {config : MergedConfig}
    (h : load suite cipher env generated nonce db = .ok (config, stored))
    (laterGenerated : String) (laterNonce : Nonce) :
    (stored.instanceId laterGenerated).2 = stored ∧
      load suite cipher env laterGenerated laterNonce stored = .ok (config, stored) := by
  obtain ⟨hconflict, hpassword, hvalid, hconfig⟩ := load_cases h
  have hloaded := loadPassword_ok hsuite
    ((instanceId_plaintext db generated).1.trans hconflict) hpassword
  have hknown : stored.instanceId laterGenerated = ((db.instanceId generated).1, stored) :=
    ConfigDb.instanceId_known (hloaded.instanceRow.trans (ConfigDb.instanceId_spec db generated))
  have hmerged : { MergedConfig.fromEnvAndDb env stored.overrides with
      routerPassword := config.routerPassword } = config := by
    rw [hloaded.overrides, fromEnvAndDb_identified]
    exact hconfig.symm
  refine ⟨by rw [hknown], ?_⟩
  unfold load
  rw [hknown]
  simp only [ensure_of hloaded.conflict, ok_bind, hloaded.loadPassword_again, hmerged, hvalid,
    pure_eq_ok]

/-! ## Loads that may fail -/

/-- The password that a load should find: the stored secret, else the text, else that of
the environment. -/
def expectedPassword (suite : CipherSuite) (cipher : SecretCipher) (env : Env)
    (instanceId : String) (db : ConfigDb) : Option String :=
  match db.secrets "router_password" with
  | some encrypted => (decryptPassword suite cipher instanceId encrypted).toOption
  | none => some (db.plaintext.getD env.routerPassword)

/-- The tables have a password of their own. -/
def ConfigDb.hasPassword (db : ConfigDb) : Bool :=
  (db.secrets "router_password").isSome || db.plaintext.isSome

theorem loadPassword_expected {instanceId password : String}
    (h : loadPassword suite cipher env instanceId nonce db = .ok (password, stored)) :
    expectedPassword suite cipher env instanceId db = some password := by
  unfold expectedPassword
  cases loadPassword_cases h with
  | decrypted hsecret hdecrypt _ =>
      simp only [hsecret, hdecrypt]
      rfl
  | blank hsecret _ =>
      simp only [hsecret]
  | encrypted hsecret _ _ =>
      simp only [hsecret]

/-- A password that is read as text is in one of the rows. -/
theorem row_of_plaintext {value : String} (h : db.plaintext = some value) :
    value ≠ "" ∧ ∃ key ∈ passwordKeys, db.config key = some value := by
  obtain ⟨heither, hvalue⟩ := Option.filter_eq_some_iff.mp h
  refine ⟨by simpa using hvalue, ?_⟩
  rcases Option.or_eq_some_iff.mp heither with hrow | ⟨_, hrow⟩
  · exact ⟨"router_password", by simp [passwordKeys], hrow⟩
  · exact ⟨"routeros_password", by simp [passwordKeys], hrow⟩

/-- The password of the tables is still held. -/
theorem KeepsPassword.holds {instanceId password : String} {s : ConfigDb}
    (h : KeepsPassword suite cipher instanceId db s) (hdb : db.hasPassword = true)
    (hexpected : expectedPassword suite cipher env instanceId db = some password) :
    HoldsPassword suite cipher instanceId s password := by
  unfold expectedPassword at hexpected
  cases hsecret : db.secrets "router_password" with
  | some encrypted =>
      simp only [hsecret] at hexpected
      refine Or.inr ⟨encrypted, h.secret encrypted hsecret, ?_⟩
      cases hdecrypt : decryptPassword suite cipher instanceId encrypted with
      | error e =>
          rw [hdecrypt] at hexpected
          cases hexpected
      | ok decrypted =>
          rw [hdecrypt] at hexpected
          exact congrArg Except.ok (Option.some.inj hexpected)
  | none =>
      simp only [hsecret, Option.some.injEq] at hexpected
      simp only [ConfigDb.hasPassword, hsecret, Option.isSome_none, Bool.false_or] at hdb
      obtain ⟨value, hvalue⟩ := Option.isSome_iff_exists.mp hdb
      rw [hvalue, Option.getD_some] at hexpected
      obtain ⟨hne, key, hkey, hrow⟩ := row_of_plaintext hvalue
      exact hexpected ▸ h.plaintext key hkey value hrow hne

/-- What a load that returns has settled: its password is the expected one, no password is
left as text, and whatever happens to a second load, it changes no row and returns the same
configuration if any. -/
structure LoadSettled (suite : CipherSuite) (cipher : SecretCipher) (env : Env)
    (instanceId : String) (db : ConfigDb) (config : MergedConfig) (stored : ConfigDb) : Prop where
  password : expectedPassword suite cipher env instanceId db = some config.routerPassword
  noPlaintext : ∀ key ∈ passwordKeys, ∀ value, stored.config key = some value → value = ""
  unchanged : ∀ laterGenerated laterNonce decisions,
    ∀ s ∈ (CrashProgram.start (loadStatements suite cipher env laterGenerated laterNonce) stored
      decisions).2.passed, s = stored
  same : ∀ laterGenerated laterNonce decisions later,
    (CrashProgram.start (loadStatements suite cipher env laterGenerated laterNonce) stored
      decisions).1 = .ok later → later = config
  returns : ∀ laterGenerated laterNonce,
    (CrashProgram.start (loadStatements suite cipher env laterGenerated laterNonce) stored []).1 =
      .ok config

theorem load_settled (hsuite : suite.Lawful) {config : MergedConfig}
    (h : load suite cipher env generated nonce db = .ok (config, stored)) :
    LoadSettled suite cipher env (db.instanceId generated).1 db config stored := by
  obtain ⟨hconflict, hpassword, _, _⟩ := load_cases h
  have hloaded := loadPassword_ok hsuite
    ((instanceId_plaintext db generated).1.trans hconflict) hpassword
  have hexpected := loadPassword_expected hpassword
  have hsecrets := instanceId_secrets db generated
  have hplaintext := (instanceId_plaintext db generated).2
  -- the only tables that a second load reaches are those it started from
  have hreaches : ∀ laterGenerated laterNonce s,
      LoadReaches suite cipher env laterGenerated laterNonce stored s → s = stored := by
    intro laterGenerated laterNonce s hs
    obtain ⟨hsame, hagain⟩ := load_again hsuite h laterGenerated laterNonce
    rcases hs with rfl | rfl | ⟨_, password, hs⟩
    · rfl
    · exact hsame
    · have hagain' := (load_cases hagain).2.1
      rw [hs] at hagain'
      exact (Prod.mk.inj (Except.ok.inj hagain')).2
  refine ⟨?_, ?_, ?_, ?_, ?_⟩
  · unfold expectedPassword at hexpected ⊢
    rwa [hsecrets, hplaintext] at hexpected
  · intro key hkey value hrow
    by_contra hvalue
    have hplain := plaintext_of_row hloaded.conflict hkey hrow hvalue
    rw [hloaded.plaintext] at hplain
    cases hplain
  · intro laterGenerated laterNonce decisions s hs
    have hspec := (loadStatements_spec suite cipher env laterGenerated laterNonce stored).start rfl
      (Or.inl rfl) decisions
    exact hreaches laterGenerated laterNonce s (hspec.1 s hs)
  · intro laterGenerated laterNonce decisions later hlater
    have hspec := ((loadStatements_spec suite cipher env laterGenerated laterNonce stored).start rfl
      (Or.inl rfl) decisions).2
    rw [hlater] at hspec
    have hagain := (load_again hsuite h laterGenerated laterNonce).2
    rw [hspec] at hagain
    exact (Prod.mk.inj (Except.ok.inj hagain)).1
  · intro laterGenerated laterNonce
    exact (loadStatements_succeeds (load_again hsuite h laterGenerated laterNonce).2).start.1

/-! ## The password of the environment -/

theorem ConfigDb.hasPassword_eq_false_iff :
    db.hasPassword = false ↔ db.secrets "router_password" = none ∧ db.plaintext = none := by
  simp only [ConfigDb.hasPassword, Bool.or_eq_false_iff, Option.isSome_eq_false_iff,
    Option.isNone_iff_eq_none]

/-- Tables without a password get that of the environment. -/
theorem loadPassword_saves (hsuite : suite.Lawful) {instanceId password : String}
    (hdb : db.hasPassword = false) (henv : env.routerPassword ≠ "")
    (h : loadPassword suite cipher env instanceId nonce db = .ok (password, stored)) :
    HoldsPassword suite cipher instanceId stored env.routerPassword := by
  obtain ⟨hnone, hplain⟩ := ConfigDb.hasPassword_eq_false_iff.mp hdb
  cases loadPassword_cases h with
  | decrypted hsecret _ _ =>
      rw [hnone] at hsecret
      cases hsecret
  | blank _ hempty =>
      rw [hplain, Option.getD_none] at hempty
      exact absurd (String.isEmpty_iff.mp hempty) henv
  | @encrypted encrypted _ _ hencrypt =>
      rw [hplain, Option.getD_none] at hencrypt
      refine Or.inr ⟨encrypted, ?_, decryptPassword_encryptPassword hsuite hencrypt⟩
      rw [hplain]
      simp only [Option.isSome_none, Bool.false_eq_true, if_false, saveConfigTransaction,
        Option.any_none, Rows.put_self]

theorem identified_hasPassword (db : ConfigDb) (generated : String) :
    (db.instanceId generated).2.hasPassword = db.hasPassword := by
  rw [ConfigDb.hasPassword, ConfigDb.hasPassword, instanceId_secrets,
    (instanceId_plaintext db generated).2]

/-- A load of tables without a password stops in its check of the configuration with the
password stored, and else for a statement or the cipher. -/
theorem loadStatements_refused (suite : CipherSuite) (cipher : SecretCipher) (env : Env)
    (generated : String) (nonce : Nonce) (hdb : db.hasPassword = false)
    (hconflict : db.plaintextConflict = false) :
    CrashProgram.Triple (fun _ => True) (fun s => s = db)
      (loadStatements suite cipher env generated nonce) (fun _ _ => True)
      (fun e s => IsFailure e ∨ ∃ password,
        loadPassword suite cipher env (db.instanceId generated).1 nonce
          (db.instanceId generated).2 = .ok (password, s)) := by
  have hfailed : IsFailure .database := nofun
  have hsecret : (db.instanceId generated).2.secrets "router_password" = none := by
    rw [instanceId_secrets]
    exact (ConfigDb.hasPassword_eq_false_iff.mp hdb).1
  apply CrashProgram.Triple.bind_known db db (query_spec (Or.inl hfailed) trivial)
  apply CrashProgram.Triple.bind_known _ _ (readInstanceId_spec (Or.inl hfailed) trivial)
  apply CrashProgram.Triple.bind_ofExcept
  · intro e s hensure _
    rw [ensure_of hconflict] at hensure
    cases hensure
  intro _ _
  apply CrashProgram.Triple.bind_known _ _ (query_spec (Or.inl hfailed) trivial)
  rw [← (instanceId_plaintext db generated).2, hsecret]
  apply CrashProgram.Triple.bind _
    (firstPassword_spec hsecret trivial (fun _ _ _ => trivial) (fun _ _ h _ => Or.inl h))
  intro password
  apply CrashProgram.Triple.bind_ofExcept (fun _ s _ h => Or.inr ⟨password, h⟩)
  intro _ _
  exact CrashProgram.Triple.pure (fun _ _ => trivial)

/-- The password of the environment, when a load of tables without a password stops: it is
stored or there is no secret at all, and when the configuration is refused it is stored. -/
structure SavesEnvironment (suite : CipherSuite) (cipher : SecretCipher) (env : Env)
    (instanceId : String) (db : ConfigDb) (e : AppError) (s : ConfigDb) : Prop where
  savedOrNone : s.secrets "router_password" = none ∨
    HoldsPassword suite cipher instanceId s env.routerPassword
  refused : db.plaintextConflict = false → ∀ message, e = .invalidData message →
    HoldsPassword suite cipher instanceId s env.routerPassword

theorem LoadReaches.saves (hsuite : suite.Lawful) (hdb : db.hasPassword = false)
    (henv : env.routerPassword ≠ "") {s : ConfigDb}
    (h : LoadReaches suite cipher env generated nonce db s) :
    s.secrets "router_password" = none ∨
      HoldsPassword suite cipher (db.instanceId generated).1 s env.routerPassword := by
  have hnone : db.secrets "router_password" = none :=
    (ConfigDb.hasPassword_eq_false_iff.mp hdb).1
  rcases h with rfl | rfl | ⟨_, password, h⟩
  · exact Or.inl hnone
  · exact Or.inl (by rw [instanceId_secrets, hnone])
  · exact Or.inr (loadPassword_saves hsuite ((identified_hasPassword db generated).trans hdb)
      henv h)

/-- A load, whatever happens to its statements: a crash or an error leaves every stored
credential, an error leaves no other secret than the password of the environment where
nothing was stored, and a load that returns has settled them. -/
structure LosesNothing (suite : CipherSuite) (cipher : SecretCipher) (env : Env)
    (instanceId : String) (db : ConfigDb)
    (result : Except AppError MergedConfig × Machine ConfigDb) : Prop where
  crash : ∀ s ∈ result.2.passed, KeepsPassword suite cipher instanceId db s
  error : ∀ e, result.1 = .error e →
    KeepsPassword suite cipher instanceId db result.2.state ∧
      (db.hasPassword = true →
        ∀ password, expectedPassword suite cipher env instanceId db = some password →
          HoldsPassword suite cipher instanceId result.2.state password)
  environment : db.hasPassword = false → env.routerPassword ≠ "" → ∀ e, result.1 = .error e →
    SavesEnvironment suite cipher env instanceId db e result.2.state
  ok : ∀ config, result.1 = .ok config →
    LoadSettled suite cipher env instanceId db config result.2.state

/-- The migration of the password loses nothing. -/
theorem password_migration_loses_nothing {suite : CipherSuite} (hsuite : suite.Lawful)
    (cipher : SecretCipher) (env : Env) (generated : String) (nonce : Nonce) (db : ConfigDb)
    (decisions : List (Option String)) :
    LosesNothing suite cipher env (db.instanceId generated).1 db
      (CrashProgram.start (loadStatements suite cipher env generated nonce) db decisions) := by
  obtain ⟨hpassed, hresult⟩ := (loadStatements_spec suite cipher env generated nonce db).start rfl
    (Or.inl rfl) decisions
  refine ⟨fun s hs => (hpassed s hs).keeps hsuite, ?_, ?_, ?_⟩
  · intro e he
    rw [he] at hresult
    have hkeeps := hresult.keeps hsuite
    exact ⟨hkeeps, fun hdb password hexpected => hkeeps.holds hdb hexpected⟩
  · intro hdb henv e he
    refine ⟨?_, ?_⟩
    · rw [he] at hresult
      exact hresult.saves hsuite hdb henv
    · rintro hconflict message rfl
      have hrefused := ((loadStatements_refused suite cipher env generated nonce hdb
        hconflict).start rfl trivial decisions).2
      rw [he] at hrefused
      rcases hrefused with hfailure | ⟨password, hload⟩
      · exact absurd rfl (hfailure message)
      · exact loadPassword_saves hsuite ((identified_hasPassword db generated).trans hdb) henv hload
  · intro config hconfig
    rw [hconfig] at hresult
    exact load_settled hsuite hresult

/-! ### Runs on fixed inputs -/

/-- Tables of an older version, with the password as text. -/
def legacyDb : ConfigDb where
  config := fun key => if key = "routeros_password" then some "old-secret" else none
  secrets := fun _ => none

/-- A load of them, whose compaction fails after the commit. -/
def uncompactedLoad : Except AppError MergedConfig × Machine ConfigDb :=
  CrashProgram.start (loadStatements prefixSuite runCipher deployedEnv "instance" runNonce) legacyDb
    [none, none, none, none, none, some "disk I/O error"]

theorem password_migration_loses_nothing_uncompacted :
    uncompactedLoad.1 = .error .database ∧
      uncompactedLoad.2.state.config "routeros_password" = none ∧
      HoldsPassword prefixSuite runCipher "instance" uncompactedLoad.2.state "old-secret" := by
  have herror : uncompactedLoad.1 = .error .database := by decide +kernel
  refine ⟨herror, by decide +kernel, ?_⟩
  exact ((password_migration_loses_nothing prefixSuite_lawful runCipher deployedEnv "instance"
    runNonce legacyDb _).error _ herror).2 (by decide +kernel) _ (by decide +kernel)

/-- A first load of empty tables, whose secret cannot be saved. -/
def unsavedLoad : Except AppError MergedConfig × Machine ConfigDb :=
  CrashProgram.start (loadStatements prefixSuite runCipher deployedEnv "instance" runNonce)
    ⟨fun _ => none, fun _ => none⟩ [none, none, none, some "database or disk is full"]

/-- The password of the environment is not in the tables when it could not be saved. -/
theorem unsaved_password_is_not_held :
    unsavedLoad.1 = .error .database ∧
      expectedPassword prefixSuite runCipher deployedEnv "instance"
        ⟨fun _ => none, fun _ => none⟩ = some "from-env" ∧
      ¬ HoldsPassword prefixSuite runCipher "instance" unsavedLoad.2.state "from-env" := by
  have hcanonical : unsavedLoad.2.state.config "router_password" = none := by decide +kernel
  have hlegacy : unsavedLoad.2.state.config "routeros_password" = none := by decide +kernel
  have hsecret : unsavedLoad.2.state.secrets "router_password" = none := by decide +kernel
  refine ⟨by decide +kernel, by decide +kernel, ?_⟩
  rintro (⟨key, hkey, hrow⟩ | ⟨encrypted, hstored, _⟩)
  · rcases List.mem_cons.mp hkey with rfl | hkey
    · rw [hcanonical] at hrow
      cases hrow
    · rw [List.mem_singleton.mp hkey, hlegacy] at hrow
      cases hrow
  · rw [hsecret] at hstored
    cases hstored

end RouterView.Config
