/-
  Config/Migration.lean --- the move of the router password from text to a secret.

  `ConfigStore::load` statement by statement, with
  `migrate_plaintext_router_password` and `save_config_transaction`: each of them may
  fail, and the process may die after any of them.  A transaction that fails has no
  effect; the statements after the commit of the migration can fail as well.

  Scope: one load, of tables of any content.  A statement that fails leaves the tables as
  they were; a process that dies leaves them as they were after its last statement.  Left
  out: torn writes of the storage, and a second process on the same database.
-/
import RouterView.Foundation.CrashProgram
import RouterView.Config.Reload

set_option autoImplicit false

namespace RouterView.Config

open RouterView.Foundation
open RouterView.Secrets

/-! ## Statements -/

/-- A computation on the tables that may fail at any statement. -/
abbrev Loading (α : Type) : Type := CrashProgram ConfigDb AppError α

/-- A statement or transaction, with its effect. -/
def statement (effect : ConfigDb → ConfigDb) : Loading Unit :=
  CrashProgram.step (fun _ => .database) effect

/-- A query. -/
def query {α : Type} (result : ConfigDb → α) : Loading α := do
  statement id
  CrashProgram.look result

/-- `instance_id`, which stores the identifier that it generates. -/
def readInstanceId (generated : String) : Loading String := do
  statement (fun db => (db.instanceId generated).2)
  CrashProgram.look (fun db => (db.instanceId generated).1)

/-- `migrate_plaintext_router_password`: the pragmas, the transaction with the secret read
back in it, and the compaction. -/
def migrateStatements (encrypted : EncryptedSecret) : Loading Unit := do
  statement id
  let stored ← CrashProgram.look (fun db =>
    (db.secrets.put "router_password" encrypted) "router_password")
  if stored = some encrypted then do
    statement (migratePlaintextRouterPassword encrypted)
    statement id
  else CrashProgram.fail .database

/-- `save_config_transaction` with the secret only. -/
def saveSecret (encrypted : EncryptedSecret) : Loading Unit :=
  statement (fun db =>
    (saveConfigTransaction [] (some ("router_password", encrypted)) none none db).2)

/-- What a stored secret causes: text that was read is removed. -/
def keepSecret (hadPlaintext : Bool) (encrypted : EncryptedSecret) : Loading Unit :=
  if hadPlaintext then migrateStatements encrypted else pure ()

/-- What a new secret causes. -/
def storeSecret (hadPlaintext : Bool) (encrypted : EncryptedSecret) : Loading Unit :=
  if hadPlaintext then migrateStatements encrypted else saveSecret encrypted

section

variable (suite : CipherSuite) (cipher : SecretCipher)

/-- The password of a load where a secret is stored. -/
def storedPassword (instanceId : String) (plaintext : Option String)
    (encrypted : EncryptedSecret) : Loading String := do
  let decrypted ← CrashProgram.ofExcept (decryptPassword suite cipher instanceId encrypted)
  CrashProgram.ofExcept (ensure (plaintext.all (fun legacy => decide (legacy = decrypted)) = true)
    (.invalidData
      "encrypted and plaintext router passwords conflict; refusing automatic migration"))
  keepSecret plaintext.isSome encrypted
  return decrypted

/-- The password of a load where no secret is stored. -/
def firstPassword (env : Env) (instanceId : String) (nonce : Nonce)
    (plaintext : Option String) : Loading String :=
  let value := plaintext.getD env.routerPassword
  if value.isEmpty then pure value
  else do
    let encrypted ← CrashProgram.ofExcept (encryptPassword suite cipher instanceId nonce value)
    storeSecret plaintext.isSome encrypted
    return value

/-- The password of a load. -/
def passwordStatements (env : Env) (instanceId : String) (nonce : Nonce)
    (plaintext : Option String) : Option EncryptedSecret → Loading String
  | some encrypted => storedPassword suite cipher instanceId plaintext encrypted
  | none => firstPassword suite cipher env instanceId nonce plaintext

/-- `ConfigStore::load`, statement by statement. -/
def loadStatements (env : Env) (generatedId : String) (nonce : Nonce) : Loading MergedConfig := do
  let read ← query id
  let instanceId ← readInstanceId generatedId
  CrashProgram.ofExcept (ensure (read.plaintextConflict = false)
    (.invalidData
      "conflicting router_password and routeros_password values; remove one before migration"))
  let stored ← query (fun db => db.secrets "router_password")
  let password ← passwordStatements suite cipher env instanceId nonce read.plaintext stored
  let merged := { MergedConfig.fromEnvAndDb env read.overrides with routerPassword := password }
  CrashProgram.ofExcept merged.validate
  return merged

end

/-! ## The statements against the load -/

section

variable {suite : CipherSuite} {cipher : SecretCipher} {env : Env} {instanceId : String}
  {nonce : Nonce} {db t : ConfigDb} {inv : ConfigDb → Prop} {err : AppError → ConfigDb → Prop}

theorem statement_spec {effect : ConfigDb → ConfigDb} (hfailed : err .database t)
    (heffect : inv (effect t)) :
    CrashProgram.Triple inv (fun s => s = t) (statement effect) (fun _ s => s = effect t) err := by
  apply CrashProgram.Triple.step
  · rintro s rfl
    exact ⟨heffect, rfl⟩
  · rintro _ s rfl
    exact hfailed

theorem query_spec {α : Type} {result : ConfigDb → α} (hfailed : err .database t) (ht : inv t) :
    CrashProgram.Triple inv (fun s => s = t) (query result)
      (fun a s => a = result t ∧ s = t) err := by
  apply CrashProgram.Triple.bind (fun _ s => s = t) (statement_spec hfailed ht)
  rintro ⟨⟩
  apply CrashProgram.Triple.look
  rintro s rfl
  exact ⟨rfl, rfl⟩

theorem migrateStatements_spec {encrypted : EncryptedSecret} (ht : inv t)
    (hmigrated : inv (migratePlaintextRouterPassword encrypted t)) (hfailed : err .database t)
    (huncompacted : err .database (migratePlaintextRouterPassword encrypted t)) :
    CrashProgram.Triple inv (fun s => s = t) (migrateStatements encrypted)
      (fun _ s => s = migratePlaintextRouterPassword encrypted t) err := by
  apply CrashProgram.Triple.bind (fun _ s => s = t) (statement_spec hfailed ht)
  rintro ⟨⟩
  apply CrashProgram.Triple.bind_look
  intro stored
  apply CrashProgram.Triple.of_pre (fun s => s = t) (fun s h => h.1)
  split
  · apply CrashProgram.Triple.bind _ (statement_spec hfailed hmigrated)
    rintro ⟨⟩
    exact statement_spec huncompacted hmigrated
  · apply CrashProgram.Triple.fail
    rintro s rfl
    exact hfailed

theorem loadPassword_of_secret {encrypted : EncryptedSecret} {decrypted : String}
    (hsecret : t.secrets "router_password" = some encrypted)
    (hdecrypt : decryptPassword suite cipher instanceId encrypted = .ok decrypted)
    (hlegacy : t.plaintext.all (fun legacy => decide (legacy = decrypted)) = true) :
    loadPassword suite cipher env instanceId nonce t = .ok (decrypted,
      if t.plaintext.isSome then migratePlaintextRouterPassword encrypted t else t) := by
  simp only [loadPassword, hsecret, hdecrypt, ok_bind, ensure_of hlegacy, pure_eq_ok]

theorem loadPassword_of_empty (hsecret : t.secrets "router_password" = none)
    (hempty : (t.plaintext.getD env.routerPassword).isEmpty = true) :
    loadPassword suite cipher env instanceId nonce t =
      .ok (t.plaintext.getD env.routerPassword, t) := by
  simp only [loadPassword, hsecret, hempty, if_true]

theorem loadPassword_of_value {encrypted : EncryptedSecret}
    (hsecret : t.secrets "router_password" = none)
    (hvalue : ¬ (t.plaintext.getD env.routerPassword).isEmpty = true)
    (hencrypt : encryptPassword suite cipher instanceId nonce
      (t.plaintext.getD env.routerPassword) = .ok encrypted) :
    loadPassword suite cipher env instanceId nonce t = .ok (t.plaintext.getD env.routerPassword,
      if t.plaintext.isSome then migratePlaintextRouterPassword encrypted t
      else (saveConfigTransaction [] (some ("router_password", encrypted)) none none t).2) := by
  simp only [loadPassword, hsecret, hvalue, if_false, hencrypt, ok_bind, pure_eq_ok,
    Bool.false_eq_true]

/-- The errors of the store and of the cipher: no check of the load gives one of them. -/
def IsFailure (e : AppError) : Prop := ∀ message, e ≠ .invalidData message

theorem encryptPassword_failure {password : String} {e : AppError}
    (h : encryptPassword suite cipher instanceId nonce password = .error e) : IsFailure e := by
  unfold encryptPassword secretError at h
  split at h
  · cases h
  · cases h
    exact nofun

/-- Where no secret is stored, the statements return a password where the load does, with
its tables, and fail for the store or the cipher only. -/
theorem firstPassword_spec (hsecret : t.secrets "router_password" = none) (ht : inv t)
    (hinv : ∀ password s, loadPassword suite cipher env instanceId nonce t = .ok (password, s) →
      inv s) (herr : ∀ e s, IsFailure e → inv s → err e s) :
    CrashProgram.Triple inv (fun s => s = t)
      (firstPassword suite cipher env instanceId nonce t.plaintext)
      (fun password s => loadPassword suite cipher env instanceId nonce t = .ok (password, s))
      err := by
  have hfailed : ∀ s, inv s → err .database s := fun s => herr _ s nofun
  apply CrashProgram.Triple.ite
  · intro hempty
    have hload : loadPassword suite cipher env instanceId nonce t =
        .ok (t.plaintext.getD env.routerPassword, t) :=
      loadPassword_of_empty hsecret hempty
    exact CrashProgram.Triple.pure (fun _ h => h ▸ hload)
  · intro hvalue
    apply CrashProgram.Triple.bind_ofExcept
    · rintro e s hencrypt rfl
      exact herr e s (encryptPassword_failure hencrypt) ht
    intro encrypted hencrypt
    have hload := loadPassword_of_value hsecret hvalue hencrypt
    apply CrashProgram.Triple.bind (fun _ s =>
      loadPassword suite cipher env instanceId nonce t =
        .ok (t.plaintext.getD env.routerPassword, s))
    · apply CrashProgram.Triple.ite
      · intro hplain
        rw [if_pos hplain] at hload
        have hmigrated := hinv _ _ hload
        exact (migrateStatements_spec ht hmigrated (hfailed _ ht) (hfailed _ hmigrated)).weaken
          (fun _ h => h) (fun _ _ h => h ▸ hload) (fun _ _ h => h)
      · intro hplain
        rw [if_neg hplain] at hload
        exact (statement_spec (hfailed _ ht) (hinv _ _ hload)).weaken (fun _ h => h)
          (fun _ _ h => h ▸ hload) (fun _ _ h => h)
    · rintro ⟨⟩
      exact CrashProgram.Triple.pure (fun _ h => h)

/-- The statements return a password where the load does, with its tables. -/
theorem passwordStatements_spec (ht : inv t)
    (hinv : ∀ password s, loadPassword suite cipher env instanceId nonce t = .ok (password, s) →
      inv s) :
    CrashProgram.Triple inv (fun s => s = t)
      (passwordStatements suite cipher env instanceId nonce t.plaintext
        (t.secrets "router_password"))
      (fun password s => loadPassword suite cipher env instanceId nonce t = .ok (password, s))
      (fun _ s => inv s) := by
  have herr : ∀ {α : Type} {x : Except AppError α} (e : AppError) (s : ConfigDb),
      x = .error e → s = t → inv s := fun _ _ _ heq => heq ▸ ht
  cases hsecret : t.secrets "router_password" with
  | some encrypted =>
      apply CrashProgram.Triple.bind_ofExcept herr
      intro decrypted hdecrypt
      apply CrashProgram.Triple.bind_ofExcept herr
      intro _ hlegacy
      have hload : loadPassword suite cipher env instanceId nonce t = .ok (decrypted,
          if t.plaintext.isSome then migratePlaintextRouterPassword encrypted t else t) :=
        loadPassword_of_secret hsecret hdecrypt (ensure_eq_ok_iff.mp hlegacy)
      apply CrashProgram.Triple.bind (fun _ s =>
        loadPassword suite cipher env instanceId nonce t = .ok (decrypted, s))
      · apply CrashProgram.Triple.ite
        · intro hplain
          rw [if_pos hplain] at hload
          have hmigrated := hinv _ _ hload
          exact (migrateStatements_spec ht hmigrated ht hmigrated).weaken (fun _ h => h)
            (fun _ _ h => h ▸ hload) (fun _ _ h => h)
        · intro hplain
          rw [if_neg hplain] at hload
          exact CrashProgram.Triple.pure (fun _ h => h ▸ hload)
      · rintro ⟨⟩
        exact CrashProgram.Triple.pure (fun _ h => h)
  | none => exact firstPassword_spec hsecret ht hinv (fun _ _ _ h => h)

end

end RouterView.Config
