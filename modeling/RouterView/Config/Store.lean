/-
  Config/Store.lean --- the persisted configuration and its loading.

  The tables `config` and `encrypted_secrets` as `db/mod.rs` reads and writes
  them, and `ConfigStore::load` of `config_store.rs`.  A generated instance
  identifier and a generated nonce are arguments.  The statements of a load are
  taken to succeed; a load that fails on one starts no process.

  The statements one by one, each of which may fail, are in `Config/Migration.lean`.
-/
import RouterView.Config.Merged
import RouterView.Secrets.Cipher

set_option autoImplicit false

namespace RouterView.Config

open RouterView.Foundation
open RouterView.Secrets

/-! ## Tables -/

/-- The rows of `config` and `encrypted_secrets`. -/
structure ConfigDb where
  config : Rows String
  secrets : Rows EncryptedSecret

namespace ConfigDb

/-- `instance_id`, with the identifier that it generates where there is none. -/
def instanceId (generated : String) (db : ConfigDb) : String × ConfigDb :=
  match db.config "instance_id" with
  | some existing => (existing, db)
  | none => (generated, { db with config := db.config.put "instance_id" generated })

/-- The stored revision. -/
def currentRevision (db : ConfigDb) : UInt64 :=
  ((db.config "config_revision").bind parseU64).getD 0

end ConfigDb

/-- `u64::saturating_add(1)`. -/
def nextRevision (revision : UInt64) : UInt64 :=
  if revision.toNat + 1 < 2 ^ 64 then revision + 1 else revision

/-- The rows after all values were written. -/
def putAll (rows : Rows String) (values : List (String × String)) : Rows String :=
  values.foldl (fun rows value => rows.put value.1 value.2) rows

/-- `save_config_transaction`: whether the expected revision was the stored one,
and the tables it leaves. -/
def saveConfigTransaction (values : List (String × String))
    (secret : Option (String × EncryptedSecret)) (deleteSecret : Option String)
    (expectedRevision : Option UInt64) (db : ConfigDb) : Bool × ConfigDb :=
  if expectedRevision.any (fun expected => decide (expected ≠ db.currentRevision)) then (false, db)
  else
    let config := putAll db.config values
    let secrets := match secret with
      | some (name, encrypted) => db.secrets.put name encrypted
      | none => db.secrets
    let secrets := match deleteSecret with
      | some name => secrets.erase name
      | none => secrets
    let config := match expectedRevision with
      | some _ => config.put "config_revision" (toString (nextRevision db.currentRevision))
      | none => config
    (true, { config := config, secrets := secrets })

/-- `migrate_plaintext_router_password`. -/
def migratePlaintextRouterPassword (encrypted : EncryptedSecret) (db : ConfigDb) : ConfigDb where
  config := (db.config.erase "router_password").erase "routeros_password"
  secrets := db.secrets.put "router_password" encrypted

/-! ## Text as bytes -/

/-- `String::from_utf8`. -/
def fromUtf8 (bytes : Bytes) : Option String := String.fromUTF8? ⟨bytes.toArray⟩

@[simp] theorem fromUtf8_asBytes (s : String) : fromUtf8 (asBytes s) = some s := by
  unfold fromUtf8 asBytes
  rw [Array.toArray_toList, String.fromUTF8?, dif_pos s.isValidUTF8]
  rfl

/-! ## Loading -/

/-- The two rows that older versions kept the password in. -/
def ConfigDb.plaintextConflict (db : ConfigDb) : Bool :=
  (db.config "router_password").isSome && (db.config "routeros_password").isSome &&
    decide (db.config "router_password" ≠ db.config "routeros_password")

/-- The password that an older version stored as text. -/
def ConfigDb.plaintext (db : ConfigDb) : Option String :=
  (getEither db.config "router_password" "routeros_password").filter (fun value => !value.isEmpty)

section

variable (suite : CipherSuite) (cipher : SecretCipher)

/-- The errors of the cipher as those of the application. -/
def secretError {α : Type} (result : Except SecretError α) : Except AppError α :=
  match result with
  | .ok a => .ok a
  | .error e => .error (.secret e.text)

/-- The encryption of the router password. -/
def encryptPassword (instanceId : String) (nonce : Nonce) (password : String) :
    Except AppError EncryptedSecret :=
  secretError (cipher.encrypt suite nonce instanceId "router_password" (asBytes password))

/-- The decryption of the router password. -/
def decryptPassword (instanceId : String) (encrypted : EncryptedSecret) :
    Except AppError String := do
  let decrypted ← secretError (cipher.decrypt suite instanceId "router_password" encrypted)
  okOr (fromUtf8 decrypted) (.secret "router password is not valid UTF-8")

/-- The password of a load, and the tables after the migrations that it makes. -/
def loadPassword (env : Env) (instanceId : String) (nonce : Nonce) (db : ConfigDb) :
    Except AppError (String × ConfigDb) :=
  match db.secrets "router_password" with
  | some encrypted => do
      let decrypted ← decryptPassword suite cipher instanceId encrypted
      ensure (db.plaintext.all (fun legacy => decide (legacy = decrypted)) = true)
        (.invalidData
          "encrypted and plaintext router passwords conflict; refusing automatic migration")
      return (decrypted,
        if db.plaintext.isSome then migratePlaintextRouterPassword encrypted db else db)
  | none =>
      let value := db.plaintext.getD env.routerPassword
      if value.isEmpty then .ok (value, db)
      else do
        let encrypted ← encryptPassword suite cipher instanceId nonce value
        return (value,
          if db.plaintext.isSome then migratePlaintextRouterPassword encrypted db
          else (saveConfigTransaction [] (some ("router_password", encrypted)) none none db).2)

/-- The rows that are merged. -/
def ConfigDb.overrides (db : ConfigDb) : Rows String :=
  (db.config.erase "router_password").erase "routeros_password"

/-- `ConfigStore::load`, with the tables that it leaves. -/
def load (env : Env) (generatedId : String) (nonce : Nonce) (db : ConfigDb) :
    Except AppError (MergedConfig × ConfigDb) := do
  let (instanceId, identified) := db.instanceId generatedId
  ensure (db.plaintextConflict = false)
    (.invalidData
      "conflicting router_password and routeros_password values; remove one before migration")
  let (password, stored) ← loadPassword suite cipher env instanceId nonce identified
  let merged := { MergedConfig.fromEnvAndDb env db.overrides with routerPassword := password }
  merged.validate
  return (merged, stored)

end

end RouterView.Config
