/-
  Secrets/Cipher.lean --- the encryption of stored secrets.

  `encrypt` and `decrypt` of `secrets.rs`.  The authenticated cipher and the key
  derivation are a library's; they are a parameter here, with the one law that
  decryption undoes encryption.  The random nonce is an argument.
-/
import RouterView.Foundation.Checked

set_option autoImplicit false

namespace RouterView.Secrets

open RouterView.Foundation

/-- A byte string. -/
abbrev Bytes : Type := List UInt8

/-- `EncryptedSecret`. -/
structure EncryptedSecret where
  ciphertext : Bytes
  nonce : Bytes
  keyId : String
  deriving DecidableEq, Repr

/-- `SecretCipher`. -/
structure SecretCipher where
  masterKey : Bytes
  keyId : String
  deriving DecidableEq, Repr

/-- `SecretError`, the variants of encryption and decryption. -/
inductive SecretError where
  | derive
  | encrypt
  | decrypt
  | invalidNonce
  | wrongKey (expected actual : String)
  deriving DecidableEq, Repr

/-- The text of an error. -/
def SecretError.text : SecretError → String
  | .derive => "failed to derive the field encryption key"
  | .encrypt => "failed to encrypt secret"
  | .decrypt =>
      "failed to decrypt secret; the database or associated metadata may be corrupt"
  | .invalidNonce => "encrypted secret has an invalid nonce"
  | .wrongKey expected actual =>
      "master key mismatch (database key id " ++ expected ++ ", supplied key id " ++ actual ++ ")"

/-- A generated nonce: 24 bytes. -/
structure Nonce where
  bytes : Bytes
  length_eq : bytes.length = 24

/-- The library: key derivation from a master key, a salt and an information
text, and an authenticated cipher with associated data. -/
structure CipherSuite where
  expand : Bytes → String → String → Option Bytes
  encryptBytes : Bytes → Bytes → String → Bytes → Option Bytes
  decryptBytes : Bytes → Bytes → String → Bytes → Option Bytes

/-- Decryption undoes encryption. -/
structure CipherSuite.Lawful (suite : CipherSuite) : Prop where
  decrypt_encrypt : ∀ {key nonce aad plaintext ciphertext},
    suite.encryptBytes key nonce aad plaintext = some ciphertext →
      suite.decryptBytes key nonce aad ciphertext = some plaintext

section

variable (suite : CipherSuite) (cipher : SecretCipher)

/-- `derive_field_key`. -/
def SecretCipher.deriveFieldKey (instanceId field : String) : Except SecretError Bytes :=
  okOr (suite.expand cipher.masterKey instanceId ("routerview/" ++ field ++ "/v1")) .derive

/-- `aad`. -/
def SecretCipher.aad (instanceId field : String) : String :=
  "routerview:" ++ instanceId ++ ":" ++ field ++ ":" ++ cipher.keyId

/-- `encrypt`. -/
def SecretCipher.encrypt (nonce : Nonce) (instanceId field : String) (plaintext : Bytes) :
    Except SecretError EncryptedSecret := do
  let key ← cipher.deriveFieldKey suite instanceId field
  let ciphertext ← okOr (suite.encryptBytes key nonce.bytes (cipher.aad instanceId field) plaintext)
    .encrypt
  return ⟨ciphertext, nonce.bytes, cipher.keyId⟩

/-- `decrypt`. -/
def SecretCipher.decrypt (instanceId field : String) (secret : EncryptedSecret) :
    Except SecretError Bytes := do
  ensure (secret.keyId = cipher.keyId) (.wrongKey secret.keyId cipher.keyId)
  ensure (secret.nonce.length = 24) .invalidNonce
  let key ← cipher.deriveFieldKey suite instanceId field
  okOr (suite.decryptBytes key secret.nonce (cipher.aad instanceId field) secret.ciphertext) .decrypt

variable {suite cipher}

/-- Decryption under the same key, instance and field undoes encryption. -/
theorem SecretCipher.decrypt_encrypt (hsuite : suite.Lawful) {nonce : Nonce}
    {instanceId field : String} {plaintext : Bytes} {secret : EncryptedSecret}
    (h : cipher.encrypt suite nonce instanceId field plaintext = .ok secret) :
    cipher.decrypt suite instanceId field secret = .ok plaintext := by
  unfold SecretCipher.encrypt at h
  rw [bind_eq_ok_iff] at h
  obtain ⟨key, hkey, h⟩ := h
  rw [bind_eq_ok_iff] at h
  obtain ⟨ciphertext, hseal, h⟩ := h
  rw [okOr_eq_ok_iff] at hseal
  cases h
  unfold SecretCipher.decrypt
  rw [ensure_bind_eq_ok_iff, ensure_bind_eq_ok_iff, bind_eq_ok_iff]
  refine ⟨rfl, nonce.length_eq, key, hkey, ?_⟩
  rw [okOr_eq_ok_iff]
  exact hsuite.decrypt_encrypt hseal

end

/-- A suite that writes the key before the text. -/
def prefixSuite : CipherSuite where
  expand := fun masterKey _ _ => some masterKey
  encryptBytes := fun key _ _ plaintext => some (key ++ plaintext)
  decryptBytes := fun key _ _ ciphertext =>
    if ciphertext.take key.length = key then some (ciphertext.drop key.length) else none

theorem prefixSuite_lawful : prefixSuite.Lawful where
  decrypt_encrypt := by
    intro key nonce aad plaintext ciphertext h
    simp only [prefixSuite, Option.some.injEq] at h ⊢
    rw [← h]
    simp

end RouterView.Secrets
