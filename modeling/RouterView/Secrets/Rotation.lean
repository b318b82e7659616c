/-
  Secrets/Rotation.lean --- the rotation of the master key.

  `rotate_with_cipher` of `db/key_management.rs`.  Every secret is decrypted and
  encrypted anew before the first row is written, and the written rows are read
  back and compared before the transaction commits.  Which statements fail is
  an argument; a transaction that is not committed leaves the rows as they were.

  Left out: opening the database and the read-only command that verifies a key.
-/
import RouterView.Foundation.UniqueTable
import RouterView.Secrets.Cipher
import Mathlib.Data.List.Sort

set_option autoImplicit false

namespace RouterView.Secrets

open RouterView.Foundation

/-! ## Rows -/

/-- A row of `encrypted_secrets`. -/
structure SecretRow where
  name : String
  encrypted : EncryptedSecret
  updatedAt : Int
  deriving DecidableEq, Repr

instance : UniqueRow SecretRow where
  clash a b := decide (a.name = b.name)
  clash_self a := by simp
  clash_comm a b := by simp only [eq_comm]

/-- The rows, and the value of the configuration key `instance_id`. -/
structure SecretStore where
  secrets : UniqueTable SecretRow
  instanceId : Option String
  deriving DecidableEq

/-- `StoredSecret`. -/
structure StoredSecret where
  name : String
  encrypted : EncryptedSecret
  deriving DecidableEq, Repr

/-- `RotatedSecret`. -/
structure RotatedSecret where
  name : String
  plaintext : Bytes
  encrypted : EncryptedSecret
  deriving DecidableEq, Repr

/-- `KeyRotationReport`. -/
structure KeyRotationReport where
  previousKeyId : String
  newKeyId : String
  secretsRotated : Nat
  deriving DecidableEq, Repr

/-- `KeyManagementError`, the variants of a rotation. -/
inductive KeyManagementError where
  | database
  | missingInstanceId
  | currentKey (name : String) (source : SecretError)
  | encrypt (name : String) (source : SecretError)
  | readBack (name : String) (source : SecretError)
  | plaintextMismatch (name : String)
  | ciphertextMismatch (name : String)
  | secretSetChanged
  | rollbackFailed (operation : String)
  deriving DecidableEq, Repr

/-- The text of an error, given those of the storage engine. -/
def KeyManagementError.text (display : String) : KeyManagementError → String
  | .database => "database access failed: " ++ display
  | .missingInstanceId => "encrypted secrets exist but the database instance_id is missing"
  | .currentKey name source =>
      "current master key could not decrypt secret " ++ name ++ ": " ++ source.text
  | .encrypt name source => "failed to re-encrypt secret " ++ name ++ ": " ++ source.text
  | .readBack name source =>
      "staged secret " ++ name ++ " could not be decrypted during read-back: " ++ source.text
  | .plaintextMismatch name =>
      "staged secret " ++ name ++ " did not match its pre-rotation plaintext"
  | .ciphertextMismatch name =>
      "staged secret " ++ name ++ " did not match the ciphertext written by the rotation"
  | .secretSetChanged => "secret set changed while the key rotation transaction was active"
  | .rollbackFailed operation =>
      "key rotation failed (" ++ operation ++ ") and the database rollback also failed: " ++ display

/-- Which statements of the transaction fail; the updates are numbered. -/
structure RotationFailures where
  begin_ : Bool
  load : Bool
  instanceId : Bool
  update : Nat → Bool
  readBack : Bool
  commit : Bool
  rollback : Bool
  display : String

/-- No statement fails. -/
def RotationFailures.none : RotationFailures :=
  ⟨false, false, false, fun _ => false, false, false, false, ""⟩

/-! ## The transaction -/

/-- `load_secrets`. -/
def loadSecrets (secrets : UniqueTable SecretRow) : List StoredSecret :=
  (secrets.rows.insertionSort (fun a b => a.name ≤ b.name)).map
    (fun row => ⟨row.name, row.encrypted⟩)

/-- `instance_id_for`. -/
def instanceIdFor (failures : RotationFailures) (instanceId : Option String)
    (secrets : List StoredSecret) : Except KeyManagementError (Option String) :=
  if secrets = [] then .ok none
  else do
    ensure (failures.instanceId = false) .database
    let value ← okOr (instanceId.filter (fun value => !value.isEmpty)) .missingInstanceId
    return some value

section

variable (suite : CipherSuite) (currentCipher newCipher : SecretCipher)

/-- The first loop: the complete replacement set.  The secret `index` is
encrypted with the nonce of that number. -/
def prepareReplacements (nonces : Nat → Nonce) (instanceId : String) :
    Nat → List StoredSecret → Except KeyManagementError (List RotatedSecret)
  | _, [] => .ok []
  | index, secret :: rest => do
      let plaintext ← (currentCipher.decrypt suite instanceId secret.name
        secret.encrypted).mapError (.currentKey secret.name)
      let encrypted ← (newCipher.encrypt suite (nonces index) instanceId secret.name
        plaintext).mapError (.encrypt secret.name)
      let replacements ← prepareReplacements nonces instanceId (index + 1) rest
      return ⟨secret.name, plaintext, encrypted⟩ :: replacements

/-- The second loop: write the replacements. -/
def writeReplacements (failures : RotationFailures) (now : Int) :
    Nat → List RotatedSecret → UniqueTable SecretRow →
      Except KeyManagementError (UniqueTable SecretRow)
  | _, [], secrets => .ok secrets
  | index, replacement :: rest, secrets => do
      ensure (failures.update index = false) .database
      let named : SecretRow → Bool := fun row => decide (row.name = replacement.name)
      ensure (secrets.countWhere named = 1) .secretSetChanged
      writeReplacements failures now (index + 1) rest
        (secrets.updateWhere named (fun row =>
          { row with encrypted := replacement.encrypted, updatedAt := now }) (fun _ _ => rfl))

/-- The third loop: compare what was read back with the replacements. -/
def checkReadBack (instanceId : String) :
    List StoredSecret → List RotatedSecret → Except KeyManagementError Unit
  | actual :: readBack, expected :: replacements => do
      ensure (actual.name = expected.name) .secretSetChanged
      let plaintext ← (newCipher.decrypt suite instanceId actual.name
        actual.encrypted).mapError (.readBack actual.name)
      ensure (plaintext = expected.plaintext) (.plaintextMismatch actual.name)
      ensure (actual.encrypted = expected.encrypted) (.ciphertextMismatch actual.name)
      checkReadBack instanceId readBack replacements
  | _, _ => .ok ()

/-- `rotate_transaction`. -/
def rotateTransaction (failures : RotationFailures) (nonces : Nat → Nonce) (now : Int)
    (store : SecretStore) : Except KeyManagementError (KeyRotationReport × SecretStore) := do
  ensure (failures.load = false) .database
  let stored := loadSecrets store.secrets
  match ← instanceIdFor failures store.instanceId stored with
  | none => return (⟨currentCipher.keyId, newCipher.keyId, 0⟩, store)
  | some instanceId => do
      let replacements ← prepareReplacements suite currentCipher newCipher nonces instanceId 0 stored
      let secrets ← writeReplacements failures now 0 replacements store.secrets
      ensure (failures.readBack = false) .database
      let readBack := loadSecrets secrets
      ensure (readBack.length = replacements.length) .secretSetChanged
      checkReadBack suite newCipher instanceId readBack replacements
      return (⟨currentCipher.keyId, newCipher.keyId, replacements.length⟩,
        { store with secrets := secrets })

/-- `rotate_with_cipher`. -/
def rotateWithCipher (failures : RotationFailures) (nonces : Nat → Nonce) (now : Int)
    (store : SecretStore) : Except KeyManagementError KeyRotationReport × SecretStore :=
  if failures.begin_ then (.error .database, store)
  else
    match rotateTransaction suite currentCipher newCipher failures nonces now store with
    | .ok (report, store') =>
        if failures.commit then (.error .database, store) else (.ok report, store')
    | .error operation =>
        if failures.rollback then (.error (.rollbackFailed (operation.text failures.display)), store)
        else (.error operation, store)

end

/-! ## All or nothing -/

theorem mapError_eq_ok {ε ε' α : Type} {f : ε → ε'} {x : Except ε α} {a : α} :
    x.mapError f = .ok a ↔ x = .ok a := by
  cases x with
  | error e => simp [Except.mapError]
  | ok b => simp [Except.mapError]

section

variable {suite : CipherSuite} {currentCipher newCipher : SecretCipher}
  {failures : RotationFailures} {nonces : Nat → Nonce} {instanceId : String}

/-- Every replacement belongs to the secret of its place. -/
theorem prepareReplacements_ok {index : Nat} {stored : List StoredSecret}
    {replacements : List RotatedSecret}
    (h : prepareReplacements suite currentCipher newCipher nonces instanceId index stored =
      .ok replacements) :
    List.Forall₂ (fun secret replacement => replacement.name = secret.name ∧
      currentCipher.decrypt suite instanceId secret.name secret.encrypted =
        .ok replacement.plaintext) stored replacements := by
  induction stored generalizing index replacements with
  | nil =>
      cases h
      exact .nil
  | cons secret rest ih =>
      unfold prepareReplacements at h
      rw [bind_eq_ok_iff] at h
      obtain ⟨plaintext, hplaintext, h⟩ := h
      rw [mapError_eq_ok] at hplaintext
      rw [bind_eq_ok_iff] at h
      obtain ⟨encrypted, _, h⟩ := h
      rw [bind_eq_ok_iff] at h
      obtain ⟨others, hothers, h⟩ := h
      cases h
      exact .cons ⟨rfl, hplaintext⟩ (ih hothers)

/-- The updates keep the names. -/
theorem writeReplacements_names {now : Int} {index : Nat} {replacements : List RotatedSecret}
    {secrets secrets' : UniqueTable SecretRow}
    (h : writeReplacements failures now index replacements secrets = .ok secrets') :
    secrets'.rows.map (fun row => row.name) = secrets.rows.map (fun row => row.name) := by
  induction replacements generalizing index secrets with
  | nil =>
      cases h
      rfl
  | cons replacement rest ih =>
      unfold writeReplacements at h
      rw [ensure_bind_eq_ok_iff] at h
      obtain ⟨_, h⟩ := h
      simp only at h
      rw [ensure_bind_eq_ok_iff] at h
      rw [ih h.2, UniqueTable.updateWhere_rows, List.map_map]
      apply List.map_congr_left
      intro row _
      simp only [Function.comp_apply]
      split <;> rfl

/-- Every secret that was read back decrypts to the plaintext of its place. -/
theorem checkReadBack_ok {readBack : List StoredSecret} {replacements : List RotatedSecret}
    (hlength : readBack.length = replacements.length)
    (h : checkReadBack suite newCipher instanceId readBack replacements = .ok ()) :
    List.Forall₂ (fun replacement secret => secret.name = replacement.name ∧
      newCipher.decrypt suite instanceId secret.name secret.encrypted =
        .ok replacement.plaintext) replacements readBack := by
  induction readBack generalizing replacements with
  | nil =>
      cases replacements with
      | nil => exact .nil
      | cons _ _ => cases hlength
  | cons actual rest ih =>
      cases replacements with
      | nil => cases hlength
      | cons expected others =>
          unfold checkReadBack at h
          rw [ensure_bind_eq_ok_iff] at h
          obtain ⟨hname, h⟩ := h
          rw [bind_eq_ok_iff] at h
          obtain ⟨plaintext, hplaintext, h⟩ := h
          rw [mapError_eq_ok] at hplaintext
          rw [ensure_bind_eq_ok_iff] at h
          obtain ⟨hsame, h⟩ := h
          rw [ensure_bind_eq_ok_iff] at h
          subst hsame
          exact .cons ⟨hname, hplaintext⟩ (ih (Nat.succ.inj hlength) h.2)

/-- A member of one list has its partner in the other. -/
theorem forall₂_exists {α β : Type} {R : α → β → Prop} {l : List α} {l' : List β}
    (h : List.Forall₂ R l l') {a : α} (ha : a ∈ l) : ∃ b ∈ l', R a b := by
  induction h with
  | nil => exact absurd ha List.not_mem_nil
  | cons hab _ ih =>
      rcases List.mem_cons.mp ha with rfl | ha
      · exact ⟨_, List.mem_cons_self, hab⟩
      · obtain ⟨b, hb, hr⟩ := ih ha
        exact ⟨b, List.mem_cons_of_mem _ hb, hr⟩

theorem mem_loadSecrets {secrets : UniqueTable SecretRow} {secret : StoredSecret} :
    secret ∈ loadSecrets secrets ↔ ∃ row ∈ secrets.rows, secret = ⟨row.name, row.encrypted⟩ := by
  unfold loadSecrets
  simp only [List.mem_map, List.mem_insertionSort, eq_comm]

theorem length_loadSecrets (secrets : UniqueTable SecretRow) :
    (loadSecrets secrets).length = secrets.rows.length := by
  unfold loadSecrets
  rw [List.length_map, List.length_insertionSort]

variable (suite) (currentCipher newCipher)

/-- After a rotation the rows have the names that they had, and the new cipher
decrypts each of them to what the old cipher made of the row of that name. -/
structure Rotated (store store' : SecretStore) (report : KeyRotationReport) : Prop where
  rotated : report.secretsRotated = store.secrets.rows.length
  names : store'.secrets.rows.map (fun row => row.name) =
    store.secrets.rows.map (fun row => row.name)
  instanceId : store'.instanceId = store.instanceId
  plaintexts : ∀ row ∈ store.secrets.rows, ∀ row' ∈ store'.secrets.rows, row'.name = row.name →
    ∃ instanceId plaintext, store.instanceId = some instanceId ∧
      currentCipher.decrypt suite instanceId row.name row.encrypted = .ok plaintext ∧
      newCipher.decrypt suite instanceId row'.name row'.encrypted = .ok plaintext

variable {suite currentCipher newCipher}

/-- A transaction that succeeds rotated every secret. -/
theorem rotateTransaction_ok {now : Int} {store store' : SecretStore} {report : KeyRotationReport}
    (h : rotateTransaction suite currentCipher newCipher failures nonces now store =
      .ok (report, store')) : Rotated suite currentCipher newCipher store store' report := by
  unfold rotateTransaction at h
  rw [ensure_bind_eq_ok_iff] at h
  obtain ⟨_, h⟩ := h
  simp only at h
  rw [bind_eq_ok_iff] at h
  obtain ⟨found, hinstance, h⟩ := h
  unfold instanceIdFor at hinstance
  split at hinstance
  · rename_i hempty
    cases hinstance
    cases h
    have hnone : store.secrets.rows.length = 0 := by
      rw [← length_loadSecrets, hempty]
      rfl
    refine ⟨hnone.symm, rfl, rfl, ?_⟩
    intro row hrow
    rw [List.eq_nil_of_length_eq_zero hnone] at hrow
    exact absurd hrow List.not_mem_nil
  · rw [ensure_bind_eq_ok_iff] at hinstance
    obtain ⟨_, hinstance⟩ := hinstance
    rw [bind_eq_ok_iff] at hinstance
    obtain ⟨instanceId, hvalue, hinstance⟩ := hinstance
    rw [okOr_eq_ok_iff, Option.filter_eq_some_iff] at hvalue
    cases hinstance
    simp only at h
    rw [bind_eq_ok_iff] at h
    obtain ⟨replacements, hprepare, h⟩ := h
    rw [bind_eq_ok_iff] at h
    obtain ⟨secrets, hwrite, h⟩ := h
    rw [ensure_bind_eq_ok_iff] at h
    obtain ⟨_, h⟩ := h
    rw [ensure_bind_eq_ok_iff] at h
    obtain ⟨hlength, h⟩ := h
    rw [bind_eq_ok_iff] at h
    obtain ⟨_, hcheck, h⟩ := h
    cases h
    have hprepared := prepareReplacements_ok hprepare
    have hread := checkReadBack_ok hlength hcheck
    have hnames := writeReplacements_names hwrite
    refine ⟨?_, hnames, rfl, ?_⟩
    · rw [← length_loadSecrets]
      exact hprepared.length_eq.symm
    · intro row hrow row' hrow' hname
      obtain ⟨replacement, hreplacement, hrname, hold⟩ :=
        forall₂_exists hprepared (mem_loadSecrets.mpr ⟨row, hrow, rfl⟩)
      obtain ⟨secret, hsecret, hsname, hnew⟩ := forall₂_exists hread hreplacement
      obtain ⟨written, hwritten, rfl⟩ := mem_loadSecrets.mp hsecret
      have hnamed : written.name = row'.name := (hsname.trans hrname).trans hname.symm
      have hsame : written = row' :=
        secrets.eq_of_clash hwritten hrow' (by simp [UniqueRow.clash, hnamed])
      rw [← hsame]
      exact ⟨instanceId, replacement.plaintext, hvalue.1, hold, hnew⟩

end

/-- A rotation fails and changes no row, or it rotates every secret: the same
names, each decrypted by the new cipher to the plaintext under the old one. -/
theorem rotate_all_or_nothing (suite : CipherSuite) (currentCipher newCipher : SecretCipher)
    (failures : RotationFailures) (nonces : Nat → Nonce) (now : Int) (store : SecretStore) :
    (∃ e, rotateWithCipher suite currentCipher newCipher failures nonces now store =
      (.error e, store)) ∨
    ∃ report store', rotateWithCipher suite currentCipher newCipher failures nonces now store =
        (.ok report, store') ∧
      Rotated suite currentCipher newCipher store store' report := by
  unfold rotateWithCipher
  split
  · exact Or.inl ⟨_, rfl⟩
  · cases htransaction : rotateTransaction suite currentCipher newCipher failures nonces now
        store with
    | error operation =>
        simp only
        split <;> exact Or.inl ⟨_, rfl⟩
    | ok answer =>
        obtain ⟨report, store'⟩ := answer
        simp only
        split
        · exact Or.inl ⟨_, rfl⟩
        · exact Or.inr ⟨report, store', rfl, rotateTransaction_ok htransaction⟩

/-- Two secrets under the key `[1]`. -/
def twoSecrets : SecretStore where
  secrets := ⟨[⟨"router_password", ⟨[1, 5], List.replicate 24 0, "old"⟩, 0⟩,
    ⟨"api_token", ⟨[1, 6, 7], List.replicate 24 0, "old"⟩, 0⟩], by decide⟩
  instanceId := some "instance"

example : ((rotateWithCipher prefixSuite ⟨[1], "old"⟩ ⟨[2, 2], "new"⟩ .none
    (fun _ => ⟨List.replicate 24 9, rfl⟩) 7 twoSecrets).2.secrets.rows.map
      (fun row => (row.name, row.encrypted.ciphertext))) =
    [("router_password", [2, 2, 5]), ("api_token", [2, 2, 6, 7])] := by
  decide +kernel

end RouterView.Secrets
