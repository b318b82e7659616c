/-
  Config/Update.lean --- an update of the configuration.

  `update_config` of `api/system.rs`.  The checks and the new configuration are a
  function of the request and of the configuration that it read; what it stores
  and what it then publishes are kept apart, because other requests run between
  the two.

  Left out: the JSON of the body and of the response, and who may send the request
  (`Auth/Gate.lean`).
-/
import RouterView.Config.Store

set_option autoImplicit false

namespace RouterView.Config

open RouterView.Foundation
open RouterView.Secrets

/-! ## Requests -/

/-- `PasswordMode`. -/
inductive PasswordMode where
  | keep
  | replace
  | clear
  deriving DecidableEq, Repr

/-- `BoolValue`. -/
inductive BoolValue where
  | bool (value : Bool)
  | text (value : String)
  deriving DecidableEq, Repr

/-- `BoolValue::get`. -/
def BoolValue.get (value : BoolValue) (field : String) : Except AppError Bool :=
  match value with
  | .bool value => .ok value
  | .text value =>
      if value = "true" ∨ value = "1" then .ok true
      else if value = "false" ∨ value = "0" then .ok false
      else .error (.invalidData (field ++ " must be a boolean"))

/-- `ConfigUpdateRequest`. -/
structure ConfigUpdateRequest where
  expectedRevision : Option UInt64
  routerType : Option RouterType
  routerHost : Option String
  routerPort : Option UInt16
  routerScheme : Option String
  routerUsername : Option String
  routerPassword : Option String
  passwordMode : Option PasswordMode
  acceptInvalidCerts : Option BoolValue
  pollIntervalSecs : Option UInt64
  probeIntervalSecs : Option UInt64
  dbRawRetentionDays : Option UInt64
  dbTotalRetentionDays : Option UInt64
  latencyGoodMs : Option UInt64
  latencyPoorMs : Option UInt64
  theme : Option String
  wizardCompleted : Option BoolValue
  deriving DecidableEq, Repr

namespace ConfigUpdateRequest

/-- The password mode of the request, or the one that its password implies. -/
def effectiveMode (body : ConfigUpdateRequest) : PasswordMode :=
  body.passwordMode.getD
    (if body.routerPassword.any (fun value => !value.isEmpty && decide (value ≠ "********"))
    then .replace else .keep)

/-- The certificate policy of the request, or that of the configuration. -/
def requestedCerts (body : ConfigUpdateRequest) (current : MergedConfig) : Except AppError Bool :=
  match body.acceptInvalidCerts with
  | none => .ok current.acceptInvalidCerts
  | some value => value.get "accept_invalid_certs"

/-- The fields of the request over those of the configuration. -/
def applyTo (body : ConfigUpdateRequest) (acceptInvalidCerts : Bool) (current : MergedConfig) :
    MergedConfig :=
  { current with
    routerType := body.routerType.getD current.routerType
    routerHost := (body.routerHost.map trim).getD current.routerHost
    routerPort := body.routerPort.getD current.routerPort
    routerScheme := (body.routerScheme.map toAsciiLowercase).getD current.routerScheme
    routerUsername := (body.routerUsername.map trim).getD current.routerUsername
    acceptInvalidCerts := acceptInvalidCerts
    pollIntervalSecs := body.pollIntervalSecs.getD current.pollIntervalSecs
    probeIntervalSecs := body.probeIntervalSecs.getD current.probeIntervalSecs
    dbRawRetentionDays := body.dbRawRetentionDays.getD current.dbRawRetentionDays
    dbTotalRetentionDays := body.dbTotalRetentionDays.getD current.dbTotalRetentionDays
    latencyGoodMs := body.latencyGoodMs.getD current.latencyGoodMs
    latencyPoorMs := body.latencyPoorMs.getD current.latencyPoorMs
    theme := (body.theme.map toAsciiLowercase).getD current.theme }

/-- The names of the fields that the request gives, but for the password's and
the wizard's. -/
def saved (body : ConfigUpdateRequest) : List String :=
  [("router_type", body.routerType.isSome), ("router_host", body.routerHost.isSome),
    ("router_port", body.routerPort.isSome), ("router_scheme", body.routerScheme.isSome),
    ("router_username", body.routerUsername.isSome),
    ("accept_invalid_certs", body.acceptInvalidCerts.isSome),
    ("poll_interval_secs", body.pollIntervalSecs.isSome),
    ("probe_interval_secs", body.probeIntervalSecs.isSome),
    ("db_raw_retention_days", body.dbRawRetentionDays.isSome),
    ("db_total_retention_days", body.dbTotalRetentionDays.isSome),
    ("latency_good_ms", body.latencyGoodMs.isSome),
    ("latency_poor_ms", body.latencyPoorMs.isSome),
    ("theme", body.theme.isSome)].filterMap (fun field => if field.2 then some field.1 else none)

end ConfigUpdateRequest

/-- The connection fields differ. -/
def connectionChanged (next current : MergedConfig) : Bool :=
  decide (next.routerType ≠ current.routerType ∨ next.routerHost ≠ current.routerHost
    ∨ next.routerPort ≠ current.routerPort ∨ next.routerScheme ≠ current.routerScheme
    ∨ next.routerUsername ≠ current.routerUsername
    ∨ next.acceptInvalidCerts ≠ current.acceptInvalidCerts)

/-! ## The new configuration -/

/-- What the request does to the password: the new one, and the secret to store
or to delete. -/
structure PasswordChange where
  password : String
  encrypted : Option EncryptedSecret
  delete : Bool
  saved : List String
  deriving DecidableEq, Repr

/-- What a checked request stores and publishes. -/
structure UpdatePlan where
  expectedRevision : UInt64
  next : MergedConfig
  persisted : List (String × String)
  encryptedPassword : Option EncryptedSecret
  deletePassword : Bool
  saved : List String
  deriving DecidableEq, Repr

/-- The rows of a configuration. -/
def persistedRows (next : MergedConfig) : List (String × String) :=
  [("router_type", "routeros"),
    ("router_host", next.routerHost),
    ("router_port", toString next.routerPort),
    ("router_scheme", next.routerScheme),
    ("router_username", next.routerUsername),
    ("accept_invalid_certs", toString next.acceptInvalidCerts),
    ("poll_interval_secs", toString next.pollIntervalSecs),
    ("probe_interval_secs", toString next.probeIntervalSecs),
    ("db_raw_retention_days", toString next.dbRawRetentionDays),
    ("db_total_retention_days", toString next.dbTotalRetentionDays),
    ("latency_good_ms", toString next.latencyGoodMs),
    ("latency_poor_ms", toString next.latencyPoorMs),
    ("theme", next.theme)]

/-- The row and the name of the wizard's flag, when the request gives it. -/
def wizardRow (body : ConfigUpdateRequest) :
    Except AppError (List (String × String) × List String) :=
  match body.wizardCompleted with
  | none => .ok ([], [])
  | some value => do
      let completed ← value.get "wizard_completed"
      return ([("wizard_completed", toString completed)], ["wizard_completed"])

section

variable (suite : CipherSuite) (cipher : SecretCipher) (instanceId : String)

/-- The password mode of the request, carried out. -/
def changePassword (nonce : Nonce) (body : ConfigUpdateRequest) (next current : MergedConfig) :
    Except AppError PasswordChange :=
  match body.effectiveMode with
  | .keep => do
      ensure (connectionChanged next current = false)
        (.invalidData
          "changing router connection fields requires password_mode=replace and a complete credential")
      return ⟨next.routerPassword, none, false, []⟩
  | .replace => do
      let password ← okOr body.routerPassword
        (.invalidData "router_password is required when password_mode=replace")
      ensure (¬ (password.isEmpty = true ∨ password.utf8ByteSize > 1024 ∨ password = "********"))
        (.invalidData "router_password must contain 1 to 1024 bytes")
      let encrypted ← encryptPassword suite cipher instanceId nonce password
      return ⟨password, some encrypted, false, ["router_password"]⟩
  | .clear => .ok ⟨"", none, true, ["router_password"]⟩

/-- `update_config` up to its transaction, for the configuration that it read. -/
def planUpdate (nonce : Nonce) (body : ConfigUpdateRequest) (current : MergedConfig) :
    Except AppError UpdatePlan := do
  let expectedRevision ← okOr body.expectedRevision
    (.invalidData "expected_revision is required for configuration updates")
  ensure (expectedRevision = current.revision)
    (.conflict ("configuration revision changed (expected " ++ toString expectedRevision ++
      ", current " ++ toString current.revision ++ ")"))
  let acceptInvalidCerts ← body.requestedCerts current
  let edited := body.applyTo acceptInvalidCerts current
  let change ← changePassword suite cipher instanceId nonce body edited current
  let next := { edited with routerPassword := change.password }
  next.validate
  let (wizard, wizardSaved) ← wizardRow body
  return {
    expectedRevision := expectedRevision
    next := next
    persisted := persistedRows next ++ wizard
    encryptedPassword := change.encrypted
    deletePassword := change.delete
    saved := body.saved ++ change.saved ++ wizardSaved }

end

/-! ## Storing and publishing -/

/-- The transaction of a plan. -/
def UpdatePlan.save (plan : UpdatePlan) (db : ConfigDb) : Bool × ConfigDb :=
  saveConfigTransaction plan.persisted
    (plan.encryptedPassword.map (fun encrypted => ("router_password", encrypted)))
    (if plan.deletePassword then some "router_password" else none)
    (some plan.expectedRevision) db

/-- The configuration that a plan publishes. -/
def UpdatePlan.published (plan : UpdatePlan) : MergedConfig :=
  { plan.next with revision := nextRevision plan.expectedRevision }

/-- The body of the answer to an accepted request. -/
structure UpdateResponse where
  saved : List String
  revision : UInt64
  deriving DecidableEq, Repr

/-- The answer to an accepted request: the names sorted, each of them once. -/
def UpdatePlan.response (plan : UpdatePlan) : UpdateResponse where
  saved := (plan.saved.mergeSort (fun a b => decide (a ≤ b))).destutter (· ≠ ·)
  revision := plan.published.revision

/-- The conflict that the transaction detects. -/
def modifiedConflict : AppError := .conflict "configuration was modified by another request"

end RouterView.Config
