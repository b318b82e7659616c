/-
  Config/Merged.lean --- the effective configuration.

  `MergedConfig` of `config_store.rs`: the values of the environment, overridden
  by those of the database, and the check that every configuration passes before
  it is used.  The fields of the environment that are not merged are left out.

  Left out: the parsing of the variables of the environment themselves.
-/
import RouterView.Foundation.Checked
import RouterView.Foundation.Text

set_option autoImplicit false

namespace RouterView.Config

open RouterView.Foundation

/-! ## Data -/

/-- `RouterType`. -/
inductive RouterType where
  | routerOs
  deriving DecidableEq, Repr

/-- `IpNet`: an address and the length of its prefix. -/
structure IpNet where
  address : List UInt8
  prefixLength : UInt8
  deriving DecidableEq, Repr

/-- The fields of `Config` that are merged: the values of the environment. -/
structure Env where
  routerType : RouterType
  routerHost : String
  routerPort : UInt16
  routerScheme : String
  routerUsername : String
  routerPassword : String
  acceptInvalidCerts : Bool
  pollIntervalSecs : UInt64
  probeIntervalSecs : UInt64
  serverPort : UInt16
  dbRawRetentionDays : UInt64
  dbTotalRetentionDays : UInt64
  latencyGoodMs : UInt64
  latencyPoorMs : UInt64
  routerManagementCidrs : List IpNet
  allowInsecureRouterHttp : Bool
  deriving DecidableEq, Repr

/-- `MergedConfig`. -/
structure MergedConfig where
  revision : UInt64
  routerType : RouterType
  routerHost : String
  routerPort : UInt16
  routerScheme : String
  routerUsername : String
  routerPassword : String
  acceptInvalidCerts : Bool
  pollIntervalSecs : UInt64
  probeIntervalSecs : UInt64
  serverPort : UInt16
  dbRawRetentionDays : UInt64
  dbTotalRetentionDays : UInt64
  theme : String
  latencyGoodMs : UInt64
  latencyPoorMs : UInt64
  routerManagementCidrs : List IpNet
  allowInsecureRouterHttp : Bool
  deriving DecidableEq, Repr

/-- `AppError`, the variants of loading and updating the configuration. -/
inductive AppError where
  | invalidData (message : String)
  | conflict (message : String)
  | secret (message : String)
  | database
  deriving DecidableEq, Repr

/-! ## Rows -/

/-- The rows of a table with a textual key. -/
abbrev Rows (α : Type) : Type := String → Option α

namespace Rows

variable {α : Type}

/-- `INSERT OR REPLACE`. -/
def put (rows : Rows α) (key : String) (value : α) : Rows α :=
  fun k => if k = key then some value else rows k

/-- `DELETE … WHERE key = …`. -/
def erase (rows : Rows α) (key : String) : Rows α :=
  fun k => if k = key then none else rows k

@[simp] theorem put_self (rows : Rows α) (key : String) (value : α) :
    rows.put key value key = some value := if_pos rfl

theorem put_ne (rows : Rows α) {key k : String} (value : α) (h : k ≠ key) :
    rows.put key value k = rows k := if_neg h

@[simp] theorem erase_self (rows : Rows α) (key : String) : rows.erase key key = none := if_pos rfl

theorem erase_ne (rows : Rows α) {key k : String} (h : k ≠ key) : rows.erase key k = rows k :=
  if_neg h

end Rows

/-! ## Merging -/

/-- The value under the key, or under the key of an older version. -/
def getEither (overrides : Rows String) (key legacyKey : String) : Option String :=
  (overrides key).or (overrides legacyKey)

namespace MergedConfig

/-- `from_env_and_db`.  The words that a lowered text is compared with have no
letter that only a non-ASCII character lowers to. -/
def fromEnvAndDb (env : Env) (overrides : Rows String) : MergedConfig where
  revision := ((overrides "config_revision").bind parseU64).getD 0
  routerType := ((overrides "router_type").bind (fun s =>
    if toAsciiLowercase s = "routeros" then some RouterType.routerOs else none)).getD env.routerType
  routerHost := (getEither overrides "router_host" "routeros_host").getD env.routerHost
  routerPort :=
    ((getEither overrides "router_port" "routeros_port").bind parseU16).getD env.routerPort
  routerScheme :=
    (((getEither overrides "router_scheme" "routeros_scheme").map toAsciiLowercase).filter
      (fun s => decide (s = "http" ∨ s = "https"))).getD env.routerScheme
  routerUsername :=
    (getEither overrides "router_username" "routeros_username").getD env.routerUsername
  routerPassword :=
    (getEither overrides "router_password" "routeros_password").getD env.routerPassword
  acceptInvalidCerts :=
    ((overrides "accept_invalid_certs").map (fun s => decide (s = "true" ∨ s = "1"))).getD
      env.acceptInvalidCerts
  pollIntervalSecs :=
    ((overrides "poll_interval_secs").bind parseU64).getD env.pollIntervalSecs
  probeIntervalSecs :=
    ((overrides "probe_interval_secs").bind parseU64).getD env.probeIntervalSecs
  serverPort := ((overrides "server_port").bind parseU16).getD env.serverPort
  dbRawRetentionDays :=
    ((overrides "db_raw_retention_days").bind parseU64).getD env.dbRawRetentionDays
  dbTotalRetentionDays :=
    ((overrides "db_total_retention_days").bind parseU64).getD env.dbTotalRetentionDays
  theme := (overrides "theme").getD "system"
  latencyGoodMs := ((overrides "latency_good_ms").bind parseU64).getD env.latencyGoodMs
  latencyPoorMs := ((overrides "latency_poor_ms").bind parseU64).getD env.latencyPoorMs
  routerManagementCidrs := env.routerManagementCidrs
  allowInsecureRouterHttp := env.allowInsecureRouterHttp

/-! ## Validation -/

/-- `validate`. -/
def validate (config : MergedConfig) : Except AppError Unit := do
  ensure (config.routerPort ≠ 0) (.invalidData "router_port must be between 1 and 65535")
  ensure (1 ≤ config.pollIntervalSecs ∧ config.pollIntervalSecs ≤ 30)
    (.invalidData "poll_interval_secs must be between 1 and 30")
  ensure (10 ≤ config.probeIntervalSecs ∧ config.probeIntervalSecs ≤ 600)
    (.invalidData "probe_interval_secs must be between 10 and 600")
  ensure (1 ≤ config.dbRawRetentionDays ∧ config.dbRawRetentionDays ≤ 30)
    (.invalidData "db_raw_retention_days must be between 1 and 30")
  ensure ((7 ≤ config.dbTotalRetentionDays ∧ config.dbTotalRetentionDays ≤ 365)
      ∧ ¬ config.dbTotalRetentionDays < config.dbRawRetentionDays)
    (.invalidData
      "db_total_retention_days must be between 7 and 365 and not less than raw retention")
  ensure (1 ≤ config.latencyGoodMs ∧ config.latencyGoodMs ≤ 500)
    (.invalidData "latency_good_ms must be between 1 and 500")
  ensure (1 ≤ config.latencyPoorMs ∧ config.latencyPoorMs ≤ 2000)
    (.invalidData "latency_poor_ms must be between 1 and 2000")
  ensure (¬ config.latencyGoodMs ≥ config.latencyPoorMs)
    (.invalidData "latency_good_ms must be less than latency_poor_ms")
  ensure (¬ (isBlank config.routerHost = true ∨ config.routerHost.utf8ByteSize > 253))
    (.invalidData "router_host must contain 1 to 253 characters")
  ensure (¬ (isBlank config.routerUsername = true ∨ config.routerUsername.utf8ByteSize > 128))
    (.invalidData "router_username must contain 1 to 128 characters")
  ensure (config.routerScheme = "https"
      ∨ (config.routerScheme = "http" ∧ config.allowInsecureRouterHttp = true))
    (.invalidData "HTTP router management is disabled by deployment policy")
  ensure (config.theme = "system" ∨ config.theme = "light" ∨ config.theme = "dark")
    (.invalidData "theme must be system, light, or dark")

/-- What a checked configuration promises to the rest of the program. -/
structure Valid (config : MergedConfig) : Prop where
  pollIntervalSecs : 1 ≤ config.pollIntervalSecs ∧ config.pollIntervalSecs ≤ 30
  dbRawRetentionDays : 1 ≤ config.dbRawRetentionDays ∧ config.dbRawRetentionDays ≤ 30
  routerHost : isBlank config.routerHost = false
  routerScheme : config.routerScheme = "https" ∨ config.routerScheme = "http"

theorem validate_ok {config : MergedConfig} (h : config.validate = .ok ()) : config.Valid := by
  unfold validate at h
  obtain ⟨_, h⟩ := ensure_bind_eq_ok_iff.mp h
  obtain ⟨hpoll, h⟩ := ensure_bind_eq_ok_iff.mp h
  obtain ⟨_, h⟩ := ensure_bind_eq_ok_iff.mp h
  obtain ⟨hraw, h⟩ := ensure_bind_eq_ok_iff.mp h
  obtain ⟨_, h⟩ := ensure_bind_eq_ok_iff.mp h
  obtain ⟨_, h⟩ := ensure_bind_eq_ok_iff.mp h
  obtain ⟨_, h⟩ := ensure_bind_eq_ok_iff.mp h
  obtain ⟨_, h⟩ := ensure_bind_eq_ok_iff.mp h
  obtain ⟨hhost, h⟩ := ensure_bind_eq_ok_iff.mp h
  obtain ⟨_, h⟩ := ensure_bind_eq_ok_iff.mp h
  obtain ⟨hscheme, _⟩ := ensure_bind_eq_ok_iff.mp h
  exact ⟨hpoll, hraw, Bool.eq_false_of_not_eq_true (fun hblank => hhost (Or.inl hblank)),
    hscheme.imp_right And.left⟩

/-- The check reads neither the revision nor the password. -/
theorem validate_congr {config config' : MergedConfig}
    (h : config' = { config with
      revision := config'.revision
      routerPassword := config'.routerPassword }) :
    config'.validate = config.validate := by
  rw [h]
  rfl

end MergedConfig

end RouterView.Config
