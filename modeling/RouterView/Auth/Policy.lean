/-
  Auth/Policy.lean --- sessions and the policy they were created under.

  A process has one OIDC configuration from its start to its end.  At the start
  it revokes the OIDC sessions of every other policy; a login stores the
  fingerprint of the policy with the session, and every request compares it
  with the current one.  The digest is a parameter.

  Left out: everything of the exchange with the identity provider but the identity that it
  ends with; the exchange is in `Oidc/Flow.lean`.
-/
import RouterView.Auth.Reset
import RouterView.Foundation.Terminated

set_option autoImplicit false

namespace RouterView.Auth

open RouterView.Foundation

/-! ## Configuration -/

/-- `OidcConfig`, the fields that a login and the policy read. -/
structure OidcConfig where
  issuerUrl : String
  clientId : String
  providerName : String
  groupsClaim : String
  viewerGroup : String
  adminGroup : String
  deriving DecidableEq, Repr

/-- What a session is bound to. -/
structure OidcPolicy where
  issuerUrl : String
  clientId : String
  groupsClaim : String
  viewerGroup : String
  adminGroup : String
  deriving DecidableEq, Repr

/-- The policy of a configuration. -/
def OidcConfig.policy (config : OidcConfig) : OidcPolicy where
  issuerUrl := config.issuerUrl
  clientId := config.clientId
  groupsClaim := config.groupsClaim
  viewerGroup := config.viewerGroup
  adminGroup := config.adminGroup

/-- The fields in the order in which they are digested. -/
def OidcPolicy.fields (policy : OidcPolicy) : List String :=
  [policy.issuerUrl, policy.clientId, policy.groupsClaim, policy.viewerGroup, policy.adminGroup]

/-- The bytes that are digested: each field is followed by a byte zero. -/
def OidcPolicy.bytes (policy : OidcPolicy) : List UInt8 := terminated 0 (policy.fields.map asBytes)

/-- `policy_fingerprint`. -/
def policyFingerprint (sha256 : List UInt8 → Hash) (config : OidcConfig) : Hash :=
  sha256 config.policy.bytes

/-- No field of the policy contains NUL. -/
def OidcPolicy.NulFree (policy : OidcPolicy) : Prop :=
  ∀ field ∈ policy.fields, Foundation.NulFree field

instance (policy : OidcPolicy) : Decidable policy.NulFree :=
  inferInstanceAs (Decidable (∀ field ∈ policy.fields, Foundation.NulFree field))

/-- The encoding tells two policies apart. -/
theorem OidcPolicy.bytes_injective {p q : OidcPolicy} (hp : p.NulFree) (hq : q.NulFree)
    (h : p.bytes = q.bytes) : p = q := by
  have hfree : ∀ {policy : OidcPolicy}, policy.NulFree →
      ∀ x ∈ policy.fields.map asBytes, (0 : UInt8) ∉ x := by
    intro policy hpolicy x hx
    obtain ⟨field, hfield, rfl⟩ := List.mem_map.mp hx
    exact (hpolicy field hfield).zero_notMem
  have hfields : p.fields = q.fields :=
    List.map_injective_iff.mpr (fun _ _ => asBytes_inj.mp)
      (terminated_injective (hfree hp) (hfree hq) h)
  obtain ⟨_, _, _, _, _⟩ := p
  obtain ⟨_, _, _, _, _⟩ := q
  simpa [OidcPolicy.fields] using hfields

/-- The digest does not collide on the policies. -/
def CollisionFree (sha256 : List UInt8 → Hash) (policies : List OidcPolicy) : Prop :=
  ∀ p ∈ policies, ∀ q ∈ policies, sha256 p.bytes = sha256 q.bytes → p.bytes = q.bytes

instance (sha256 : List UInt8 → Hash) (policies : List OidcPolicy) :
    Decidable (CollisionFree sha256 policies) :=
  inferInstanceAs (Decidable (∀ p ∈ policies, ∀ q ∈ policies,
    sha256 p.bytes = sha256 q.bytes → p.bytes = q.bytes))

/-! ## Login -/

/-- What the provider's tokens say of a user. -/
structure VerifiedClaims where
  username : String
  displayName : String
  subject : String
  groups : List String
  deriving DecidableEq, Repr

/-- `map_role`. -/
def mapRole (groups : List String) (config : OidcConfig) : Option Role :=
  if groups.any (fun group => decide (group = config.adminGroup)) then some .admin
  else if groups.any (fun group => decide (group = config.viewerGroup)) then some .viewer
  else none

/-- The identity that the completion of a login returns. -/
def oidcIdentity (sha256 : List UInt8 → Hash) (config : OidcConfig) (claims : VerifiedClaims) :
    Option OidcIdentity :=
  (mapRole claims.groups config).map (fun role =>
    { username := claims.username
      role := role
      displayName := claims.displayName
      providerName := config.providerName
      issuer := config.issuerUrl
      subject := claims.subject
      policyFingerprint := policyFingerprint sha256 config })

/-- `revalidate_session`, which an open connection asks again and again. -/
def revalidateSession (policyFingerprint : Option Hash) (context : SessionContext) (now : Int)
    (db : AuthDb) : Bool :=
  sessionPolicyValid policyFingerprint context.authMethod context.oidcPolicyFingerprint &&
    sessionIsActive context.id context.username context.role context.kind now db

/-! ## Processes -/

/-- A step of a request other than the completion of an OIDC login. -/
def AuthStep.isLocal : AuthStep → Bool
  | .establishOidc _ _ | .revokeOtherPolicy _ => false
  | _ => true

/-- A local step and its clock. -/
abbrev LocalEvent : Type := { event : AuthEvent // event.step.isLocal = true }

section

variable (sha256 : List UInt8 → Hash) (verify : String → String → Bool)

/-- A process: its store and requests, and the configuration it was started with. -/
structure Process where
  auth : AuthSystem verify
  config : Option OidcConfig

/-- What happens to the process, or ends it and starts the next. -/
inductive ProcessEvent where
  | start (config : Option OidcConfig) (now : Int)
  | login (claims : VerifiedClaims) (tokens : SessionTokens) (now : Int)
  | authenticate (tokenHash : Hash) (now : Int)
  | request (event : LocalEvent)

/-- `policy_fingerprint` of the manager. -/
def Process.policyFingerprint (s : Process verify) : Option Hash :=
  s.config.map (Auth.policyFingerprint sha256)

/-- The first revocation of a process, on the store that the last one left. -/
def startProcess (config : Option OidcConfig) (now : Int) (db : AuthDb) : Process verify where
  auth := AuthSystem.idle verify (revokeOidcSessionsWithOtherPolicy
    (config.map (policyFingerprint sha256)) now db).2
  config := config

/-- The process after an event. -/
def processStep (s : Process verify) (event : ProcessEvent) : Process verify :=
  match event with
  | .start config now => startProcess sha256 verify config now s.auth.db
  | .login claims tokens now =>
      match s.config.bind (fun config => oidcIdentity sha256 config claims) with
      | some identity =>
          { s with auth := authStep verify s.auth ⟨now, .establishOidc identity tokens⟩ }
      | none => s
  | .authenticate tokenHash now =>
      { s with
        auth := { s.auth with
          db := (authenticateHeaders (s.policyFingerprint sha256 verify) tokenHash now
            s.auth.db).2 } }
  | .request event => { s with auth := authStep verify s.auth event.1 }

/-- A process before its first event. -/
def Process.idle (db : AuthDb) : Process verify := ⟨AuthSystem.idle verify db, none⟩

/-- The store has a session of that identifier. -/
def AuthDb.hasSession (db : AuthDb) (id : String) : Bool :=
  db.sessions.rows.any (fun session => decide (session.id = id))

/-- The OIDC session that an event creates, with the policy of its process. -/
def createdSession (s : Process verify) (event : ProcessEvent) : Option (String × OidcPolicy) :=
  match event with
  | .login _ tokens _ =>
      if s.auth.db.hasSession tokens.id = false ∧
          (processStep sha256 verify s event).auth.db.hasSession tokens.id = true then
        s.config.map (fun config => (tokens.id, config.policy))
      else none
  | _ => none

/-- The OIDC sessions that the events create, each with its policy. -/
def createdSessions (s : Process verify) (events : List ProcessEvent) :
    List (String × OidcPolicy) :=
  emitted (processStep sha256 verify) (createdSession sha256 verify) s events

/-- The policy that an event starts a process with. -/
def ProcessEvent.startedPolicy : ProcessEvent → Option OidcPolicy
  | .start config _ => config.map OidcConfig.policy
  | _ => none

end

end RouterView.Auth
