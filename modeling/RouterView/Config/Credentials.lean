/-
  Config/Credentials.lean --- a router password stays with its connection.

  `update_config` over any interleaving of requests.  A password that is published is
  the loaded one with the loaded connection, or one that a request supplied, with the
  connection that this request asked for.
-/
import RouterView.Config.Publication

set_option autoImplicit false

namespace RouterView.Config

open RouterView.Foundation
open RouterView.Secrets

/-! ## Connections -/

/-- What a router password is sent to, and how. -/
structure Connection where
  routerType : RouterType
  routerHost : String
  routerPort : UInt16
  routerScheme : String
  routerUsername : String
  acceptInvalidCerts : Bool
  deriving DecidableEq, Repr

/-- The connection of a configuration. -/
def MergedConfig.connection (config : MergedConfig) : Connection where
  routerType := config.routerType
  routerHost := config.routerHost
  routerPort := config.routerPort
  routerScheme := config.routerScheme
  routerUsername := config.routerUsername
  acceptInvalidCerts := config.acceptInvalidCerts

/-- The test of `update_config` compares whole connections. -/
theorem connectionChanged_eq_false_iff {next current : MergedConfig} :
    connectionChanged next current = false ↔ next.connection = current.connection := by
  unfold connectionChanged MergedConfig.connection
  rw [decide_eq_false_iff_not, Connection.mk.injEq]
  tauto

section

variable {suite : CipherSuite} {cipher : SecretCipher} {p : Process}
  {events : List ServerEvent}

/-- Where the password of a plan comes from: the configuration that the request read,
with the same connection; the request; or there is none. -/
theorem planUpdate_credential {instanceId : String} {nonce : Nonce}
    {body : ConfigUpdateRequest} {current : MergedConfig} {plan : UpdatePlan}
    (h : planUpdate suite cipher instanceId nonce body current = .ok plan) :
    (plan.next.routerPassword = current.routerPassword ∧
        plan.next.connection = current.connection) ∨
      body.routerPassword = some plan.next.routerPassword ∨ plan.next.routerPassword = "" := by
  obtain ⟨certs, change, _, _, _, _, hchange, _, _, hplan⟩ := planUpdate_cases h
  rw [hplan]
  cases hchange with
  | kept _ hsame => exact Or.inl ⟨rfl, connectionChanged_eq_false_iff.mp hsame⟩
  | replaced _ hpassword _ => exact Or.inr (Or.inl hpassword)
  | cleared _ => exact Or.inr (Or.inr rfl)

/-! ## The law -/

/-- The request took its step to read after the events `before`. -/
def ReadAfter (suite : CipherSuite) (cipher : SecretCipher) (p : Process)
    (events : List ServerEvent) (i : Nat) (body : ConfigUpdateRequest) (nonce : Nonce)
    (before : List ServerEvent) : Prop :=
  .receive i body nonce ∈ before ∧ before ++ [.read i] <+: events ∧
    (run (serverStep suite cipher) (Server.ofProcess p) before).requests i = .received body nonce

/-- A request of the run supplied the password for the connection, which it asked for on
top of the configuration that was published when it read. -/
def Supplied (suite : CipherSuite) (cipher : SecretCipher) (p : Process)
    (events : List ServerEvent) (config : MergedConfig) : Prop :=
  ∃ i body nonce before plan, ReadAfter suite cipher p events i body nonce before ∧
    planUpdate suite cipher p.instanceId nonce body
      (run (serverStep suite cipher) (Server.ofProcess p) before).process.config = .ok plan ∧
    body.routerPassword = some config.routerPassword ∧
    plan.next.connection = config.connection

/-- The password of the configuration, if there is one, is with its connection. -/
def Entitled (suite : CipherSuite) (cipher : SecretCipher) (p : Process)
    (events : List ServerEvent) (config : MergedConfig) : Prop :=
  config.routerPassword ≠ "" →
    (config.routerPassword = p.config.routerPassword ∧
        config.connection = p.config.connection) ∨
      Supplied suite cipher p events config

/-- A configuration that may be published. -/
structure Publishable (suite : CipherSuite) (cipher : SecretCipher) (p : Process)
    (events : List ServerEvent) (config : MergedConfig) : Prop where
  valid : config.validate = .ok ()
  entitled : Entitled suite cipher p events config

theorem ReadAfter.mono {more : List ServerEvent} {i : Nat} {body : ConfigUpdateRequest}
    {nonce : Nonce} {before : List ServerEvent}
    (h : ReadAfter suite cipher p events i body nonce before) :
    ReadAfter suite cipher p (events ++ more) i body nonce before :=
  ⟨h.1, h.2.1.trans (List.prefix_append _ _), h.2.2⟩

theorem Supplied.mono {more : List ServerEvent} {config : MergedConfig}
    (h : Supplied suite cipher p events config) :
    Supplied suite cipher p (events ++ more) config := by
  obtain ⟨i, body, nonce, before, plan, hread, hplan, hpassword, hconnection⟩ := h
  exact ⟨i, body, nonce, before, plan, hread.mono, hplan, hpassword, hconnection⟩

theorem Publishable.mono {more : List ServerEvent} {config : MergedConfig}
    (h : Publishable suite cipher p events config) :
    Publishable suite cipher p (events ++ more) config :=
  ⟨h.valid, fun hsome => (h.entitled hsome).imp id Supplied.mono⟩

/-- What a request plans for a configuration that may be published may be published. -/
theorem Publishable.plan {i : Nat} {body : ConfigUpdateRequest} {nonce : Nonce}
    {before : List ServerEvent} {plan : UpdatePlan}
    (hread : ReadAfter suite cipher p events i body nonce before)
    (h : Publishable suite cipher p events
      (run (serverStep suite cipher) (Server.ofProcess p) before).process.config)
    (hplan : planUpdate suite cipher p.instanceId nonce body
      (run (serverStep suite cipher) (Server.ofProcess p) before).process.config = .ok plan) :
    Publishable suite cipher p events plan.published := by
  constructor
  · have hsame : plan.published.validate = plan.next.validate :=
      MergedConfig.validate_congr rfl
    rw [hsame]
    exact (planUpdate_ok hplan).2.valid
  · intro hsome
    rcases planUpdate_credential hplan with ⟨hpassword, hconnection⟩ | hsupplied | hempty
    · have hpublished : plan.published.routerPassword = plan.next.routerPassword := rfl
      rw [hpublished, hpassword] at hsome
      rcases h.entitled hsome with ⟨hinitial, hwith⟩ | hsupplied
      · left
        exact ⟨hpassword.trans hinitial, hconnection.trans hwith⟩
      · right
        obtain ⟨j, other, nonce', earlier, plan', hread', hplan', hother, hwith⟩ := hsupplied
        exact ⟨j, other, nonce', earlier, plan', hread', hplan',
          hother.trans (congrArg some hpassword.symm), hwith.trans hconnection.symm⟩
    · right
      exact ⟨i, body, nonce, before, plan, hread, hplan, hsupplied, rfl⟩
    · exact absurd hempty hsome

/-- A process starts with a configuration that passed the check. -/
theorem start_valid {env : Env} {generated : String} {nonce : Nonce} {db : ConfigDb}
    (h : start suite cipher env generated nonce db = .ok p) :
    p.config.validate = .ok () := by
  unfold start at h
  obtain ⟨⟨config, stored⟩, hload, h⟩ := bind_eq_ok_iff.mp h
  simp only [pure_eq_ok, Except.ok.injEq] at h
  rw [← h]
  unfold load at hload
  obtain ⟨_, hload⟩ := ensure_bind_eq_ok_iff.mp hload
  obtain ⟨_, _, hload⟩ := bind_eq_ok_iff.mp hload
  obtain ⟨_, hvalid, hload⟩ := bind_eq_ok_iff.mp hload
  simp only [pure_eq_ok, Except.ok.injEq, Prod.mk.injEq] at hload
  rw [← hload.1]
  exact hvalid

/-! ## Runs -/

/-- What stands behind the phase of a request. -/
def PhaseFits (suite : CipherSuite) (cipher : SecretCipher) (p : Process)
    (events : List ServerEvent) (i : Nat) : Phase → Prop
  | .absent => True
  | .received body nonce => .receive i body nonce ∈ events
  | .reading body nonce current =>
      Publishable suite cipher p events current ∧
        ∃ before, ReadAfter suite cipher p events i body nonce before ∧
          current = (run (serverStep suite cipher) (Server.ofProcess p) before).process.config
  | .committed plan => Publishable suite cipher p events plan.published
  | .answered _ => True
  | .dropped => True

/-- The server after the events: what it publishes, and what it will publish, may be
published. -/
structure KeepsCredentials (suite : CipherSuite) (cipher : SecretCipher) (p : Process)
    (events : List ServerEvent) (s : Server) : Prop where
  instanceId : s.process.instanceId = p.instanceId
  published : Publishable suite cipher p events s.process.config
  phase : ∀ i, PhaseFits suite cipher p events i (s.requests i)

theorem PhaseFits.mono {more : List ServerEvent} {i : Nat} {phase : Phase}
    (h : PhaseFits suite cipher p events i phase) :
    PhaseFits suite cipher p (events ++ more) i phase := by
  cases phase with
  | absent => trivial
  | received body nonce => exact List.mem_append_left _ h
  | reading body nonce current =>
      obtain ⟨hpublishable, before, hread, hcurrent⟩ := h
      exact ⟨hpublishable.mono, before, hread.mono, hcurrent⟩
  | committed plan => exact Publishable.mono h
  | answered _ => trivial
  | dropped => trivial

section

variable {s : Server}

theorem KeepsCredentials.mono {more : List ServerEvent}
    (h : KeepsCredentials suite cipher p events s) :
    KeepsCredentials suite cipher p (events ++ more) s :=
  ⟨h.instanceId, h.published.mono, fun i => (h.phase i).mono⟩

theorem KeepsCredentials.setPhase (h : KeepsCredentials suite cipher p events s) {i : Nat}
    {phase : Phase} (hphase : PhaseFits suite cipher p events i phase) :
    KeepsCredentials suite cipher p events (s.setPhase i phase) := by
  refine ⟨h.instanceId, h.published, ?_⟩
  intro j
  by_cases hj : j = i
  · subst hj
    rw [Phases.set_self]
    exact hphase
  · rw [Phases.set_of_ne _ phase hj]
    exact h.phase j

theorem KeepsCredentials.setDb (h : KeepsCredentials suite cipher p events s) (db : ConfigDb) :
    KeepsCredentials suite cipher p events (s.setDb db) :=
  ⟨h.instanceId, h.published, h.phase⟩

/-- The transaction of a plan stores what may be published next. -/
theorem KeepsCredentials.save (h : KeepsCredentials suite cipher p events s) {i : Nat}
    {plan : UpdatePlan} (hplan : Publishable suite cipher p events plan.published)
    (outcome : SaveOutcome) : KeepsCredentials suite cipher p events (s.save i plan outcome) := by
  cases outcome with
  | returned =>
      simp only [Server.save]
      split
      · exact (h.setDb _).setPhase hplan
      · exact h.setPhase trivial
  | failed => exact h.setPhase trivial
  | unacknowledged => exact (h.setDb _).setPhase trivial

theorem KeepsCredentials.step (h : KeepsCredentials suite cipher p events s)
    (hs : s = run (serverStep suite cipher) (Server.ofProcess p) events) (e : ServerEvent) :
    KeepsCredentials suite cipher p (events ++ [e]) (serverStep suite cipher s e) := by
  have hlater : KeepsCredentials suite cipher p (events ++ [e]) s := h.mono
  cases e with
  | receive i body nonce =>
      cases hphase : s.requests i <;> simp only [serverStep, hphase]
      case absent => exact hlater.setPhase (List.mem_append_right _ (List.mem_singleton.mpr rfl))
      all_goals exact hlater
  | read i =>
      cases hphase : s.requests i <;> simp only [serverStep, hphase]
      case received body nonce =>
        have hreceived := h.phase i
        rw [hphase] at hreceived
        have hread : ReadAfter suite cipher p (events ++ [.read i]) i body nonce events :=
          ⟨hreceived, List.prefix_rfl, hs ▸ hphase⟩
        exact hlater.setPhase ⟨hlater.published, events, hread, congrArg (·.process.config) hs⟩
      all_goals exact hlater
  | save i outcome =>
      cases hphase : s.requests i <;> simp only [serverStep, hphase]
      case reading body nonce current =>
        have hreading := hlater.phase i
        rw [hphase] at hreading
        obtain ⟨hpublishable, before, hread, rfl⟩ := hreading
        split
        · exact hlater.setPhase trivial
        · rename_i plan hplan
          rw [hlater.instanceId] at hplan
          exact hlater.save (hpublishable.plan hread hplan) outcome
      all_goals exact hlater
  | publish i =>
      cases hphase : s.requests i <;> simp only [serverStep, hphase]
      case committed plan =>
        have hcommitted := hlater.phase i
        rw [hphase] at hcommitted
        have hset : KeepsCredentials suite cipher p (events ++ [.publish i])
            (s.setConfig plan.published) := ⟨hlater.instanceId, hcommitted, hlater.phase⟩
        exact hset.setPhase trivial
      all_goals exact hlater
  | drop i =>
      cases hphase : s.requests i <;> simp only [serverStep, hphase]
      case received body nonce => exact hlater.setPhase trivial
      case committed plan => exact hlater.setPhase trivial
      all_goals exact hlater

end

/-- After any events the server keeps the passwords with their connections. -/
theorem KeepsCredentials.along (suite : CipherSuite) (cipher : SecretCipher) {p : Process}
    (hvalid : p.config.validate = .ok ()) (events : List ServerEvent) :
    KeepsCredentials suite cipher p events
      (run (serverStep suite cipher) (Server.ofProcess p) events) := by
  induction events using List.reverseRecOn with
  | nil => exact ⟨rfl, ⟨hvalid, fun _ => Or.inl ⟨rfl, rfl⟩⟩, fun _ => trivial⟩
  | append_singleton earlier e ih =>
      rw [run_append]
      exact ih.step rfl e

/-! ## Rejected requests -/

/-- The request was stored, or it was dropped: it will not be answered with an error. -/
def Phase.Unrejected : Phase → Prop
  | .committed _ => True
  | .answered (.ok _) => True
  | .dropped => True
  | _ => False

theorem Phase.Unrejected.step {s : Server} {i : Nat} (h : (s.requests i).Unrejected)
    (e : ServerEvent) : ((serverStep suite cipher s e).requests i).Unrejected := by
  by_cases hi : i = e.request
  swap
  · rw [serverStep_requests_of_ne suite cipher s e hi]
    exact h
  · subst hi
    cases e with
    | receive i body nonce =>
        simp only [ServerEvent.request] at h ⊢
        cases hphase : s.requests i <;> rw [hphase] at h <;> simp only [serverStep, hphase]
        case absent => exact h.elim
        all_goals exact h
    | read i =>
        simp only [ServerEvent.request] at h ⊢
        cases hphase : s.requests i <;> rw [hphase] at h <;> simp only [serverStep, hphase]
        case received => exact h.elim
        all_goals exact h
    | save i outcome =>
        simp only [ServerEvent.request] at h ⊢
        cases hphase : s.requests i <;> rw [hphase] at h <;> simp only [serverStep, hphase]
        case reading => exact h.elim
        all_goals exact h
    | publish i =>
        simp only [ServerEvent.request] at h ⊢
        cases hphase : s.requests i <;> rw [hphase] at h <;> simp only [serverStep, hphase]
        case committed =>
          rw [Phases.set_self]
          trivial
        all_goals exact h
    | drop i =>
        simp only [ServerEvent.request] at h ⊢
        cases hphase : s.requests i <;> rw [hphase] at h <;> simp only [serverStep, hphase]
        case received => exact h.elim
        case committed =>
          rw [Phases.set_self]
          trivial
        all_goals exact h

theorem Phase.Unrejected.along {s : Server} {i : Nat} (h : (s.requests i).Unrejected)
    (events : List ServerEvent) :
    ((run (serverStep suite cipher) s events).requests i).Unrejected := by
  induction events generalizing s with
  | nil => exact h
  | cons e rest ih => exact ih (h.step e)

/-- What a step of a request does to the process, unless the request is stored by it,
or an error hides that it was. -/
theorem serverStep_process (s : Server) {e : ServerEvent}
    (hhidden : e ≠ .save e.request .unacknowledged) :
    (serverStep suite cipher s e).process = s.process ∨
      ((serverStep suite cipher s e).requests e.request).Unrejected := by
  cases e with
  | receive i body nonce => cases hphase : s.requests i <;> simp [serverStep, hphase]
  | read i => cases hphase : s.requests i <;> simp [serverStep, hphase]
  | save i outcome =>
      cases hphase : s.requests i <;> simp only [serverStep, hphase, ServerEvent.request]
      case reading body nonce current =>
        split
        · exact Or.inl rfl
        · rename_i plan _
          cases outcome with
          | returned =>
              simp only [Server.save]
              split
              · right
                rw [Phases.set_self]
                trivial
              · exact Or.inl rfl
          | failed => exact Or.inl rfl
          | unacknowledged => exact absurd rfl hhidden
      all_goals exact Or.inl trivial
  | publish i =>
      cases hphase : s.requests i <;> simp only [serverStep, hphase, ServerEvent.request]
      case committed plan =>
        right
        rw [Phases.set_self]
        trivial
      all_goals exact Or.inl trivial
  | drop i => cases hphase : s.requests i <;> simp [serverStep, hphase]

/-- No step of a request publishes, but the one that answers it. -/
theorem serverStep_config (s : Server) (e : ServerEvent) :
    (serverStep suite cipher s e).process.config = s.process.config ∨
      ((serverStep suite cipher s e).requests e.request).Unrejected := by
  by_cases hhidden : e = .save e.request .unacknowledged
  swap
  · exact (serverStep_process s hhidden).imp (congrArg Process.config) id
  · left
    generalize e.request = i at hhidden
    subst hhidden
    cases hphase : s.requests i <;> simp only [serverStep, hphase]
    case reading body nonce current =>
      split <;> rfl

/-- A step of a request that is rejected in the end did not store it. -/
theorem not_unrejected_of_rejected {p : Process} {before after : List ServerEvent}
    {e : ServerEvent} {error : AppError}
    (h : (run (serverStep suite cipher) (Server.ofProcess p) (before ++ e :: after)).requests
      e.request = .answered (.error error)) :
    ¬((serverStep suite cipher (run (serverStep suite cipher) (Server.ofProcess p) before)
      e).requests e.request).Unrejected := by
  intro hunrejected
  have hend : ((run (serverStep suite cipher) (serverStep suite cipher
      (run (serverStep suite cipher) (Server.ofProcess p) before) e) after).requests
        e.request).Unrejected := hunrejected.along after
  rw [run_append, run_cons] at h
  rw [h] at hend
  exact hend

end

/-- In every run of update requests, what is published passes the check; a request that
is rejected changed nothing, but what a storage error hid; and a password that is
published is the loaded one with the loaded connection, or one that a request supplied
for the connection. -/
theorem credentials_stay_with_connection {suite : CipherSuite} (cipher : SecretCipher)
    (env : Env) (generated : String) (nonce : Nonce) (db : ConfigDb) (p : Process)
    (events : List ServerEvent) (hstart : start suite cipher env generated nonce db = .ok p) :
    let reached := run (serverStep suite cipher) (Server.ofProcess p)
    (reached events).process.config.validate = .ok () ∧
      (∀ before e after error, events = before ++ e :: after →
        (reached events).requests e.request = .answered (.error error) →
        (serverStep suite cipher (reached before) e).process.config =
            (reached before).process.config ∧
          (e ≠ .save e.request .unacknowledged →
            (serverStep suite cipher (reached before) e).process = (reached before).process)) ∧
      ((reached events).process.config.routerPassword ≠ "" →
        ((reached events).process.config.routerPassword = p.config.routerPassword ∧
            (reached events).process.config.connection = p.config.connection) ∨
          Supplied suite cipher p events (reached events).process.config) := by
  intro reached
  have hkeeps := KeepsCredentials.along suite cipher (start_valid hstart) events
  refine ⟨hkeeps.published.valid, ?_, hkeeps.published.entitled⟩
  intro before e after error hevents hrejected
  rw [hevents] at hrejected
  have hstored := not_unrejected_of_rejected hrejected
  exact ⟨(serverStep_config _ e).resolve_right hstored,
    fun hhidden => (serverStep_process _ hhidden).resolve_right hstored⟩

theorem credentials_stay_with_connection_replaced :
    ∃ p, firstStart = .ok p ∧
      Supplied prefixSuite runCipher p (aloneEvents 0 replaceRequest runNonce .returned)
        (run (serverStep prefixSuite runCipher) (Server.ofProcess p)
          (aloneEvents 0 replaceRequest runNonce .returned)).process.config := by
  have hpasswords : firstStart.map (fun p => (p.config.routerPassword,
      (run (serverStep prefixSuite runCipher) (Server.ofProcess p)
        (aloneEvents 0 replaceRequest runNonce .returned)).process.config.routerPassword)) =
      .ok ("from-env", "another") := by decide +kernel
  cases hstart : firstStart with
  | error e =>
      rw [hstart] at hpasswords
      cases hpasswords
  | ok p =>
      rw [hstart] at hpasswords
      obtain ⟨hinitial, hpublished⟩ := Prod.mk.inj (Except.ok.inj hpasswords)
      obtain ⟨_, _, hlaw⟩ := credentials_stay_with_connection runCipher deployedEnv "instance"
        runNonce ⟨fun _ => none, fun _ => none⟩ p (aloneEvents 0 replaceRequest runNonce .returned)
        hstart
      refine ⟨p, rfl, (hlaw ?_).resolve_left ?_⟩
      · rw [hpublished]
        decide
      · rintro ⟨hsame, _⟩
        rw [hpublished, hinitial] at hsame
        exact absurd hsame (by decide)

end RouterView.Config
