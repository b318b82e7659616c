/-
  Config/Publication.lean --- the publication of configuration updates.

  `update_config` as the steps between its await points: it waits for the lock to
  read the published configuration, then checks and stores the update, then waits
  for the lock to publish it.  Requests interleave between the steps, and a
  request that waits can be dropped.

  Scope: the updates of one process.  Left out: the reads of the configuration by the poller
  and the pages, and the JSON of a request.
-/
import RouterView.Config.Reload
import RouterView.Foundation.Pending
import RouterView.Foundation.Run

set_option autoImplicit false

namespace RouterView.Config

open RouterView.Foundation
open RouterView.Secrets

/-! ## Steps -/

/-- Where a request stands. -/
inductive Phase where
  | absent
  /-- It waits for the lock to read. -/
  | received (body : ConfigUpdateRequest) (nonce : Nonce)
  | reading (body : ConfigUpdateRequest) (nonce : Nonce) (current : MergedConfig)
  /-- Its transaction returned, and it waits for the lock to write. -/
  | committed (plan : UpdatePlan)
  | answered (answer : Except AppError UpdateResponse)
  | dropped

/-- How the call of a transaction ends: it returns, it fails with nothing stored, or
it fails although the transaction took effect. -/
inductive SaveOutcome where
  | returned
  | failed
  | unacknowledged
  deriving DecidableEq, Repr

/-- The running process and its requests. -/
structure Server where
  process : Process
  requests : Phases Phase

/-- A process without requests. -/
def Server.ofProcess (p : Process) : Server := ⟨p, .all .absent⟩

namespace Server

abbrev setPhase (s : Server) (i : Nat) (phase : Phase) : Server :=
  { s with requests := s.requests.set i phase }

def setDb (s : Server) (db : ConfigDb) : Server :=
  { s with process := { s.process with db := db } }

def setConfig (s : Server) (config : MergedConfig) : Server :=
  { s with process := { s.process with config := config } }

@[simp] theorem setDb_requests (s : Server) (db : ConfigDb) : (s.setDb db).requests = s.requests :=
  rfl

@[simp] theorem setConfig_requests (s : Server) (config : MergedConfig) :
    (s.setConfig config).requests = s.requests := rfl

/-- The request after its transaction. -/
def save (i : Nat) (plan : UpdatePlan) (outcome : SaveOutcome) (s : Server) : Server :=
  match outcome with
  | .failed => s.setPhase i (.answered (.error .database))
  | .unacknowledged =>
      (s.setDb (plan.save s.process.db).2).setPhase i (.answered (.error .database))
  | .returned =>
      if (plan.save s.process.db).1 then
        (s.setDb (plan.save s.process.db).2).setPhase i (.committed plan)
      else s.setPhase i (.answered (.error modifiedConflict))

/-- No update is in flight. -/
def Quiet (s : Server) : Prop :=
  ∀ i, s.requests i = .absent ∨ (∃ answer, s.requests i = .answered answer) ∨
    s.requests i = .dropped

end Server

/-- The steps of requests, each with the request that takes it. -/
inductive ServerEvent where
  | receive (i : Nat) (body : ConfigUpdateRequest) (nonce : Nonce)
  | read (i : Nat)
  | save (i : Nat) (outcome : SaveOutcome)
  | publish (i : Nat)
  | drop (i : Nat)

section

variable (suite : CipherSuite) (cipher : SecretCipher)

/-- A step of the server.  A request that is not at the step stays as it is. -/
def serverStep (s : Server) : ServerEvent → Server
  | .receive i body nonce =>
      match s.requests i with
      | .absent => s.setPhase i (.received body nonce)
      | _ => s
  | .read i =>
      match s.requests i with
      | .received body nonce => s.setPhase i (.reading body nonce s.process.config)
      | _ => s
  | .save i outcome =>
      match s.requests i with
      | .reading body nonce current =>
          match planUpdate suite cipher s.process.instanceId nonce body current with
          | .error e => s.setPhase i (.answered (.error e))
          | .ok plan => s.save i plan outcome
      | _ => s
  | .publish i =>
      match s.requests i with
      | .committed plan =>
          (s.setConfig plan.published).setPhase i (.answered (.ok plan.response))
      | _ => s
  | .drop i =>
      match s.requests i with
      | .received _ _ => s.setPhase i .dropped
      | .committed _ => s.setPhase i .dropped
      | _ => s

/-- The request that takes the step. -/
def ServerEvent.request : ServerEvent → Nat
  | .receive i _ _ => i
  | .read i => i
  | .save i _ => i
  | .publish i => i
  | .drop i => i

/-- The configuration that the tables hold: the rows over the environment, and the
stored password. -/
def persistedConfig (env : Env) (instanceId : String) (db : ConfigDb) :
    Except AppError MergedConfig := do
  let password ← match db.secrets "router_password" with
    | some encrypted => decryptPassword suite cipher instanceId encrypted
    | none => .ok ""
  return { MergedConfig.fromEnvAndDb env db.overrides with routerPassword := password }

/-! ## The condition -/

/-- No request stands between its transaction and its publication. -/
def Server.Settled (s : Server) : Prop := ∀ i plan, s.requests i ≠ .committed plan

/-- A transaction that takes effect returns; where the revision has reached its
bound and does not grow any more, it is also that of a request that read what is
still published, while no other one waits to publish. -/
def EffectsReturn (s : Server) (i : Nat) (outcome : SaveOutcome) : Prop :=
  ∀ body nonce current plan, s.requests i = .reading body nonce current →
    planUpdate suite cipher s.process.instanceId nonce body current = .ok plan →
    (plan.save s.process.db).1 = true → outcome ≠ .failed →
      outcome = .returned ∧
        (nextRevision plan.expectedRevision = plan.expectedRevision →
          current = s.process.config ∧ s.Settled)

/-- A step that loses no publication. -/
def KeepsPublication (s : Server) : ServerEvent → Prop
  | .save i outcome => EffectsReturn suite cipher s i outcome
  | .drop i => ∀ plan, s.requests i ≠ .committed plan
  | _ => True

end

/-! ## Revisions -/

section

variable {suite : CipherSuite} {cipher : SecretCipher} {env : Env} {p : Process}
  {change : Option PasswordMode}

theorem le_nextRevision (revision : UInt64) : revision ≤ nextRevision revision := by
  unfold nextRevision
  split
  · rename_i hlt
    rw [UInt64.le_iff_toNat_le, UInt64.toNat_add]
    have hone : (1 : UInt64).toNat = 1 := rfl
    rw [hone, Nat.mod_eq_of_lt hlt]
    omega
  · exact UInt64.le_refl revision

theorem Persisted.currentRevision (hp : Persisted suite cipher env change p) :
    p.db.currentRevision = p.config.revision := by
  have hrevision := congrArg MergedConfig.revision hp.agrees
  unfold ConfigDb.currentRevision
  simp only [MergedConfig.fromEnvAndDb, ConfigDb.overrides] at hrevision
  rw [Rows.erase_ne _ (by decide), Rows.erase_ne _ (by decide)] at hrevision
  exact hrevision

theorem Persisted.persistedConfig (hp : Persisted suite cipher env change p) :
    persistedConfig suite cipher env p.instanceId p.db = .ok p.config := by
  unfold Config.persistedConfig
  rw [hp.agrees]
  cases hsecret : p.db.secrets "router_password" with
  | some encrypted =>
      simp only [(hp.stored encrypted hsecret).1, ok_bind]
      rfl
  | none =>
      simp only [← (hp.absent hsecret).1, ok_bind]
      rfl

/-! ## The invariant -/

/-- What the server's requests read and stored: one of them at most waits to
publish, and then its configuration is the persisted one; without it, the
published one is.  A configuration that was read is older than the published one,
unless it is the same or the revision has reached its bound. -/
structure Published (suite : CipherSuite) (cipher : SecretCipher) (env : Env) (s : Server) :
    Prop where
  settled : s.Settled → ∃ change, Persisted suite cipher env change s.process
  waiting : ∀ i plan, s.requests i = .committed plan →
    (∃ change, Persisted suite cipher env change
      { s.process with config := plan.published }) ∧
    s.process.config.revision ≤ plan.published.revision ∧
    (s.process.config.revision = plan.published.revision →
      nextRevision s.process.config.revision = s.process.config.revision)
  single : ∀ i j plan plan', s.requests i = .committed plan → s.requests j = .committed plan' →
    i = j
  reads : ∀ i body nonce current, s.requests i = .reading body nonce current →
    current.revision ≤ s.process.config.revision ∧
    (current.revision = s.process.config.revision → current = s.process.config ∨
      nextRevision s.process.config.revision = s.process.config.revision)

theorem Published.ofProcess (hp : Persisted suite cipher env change p) :
    Published suite cipher env (Server.ofProcess p) where
  settled := fun _ => ⟨change, hp⟩
  waiting := fun _ _ h => by cases h
  single := fun _ _ _ _ h => by cases h
  reads := fun _ _ _ _ h => by cases h

variable {s : Server} {i : Nat}

/-- The phase of a request changes, to one that neither waits to publish nor has
read anything but what is published. -/
theorem Published.setPhase (hs : Published suite cipher env s)
    (hold : ∀ plan, s.requests i ≠ .committed plan) {phase : Phase}
    (hcommitted : ∀ plan, phase ≠ .committed plan)
    (hreading : ∀ body nonce current, phase = .reading body nonce current →
      current = s.process.config) :
    Published suite cipher env (s.setPhase i phase) := by
  have hback : ∀ j plan, (s.setPhase i phase).requests j = .committed plan →
      s.requests j = .committed plan := by
    intro j plan hj
    by_cases hji : j = i
    · subst hji
      rw [Phases.set_self] at hj
      exact absurd hj (hcommitted plan)
    · rwa [Phases.set_of_ne _ _ hji] at hj
  refine ⟨?_, fun j plan hj => hs.waiting j plan (hback j plan hj),
    fun j k plan plan' hj hk => hs.single j k plan plan' (hback j plan hj) (hback k plan' hk), ?_⟩
  · intro hsettled
    apply hs.settled
    intro j plan hj
    by_cases hji : j = i
    · subst hji
      exact hold plan hj
    · exact hsettled j plan (by rwa [Phases.set_of_ne _ _ hji])
  · intro j body nonce current hj
    by_cases hji : j = i
    · subst hji
      rw [Phases.set_self] at hj
      rw [hreading body nonce current hj]
      exact ⟨UInt64.le_refl _, fun _ => Or.inl rfl⟩
    · rw [Phases.set_of_ne _ _ hji] at hj
      exact hs.reads j body nonce current hj

/-- A transaction that finds another revision leaves the tables as they are. -/
theorem UpdatePlan.save_false {plan : UpdatePlan} {db : ConfigDb}
    (h : (plan.save db).1 = false) : (plan.save db).2 = db := by
  unfold UpdatePlan.save saveConfigTransaction at h ⊢
  split
  · rfl
  · rename_i hexpected
    rw [if_neg hexpected] at h
    cases h

/-- A transaction that expects the stored revision takes effect. -/
theorem UpdatePlan.save_fst {plan : UpdatePlan} {db : ConfigDb}
    (h : plan.expectedRevision = db.currentRevision) : (plan.save db).1 = true := by
  unfold UpdatePlan.save saveConfigTransaction
  rw [if_neg (by simp [h])]

/-- A transaction that takes effect is that of the published configuration, and no
other request waits to publish. -/
theorem Published.save_current (hs : Published suite cipher env s)
    {body : ConfigUpdateRequest} {nonce : Nonce} {current : MergedConfig} {plan : UpdatePlan}
    (hreading : s.requests i = .reading body nonce current)
    (hplan : planUpdate suite cipher s.process.instanceId nonce body current = .ok plan)
    (hsave : (plan.save s.process.db).1 = true)
    (hbound : nextRevision plan.expectedRevision = plan.expectedRevision →
      current = s.process.config ∧ s.Settled) :
    current = s.process.config ∧ s.Settled := by
  obtain ⟨_, hplanned⟩ := planUpdate_ok hplan
  have hsaved := UpdatePlan.save_true (Prod.ext hsave rfl)
  have hexpected := hplanned.expectedRevision
  obtain ⟨hle, heq⟩ := hs.reads i body nonce current hreading
  by_cases hstuck : nextRevision plan.expectedRevision = plan.expectedRevision
  · exact hbound hstuck
  · have hsettled : s.Settled := by
      intro j other hj
      obtain ⟨⟨change, hp⟩, hlatest, hsame⟩ := hs.waiting j other hj
      have hdb : s.process.db.currentRevision = other.published.revision := hp.currentRevision
      have hcurrent : current.revision = other.published.revision := by
        rw [← hexpected, hsaved.revision, hdb]
      have hpublished : s.process.config.revision = current.revision := by
        apply UInt64.le_antisymm
        · rw [hcurrent]
          exact hlatest
        · exact hle
      have hfixed := hsame (hpublished.trans hcurrent)
      rw [hpublished, ← hexpected] at hfixed
      exact hstuck hfixed
    obtain ⟨change, hp⟩ := hs.settled hsettled
    have hrevision : current.revision = s.process.config.revision := by
      rw [← hexpected, hsaved.revision, hp.currentRevision]
    rcases heq hrevision with hcurrent | hfixed
    · exact ⟨hcurrent, hsettled⟩
    · rw [← hrevision, ← hexpected] at hfixed
      exact absurd hfixed hstuck

theorem accept_of_save {body : ConfigUpdateRequest} {nonce : Nonce} {plan : UpdatePlan}
    (hplan : planUpdate suite cipher p.instanceId nonce body p.config = .ok plan)
    (hsave : (plan.save p.db).1 = true) :
    accept suite cipher p (body, nonce) =
      .ok ⟨p.instanceId, plan.published, (plan.save p.db).2⟩ := by
  unfold accept
  rw [hplan, ok_bind]
  simp only [hsave, ensure, if_true, ok_bind]
  rfl

theorem planUpdate_revision {body : ConfigUpdateRequest} {nonce : Nonce} {instanceId : String}
    {current : MergedConfig} {plan : UpdatePlan}
    (hplan : planUpdate suite cipher instanceId nonce body current = .ok plan) :
    plan.published.revision = nextRevision current.revision := by
  rw [← (planUpdate_ok hplan).2.expectedRevision]
  rfl

/-- A transaction that returns makes its request the one that waits to publish. -/
theorem Published.commit (hsuite : suite.Lawful) (hs : Published suite cipher env s)
    {body : ConfigUpdateRequest} {nonce : Nonce} {plan : UpdatePlan}
    (hsettled : s.Settled)
    (hplan : planUpdate suite cipher s.process.instanceId nonce body s.process.config = .ok plan)
    (hsave : (plan.save s.process.db).1 = true) :
    Published suite cipher env
      ((s.setDb (plan.save s.process.db).2).setPhase i (.committed plan)) := by
  have honly : ∀ j other, ((s.setDb (plan.save s.process.db).2).setPhase i
      (.committed plan)).requests j = .committed other → j = i ∧ other = plan := by
    intro j other hj
    by_cases hji : j = i
    · subst hji
      rw [Phases.set_self, Phase.committed.injEq] at hj
      exact ⟨rfl, hj.symm⟩
    · rw [Phases.set_of_ne _ _ hji] at hj
      exact absurd hj (hsettled j other)
  refine ⟨?_, ?_, ?_, ?_⟩
  · intro hnone
    have hi := hnone i plan
    rw [Phases.set_self] at hi
    exact absurd rfl hi
  · intro j other hj
    obtain ⟨_, rfl⟩ := honly j other hj
    obtain ⟨change, hp⟩ := hs.settled hsettled
    refine ⟨⟨_, accept_persisted hsuite hp (accept_of_save hplan hsave)⟩, ?_, ?_⟩
    · rw [planUpdate_revision hplan]
      exact le_nextRevision _
    · intro heq
      rw [planUpdate_revision hplan] at heq
      exact heq.symm
  · intro j k other other' hj hk
    rw [(honly j other hj).1, (honly k other' hk).1]
  · intro j otherBody otherNonce current hj
    by_cases hji : j = i
    · subst hji
      rw [Phases.set_self] at hj
      cases hj
    · rw [Phases.set_of_ne _ _ hji] at hj
      exact hs.reads j otherBody otherNonce current hj

/-- The request that waits to publish leaves the persisted configuration published. -/
theorem Published.publish (hs : Published suite cipher env s) {plan : UpdatePlan}
    (hi : s.requests i = .committed plan) (answer : Except AppError UpdateResponse) :
    Published suite cipher env ((s.setConfig plan.published).setPhase i (.answered answer)) := by
  obtain ⟨hpersisted, hle, hstuck⟩ := hs.waiting i plan hi
  have hnone : ((s.setConfig plan.published).setPhase i (.answered answer)).Settled := by
    intro j other hj
    by_cases hji : j = i
    · subst hji
      rw [Phases.set_self] at hj
      cases hj
    · rw [Phases.set_of_ne _ _ hji] at hj
      exact hji (hs.single j i other plan hj hi)
  refine ⟨fun _ => hpersisted, fun j other hj => absurd hj (hnone j other),
    fun j _ other _ hj => absurd hj (hnone j other), ?_⟩
  intro j body nonce current hj
  by_cases hji : j = i
  · subst hji
    rw [Phases.set_self] at hj
    cases hj
  · rw [Phases.set_of_ne _ _ hji] at hj
    obtain ⟨hold, _⟩ := hs.reads j body nonce current hj
    refine ⟨UInt64.le_trans hold hle, ?_⟩
    intro heq
    have hsame : s.process.config.revision = plan.published.revision :=
      UInt64.le_antisymm hle (heq ▸ hold)
    have hfixed := hstuck hsame
    rw [hsame] at hfixed
    exact Or.inr hfixed

/-- A step that loses no publication keeps the invariant. -/
theorem Published.step (hsuite : suite.Lawful) (hs : Published suite cipher env s)
    (e : ServerEvent) (he : KeepsPublication suite cipher s e) :
    Published suite cipher env (serverStep suite cipher s e) := by
  cases e with
  | receive i body nonce =>
      cases hi : s.requests i <;> simp only [serverStep, hi] <;> try exact hs
      apply hs.setPhase
      · exact fun plan h => by rw [hi] at h; cases h
      · exact fun plan h => by cases h
      · exact fun _ _ _ h => by cases h
  | read i =>
      cases hi : s.requests i <;> simp only [serverStep, hi] <;> try exact hs
      apply hs.setPhase
      · exact fun plan h => by rw [hi] at h; cases h
      · exact fun plan h => by cases h
      · intro _ _ _ h
        cases h
        rfl
  | publish i =>
      cases hi : s.requests i <;> simp only [serverStep, hi] <;> try exact hs
      exact hs.publish hi _
  | drop i =>
      cases hi : s.requests i <;> simp only [serverStep, hi] <;> try exact hs
      · apply hs.setPhase
        · exact fun plan h => by rw [hi] at h; cases h
        · exact fun plan h => by cases h
        · exact fun _ _ _ h => by cases h
      · rename_i plan
        exact absurd hi (he plan)
  | save i outcome =>
      cases hi : s.requests i <;> simp only [serverStep, hi] <;> try exact hs
      rename_i body nonce current
      have hanswered : ∀ answer, Published suite cipher env (s.setPhase i (.answered answer)) := by
        intro answer
        apply hs.setPhase
        · exact fun plan h => by rw [hi] at h; cases h
        · exact fun plan h => by cases h
        · exact fun _ _ _ h => by cases h
      cases hplan : planUpdate suite cipher s.process.instanceId nonce body current with
      | error e => exact hanswered _
      | ok plan =>
          simp only [Server.save]
          by_cases hsave : (plan.save s.process.db).1 = true
          · cases outcome with
            | failed => exact hanswered _
            | unacknowledged =>
                obtain ⟨hreturned, _⟩ := he body nonce current plan hi hplan hsave (by decide)
                cases hreturned
            | returned =>
                obtain ⟨_, hbound⟩ := he body nonce current plan hi hplan hsave (by decide)
                obtain ⟨rfl, hsettled⟩ := hs.save_current hi hplan hsave hbound
                simp only [hsave, if_true]
                exact hs.commit hsuite hsettled hplan hsave
          · have hdb : (plan.save s.process.db).2 = s.process.db :=
              UpdatePlan.save_false (by simpa using hsave)
            cases outcome with
            | failed => exact hanswered _
            | unacknowledged =>
                simp only [hdb]
                exact hanswered _
            | returned =>
                simp only [hsave]
                exact hanswered _

/-! ## Following updates -/

/-- The error is none of a revision conflict. -/
def NoConflict (e : AppError) : Prop := ∀ message, e ≠ .conflict message

theorem noConflict_invalidData (message : String) : NoConflict (.invalidData message) :=
  fun _ h => by cases h

theorem noConflict_secret (message : String) : NoConflict (.secret message) :=
  fun _ h => by cases h

theorem BoolValue.get_fails (value : BoolValue) (field : String) :
    FailsOnly NoConflict (value.get field) := by
  unfold BoolValue.get
  split
  · exact FailsOnly.ok _
  · split
    · exact FailsOnly.ok _
    · split
      · exact FailsOnly.ok _
      · exact FailsOnly.error (noConflict_invalidData _)

theorem validate_fails (config : MergedConfig) : FailsOnly NoConflict config.validate := by
  unfold MergedConfig.validate
  iterate 11
    refine FailsOnly.bind (FailsOnly.ensure (fun _ => noConflict_invalidData _)) (fun _ _ => ?_)
  exact FailsOnly.ensure (fun _ => noConflict_invalidData _)

theorem encryptPassword_fails (instanceId : String) (nonce : Nonce) (password : String) :
    FailsOnly NoConflict (encryptPassword suite cipher instanceId nonce password) := by
  unfold encryptPassword secretError
  split
  · exact FailsOnly.ok _
  · exact FailsOnly.error (noConflict_secret _)

theorem changePassword_fails (instanceId : String) (nonce : Nonce) (body : ConfigUpdateRequest)
    (next current : MergedConfig) :
    FailsOnly NoConflict (changePassword suite cipher instanceId nonce body next current) := by
  unfold changePassword
  split
  · apply FailsOnly.bind (FailsOnly.ensure (fun _ => noConflict_invalidData _))
    exact fun _ _ => FailsOnly.ok _
  · apply FailsOnly.bind (FailsOnly.okOr (fun _ => noConflict_invalidData _))
    intro password _
    apply FailsOnly.bind (FailsOnly.ensure (fun _ => noConflict_invalidData _))
    intro _ _
    apply FailsOnly.bind (encryptPassword_fails _ _ _)
    exact fun _ _ => FailsOnly.ok _
  · exact FailsOnly.ok _

theorem wizardRow_fails (body : ConfigUpdateRequest) : FailsOnly NoConflict (wizardRow body) := by
  unfold wizardRow
  split
  · exact FailsOnly.ok _
  · exact FailsOnly.bind (BoolValue.get_fails _ _) (fun _ _ => FailsOnly.ok _)

theorem requestedCerts_fails (body : ConfigUpdateRequest) (current : MergedConfig) :
    FailsOnly NoConflict (body.requestedCerts current) := by
  unfold ConfigUpdateRequest.requestedCerts
  split
  · exact FailsOnly.ok _
  · exact BoolValue.get_fails _ _

/-- A request with the revision that it reads is not refused for its revision. -/
theorem planUpdate_fails {body : ConfigUpdateRequest} {current : MergedConfig}
    (hrevision : body.expectedRevision = some current.revision) (instanceId : String)
    (nonce : Nonce) :
    FailsOnly NoConflict (planUpdate suite cipher instanceId nonce body current) := by
  unfold planUpdate
  rw [hrevision]
  refine FailsOnly.bind (FailsOnly.okOr (fun h => nomatch h)) ?_
  intro expected hexpected
  have hsame : expected = current.revision := (Except.ok.inj hexpected).symm
  refine FailsOnly.bind (FailsOnly.ensure (fun hne => absurd hsame hne)) ?_
  intro _ _
  apply FailsOnly.bind (requestedCerts_fails _ _)
  intro certs _
  apply FailsOnly.bind (changePassword_fails _ _ _ _ _)
  intro change _
  apply FailsOnly.bind (validate_fails _)
  intro _ _
  apply FailsOnly.bind (wizardRow_fails _)
  exact fun _ _ => FailsOnly.ok _

theorem Server.Quiet.settled (hs : s.Quiet) : s.Settled := by
  intro i plan hi
  rcases hs i with h | ⟨answer, h⟩ | h <;> rw [hi] at h <;> cases h

/-- The steps of a request that runs alone, up to its publication. -/
def aloneEvents (i : Nat) (body : ConfigUpdateRequest) (nonce : Nonce) (outcome : SaveOutcome) :
    List ServerEvent :=
  [.receive i body nonce, .read i, .save i outcome, .publish i]

/-- A request that runs alone and has the published revision is not answered with a
conflict. -/
theorem Published.alone (hs : Published suite cipher env s) (hsettled : s.Settled)
    (hi : s.requests i = .absent) {body : ConfigUpdateRequest}
    (hrevision : body.expectedRevision = some s.process.config.revision) (nonce : Nonce)
    (outcome : SaveOutcome) (message : String) :
    (run (serverStep suite cipher) s (aloneEvents i body nonce outcome)).requests i ≠
      .answered (.error (.conflict message)) := by
  obtain ⟨change, hp⟩ := hs.settled hsettled
  have hreading : run (serverStep suite cipher) s [.receive i body nonce, .read i] =
      s.setPhase i (.reading body nonce s.process.config) := by
    simp [serverStep, hi, Server.setPhase]
  have hevents : aloneEvents i body nonce outcome =
      [.receive i body nonce, .read i] ++ [.save i outcome, .publish i] := rfl
  rw [hevents, run_append, hreading]
  simp only [run_cons, run_nil, serverStep, Phases.set_self]
  cases hplan : planUpdate suite cipher s.process.instanceId nonce body s.process.config with
  | error e =>
      have he := planUpdate_fails hrevision _ _ e hplan
      simp only [Phases.set_self]
      intro h
      cases h
      exact he message rfl
  | ok plan =>
      have hsave : (plan.save s.process.db).1 = true := by
        apply UpdatePlan.save_fst
        rw [(planUpdate_ok hplan).2.expectedRevision, hp.currentRevision]
      cases outcome <;>
        simp [Server.save, hsave, Phases.set_self]

end

/-- Where no step loses a publication, a server without updates in flight publishes
what the tables hold, and a request with the published revision that runs next is
never answered with a conflict. -/
theorem publication_persisted {suite : CipherSuite} (hsuite : suite.Lawful)
    (cipher : SecretCipher) (env : Env) (generated : String) (nonce : Nonce) (db : ConfigDb)
    (p : Process) (events : List ServerEvent)
    (hstart : start suite cipher env generated nonce db = .ok p)
    (hevents : Along (serverStep suite cipher) (KeepsPublication suite cipher)
      (Server.ofProcess p) events) :
    let s := run (serverStep suite cipher) (Server.ofProcess p) events
    s.Quiet →
      persistedConfig suite cipher env s.process.instanceId s.process.db = .ok s.process.config ∧
      ∀ i body requestNonce outcome message, s.requests i = .absent →
        body.expectedRevision = some s.process.config.revision →
        (run (serverStep suite cipher) s (aloneEvents i body requestNonce outcome)).requests i ≠
          .answered (.error (.conflict message)) := by
  intro s hquiet
  have hs : Published suite cipher env s :=
    run_invariant (fun t e ht he => ht.step hsuite e he)
      (Published.ofProcess (start_persisted hsuite hstart)) hevents
  obtain ⟨change, hp⟩ := hs.settled hquiet.settled
  refine ⟨hp.persistedConfig, ?_⟩
  intro i body requestNonce outcome message hi hrevision
  exact hs.alone hquiet.settled hi hrevision requestNonce outcome message

/-! ### Runs on fixed inputs -/

/-- The step of a request leaves the other ones where they stand. -/
theorem serverStep_requests_of_ne (suite : CipherSuite) (cipher : SecretCipher) (s : Server)
    (e : ServerEvent) {j : Nat} (hj : j ≠ e.request) :
    (serverStep suite cipher s e).requests j = s.requests j := by
  have hset : ∀ (t : Server) (phase : Phase),
      (t.setPhase e.request phase).requests j = t.requests j :=
    fun t phase => t.requests.set_of_ne phase hj
  cases e with
  | receive i body nonce =>
      cases hi : s.requests i <;> simp only [serverStep, hi]
      exact hset s _
  | read i =>
      cases hi : s.requests i <;> simp only [serverStep, hi]
      exact hset s _
  | publish i =>
      cases hi : s.requests i <;> simp only [serverStep, hi]
      exact hset (s.setConfig _) _
  | drop i =>
      cases hi : s.requests i <;> simp only [serverStep, hi]
      · exact hset s _
      · exact hset s _
  | save i outcome =>
      cases hi : s.requests i <;> simp only [serverStep, hi]
      split
      · exact hset s _
      · cases outcome <;> simp only [Server.save]
        · split
          · exact hset (s.setDb _) _
          · exact hset s _
        · exact hset s _
        · exact hset (s.setDb _) _

/-- A run of one request leaves the other ones where they stand. -/
theorem run_requests_of_ne (suite : CipherSuite) (cipher : SecretCipher) {i j : Nat} (hj : j ≠ i)
    (events : List ServerEvent) (hevents : ∀ e ∈ events, e.request = i) (s : Server) :
    (run (serverStep suite cipher) s events).requests j = s.requests j := by
  induction events generalizing s with
  | nil => rfl
  | cons e rest ih =>
      have he : e.request = i := hevents e List.mem_cons_self
      rw [run_cons, ih (fun e' he' => hevents e' (List.mem_cons_of_mem _ he'))]
      exact serverStep_requests_of_ne suite cipher s e (he.symm ▸ hj)

/-- A request that moves to another router, with its password. -/
def replaceRequest : ConfigUpdateRequest := moveRequest "10.0.0.2" .replace (some "another") 0

/-- The revision that a request was answered with. -/
def Phase.answeredRevision : Phase → Option UInt64
  | .answered (.ok response) => some response.revision
  | _ => none

/-- The request was dropped. -/
def Phase.isDropped : Phase → Bool
  | .dropped => true
  | _ => false

theorem publication_persisted_replaced :
    ∃ p, firstStart = .ok p ∧
      let s := run (serverStep prefixSuite runCipher) (Server.ofProcess p)
        (aloneEvents 0 replaceRequest runNonce .returned)
      persistedConfig prefixSuite runCipher deployedEnv s.process.instanceId s.process.db =
        .ok s.process.config := by
  have hphase : firstStart.map (fun p =>
      ((run (serverStep prefixSuite runCipher) (Server.ofProcess p)
        (aloneEvents 0 replaceRequest runNonce .returned)).requests 0).answeredRevision) =
      .ok (some 1) := by decide +kernel
  cases hstart : firstStart with
  | error e =>
      rw [hstart] at hphase
      cases hphase
  | ok p =>
      rw [hstart] at hphase
      refine ⟨p, rfl, ?_⟩
      have hevents : Along (serverStep prefixSuite runCipher)
          (KeepsPublication prefixSuite runCipher) (Server.ofProcess p)
          (aloneEvents 0 replaceRequest runNonce .returned) := by
        refine ⟨trivial, trivial, ?_, trivial, trivial⟩
        intro body nonce current plan hreading hplan _ _
        refine ⟨rfl, fun hstuck => ?_⟩
        simp only [serverStep, Server.ofProcess, Phases.all_apply, Phases.set_self,
          Phase.reading.injEq] at hreading
        have hexpected := (planUpdate_ok hplan).1
        rw [← hreading.1] at hexpected
        have hzero : plan.expectedRevision = 0 := (Option.some.inj hexpected).symm
        rw [hzero] at hstuck
        exact absurd hstuck (by decide)
      refine (publication_persisted prefixSuite_lawful runCipher deployedEnv "instance" runNonce
        ⟨fun _ => none, fun _ => none⟩ p _ hstart hevents ?_).1
      intro i
      by_cases hi : i = 0
      · subst hi
        right
        left
        cases hrequest : (run (serverStep prefixSuite runCipher) (Server.ofProcess p)
            (aloneEvents 0 replaceRequest runNonce .returned)).requests 0 <;>
          simp only [Except.map, hrequest, Phase.answeredRevision] at hphase
        case answered answer => exact ⟨answer, rfl⟩
        all_goals cases hphase
      · left
        rw [run_requests_of_ne prefixSuite runCipher hi]
        · rfl
        · simp [aloneEvents, ServerEvent.request]

/-- A request is stored and then dropped while it waits to publish. -/
def droppedEvents : List ServerEvent :=
  [.receive 0 replaceRequest runNonce, .read 0, .save 0 .returned, .drop 0]

/-- A dropped publication leaves the old revision published, for good. -/
theorem publication_persisted_fails :
    ¬ ∀ (suite : CipherSuite), suite.Lawful → ∀ (cipher : SecretCipher) (env : Env)
      (generated : String) (nonce : Nonce) (db : ConfigDb) (p : Process)
      (events : List ServerEvent), start suite cipher env generated nonce db = .ok p →
      let s := run (serverStep suite cipher) (Server.ofProcess p) events
      s.Quiet →
        persistedConfig suite cipher env s.process.instanceId s.process.db =
          .ok s.process.config := by
  intro hclaim
  have hrun : firstStart.map (fun p =>
      let s := run (serverStep prefixSuite runCipher) (Server.ofProcess p) droppedEvents
      ((s.requests 0).isDropped, s.process.config.revision,
        (persistedConfig prefixSuite runCipher deployedEnv s.process.instanceId
          s.process.db).toOption.map MergedConfig.revision)) = .ok (true, 0, some 1) := by
    decide +kernel
  cases hstart : firstStart with
  | error e =>
      rw [hstart] at hrun
      cases hrun
  | ok p =>
      rw [hstart] at hrun
      simp only [Except.map, Except.ok.injEq, Prod.mk.injEq] at hrun
      obtain ⟨hdropped, hpublished, hstored⟩ := hrun
      have hquiet : (run (serverStep prefixSuite runCipher) (Server.ofProcess p)
          droppedEvents).Quiet := by
        intro i
        by_cases hi : i = 0
        · subst hi
          right
          right
          unfold Phase.isDropped at hdropped
          split at hdropped
          · assumption
          · cases hdropped
        · left
          rw [run_requests_of_ne prefixSuite runCipher hi]
          · rfl
          · simp [droppedEvents, ServerEvent.request]
      have hsame := hclaim prefixSuite prefixSuite_lawful runCipher deployedEnv "instance" runNonce
        _ p droppedEvents hstart hquiet
      rw [hsame, Except.toOption, Option.map_some, hpublished] at hstored
      exact absurd hstored (by decide)

end RouterView.Config
