/-
  Auth/Pairing.lean --- what a pairing code is good for.

  A code is consumed by marking it in the transaction that inserts its session,
  so it is used at most once in any interleaving.  A code for an administrator
  that is still unused was created on the current administrator's password: a
  reset in between would have used it up.
-/
import RouterView.Auth.Reset

set_option autoImplicit false

namespace RouterView.Auth

open RouterView.Foundation

variable (verify : String → String → Bool)

/-! ## Issued sessions -/

/-- The code that a step consumes and the session that it hands out. -/
def issued (s : AuthSystem verify) (event : AuthEvent) :
    Option (PairingCode × AuthSessionRecord) :=
  match event.step with
  | .pairConsume request tokens =>
      (s.preflights request).bind (fun codeHash =>
        match consumePairingAndInsertSession codeHash event.now tokens.id tokens.tokenHash
            tokens.csrfHash fixedViewerSecs fixedAdminSecs s.db with
        | .ok (some session, _) =>
            (s.db.pairingCodes.rows.find? (fun code => decide (code.codeHash = codeHash))).map
              (fun code => (code, session))
        | _ => none)
  | _ => none

section

variable {verify} {s : AuthSystem verify} {event : AuthEvent} {code : PairingCode}
  {session : AuthSessionRecord}

/-- An issue is a use of the code in storage. -/
theorem issued_paired (h : issued verify s event = some (code, session)) :
    ∃ creator, ∃ tokens : SessionTokens, session = pairedSession code creator event.now tokens.id
        tokens.tokenHash tokens.csrfHash fixedViewerSecs fixedAdminSecs ∧
      Paired code creator session code.codeHash event.now s.db (authStep verify s event).db := by
  obtain ⟨now, step⟩ := event
  cases step with
  | pairConsume request tokens =>
      simp only [issued, Option.bind_eq_some_iff] at h
      obtain ⟨codeHash, hpreflight, h⟩ := h
      cases hconsume : consumePairingAndInsertSession codeHash now tokens.id tokens.tokenHash
          tokens.csrfHash fixedViewerSecs fixedAdminSecs s.db with
      | error e => simp [hconsume] at h
      | ok answer =>
          obtain ⟨answer, db'⟩ := answer
          rcases consumePairingAndInsertSession_ok hconsume with
            ⟨rfl, _⟩ | ⟨used, creator, session', rfl, hsession, hpaired⟩
          · simp [hconsume] at h
          · simp only [hconsume, Option.map_eq_some_iff, Prod.mk.injEq] at h
            obtain ⟨found, hfound, rfl, rfl⟩ := h
            -- the hash belongs to one code
            have hhash := List.find?_some hfound
            rw [decide_eq_true_eq] at hhash
            have hsame := s.db.pairingCodes.eq_of_clash (List.mem_of_find?_eq_some hfound)
              hpaired.stored (by simp [UniqueRow.clash, hhash, hpaired.hash])
            subst hsame
            have hdb : (authStep verify s ⟨now, .pairConsume request tokens⟩).db = db' := by
              simp [authStep, nextDb, storeOp, hpreflight, sessionStep, hconsume, committed,
                Except.map]
            rw [hdb, hhash]
            exact ⟨creator, tokens, hsession, hpaired⟩
  | _ => simp [issued] at h

/-- The code of an issue is used from then on. -/
theorem issued_used (h : issued verify s event = some (code, session)) :
    ∃ c ∈ (authStep verify s event).db.pairingCodes.rows, c.id = code.id ∧
      c.usedAt.isSome = true := by
  obtain ⟨creator, tokens, _, hpaired⟩ := issued_paired h
  refine ⟨{ code with usedAt := some event.now }, ?_, rfl, rfl⟩
  rw [hpaired.codes]
  refine List.mem_map.mpr ⟨code, hpaired.stored, ?_⟩
  simp [hpaired.unused]

/-- A code that is used is not issued any more. -/
theorem emitted_unused {events : List AuthEvent} {c : PairingCode}
    (hc : c ∈ s.db.pairingCodes.rows) (hused : c.usedAt.isSome = true) :
    ∀ i ∈ emitted (authStep verify) (issued verify) s events, i.1.id ≠ c.id := by
  induction events generalizing s with
  | nil => exact fun i hi => absurd hi List.not_mem_nil
  | cons event rest ih =>
      intro i hi
      rcases List.mem_append.mp hi with hnow | hlater
      · rw [Option.mem_toList] at hnow
        obtain ⟨creator, tokens, _, hpaired⟩ := @issued_paired _ _ _ i.1 i.2 hnow
        intro hid
        have hsame := s.db.pairingCodes.eq_of_clash hpaired.stored hc
          (by simp [UniqueRow.clash, hid])
        rw [← hsame, hpaired.unused] at hused
        cases hused
      · exact ih (authStep_used hc hused) i hlater

/-- A code is issued at most once. -/
theorem emitted_nodup (events : List AuthEvent) :
    ((emitted (authStep verify) (issued verify) s events).map (fun i => i.1.id)).Nodup := by
  induction events generalizing s with
  | nil => exact List.nodup_nil
  | cons event rest ih =>
      simp only [emitted, List.map_append]
      cases hissued : issued verify s event with
      | none => exact ih
      | some i =>
          obtain ⟨c, hc, hid, hused⟩ := @issued_used _ _ _ i.1 i.2 hissued
          refine List.nodup_cons.mpr ⟨?_, ih⟩
          intro hmem
          obtain ⟨j, hj, hsame⟩ := List.mem_map.mp hmem
          exact emitted_unused hc hused j hj (hsame.trans hid.symm)

end

/-! ## The record behind a code -/

/-- The administrator's record that a stage holds. -/
def PairingStage.record {verify : String → String → Bool} :
    PairingStage verify → Option AdminRecord
  | .read _ _ _ admin => some admin
  | .granted _ _ .viewer => none
  | .granted _ _ (.admin verified) => some verified.record

/-- A record that was read is the current one, or has an older version. -/
def Held (db : AuthDb) (record : AdminRecord) : Prop :=
  ∃ current, db.admin = some current ∧
    (current = record ∨ record.credentialVersion < current.credentialVersion)

/-- Every creation of a code holds a record that was read. -/
def HeldRecords (s : AuthSystem verify) : Prop :=
  ∀ request stage record, s.pairings request = some stage → stage.record = some record →
    Held s.db record

section

variable {verify} {s : AuthSystem verify} {event : AuthEvent}

theorem Held.step {record : AdminRecord} (h : Held s.db record) :
    Held (authStep verify s event).db record := by
  obtain ⟨current, hcurrent, hrecord⟩ := h
  rcases nextDb_cases s event with hsame | ⟨op, _, hstep⟩
  · rw [hsame]
    exact ⟨current, hcurrent, hrecord⟩
  · have heffect := (sessionStep_effect s.db ⟨event.now, op⟩).admin
    rw [← hstep, hcurrent] at heffect
    unfold Held
    generalize (authStep verify s event).db.admin = after at heffect
    cases heffect with
    | same => exact ⟨current, rfl, hrecord⟩
    | replaced _ username passwordHash _ =>
        refine ⟨_, rfl, Or.inr ?_⟩
        rcases hrecord with hsame | hold
        · rw [← hsame]
          exact lt_add_one _
        · exact hold.trans (lt_add_one _)

/-- A stage after a step is an earlier one of the request, or its first, or the
verified form of its first. -/
theorem nextPairings_cases {request : Nat} {stage : PairingStage verify}
    (h : (authStep verify s event).pairings request = some stage) :
    s.pairings request = some stage ∨
      (∃ creator label role password,
        firstPairingStage verify s.db creator label role password = some stage) ∨
      ∃ creator label password admin, s.pairings request =
          some (.read creator label password admin) ∧
        (verifiedAdmin verify password admin).map (fun admin =>
          PairingStage.granted creator label (.admin admin)) = some stage := by
  obtain ⟨now, step⟩ := event
  have hset : ∀ {other : Nat} {next : Option (PairingStage verify)},
      setStage s.pairings other next request = some stage →
      s.pairings request = some stage ∨ (request = other ∧ next = some stage) := by
    intro other next hnext
    unfold setStage at hnext
    split at hnext
    · rename_i heq
      exact Or.inr ⟨heq, hnext⟩
    · exact Or.inl hnext
  cases step with
  | pairingRead other creator label role password =>
      rcases hset h with hold | ⟨_, hnext⟩
      · exact Or.inl hold
      · exact Or.inr (Or.inl ⟨creator, label, role, password, hnext⟩)
  | pairingVerify other =>
      simp only [authStep, nextPairings] at h
      cases hread : s.pairings other with
      | none =>
          rw [hread] at h
          exact Or.inl h
      | some current =>
          cases current with
          | granted creator label grant =>
              rw [hread] at h
              exact Or.inl h
          | read creator label password admin =>
              rw [hread] at h
              rcases hset h with hold | ⟨heq, hnext⟩
              · exact Or.inl hold
              · subst heq
                exact Or.inr (Or.inr ⟨creator, label, password, admin, hread, hnext⟩)
  | pairingInsert other pairingId codeHash =>
      rcases hset h with hold | ⟨_, hnext⟩
      · exact Or.inl hold
      · cases hnext
  | _ => exact Or.inl h

theorem verifiedAdmin_record {password : String} {admin : AdminRecord}
    {verified : VerifiedAdmin verify} (h : verifiedAdmin verify password admin = some verified) :
    verified.record = admin := by
  unfold verifiedAdmin at h
  split at h
  · cases h
    rfl
  · cases h

theorem firstPairingStage_record {db : AuthDb} {creator : SessionContext} {label : String}
    {role : Role} {password : Option String} {stage : PairingStage verify} {record : AdminRecord}
    (h : firstPairingStage verify db creator label role password = some stage)
    (hrecord : stage.record = some record) : db.admin = some record := by
  unfold firstPairingStage at h
  split at h
  · cases h
  · cases role with
    | viewer =>
        cases h
        cases hrecord
    | admin =>
        simp only [Option.bind_eq_some_iff, Option.map_eq_some_iff] at h
        obtain ⟨admin, hadmin, given, _, rfl⟩ := h
        rw [hadmin]
        exact hrecord

theorem HeldRecords.step (h : HeldRecords verify s) : HeldRecords verify (authStep verify s event) := by
  intro request stage record hstage hrecord
  apply Held.step
  rcases nextPairings_cases hstage with
    hold | ⟨_, _, _, _, hfirst⟩ | ⟨_, _, _, admin, hread, hverified⟩
  · exact h request stage record hold hrecord
  · exact ⟨record, firstPairingStage_record hfirst hrecord, Or.inl rfl⟩
  · rw [Option.map_eq_some_iff] at hverified
    obtain ⟨verified, hverified, rfl⟩ := hverified
    have hadmin := verifiedAdmin_record hverified
    have hsame : admin = record := by
      rw [← hadmin]
      exact Option.some.inj hrecord
    exact h request _ record hread (by rw [← hsame]; rfl)

theorem HeldRecords.run (h : HeldRecords verify s) (events : List AuthEvent) :
    HeldRecords verify (run (authStep verify) s events) := by
  induction events generalizing s with
  | nil => exact h
  | cons event rest ih => exact ih h.step

end

/-! ## The origin of an administrator's code -/

/-- The code was created by a request that had verified a password against the
administrator's record of that moment, and there was no reset since. -/
structure AdminOrigin (s : AuthSystem verify) (earlier : List AuthEvent) (code : PairingCode) :
    Prop where
  created : ∃ first now request mid creator label, ∃ admin : VerifiedAdmin verify,
    earlier = first ++ ⟨now, .pairingInsert request code.id code.codeHash⟩ :: mid ∧
    (run (authStep verify) s first).pairings request =
      some (.granted creator label (.admin admin)) ∧
    (run (authStep verify) s first).db.admin = some admin.record ∧
    ∀ event ∈ mid, ∀ username passwordHash, event.step ≠ .resetPassword username passwordHash

section

variable {verify} {s : AuthSystem verify}

/-- The origin stays what it is until the next reset. -/
theorem AdminOrigin.snoc {earlier : List AuthEvent} {code : PairingCode}
    (h : AdminOrigin verify s earlier code) {event : AuthEvent}
    (hevent : ∀ username passwordHash, event.step ≠ .resetPassword username passwordHash) :
    AdminOrigin verify s (earlier ++ [event]) code := by
  obtain ⟨first, now, request, mid, creator, label, admin, rfl, hgranted, hadmin, hmid⟩ := h.created
  refine ⟨first, now, request, mid ++ [event], creator, label, admin, by simp, hgranted, hadmin, ?_⟩
  intro e he
  rcases List.mem_append.mp he with he | he
  · exact hmid e he
  · rw [List.mem_singleton.mp he]
    exact hevent

/-- A reset leaves no unused code. -/
theorem reset_used {event : AuthEvent} {code : PairingCode}
    (hcode : code ∈ (authStep verify s event).db.pairingCodes.rows) (hunused : code.usedAt = none) :
    ∀ username passwordHash, event.step ≠ .resetPassword username passwordHash := by
  intro username passwordHash hreset
  have hdb : (authStep verify s event).db =
      replaceAdminPassword username passwordHash event.now s.db := by
    simp [authStep, nextDb, storeOp, hreset, sessionStep]
  rw [hdb, replaceAdminPassword, UniqueTable.updateWhere_rows] at hcode
  obtain ⟨old, _, hold⟩ := List.mem_map.mp hcode
  cases hused : old.usedAt with
  | none =>
      rw [hused, Option.isNone_none, if_pos rfl] at hold
      rw [← hold] at hunused
      cases hunused
  | some time =>
      rw [hused] at hold
      rw [← hold] at hunused
      simp only [Option.isNone_some, Bool.false_eq_true, if_false] at hunused
      rw [hused] at hunused
      cases hunused

/-- The step that creates a code, and the grant that it had. -/
theorem storeOp_createPairing {event : AuthEvent} {pairing : PairingRecord} {codeHash : Hash}
    {creatorId creatorUsername : String} {creatorRole : Role} {creatorKind : SessionKind}
    {version : Option Int}
    (h : storeOp verify s event = some (.createPairing pairing codeHash creatorId creatorUsername
      creatorRole creatorKind version)) :
    ∃ request creator label grant, event.step = .pairingInsert request pairing.id codeHash ∧
      s.pairings request = some (.granted creator label grant) ∧ pairing.role = grant.role ∧
      version = grant.expectedCredentialVersion := by
  obtain ⟨now, step⟩ := event
  cases step with
  | pairingInsert request pairingId hash =>
      simp only [storeOp] at h
      split at h
      · rename_i creator label grant hgranted
        cases h
        exact ⟨request, creator, label, grant, rfl, hgranted, rfl, rfl⟩
      · cases h
  | loginInsert request tokens =>
      simp only [storeOp] at h
      split at h <;> cases h
  | pairConsume request tokens =>
      simp only [storeOp, Option.map_eq_some_iff] at h
      obtain ⟨_, _, h⟩ := h
      cases h
  | establishOidc identity tokens =>
      simp only [storeOp] at h
      split at h <;> cases h
  | _ => cases h

/-- An unused administrator's code was created on the current password. -/
theorem unused_origin (hrecords : HeldRecords verify s) (hempty : s.db.pairingCodes.rows = [])
    {events : List AuthEvent} {code : PairingCode}
    (hcode : code ∈ (run (authStep verify) s events).db.pairingCodes.rows)
    (hunused : code.usedAt = none) (hrole : code.role = .admin) :
    AdminOrigin verify s events code := by
  induction events using List.reverseRecOn generalizing code with
  | nil =>
      rw [run_nil, hempty] at hcode
      exact absurd hcode List.not_mem_nil
  | append_singleton earlier event ih =>
      rw [run_append, run_cons, run_nil] at hcode
      have hreset := reset_used hcode hunused
      rcases nextDb_cases (run (authStep verify) s earlier) event with hsame | ⟨op, hop, hstep⟩
      · rw [hsame] at hcode
        exact (ih hcode hunused hrole).snoc hreset
      · rw [hstep] at hcode
        rcases (sessionStep_effect _ ⟨event.now, op⟩).codes with
          ⟨f, hf, hrows⟩ | ⟨pairing, codeHash, _, _, _, _, version, hcreate, hinserted⟩
        · rw [hrows] at hcode
          obtain ⟨old, hold, hsame⟩ := List.mem_map.mp hcode
          have hchange := hf old
          rw [hsame] at hchange
          cases hchange with
          | same => exact (ih hold hunused hrole).snoc hreset
          | used _ _ => cases hunused
        · rw [hinserted.rows] at hcode
          rcases List.mem_append.mp hcode with hold | hnew
          · exact (ih hold hunused hrole).snoc hreset
          · rw [List.mem_singleton] at hnew
            subst hnew
            simp only at hcreate
            rw [hcreate] at hop
            obtain ⟨request, creator, label, grant, hevent, hgranted, hrole', hversion⟩ :=
              storeOp_createPairing hop
            have hgrant : grant.role = .admin := hrole'.symm.trans hrole
            cases grant with
            | viewer => cases hgrant
            | admin verified =>
                obtain ⟨current, hcurrent, hsame⟩ := hinserted.version _ hversion
                obtain ⟨other, hother, hheld⟩ :=
                  hrecords.run earlier request _ verified.record hgranted rfl
                rw [hcurrent, Option.some.injEq] at hother
                subst hother
                have hrecord : current = verified.record := by
                  rcases hheld with heq | hlt
                  · exact heq
                  · omega
                refine ⟨earlier, event.now, request, [], creator, label, verified, ?_, hgranted,
                  hrecord ▸ hcurrent, fun e he => absurd he List.not_mem_nil⟩
                obtain ⟨now, step⟩ := event
                simp only at hevent
                rw [hevent]
                rfl

end

/-! ## The law of pairing codes -/

/-- What every issue of a session for a code satisfies. -/
structure ProperIssue (s : AuthSystem verify) (earlier : List AuthEvent) (now : Int)
    (code : PairingCode) (session : AuthSessionRecord) : Prop where
  stored : code ∈ (run (authStep verify) s earlier).db.pairingCodes.rows
  unused : code.usedAt = none
  unexpired : now < code.expiresAt
  creator : ∃ creator ∈ (run (authStep verify) s earlier).db.sessions.rows,
    creator.id = code.createdBySessionId ∧ creator.role = .admin ∧ creator.activeAt now = true
  role : session.role = code.role
  kind : session.kind = .fixed
  origin : session.role = .admin → AdminOrigin verify s earlier code

/-- In every interleaving of the requests, each code yields at most one session,
and every session that is issued for a code is issued properly. -/
theorem pairing_single_use (db : AuthDb) (hempty : db.pairingCodes.rows = [])
    (events : List AuthEvent) :
    ((emitted (authStep verify) (issued verify) (AuthSystem.idle verify db) events).map
      (fun i => i.1.id)).Nodup ∧
    ∀ earlier event later code session, events = earlier ++ event :: later →
      issued verify (run (authStep verify) (AuthSystem.idle verify db) earlier) event =
        some (code, session) →
      ProperIssue verify (AuthSystem.idle verify db) earlier event.now code session := by
  refine ⟨emitted_nodup events, ?_⟩
  intro earlier event later code session _ hissued
  obtain ⟨creator, tokens, hsession, hpaired⟩ := issued_paired hissued
  have hcreator := hpaired.creatorActive
  simp only [AuthSessionRecord.adminActiveAt, Bool.and_eq_true, decide_eq_true_eq] at hcreator
  have hrole : session.role = code.role := by rw [hsession]; rfl
  refine ⟨hpaired.stored, hpaired.unused, hpaired.unexpired,
    ⟨creator, hpaired.author, hpaired.created, hcreator.1, hcreator.2⟩, hrole,
    by rw [hsession]; rfl, ?_⟩
  intro hadmin
  have hrecords : HeldRecords verify (AuthSystem.idle verify db) :=
    fun request stage record hstage => by cases hstage
  exact unused_origin hrecords hempty hpaired.stored hpaired.unused (hrole.symm.trans hadmin)

/-- A verification that knows one password. -/
def knownPassword (password passwordHash : String) : Bool :=
  decide (password = "a long password" ∧ passwordHash = "hash")

/-- The administrator creates a code for a second device, which uses it. -/
def pairingRun : List AuthEvent :=
  [⟨10, .pairingRead 0 firstSession.context " phone " .admin (some "a long password")⟩,
    ⟨11, .pairingVerify 0⟩, ⟨12, .pairingInsert 0 "code" [7]⟩, ⟨20, .pairPreflight 1 [7]⟩]

/-- The code of the run. -/
def pairedCode : PairingCode :=
  newPairingCode ⟨"code", .admin, "phone", 612⟩ [7] "session" 12

theorem pairing_single_use_pairingRun :
    ProperIssue knownPassword (AuthSystem.idle knownPassword AuthDb.withSession) pairingRun 21
      pairedCode (pairedSession pairedCode firstSession 21 "phone" [8] [9] fixedViewerSecs
        fixedAdminSecs) :=
  (pairing_single_use knownPassword AuthDb.withSession rfl
    (pairingRun ++ [⟨21, .pairConsume 1 ⟨"phone", [8], [9]⟩⟩])).2 pairingRun
    ⟨21, .pairConsume 1 ⟨"phone", [8], [9]⟩⟩ [] pairedCode _ rfl (by decide +kernel)

end RouterView.Auth
