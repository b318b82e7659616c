/-
  Auth/StoreSpec.lean --- what the transactions do to the tables.

  One lemma for each function: what an insert was granted on, and what it adds.
  An update changes a row in one of two ways, so a later proof looks at the
  changes and not at the statements.
-/
import RouterView.Auth.Store

set_option autoImplicit false

namespace RouterView.Auth

open RouterView.Foundation

/-! ## Changes of a row -/

/-- What an operation may make of a row. -/
inductive SessionChange (now : Int) (x : AuthSessionRecord) : AuthSessionRecord → Prop where
  | same : SessionChange now x x
  | touched (hactive : x.activeAt now = true) : SessionChange now x (x.touch now)
  | revoked (hunrevoked : x.revokedAt = none) :
      SessionChange now x { x with revokedAt := some now }

/-- The columns that no operation changes. -/
structure SameSession (x y : AuthSessionRecord) : Prop where
  id : y.id = x.id
  username : y.username = x.username
  role : y.role = x.role
  kind : y.kind = x.kind
  absoluteExpiresAt : y.absoluteExpiresAt = x.absoluteExpiresAt

theorem SameSession.refl (x : AuthSessionRecord) : SameSession x x := ⟨rfl, rfl, rfl, rfl, rfl⟩

theorem SameSession.trans {x y z : AuthSessionRecord} (hxy : SameSession x y)
    (hyz : SameSession y z) : SameSession x z :=
  ⟨hyz.id.trans hxy.id, hyz.username.trans hxy.username, hyz.role.trans hxy.role,
    hyz.kind.trans hxy.kind, hyz.absoluteExpiresAt.trans hxy.absoluteExpiresAt⟩

theorem SessionChange.sameSession {now : Int} {x y : AuthSessionRecord}
    (h : SessionChange now x y) : SameSession x y := by
  cases h with
  | same => exact SameSession.refl x
  | touched _ => exact ⟨rfl, rfl, rfl, rfl, rfl⟩
  | revoked _ => exact ⟨rfl, rfl, rfl, rfl, rfl⟩

/-- A revocation is for good. -/
theorem SessionChange.revoked_of {now : Int} {x y : AuthSessionRecord}
    (h : SessionChange now x y) (hrevoked : x.revokedAt.isSome = true) : y = x := by
  cases h with
  | same => rfl
  | touched hactive =>
      simp only [AuthSessionRecord.activeAt, Bool.and_eq_true, Option.isNone_iff_eq_none] at hactive
      rw [hactive.1.1] at hrevoked
      cases hrevoked
  | revoked hunrevoked =>
      rw [hunrevoked] at hrevoked
      cases hrevoked

/-- Every row of the first table has its successor in the second. -/
def SessionsKept (now : Int) (db db' : AuthDb) : Prop :=
  ∀ x ∈ db.sessions.rows, ∃ y ∈ db'.sessions.rows, SessionChange now x y

section

variable {now : Int} {db db' : AuthDb}

theorem SessionsKept.of_subset (h : ∀ x ∈ db.sessions.rows, x ∈ db'.sessions.rows) :
    SessionsKept now db db' :=
  fun x hx => ⟨x, h x hx, .same⟩

theorem SessionsKept.refl (now : Int) (db : AuthDb) : SessionsKept now db db :=
  SessionsKept.of_subset (fun _ hx => hx)

theorem SessionsKept.of_append {session : AuthSessionRecord}
    (h : db'.sessions.rows = db.sessions.rows ++ [session]) : SessionsKept now db db' := by
  apply SessionsKept.of_subset
  intro x hx
  rw [h]
  exact List.mem_append_left _ hx

/-- An update whose effect on every row that it matches is a change. -/
theorem SessionsKept.updateWhere {p : AuthSessionRecord → Bool}
    {f : AuthSessionRecord → AuthSessionRecord}
    (hrows : db'.sessions.rows = db.sessions.rows.map (fun x => if p x then f x else x))
    (hchange : ∀ x, p x = true → SessionChange now x (f x)) : SessionsKept now db db' := by
  intro x hx
  refine ⟨if p x then f x else x, ?_, ?_⟩
  · rw [hrows]
    exact List.mem_map_of_mem hx
  · split
    · rename_i hp
      exact hchange x hp
    · exact .same

/-- What an insert of a session does. -/
structure SessionInserted (session : AuthSessionRecord) (db db' : AuthDb) : Prop where
  rows : db'.sessions.rows = db.sessions.rows ++ [session]
  fresh : ∀ x ∈ db.sessions.rows, x.id ≠ session.id
  codes : db'.pairingCodes = db.pairingCodes
  admin : db'.admin = db.admin

theorem insertSessionInner_ok {session : AuthSessionRecord}
    (h : insertSessionInner session db = .ok db') : SessionInserted session db db' := by
  unfold insertSessionInner at h
  rw [bind_eq_ok_iff] at h
  obtain ⟨sessions, hinsert, hdb⟩ := h
  rw [okOr_eq_ok_iff] at hinsert
  obtain ⟨hrows, hfree⟩ := UniqueTable.insert_eq_some hinsert
  cases hdb
  refine ⟨hrows, ?_, rfl, rfl⟩
  intro x hx hid
  have hclash := hfree x hx
  simp [UniqueRow.clash, hid] at hclash

theorem SessionInserted.kept {session : AuthSessionRecord}
    (h : SessionInserted session db db') : SessionsKept now db db' :=
  SessionsKept.of_append h.rows

theorem insertStandardSessionIfAdminVersion_ok {session : AuthSessionRecord} {version : Int}
    {inserted : Bool}
    (h : insertStandardSessionIfAdminVersion session version db = .ok (inserted, db')) :
    (inserted = false ∧ db' = db) ∨
      (inserted = true ∧ SessionInserted session db db' ∧ session.kind = .standard ∧
        ∃ admin, db.admin = some admin ∧ admin.username = session.username ∧
          admin.credentialVersion = version) := by
  unfold insertStandardSessionIfAdminVersion at h
  simp only at h
  split at h
  · simp only [Except.ok.injEq, Prod.mk.injEq] at h
    exact Or.inl ⟨h.1.symm, h.2.symm⟩
  · rename_i hguard
    simp only [not_or, Bool.not_eq_false, ne_eq, not_not] at hguard
    obtain ⟨hadmin, hkind, _, _⟩ := hguard
    rw [bind_eq_ok_iff] at h
    obtain ⟨db'', hinsert, hresult⟩ := h
    cases hresult
    refine Or.inr ⟨rfl, insertSessionInner_ok hinsert, hkind, ?_⟩
    rw [Option.any_eq_true] at hadmin
    obtain ⟨admin, hsome, hmatch⟩ := hadmin
    rw [decide_eq_true_eq] at hmatch
    exact ⟨admin, hsome, hmatch.1, hmatch.2⟩

theorem insertOidcSession_ok {session : AuthSessionRecord}
    (h : insertOidcSession session db = .ok db') : SessionInserted session db db' := by
  unfold insertOidcSession at h
  rw [ensure_bind_eq_ok_iff] at h
  exact insertSessionInner_ok h.2

theorem consumeSetupAndCreateAdminAndSession_ok {tokenHash : Hash} {username passwordHash : String}
    {session : AuthSessionRecord} {consumed : Bool}
    (h : consumeSetupAndCreateAdminAndSession tokenHash now username passwordHash session db =
      .ok (consumed, db')) :
    db' = db ∨ (db.admin = none ∧ db'.pairingCodes = db.pairingCodes ∧
      db'.sessions.rows = db.sessions.rows ++ [session] ∧
      db'.admin = some ⟨username, passwordHash, 1⟩) := by
  unfold consumeSetupAndCreateAdminAndSession at h
  rw [ensure_bind_eq_ok_iff] at h
  obtain ⟨_, h⟩ := h
  simp only at h
  split at h
  · rename_i hconsumable
    rw [Bool.and_eq_true, Option.isNone_iff_eq_none] at hconsumable
    rw [bind_eq_ok_iff] at h
    obtain ⟨db'', hinsert, hresult⟩ := h
    have hinserted := insertSessionInner_ok hinsert
    cases hresult
    exact Or.inr ⟨hconsumable.1, hinserted.codes, hinserted.rows, hinserted.admin⟩
  · cases h
    exact Or.inl rfl

/-! ## Pairing codes -/

/-- What an operation may make of a code. -/
inductive CodeChange (x : PairingCode) : PairingCode → Prop where
  | same : CodeChange x x
  | used (now : Int) (hunused : x.usedAt = none) : CodeChange x { x with usedAt := some now }

/-- The codes of the second table are those of the first, used or not. -/
def CodesEvolve (db db' : AuthDb) : Prop :=
  ∃ f : PairingCode → PairingCode, (∀ x, CodeChange x (f x)) ∧
    db'.pairingCodes.rows = db.pairingCodes.rows.map f

theorem CodesEvolve.of_eq (h : db'.pairingCodes = db.pairingCodes) : CodesEvolve db db' :=
  ⟨id, fun _ => .same, by rw [h, List.map_id]⟩

/-- An update that marks unused codes. -/
theorem CodesEvolve.mark {p : PairingCode → Bool}
    (hrows : db'.pairingCodes.rows = db.pairingCodes.rows.map (fun row =>
      if p row && row.usedAt.isNone then { row with usedAt := some now } else row)) :
    CodesEvolve db db' := by
  refine ⟨_, ?_, hrows⟩
  intro x
  split
  · rename_i hmarked
    rw [Bool.and_eq_true, Option.isNone_iff_eq_none] at hmarked
    exact .used now hmarked.2
  · exact .same

/-- A code that was used stays used. -/
theorem CodeChange.used_of {x y : PairingCode} (h : CodeChange x y)
    (hused : x.usedAt.isSome = true) : y = x := by
  cases h with
  | same => rfl
  | used _ hunused =>
      rw [hunused] at hused
      cases hused

/-- An insert of a code: it was authorized, and no stored code has its hash. -/
structure PairingInserted (code : PairingCode) (now : Int) (version : Option Int)
    (db db' : AuthDb) : Prop where
  rows : db'.pairingCodes.rows = db.pairingCodes.rows ++ [code]
  fresh : ∀ x ∈ db.pairingCodes.rows, x.id ≠ code.id ∧ x.codeHash ≠ code.codeHash
  sessions : db'.sessions = db.sessions
  admin : db'.admin = db.admin
  creator : ∃ session ∈ db.sessions.rows, session.id = code.createdBySessionId ∧
    session.adminActiveAt now = true
  version : ∀ v, version = some v → ∃ admin, db.admin = some admin ∧ admin.credentialVersion = v

theorem insertPairingIfAuthorized_ok {pairing : PairingRecord} {codeHash : Hash}
    {creatorId creatorUsername : String} {creatorRole : Role} {creatorKind : SessionKind}
    {version : Option Int} {inserted : Bool}
    (h : insertPairingIfAuthorized pairing codeHash creatorId creatorUsername creatorRole
      creatorKind now version db = .ok (inserted, db')) :
    db' = db ∨
      PairingInserted (newPairingCode pairing codeHash creatorId now) now version db db' := by
  unfold insertPairingIfAuthorized at h
  simp only at h
  split at h
  · rename_i hauthorized
    rw [Bool.and_eq_true, List.any_eq_true, Option.all_eq_true] at hauthorized
    obtain ⟨⟨session, hsession, hcreator⟩, hversion⟩ := hauthorized
    rw [Bool.and_eq_true] at hcreator
    rw [bind_eq_ok_iff] at h
    obtain ⟨codes, hinsert, hresult⟩ := h
    rw [okOr_eq_ok_iff] at hinsert
    obtain ⟨hrows, hfree⟩ := UniqueTable.insert_eq_some hinsert
    cases hresult
    refine Or.inr ⟨hrows, ?_, rfl, rfl, ?_, ?_⟩
    · intro x hx
      have hclash := hfree x hx
      simp only [UniqueRow.clash, decide_eq_false_iff_not, not_or] at hclash
      exact hclash
    · have hnamed := hcreator.1
      simp only [AuthSessionRecord.named, decide_eq_true_eq] at hnamed
      exact ⟨session, hsession, hnamed.1, hcreator.2⟩
    · intro v hv
      have hadmin := hversion v hv
      rw [Option.any_eq_true] at hadmin
      obtain ⟨admin, hsome, hsame⟩ := hadmin
      exact ⟨admin, hsome, of_decide_eq_true hsame⟩
  · cases h
    exact Or.inl rfl

/-- A use of a code: it was eligible, its creator was an active administrator,
and it is the only code that is marked. -/
structure Paired (code : PairingCode) (creator session : AuthSessionRecord) (codeHash : Hash)
    (now : Int) (db db' : AuthDb) : Prop where
  stored : code ∈ db.pairingCodes.rows
  hash : code.codeHash = codeHash
  unused : code.usedAt = none
  unexpired : now < code.expiresAt
  author : creator ∈ db.sessions.rows
  created : creator.id = code.createdBySessionId
  creatorActive : creator.adminActiveAt now = true
  sessions : db'.sessions.rows = db.sessions.rows ++ [session]
  codes : db'.pairingCodes.rows = db.pairingCodes.rows.map
    (fun row => if decide (row.id = code.id) && row.usedAt.isNone then
      { row with usedAt := some now } else row)
  admin : db'.admin = db.admin

theorem consumePairingAndInsertSession_ok {codeHash : Hash} {sessionId : String}
    {tokenHash csrfHash : Hash} {viewerLifetimeSecs adminLifetimeSecs : Int}
    {answer : Option AuthSessionRecord}
    (h : consumePairingAndInsertSession codeHash now sessionId tokenHash csrfHash
      viewerLifetimeSecs adminLifetimeSecs db = .ok (answer, db')) :
    (answer = none ∧ db' = db) ∨ ∃ code creator session, answer = some session ∧
      session = pairedSession code creator now sessionId tokenHash csrfHash viewerLifetimeSecs
        adminLifetimeSecs ∧ Paired code creator session codeHash now db db' := by
  unfold consumePairingAndInsertSession at h
  split at h
  · cases h
    exact Or.inl ⟨rfl, rfl⟩
  · rename_i code hcode
    split at h
    · cases h
      exact Or.inl ⟨rfl, rfl⟩
    · rename_i creator hcreator
      simp only at h
      rw [bind_eq_ok_iff] at h
      obtain ⟨db'', hinsert, h⟩ := h
      have hinserted := insertSessionInner_ok hinsert
      split at h
      swap
      · cases h
        exact Or.inl ⟨rfl, rfl⟩
      · cases h
        have heligible := List.find?_some hcode
        simp only [AuthDb.eligible, Bool.and_eq_true, decide_eq_true_eq,
          Option.isNone_iff_eq_none] at heligible
        obtain ⟨⟨⟨hhash, hunused⟩, hunexpired⟩, _⟩ := heligible
        have hactive := List.find?_some hcreator
        simp only [Bool.and_eq_true, decide_eq_true_eq] at hactive
        refine Or.inr ⟨code, creator, _, rfl, rfl, List.mem_of_find?_eq_some hcode, hhash, hunused,
          hunexpired, List.mem_of_find?_eq_some hcreator, hactive.1, hactive.2, hinserted.rows, ?_,
          hinserted.admin⟩
        simp only [UniqueTable.updateWhere_rows, hinserted.codes]

end

end RouterView.Auth
