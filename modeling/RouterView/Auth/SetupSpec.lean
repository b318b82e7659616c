/-
  Auth/SetupSpec.lean --- the first-run setup creates one administrator.

  A row is live when it is unused and there is no administrator.  Whenever no
  operation holds the lock the file has the token of a live row; inside the lock
  a stage either keeps that, is about to write the file, or has made the row dead
  before it touches the file.  A clean-up under way is one of the token that was
  stored last.
-/
import RouterView.Auth.Setup

set_option autoImplicit false

namespace RouterView.Auth

open RouterView.Foundation

/-! ## Rows and files -/

/-- The row can still set up an administrator, as far as the time allows. -/
structure LiveRow (db : AuthDb) (row : SetupToken) : Prop where
  stored : db.setupToken = some row
  unused : row.usedAt = none
  unclaimed : db.admin = none

section

variable (hashToken : String → Hash)

/-- The file has the token of a live row, which is the one stored last. -/
def InSync (s : SetupShared) : Prop :=
  ∀ row, LiveRow s.db row →
    ∃ token, s.stored = some token ∧ row.tokenHash = hashToken token ∧
      s.file = some (setupTokenFile token)

/-- The token was stored last, and a live row is its row. -/
structure JustStored (s : SetupShared) (token : String) : Prop where
  stored : s.stored = some token
  row : ∀ row, LiveRow s.db row → row.tokenHash = hashToken token

/-- No row is live. -/
def NoLiveRow (s : SetupShared) : Prop := ∀ row, ¬ LiveRow s.db row

/-- The digest is that of the token stored last, if any. -/
def IsLatest (s : SetupShared) (tokenHash : Hash) : Prop :=
  ∀ token, s.stored = some token → tokenHash = hashToken token

/-- What holds under the lock, before the step that the stage names. -/
def Critical.Holds (serving : Bool) (s : SetupShared) : Critical → Prop
  | storing _ => serving = true → InSync hashToken s
  | refused => NoLiveRow s
  | writing token => JustStored hashToken s token
  | writeFailed token => JustStored hashToken s token
  | selecting _ _ => InSync hashToken s
  | invalidating tokenHash _ => InSync hashToken s ∧ IsLatest hashToken s tokenHash
  | matching tokenHash _ => NoLiveRow s ∧ IsLatest hashToken s tokenHash
  | removing _ => NoLiveRow s
  | consuming _ => InSync hashToken s

/-- What holds after a step. -/
def Next.Holds (serving : Bool) (s : SetupShared) : Next → Prop
  | go stage => stage.Holds hashToken serving s
  | finish ok => (serving || ok) = true → InSync hashToken s

/-- Where there is an administrator, the row is used or this process stored none. -/
def Claimed (s : SetupShared) : Prop :=
  s.db.admin.isSome = true →
    s.stored = none ∨ ∀ row, s.db.setupToken = some row → row.usedAt ≠ none

/-- A creation consumed the row of the token stored last, unused and unexpired. -/
structure Creation.Proper (c : Creation) : Prop where
  token : ∃ token, c.stored = some token ∧ c.row.tokenHash = hashToken token
  submitted : validatedTokenHash hashToken c.request.token = some c.row.tokenHash
  unused : c.row.usedAt = none
  unexpired : c.now < c.row.expiresAt

/-- There was at most one creation, of the token that is still the last. -/
def CreatedOnce (s : SetupShared) : Prop :=
  s.creations = [] ∨ ∃ c, s.creations = [c] ∧ c.Proper hashToken ∧ c.stored = s.stored ∧
    s.db.admin.isSome = true

end

section

variable {hashToken : String → Hash} {s : SetupShared} {now : Int} {db db' : AuthDb}

theorem NoLiveRow.inSync (h : NoLiveRow s) : InSync hashToken s :=
  fun row hrow => absurd hrow (h row)

theorem noLiveRow_of_admin (h : s.db.admin.isSome = true) : NoLiveRow s := by
  intro row hrow
  rw [hrow.unclaimed] at h
  cases h

theorem noLiveRow_of_used {row : SetupToken} (hrow : s.db.setupToken = some row)
    (hused : row.usedAt ≠ none) : NoLiveRow s := by
  intro live hlive
  have hsame := hlive.stored.symm.trans hrow
  cases hsame
  exact hused hlive.unused

/-! ## Statements -/

/-- A token is stored unless there is an administrator. -/
theorem storeSetupTokenIfNoAdmin_cases (tokenHash : Hash) (expiresAt : Int) (db : AuthDb) :
    (db.admin.isSome = true ∧ storeSetupTokenIfNoAdmin tokenHash expiresAt db = (false, db)) ∨
      (db.admin = none ∧ storeSetupTokenIfNoAdmin tokenHash expiresAt db =
        (true, { db with setupToken := some ⟨tokenHash, expiresAt, none⟩ })) := by
  unfold storeSetupTokenIfNoAdmin
  split
  · rename_i hadmin
    exact Or.inl ⟨hadmin, rfl⟩
  · rename_i hadmin
    rw [Bool.not_eq_true, Option.isSome_eq_false_iff, Option.isNone_iff_eq_none] at hadmin
    exact Or.inr ⟨hadmin, rfl⟩

/-- An invalidation that matches leaves a used row, and any other changes nothing. -/
theorem invalidateSetupTokenIfMatches_cases (tokenHash : Hash) (now : Int) (db : AuthDb) :
    ((∃ row, db.setupToken = some row ∧ row.tokenHash = tokenHash ∧ row.usedAt = none) ∧
      invalidateSetupTokenIfMatches tokenHash now db =
        (true, { db with setupToken := some ⟨[], 0, some now⟩ })) ∨
    ((∀ row, db.setupToken = some row → row.tokenHash = tokenHash → row.usedAt ≠ none) ∧
      invalidateSetupTokenIfMatches tokenHash now db = (false, db)) := by
  unfold invalidateSetupTokenIfMatches
  split
  · rename_i hmatch
    rw [Option.any_eq_true] at hmatch
    obtain ⟨row, hrow, hmatch⟩ := hmatch
    rw [decide_eq_true_eq] at hmatch
    exact Or.inl ⟨⟨row, hrow, hmatch.1, hmatch.2⟩, rfl⟩
  · rename_i hmiss
    refine Or.inr ⟨?_, rfl⟩
    intro row hrow hhash hunused
    apply hmiss
    rw [hrow]
    simp [hhash, hunused]

/-- Both selections return the digest of an unused row. -/
theorem selected_unused {expiredOnly : Bool} {tokenHash : Hash}
    (h : (if expiredOnly then expiredSetupTokenHash now db else currentSetupTokenHash db) =
      some tokenHash) :
    ∃ row, db.setupToken = some row ∧ row.tokenHash = tokenHash ∧ row.usedAt = none := by
  split at h
  · obtain ⟨row, hrow, hhash⟩ := Option.map_eq_some_iff.mp h
    obtain ⟨hrow, hunused⟩ := Option.filter_eq_some_iff.mp hrow
    rw [decide_eq_true_eq] at hunused
    exact ⟨row, hrow, hhash, hunused.1⟩
  · obtain ⟨row, hrow, hhash⟩ := Option.map_eq_some_iff.mp h
    obtain ⟨hrow, hunused⟩ := Option.filter_eq_some_iff.mp hrow
    rw [decide_eq_true_eq] at hunused
    exact ⟨row, hrow, hhash, hunused⟩

/-- The insertion of a session touches the sessions only. -/
theorem insertSessionInner_frame {session : AuthSessionRecord}
    (h : insertSessionInner session db = .ok db') :
    db'.admin = db.admin ∧ db'.setupToken = db.setupToken := by
  obtain ⟨_, _, h⟩ := bind_eq_ok_iff.mp h
  cases h
  exact ⟨rfl, rfl⟩

/-- A consumption uses a live and unexpired row with the digest of the request. -/
structure Consumed (hashToken : String → Hash) (request : SetupRequest) (now : Int) (db : AuthDb)
    (tokenHash : Hash) (db' : AuthDb) (row : SetupToken) : Prop where
  live : LiveRow db row
  hash : row.tokenHash = tokenHash
  submitted : validatedTokenHash hashToken request.token = some tokenHash
  unexpired : now < row.expiresAt
  admin : db'.admin = some ⟨request.username, request.passwordHash, 1⟩
  setupToken : db'.setupToken = some { row with usedAt := some now }

theorem consumeRequest_ok {request : SetupRequest} {tokenHash : Hash}
    (h : consumeRequest hashToken request now db = some (tokenHash, db')) :
    ∃ row, Consumed hashToken request now db tokenHash db' row := by
  obtain ⟨hash, hsubmitted, h⟩ := Option.bind_eq_some_iff.mp h
  split at h
  · rename_i consumed hconsume
    cases h
    unfold consumeSetupAndCreateAdminAndSession at hconsume
    obtain ⟨_, hconsume⟩ := ensure_bind_eq_ok_iff.mp hconsume
    dsimp only at hconsume
    split at hconsume
    · rename_i hconsumable
      rw [Bool.and_eq_true, Option.isNone_iff_eq_none] at hconsumable
      obtain ⟨hnone, hany⟩ := hconsumable
      rw [Option.any_eq_true] at hany
      obtain ⟨row, hrow, hmatch⟩ := hany
      rw [decide_eq_true_eq] at hmatch
      obtain ⟨inserted, hinsert, hconsume⟩ := bind_eq_ok_iff.mp hconsume
      cases hconsume
      have hframe := insertSessionInner_frame hinsert
      refine ⟨row, ⟨hrow, hmatch.2.1, hnone⟩, hmatch.1, hsubmitted, hmatch.2.2, ?_, ?_⟩
      · rw [hframe.1]
      · rw [hframe.2, hrow]
        rfl
    · cases hconsume
  · cases h

/-! ## Steps under the lock -/

/-- Every step under the lock leads to a stage whose condition holds. -/
theorem act_holds {serving : Bool} (now : Int) (hclaimed : Claimed s) (fails : Bool)
    (stage : Critical) (h : stage.Holds hashToken serving s) :
    (act hashToken now fails s stage).1.Holds hashToken serving
      (act hashToken now fails s stage).2 := by
  cases stage with
  | storing token =>
      dsimp only [act]
      rcases storeSetupTokenIfNoAdmin_cases (hashToken token) (now + setupSecs) s.db with
        ⟨hadmin, hdb⟩ | ⟨_, hdb⟩
      · rw [hdb]
        exact noLiveRow_of_admin hadmin
      · rw [hdb]
        refine ⟨rfl, ?_⟩
        intro row hrow
        have hstored := hrow.stored
        cases hstored
        rfl
  | refused =>
      dsimp only [act]
      split
      · exact fun _ => NoLiveRow.inSync h
      · exact fun _ => NoLiveRow.inSync (s := { s with file := none })
          (fun row hrow => h row ⟨hrow.stored, hrow.unused, hrow.unclaimed⟩)
  | writing token =>
      dsimp only [act]
      split
      · exact h
      · intro _ row hrow
        exact ⟨token, h.stored, h.row row ⟨hrow.stored, hrow.unused, hrow.unclaimed⟩, rfl⟩
  | writeFailed token =>
      have hlatest : IsLatest hashToken s (hashToken token) := by
        intro last hlast
        rw [h.stored] at hlast
        cases hlast
        rfl
      dsimp only [act]
      rcases invalidateSetupTokenIfMatches_cases (hashToken token) now s.db with
        ⟨_, hdb⟩ | ⟨hmiss, hdb⟩
      · rw [hdb]
        exact ⟨noLiveRow_of_used rfl (by simp), hlatest⟩
      · rw [hdb]
        refine ⟨?_, hlatest⟩
        intro row hrow
        exact hmiss row hrow.stored (h.row row hrow) hrow.unused
  | selecting expiredOnly when =>
      dsimp only [act]
      split
      · exact fun _ => h
      · rename_i tokenHash hselected
        refine ⟨h, ?_⟩
        obtain ⟨row, hrow, hhash, hunused⟩ := selected_unused hselected
        intro token hstored
        cases hadmin : s.db.admin with
        | some admin =>
            have hsome : s.db.admin.isSome = true := by rw [hadmin]; rfl
            rcases hclaimed hsome with hnone | hused
            · rw [hnone] at hstored
              cases hstored
            · exact absurd hunused (hused row hrow)
        | none =>
            obtain ⟨last, hlast, hlastHash, _⟩ := h row ⟨hrow, hunused, hadmin⟩
            rw [hlast] at hstored
            cases hstored
            exact hhash.symm.trans hlastHash
  | invalidating tokenHash when =>
      dsimp only [act]
      rcases invalidateSetupTokenIfMatches_cases tokenHash when s.db with ⟨_, hdb⟩ | ⟨_, hdb⟩
      · rw [hdb]
        exact ⟨noLiveRow_of_used rfl (by simp), h.2⟩
      · rw [hdb]
        exact fun _ => h.1
  | matching tokenHash ok =>
      dsimp only [act]
      split
      · exact fun _ => NoLiveRow.inSync h.1
      · unfold inspectFile
        split
        · exact fun _ => NoLiveRow.inSync h.1
        · split
          · exact fun _ => NoLiveRow.inSync h.1
          · split
            · exact fun _ => NoLiveRow.inSync h.1
            · split
              · exact h.1
              · exact fun _ => NoLiveRow.inSync h.1
  | removing ok =>
      dsimp only [act]
      split
      · exact fun _ => NoLiveRow.inSync h
      · exact fun _ => NoLiveRow.inSync (s := { s with file := none })
          (fun row hrow => h row ⟨hrow.stored, hrow.unused, hrow.unclaimed⟩)
  | consuming request =>
      dsimp only [act]
      split
      · exact fun _ => h
      · rename_i tokenHash db' hconsume
        obtain ⟨row, hconsumed⟩ := consumeRequest_ok hconsume
        obtain ⟨token, hstored, hhash, _⟩ := h row hconsumed.live
        refine ⟨noLiveRow_of_admin ?_, ?_⟩
        · rw [hconsumed.admin]
          rfl
        · intro last hlast
          rw [hstored] at hlast
          cases hlast
          exact hconsumed.hash.symm.trans hhash

/-- What a step under the lock does to the database and to the record of this process. -/
inductive ActEffect (hashToken : String → Hash) (now : Int) (s : SetupShared) : SetupShared → Prop
    where
  | fileOnly (file : Option (List UInt8)) : ActEffect hashToken now s { s with file := file }
  | stored (token : String) (hnone : s.db.admin = none) :
      ActEffect hashToken now s
        { s with
          db := { s.db with setupToken := some ⟨hashToken token, now + setupSecs, none⟩ }
          stored := some token }
  | invalidated (when : Int) :
      ActEffect hashToken now s
        { s with db := { s.db with setupToken := some ⟨[], 0, some when⟩ } }
  | consumed (request : SetupRequest) (tokenHash : Hash) (db' : AuthDb) (row : SetupToken)
      (hconsumed : Consumed hashToken request now s.db tokenHash db' row)
      (hlatest : ∃ token, s.stored = some token ∧ row.tokenHash = hashToken token) :
      ActEffect hashToken now s
        { s with db := db', creations := s.creations ++ [⟨request, now, row, s.stored⟩] }

theorem act_effect {serving : Bool} (now : Int) (fails : Bool) (stage : Critical)
    (h : stage.Holds hashToken serving s) :
    ActEffect hashToken now s (act hashToken now fails s stage).2 := by
  have hsame : ActEffect hashToken now s s := ActEffect.fileOnly s.file
  have hinvalidate : ∀ tokenHash when, ActEffect hashToken now s
      { s with db := (invalidateSetupTokenIfMatches tokenHash when s.db).2 } := by
    intro tokenHash when
    rcases invalidateSetupTokenIfMatches_cases tokenHash when s.db with ⟨_, hdb⟩ | ⟨_, hdb⟩
    · rw [hdb]
      exact ActEffect.invalidated when
    · rw [hdb]
      exact hsame
  cases stage with
  | storing token =>
      dsimp only [act]
      rcases storeSetupTokenIfNoAdmin_cases (hashToken token) (now + setupSecs) s.db with
        ⟨_, hdb⟩ | ⟨hnone, hdb⟩
      · rw [hdb]
        exact hsame
      · rw [hdb]
        exact ActEffect.stored token hnone
  | refused =>
      dsimp only [act]
      split
      · exact hsame
      · exact ActEffect.fileOnly none
  | writing token =>
      dsimp only [act]
      split
      · exact hsame
      · exact ActEffect.fileOnly _
  | writeFailed token => exact hinvalidate _ _
  | selecting expiredOnly when =>
      dsimp only [act]
      split <;> exact hsame
  | invalidating tokenHash when =>
      dsimp only [act]
      split
      · exact hinvalidate _ _
      · exact hsame
  | matching tokenHash ok =>
      dsimp only [act]
      split <;> exact hsame
  | removing ok =>
      dsimp only [act]
      split
      · exact hsame
      · exact ActEffect.fileOnly none
  | consuming request =>
      dsimp only [act]
      split
      · exact hsame
      · rename_i tokenHash db' hconsume
        obtain ⟨row, hconsumed⟩ := consumeRequest_ok hconsume
        obtain ⟨token, hstored, hhash, _⟩ := h row hconsumed.live
        have hcreation : s.creation request now = [⟨request, now, row, s.stored⟩] := by
          rw [SetupShared.creation, hconsumed.live.stored]
          rfl
        rw [hcreation]
        exact ActEffect.consumed request tokenHash db' row hconsumed ⟨token, hstored, hhash⟩

namespace ActEffect

variable {s' : SetupShared}

theorem claimed (h : ActEffect hashToken now s s') (hs : Claimed s) : Claimed s' := by
  cases h with
  | fileOnly file => exact hs
  | stored token hnone =>
      intro hadmin
      rw [hnone] at hadmin
      cases hadmin
  | invalidated when =>
      intro _
      right
      intro row hrow
      cases hrow
      simp
  | consumed request tokenHash db' row hconsumed _ =>
      intro _
      right
      intro used hused
      rw [hconsumed.setupToken] at hused
      cases hused
      simp

/-- The administrator stays. -/
theorem admin (h : ActEffect hashToken now s s') (hadmin : s.db.admin.isSome = true) :
    s'.db.admin = s.db.admin ∧ s'.creations = s.creations := by
  cases h with
  | fileOnly file => exact ⟨rfl, rfl⟩
  | stored token hnone =>
      rw [hnone] at hadmin
      cases hadmin
  | invalidated when => exact ⟨rfl, rfl⟩
  | consumed request tokenHash db' row hconsumed _ =>
      rw [hconsumed.live.unclaimed] at hadmin
      cases hadmin

theorem createdOnce (h : ActEffect hashToken now s s') (hs : CreatedOnce hashToken s) :
    CreatedOnce hashToken s' := by
  cases h with
  | fileOnly file => exact hs
  | stored token hnone =>
      rcases hs with hempty | ⟨c, _, _, _, hadmin⟩
      · exact Or.inl hempty
      · rw [hnone] at hadmin
        cases hadmin
  | invalidated when => exact hs
  | consumed request tokenHash db' row hconsumed hlatest =>
      rcases hs with hempty | ⟨c, _, _, _, hadmin⟩
      · refine Or.inr ⟨⟨request, now, row, s.stored⟩, ?_, ?_, rfl, ?_⟩
        · rw [hempty]
          rfl
        · refine ⟨hlatest, ?_, hconsumed.live.unused, hconsumed.unexpired⟩
          rw [hconsumed.submitted, hconsumed.hash]
        · rw [hconsumed.admin]
          rfl
      · rw [hconsumed.live.unclaimed] at hadmin
        cases hadmin

end ActEffect

/-! ## Runs -/

/-- What holds in every state of a process that started on a database. -/
structure SetupInvariant (hashToken : String → Hash) (first : AuthDb) (s : SetupSystem) : Prop where
  waits : s.waiting ≠ [] → s.serving = true
  holds : ∀ stage, s.critical = some stage → stage.Holds hashToken s.serving s.toSetupShared
  rests : s.critical = none → s.serving = true → InSync hashToken s.toSetupShared
  claimed : Claimed s.toSetupShared
  created : CreatedOnce hashToken s.toSetupShared
  kept : first.admin.isSome = true → s.db.admin = first.admin ∧ s.creations = []

theorem SetupInvariant.start (token : String) (first : AuthDb) (file : Option (List UInt8)) :
    SetupInvariant hashToken first (SetupSystem.start token first file) where
  waits := fun h => absurd rfl h
  holds := by
    intro stage hstage
    cases hstage
    intro hserving
    cases hserving
  rests := by
    intro hnone
    cases hnone
  claimed := fun _ => Or.inl rfl
  created := Or.inl rfl
  kept := fun _ => ⟨rfl, rfl⟩

/-- Events that leave the shared state alone. -/
theorem SetupInvariant.waiting {first : AuthDb} {s : SetupSystem}
    (h : SetupInvariant hashToken first s) {waiting : List Waiting}
    (hwaits : waiting ≠ [] → s.serving = true) :
    SetupInvariant hashToken first { s with waiting := waiting } :=
  { h with waits := hwaits }

theorem SetupInvariant.act {first : AuthDb} {s : SetupSystem}
    (h : SetupInvariant hashToken first s) (now : Int) (fails : Bool) :
    SetupInvariant hashToken first (setupStep hashToken s (.act now fails)) := by
  dsimp only [setupStep]
  split
  · exact h
  · rename_i stage hstage
    have hholds := h.holds stage hstage
    have hnext := act_holds now h.claimed fails stage hholds
    have heffect := act_effect now fails stage hholds
    have hkept : first.admin.isSome = true →
        (Auth.act hashToken now fails s.toSetupShared stage).2.db.admin = first.admin ∧
          (Auth.act hashToken now fails s.toSetupShared stage).2.creations = [] := by
      intro hfirst
      obtain ⟨hadmin, hcreations⟩ := h.kept hfirst
      obtain ⟨hadmin', hcreations'⟩ := heffect.admin (hadmin ▸ hfirst)
      exact ⟨hadmin'.trans hadmin, hcreations'.trans hcreations⟩
    generalize Auth.act hashToken now fails s.toSetupShared stage = result at hnext heffect hkept
    obtain ⟨next, shared⟩ := result
    cases next with
    | go stage' =>
        refine ⟨h.waits, ?_, ?_, heffect.claimed h.claimed, heffect.createdOnce h.created, hkept⟩
        · intro other hother
          cases hother
          exact hnext
        · intro hnone
          cases hnone
    | finish ok =>
        refine ⟨?_, ?_, ?_, heffect.claimed h.claimed, heffect.createdOnce h.created, hkept⟩
        · intro hwaiting
          exact Bool.or_eq_true_iff.mpr (Or.inl (h.waits hwaiting))
        · intro other hother
          cases hother
        · exact fun _ hserving => hnext hserving

theorem SetupInvariant.enter {first : AuthDb} {s : SetupSystem}
    (h : SetupInvariant hashToken first s) (index : Nat) :
    SetupInvariant hashToken first (setupStep hashToken s (.enter index)) := by
  dsimp only [setupStep]
  split
  · rename_i operation hnone hwaiting
    have hserving : s.serving = true := by
      apply h.waits
      intro hempty
      rw [hempty] at hwaiting
      cases hwaiting
    have hsync := h.rests hnone hserving
    refine { h with waits := fun _ => hserving, holds := ?_, rests := ?_ }
    · intro stage hstage
      cases hstage
      cases operation with
      | issue token => exact fun _ => hsync
      | cleanup expiredOnly now => exact hsync
      | setup request => exact hsync
    · intro hcritical
      cases hcritical
  · exact h

theorem SetupInvariant.step {first : AuthDb} {s : SetupSystem}
    (h : SetupInvariant hashToken first s) (event : SetupEvent) :
    SetupInvariant hashToken first (setupStep hashToken s event) := by
  have hleft : ∀ index, SetupInvariant hashToken first
      { s with waiting := s.waiting.eraseIdx index } := by
    intro index
    apply h.waiting
    intro hne
    apply h.waits
    intro hempty
    rw [hempty] at hne
    exact hne rfl
  cases event with
  | begin operation =>
      dsimp only [setupStep]
      split
      · rename_i hserving
        exact h.waiting (fun _ => hserving)
      · exact h
  | validate index now =>
      dsimp only [setupStep]
      split
      · rename_i request ready hwaiting
        split
        · apply h.waiting
          intro _
          apply h.waits
          intro hempty
          rw [hempty] at hwaiting
          cases hwaiting
        · exact hleft index
      · exact h
  | enter index => exact h.enter index
  | leave index => exact hleft index
  | act now fails => exact h.act now fails

theorem SetupInvariant.run {first : AuthDb} {s : SetupSystem}
    (h : SetupInvariant hashToken first s) (events : List SetupEvent) :
    SetupInvariant hashToken first (Foundation.run (setupStep hashToken) s events) := by
  induction events generalizing s with
  | nil => exact h
  | cons event rest ih => exact ih (h.step event)

/-- The administrator stays through every event. -/
theorem setupStep_admin {first : AuthDb} {s : SetupSystem} (h : SetupInvariant hashToken first s)
    (hadmin : s.db.admin.isSome = true) (event : SetupEvent) :
    (setupStep hashToken s event).db.admin = s.db.admin := by
  cases event with
  | begin operation =>
      dsimp only [setupStep]
      split <;> rfl
  | validate index now =>
      dsimp only [setupStep]
      split
      · split <;> rfl
      · rfl
  | enter index =>
      dsimp only [setupStep]
      split <;> rfl
  | leave index => rfl
  | act now fails =>
      dsimp only [setupStep]
      split
      · rfl
      · rename_i stage hstage
        have heffect := act_effect now fails stage (h.holds stage hstage)
        have hkept := (heffect.admin hadmin).1
        generalize Auth.act hashToken now fails s.toSetupShared stage = result at hkept
        obtain ⟨next, shared⟩ := result
        cases next with
        | go stage' => exact hkept
        | finish ok => exact hkept

theorem setupRun_admin {first : AuthDb} {s : SetupSystem} (h : SetupInvariant hashToken first s)
    (hadmin : s.db.admin.isSome = true) (events : List SetupEvent) :
    (Foundation.run (setupStep hashToken) s events).db.admin = s.db.admin := by
  induction events generalizing s with
  | nil => rfl
  | cons event rest ih =>
      have hsame := setupStep_admin h hadmin event
      exact (ih (h.step event) (hsame ▸ hadmin)).trans hsame

/-- With an administrator no token validates. -/
theorem setupTokenIsValid_of_admin {tokenHash : Hash} (hadmin : db.admin.isSome = true) :
    setupTokenIsValid tokenHash now db = false := by
  unfold setupTokenIsValid
  rw [Option.isNone_eq_false_iff.mpr hadmin, Bool.and_false]

/-- A valid token is that of a live row. -/
theorem live_of_setupTokenIsValid {tokenHash : Hash}
    (h : setupTokenIsValid tokenHash now db = true) :
    ∃ row, LiveRow db row ∧ row.tokenHash = tokenHash := by
  unfold setupTokenIsValid at h
  rw [Bool.and_eq_true, Option.any_eq_true, Option.isNone_iff_eq_none] at h
  obtain ⟨⟨row, hrow, hmatch⟩, hadmin⟩ := h
  rw [decide_eq_true_eq] at hmatch
  exact ⟨row, ⟨hrow, hmatch.2.1, hadmin⟩, hmatch.1⟩

/-- The promises of the first-run setup. -/
structure SetupSafe (hashToken : String → Hash) (first : AuthDb) (s : SetupSystem) : Prop where
  once : s.creations.length ≤ 1
  neverAgain : first.admin.isSome = true → s.creations = []
  latest : ∀ c ∈ s.creations, c.Proper hashToken ∧ c.stored = s.stored
  closed : s.db.admin.isSome = true → ∀ later tokenHash now,
    setupTokenIsValid tokenHash now (Foundation.run (setupStep hashToken) s later).db = false
  file : s.serving = true → s.critical = none → ∀ tokenHash now,
    setupTokenIsValid tokenHash now s.db = true →
      ∃ token, s.stored = some token ∧ tokenHash = hashToken token ∧
        s.file = some (setupTokenFile token)
  cleanup : ∀ tokenHash,
    ((∃ now, s.critical = some (.invalidating tokenHash now)) ∨
      ∃ ok, s.critical = some (.matching tokenHash ok)) →
    IsLatest hashToken s.toSetupShared tokenHash

theorem SetupInvariant.safe {first : AuthDb} {s : SetupSystem}
    (h : SetupInvariant hashToken first s) : SetupSafe hashToken first s where
  once := by
    rcases h.created with hempty | ⟨c, hone, _⟩
    · rw [hempty]
      exact Nat.zero_le 1
    · rw [hone]
      exact le_refl 1
  neverAgain := fun hfirst => (h.kept hfirst).2
  latest := by
    intro c hc
    rcases h.created with hempty | ⟨c', hone, hproper, hstored, _⟩
    · rw [hempty] at hc
      cases hc
    · rw [hone, List.mem_singleton] at hc
      rw [hc]
      exact ⟨hproper, hstored⟩
  closed := by
    intro hadmin later tokenHash now
    apply setupTokenIsValid_of_admin
    rw [setupRun_admin h hadmin later]
    exact hadmin
  file := by
    intro hserving hnone tokenHash now hvalid
    obtain ⟨row, hlive, hhash⟩ := live_of_setupTokenIsValid hvalid
    obtain ⟨token, hstored, hrow, hfile⟩ := h.rests hnone hserving row hlive
    exact ⟨token, hstored, hhash.symm.trans hrow, hfile⟩
  cleanup := by
    rintro tokenHash (⟨now, hstage⟩ | ⟨ok, hstage⟩)
    · exact (h.holds _ hstage).2
    · exact (h.holds _ hstage).2

end

/-- In every state that a process reaches from its start, whatever the order of the steps
of its operations, and whichever file operations fail. -/
theorem setup_safe (hashToken : String → Hash) (token : String) (first : AuthDb)
    (file : Option (List UInt8)) (events : List SetupEvent) :
    SetupSafe hashToken first
      (Foundation.run (setupStep hashToken) (SetupSystem.start token first file) events) :=
  ((SetupInvariant.start token first file).run events).safe

/-- A request with the token of the start. -/
def firstSetup : SetupRequest where
  token := "AAAAAAAAAAAAAAAAAAAAAAAAAAAAAAAAAAAAAAAAAAA"
  username := "admin"
  passwordHash := "digest"
  session :=
    { id := "s", tokenHash := [1], csrfHash := [2], username := "admin", role := .admin,
      kind := .standard, authMethod := .password, displayName := "admin", providerName := none,
      identityIssuer := none, identitySubject := none, oidcPolicyFingerprint := none, label := none,
      createdAt := 20, lastSeenAt := 20, idleExpiresAt := none, absoluteExpiresAt := 900,
      revokedAt := none }

/-- A clean-up takes the lock between the validation and the consumption, before the token
has expired; the request then creates the administrator and its file is removed. -/
example :
    let s := run (setupStep asBytes)
      (SetupSystem.start firstSetup.token ⟨none, UniqueTable.empty, UniqueTable.empty, none⟩ none)
      [.act 10 false, .act 10 false, .begin (.setup firstSetup), .begin (.cleanup true 15),
        .validate 0 12, .enter 1, .act 16 false, .enter 0, .act 20 false, .act 20 false,
        .act 20 false]
    s.creations.length = 1 ∧ s.critical = none ∧ s.file = none ∧ s.db.admin.isSome = true := by
  decide +kernel

end RouterView.Auth
