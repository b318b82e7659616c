/-
  Maintenance/RestoreSpec.lean --- a restoration loses nothing, wherever it stops.

  The files are followed through the program: until the preservation is complete
  the target is only opened, then its sidecars go one by one, and last the main
  file is replaced.  What holds of the files after every step holds after a crash.
-/
import RouterView.Maintenance.Restore

set_option autoImplicit false

namespace RouterView.Maintenance

open RouterView.Foundation RouterView.Foundation.CrashProgram

variable {Content : Type}

/-! ## Families -/

@[simp] theorem Family.get_set (family : Family Content) (member : Member)
    (content : Option Content) : (family.set member content).get member = content := by
  cases member <;> rfl

theorem Family.get_set_of_ne (family : Family Content) {member other : Member}
    (content : Option Content) (hne : other ≠ member) :
    (family.set member content).get other = family.get other := by
  cases member <;> cases other <;> first | rfl | exact absurd rfl hne

theorem Family.ext_get {family other : Family Content}
    (h : ∀ member, family.get member = other.get member) : family = other := by
  have hmain := h .main
  have hwal := h .wal
  have hshm := h .shm
  have hjournal := h .journal
  cases family
  cases other
  simp only [Family.get] at hmain hwal hshm hjournal
  rw [hmain, hwal, hshm, hjournal]

section

variable (engine : Engine Content)

/-- What a read-only opening leaves: the database and its journal as they were,
a write-ahead log as it was or new and empty, and no file removed. -/
structure Opened (old new : Family Content) : Prop where
  main : new.main = old.main
  journal : new.journal = old.journal
  wal : new.wal = old.wal ∨ (old.wal = none ∧ new.wal = some engine.emptyFile)
  shm : old.shm.isSome = true → new.shm.isSome = true

theorem Opened.refl (old : Family Content) : Opened engine old old :=
  ⟨rfl, rfl, Or.inl rfl, id⟩

/-- The documented effect of opening a database read-only. -/
def Engine.OpensReadOnly : Prop :=
  ∀ family, Opened engine family (engine.inspected family)

/-- The old family, opened at most, without some of its sidecars. -/
def Shrunk (old new : Family Content) : Prop :=
  ∃ opened, Opened engine old opened ∧ new.main = opened.main ∧
    ∀ member, new.get member = none ∨ new.get member = opened.get member

/-- A complete copy of a database in one file that passed the checks. -/
structure Snapshot (family : Family Content) (content : Content) (report : DatabaseReport) :
    Prop where
  copied : ∃ raw, engine.backup family = .ok raw ∧ engine.deleteJournal raw = .ok content
  checked : engine.check content = .ok report

/-- The target is the complete verified copy of the backup, on its own. -/
def Replaced (source : BackupSource Content) (new : Family Content) : Prop :=
  ∃ content report sourceReport, Snapshot engine (.ofMain source.main) content report ∧
    engine.check source.main = .ok sourceReport ∧ report.tableCounts = sourceReport.tableCounts ∧
    report.userVersion = sourceReport.userVersion ∧ new = .ofMain content

/-- A complete recovery backup with its digest. -/
def Recovered (old : Family Content) (s : Files Content) : Prop :=
  ∃ opened content report, Opened engine old opened ∧ Snapshot engine opened content report ∧
    s.recovery = some content ∧ s.recoveryManifest = some (engine.sha256 content)

/-- A complete quarantine copy with its digests. -/
def Quarantined (old : Family Content) (s : Files Content) : Prop :=
  s.quarantine = some ⟨old, some (fileChecksums engine old)⟩

/-- The old database is kept aside. -/
def Preserved (old : Family Content) (s : Files Content) : Prop :=
  Recovered engine old s ∨ Quarantined engine old s

/-- What holds of the files after every step of a restoration. -/
structure Safe (source : BackupSource Content) (old : Family Content) (s : Files Content) :
    Prop where
  target : Shrunk engine old s.target ∨ Replaced engine source s.target
  kept : databaseFilesHaveContent engine old = true → ¬ Opened engine old s.target →
    Preserved engine old s

end

/-! ## Parts of the program -/

section

variable {engine : Engine Content} {inv P : Files Content → Prop}

/-- Removal of files: every file is tried, and all are gone if none was in the way. -/
theorem removeSqliteFiles_triple {location : Location Content} (done members : List Member)
    (firstError : Option DatabaseError) (hinv : ∀ s, P s → inv s)
    (hremove : ∀ member ∈ members, ∀ s, P s →
      P (location.update (fun family => family.set member none) s)) :
    Triple inv
      (fun s => P s ∧ (firstError = none → ∀ member ∈ done, (location.family s).get member = none))
      (removeSqliteFiles location firstError members)
      (fun _ s => P s ∧ ∀ member ∈ done ++ members, (location.family s).get member = none)
      (fun _ s => P s) := by
  induction members generalizing firstError done with
  | nil =>
      cases firstError with
      | none =>
          apply Triple.pure
          intro s h
          rw [List.append_nil]
          exact ⟨h.1, h.2 rfl⟩
      | some error => exact Triple.fail (fun s h => h.1)
  | cons member rest ih =>
      have hrest : ∀ m ∈ rest, ∀ s, P s →
          P (location.update (fun family => family.set m none) s) :=
        fun m hm => hremove m (List.mem_cons_of_mem _ hm)
      rw [show done ++ member :: rest = (done ++ [member]) ++ rest by simp]
      rw [removeSqliteFiles]
      apply Triple.bind_attempt (fun _ s => P s ∧ (firstError = none →
        ∀ m ∈ done ++ [member], (location.family s).get m = none)) (fun _ s => P s)
      · apply Triple.step
        · intro s h
          have hP := hremove member List.mem_cons_self s h.1
          refine ⟨hinv _ hP, hP, ?_⟩
          intro hnone m hm
          rw [location.family_update]
          by_cases hsame : m = member
          · rw [hsame, Family.get_set]
          · rw [Family.get_set_of_ne _ _ hsame]
            have hdone : m ∈ done := by simpa [hsame] using hm
            exact h.2 hnone m hdone
        · exact fun _ s h => h.1
      · intro _
        rw [Option.or_none]
        exact ih (done ++ [member]) firstError hrest
      · intro e
        apply (ih (done ++ [member]) (firstError.or (some e)) hrest).weaken
        · intro s h
          refine ⟨h, ?_⟩
          intro hnone
          cases firstError <;> cases hnone
        · exact fun _ _ h => h
        · exact fun _ _ h => h

theorem removeSqliteFiles_none {location : Location Content} {members : List Member}
    (hinv : ∀ s, P s → inv s)
    (hremove : ∀ member ∈ members, ∀ s, P s →
      P (location.update (fun family => family.set member none) s)) :
    Triple inv P (removeSqliteFiles location none members)
      (fun _ s => P s ∧ ∀ member ∈ members, (location.family s).get member = none)
      (fun _ => P) := by
  apply Triple.weaken (removeSqliteFiles_triple [] members none hinv hremove)
  · exact fun s h => ⟨h, fun _ m hm => absurd hm List.not_mem_nil⟩
  · exact fun _ _ h => h
  · exact fun _ _ h => h

/-- Removal of the sidecars. -/
theorem removeSqliteSidecars_triple (location : Location Content) (hinv : ∀ s, P s → inv s)
    (hremove : ∀ member, member ≠ .main → ∀ s, P s →
      P (location.update (fun family => family.set member none) s)) :
    Triple inv P (removeSqliteSidecars location)
      (fun _ s => P s ∧ ∀ member, member ≠ .main → (location.family s).get member = none)
      (fun _ => P) := by
  have hsidecar : ∀ member : Member, member ∈ [Member.wal, .shm, .journal] ↔ member ≠ .main := by
    intro member
    cases member <;> decide
  apply Triple.weaken (removeSqliteFiles_none hinv
    (fun member hmember => hremove member ((hsidecar member).mp hmember)))
  · exact fun _ h => h
  · exact fun _ s h => ⟨h.1, fun member hmember => h.2 member ((hsidecar member).mpr hmember)⟩
  · exact fun _ _ h => h

/-- A program on a temporary file whose errors are cleaned up. -/
theorem cleaningUp_triple {α : Type} {location : Location Content} {path : String}
    {pre : Files Content → Prop} {p : Restoration Content α} {post : α → Files Content → Prop}
    (hp : Triple inv pre p post (fun _ => P)) (hinv : ∀ s, P s → inv s)
    (hupdate : ∀ f s, P s → P (location.update f s)) :
    Triple inv pre (cleaningUp location path p) post (fun _ => P) := by
  apply Triple.bind_attempt _ _ hp
  · exact fun a => Triple.pure (fun _ h => h)
  · intro error
    apply Triple.bind_attempt (fun _ => P) (fun _ => P)
    · apply Triple.weaken (removeSqliteFiles_none hinv (fun _ _ s => hupdate _ s))
      · exact fun _ h => h
      · exact fun _ s h => h.1
      · exact fun _ _ h => h
    · exact fun _ => Triple.fail (fun _ h => h)
    · exact fun _ => Triple.fail (fun _ h => h)

/-- A snapshot into a temporary file. -/
theorem snapshotInto_triple (location : Location Content) {family : Family Content}
    {rejectPlaintextSecrets : Bool} (hinv : ∀ s, P s → inv s)
    (hupdate : ∀ f s, P s → P (location.update f s)) :
    Triple inv P (snapshotInto engine location family rejectPlaintextSecrets)
      (fun r s => P s ∧ Snapshot engine family r.1 r.2 ∧ location.family s = .ofMain r.1)
      (fun _ s => P s) := by
  unfold snapshotInto
  apply Triple.bind_ofExcept (fun _ _ _ h => h)
  intro raw hraw
  apply Triple.bind_step P
  · exact fun s h => ⟨hinv _ (hupdate _ s h), hupdate _ s h⟩
  · exact fun _ _ h => h
  apply Triple.bind_ofExcept (fun _ _ _ h => h)
  intro content hcontent
  apply Triple.bind_step (fun s => P s ∧ (location.family s).main = some content)
  · intro s h
    refine ⟨hinv _ (hupdate _ s h), hupdate _ s h, ?_⟩
    rw [location.family_update]
    rfl
  · exact fun _ _ h => h
  have hchecked : Triple inv (fun s => P s ∧ (location.family s).main = some content)
      (do
        let report ← CrashProgram.ofExcept (engine.check content)
        removeSqliteSidecars location
        return (content, report))
      (fun r s => P s ∧ Snapshot engine family r.1 r.2 ∧ location.family s = .ofMain r.1)
      (fun _ s => P s) := by
    apply Triple.bind_ofExcept (fun _ _ _ h => h.1)
    intro report hreport
    apply Triple.bind (fun _ s => (P s ∧ (location.family s).main = some content) ∧
      ∀ member, member ≠ .main → (location.family s).get member = none)
    · apply Triple.weaken (removeSqliteSidecars_triple location
        (P := fun s => P s ∧ (location.family s).main = some content) ?_ ?_)
      · exact fun _ h => h
      · exact fun _ _ h => h
      · exact fun _ _ h => h.1
      · exact fun s h => hinv s h.1
      · intro member hmember s h
        refine ⟨hupdate _ s h.1, ?_⟩
        rw [location.family_update]
        exact (Family.get_set_of_ne _ _ (Ne.symm hmember)).trans h.2
    · intro _
      apply Triple.pure
      intro s h
      refine ⟨h.1.1, ⟨⟨raw, hraw, hcontent⟩, hreport⟩, ?_⟩
      apply Family.ext_get
      intro member
      cases member with
      | main => exact h.1.2
      | wal => exact h.2 .wal (by decide)
      | shm => exact h.2 .shm (by decide)
      | journal => exact h.2 .journal (by decide)
  cases rejectPlaintextSecrets with
  | false => exact hchecked
  | true =>
      apply Triple.bind_ofExcept (fun _ _ _ h => h.1)
      intro _ _
      exact hchecked

/-! ## Preservation -/

/-- The removal of a quarantine directory touches nothing else. -/
theorem removeQuarantine_triple {members : List Member} (hinv : ∀ s, P s → inv s)
    (hquarantine : ∀ q s, P s → P { s with quarantine := q }) :
    Triple inv P (removeQuarantine members) (fun _ => P) (fun _ => P) := by
  induction members with
  | nil =>
      apply Triple.bind_step P
      · exact fun s h => ⟨hinv _ (hquarantine _ s h), hquarantine _ s h⟩
      · exact fun _ _ h => h
      · exact Triple.step (fun s h => ⟨hinv _ (hquarantine _ s h), hquarantine _ s h⟩)
          (fun _ _ h => h)
  | cons member rest ih =>
      apply Triple.bind_step P
      · exact fun s h => ⟨hinv _ (hquarantine _ s h), hquarantine _ s h⟩
      · exact fun _ _ h => h
      · exact ih

theorem discardQuarantine_triple (hinv : ∀ s, P s → inv s)
    (hquarantine : ∀ q s, P s → P { s with quarantine := q }) :
    Triple inv P (discardQuarantine : Restoration Content Unit) (fun _ => P) (fun _ => P) := by
  apply Triple.bind _ (removeQuarantine_triple hinv hquarantine)
  intro _
  exact Triple.idle hinv (fun _ _ h => h)

/-- The copies in the quarantine directory, but for some members. -/
def CopiedBut (old : Family Content) (members : List Member) (s : Files Content) : Prop :=
  s.target = old ∧ ∃ files, s.quarantine = some ⟨files, none⟩ ∧
    ∀ member, files.get member = if member ∈ members then none else old.get member

theorem copyToQuarantine_triple {old : Family Content} {members : List Member}
    (hnodup : members.Nodup) (hinv : ∀ s : Files Content, s.target = old → inv s) :
    Triple inv (CopiedBut old members) (copyToQuarantine members) (fun _ => CopiedBut old [])
      (fun _ s => s.target = old) := by
  induction members with
  | nil => exact Triple.pure (fun _ h => h)
  | cons member rest ih =>
      obtain ⟨hnew, hrest⟩ := List.nodup_cons.mp hnodup
      apply Triple.bind_look
      intro present
      apply Triple.ite
      · intro _
        apply Triple.bind_step (CopiedBut old rest)
        · intro s h
          obtain ⟨⟨htarget, files, hquarantine, hfiles⟩, _⟩ := h
          refine ⟨hinv _ htarget, htarget, files.set member (old.get member), ?_, ?_⟩
          · simp only [onQuarantine, hquarantine, htarget, Option.map_some]
          · intro other
            by_cases hsame : other = member
            · rw [hsame, Family.get_set, if_neg hnew]
            · rw [Family.get_set_of_ne _ _ hsame, hfiles other]
              simp only [List.mem_cons, hsame, false_or]
        · exact fun _ s h => h.1.1
        apply Triple.bind_idle (fun s h => hinv s h.1) (fun _ s h => h.1)
        exact ih hrest
      · intro habsent
        apply Triple.weaken (ih hrest)
        · intro s h
          obtain ⟨⟨htarget, files, hquarantine, hfiles⟩, hpresent⟩ := h
          refine ⟨htarget, files, hquarantine, ?_⟩
          intro other
          have hother := hfiles other
          by_cases hsame : other = member
          · have hnone : old.get member = none := by
              rw [← hpresent, htarget, Option.isSome_iff_ne_none, not_not] at habsent
              exact habsent
            rw [hother, hsame, if_pos List.mem_cons_self, if_neg hnew, hnone]
          · rw [hother]
            simp only [List.mem_cons, hsame, false_or]
        · exact fun _ _ h => h
        · exact fun _ _ h => h

/-- The quarantine is a complete copy before the target is opened. -/
theorem quarantineDatabaseFiles_triple {old : Family Content}
    (hinv : ∀ s : Files Content, s.target = old → inv s) :
    Triple inv (fun s => s.target = old) (quarantineDatabaseFiles engine)
      (fun _ s => s.target = old ∧ Quarantined engine old s) (fun _ s => s.target = old) := by
  apply Triple.bind_idle hinv (fun _ _ h => h)
  apply Triple.bind_idle hinv (fun _ _ h => h)
  apply Triple.bind_step (CopiedBut old [.main, .wal, .shm, .journal])
  · intro s h
    refine ⟨hinv _ h, h, .absent, rfl, ?_⟩
    intro member
    cases member <;> rfl
  · exact fun _ _ h => h
  apply Triple.bind_attempt (fun _ s => s.target = old ∧ Quarantined engine old s)
    (fun _ s => s.target = old)
  · apply Triple.bind _ (copyToQuarantine_triple (by decide) hinv)
    intro _
    apply Triple.bind_look
    intro checksums
    apply Triple.ite
    · exact fun _ => Triple.fail (fun _ h => h.1.1)
    · intro _
      have hkept : ∀ s : Files Content, s.target = old ∧ Quarantined engine old s → inv s :=
        fun s h => hinv s h.1
      apply Triple.bind_step (fun s => s.target = old ∧ Quarantined engine old s)
      · intro s h
        obtain ⟨⟨htarget, files, hquarantine, hfiles⟩, hchecksums⟩ := h
        have hcopy : files = old := by
          apply Family.ext_get
          intro member
          rw [hfiles member, if_neg List.not_mem_nil]
        refine ⟨hinv _ htarget, htarget, ?_⟩
        simp only [Quarantined, onQuarantine, ← hchecksums, hquarantine, hcopy, Option.map_some,
          Option.getD_some]
      · exact fun _ _ h => h.1.1
      apply Triple.bind_idle hkept (fun _ _ h => h.1)
      exact Triple.idle hkept (fun _ _ h => h.1)
  · exact fun _ => Triple.pure (fun _ h => h)
  · intro error
    apply Triple.bind_attempt (fun _ s => s.target = old) (fun _ s => s.target = old)
    · exact removeQuarantine_triple hinv (fun _ _ h => h)
    · exact fun _ => Triple.fail (fun _ h => h)
    · exact fun _ => Triple.fail (fun _ h => h)

variable {paths : Paths} {old : Family Content}

/-- A recovery backup is complete and verified before it has its name. -/
theorem createVerifiedBackup_triple {opened : Family Content}
    (hinv : ∀ s : Files Content, s.target = opened ∧ Quarantined engine old s → inv s) :
    Triple inv (fun s => s.target = opened ∧ Quarantined engine old s)
      (createVerifiedBackup engine paths)
      (fun _ s => (s.target = opened ∧ Quarantined engine old s) ∧
        ∃ content report, Snapshot engine opened content report ∧ s.recovery = some content ∧
          s.recoveryManifest = some (engine.sha256 content))
      (fun _ s => s.target = opened ∧ Quarantined engine old s) := by
  let P := fun s : Files Content => s.target = opened ∧ Quarantined engine old s
  have hupdate : ∀ f s, P s → P (atRecoveryTemporary.update f s) := fun _ _ h => h
  let Named := fun s : Files Content =>
    P s ∧ ∃ content report, Snapshot engine opened content report ∧ s.recovery = some content
  have hnamed : ∀ s, Named s → inv s := fun s h => hinv s h.1
  apply Triple.bind_look
  intro taken
  apply Triple.ite
  · exact fun _ => Triple.fail (fun _ h => h.1)
  intro _
  apply Triple.of_pre P (fun _ h => h.1)
  apply Triple.bind_idle hinv (fun _ _ h => h)
  apply Triple.bind_idle hinv (fun _ _ h => h)
  apply Triple.bind_step P
  · exact fun s h => ⟨hinv _ (hupdate _ s h), hupdate _ s h⟩
  · exact fun _ _ h => h
  apply Triple.bind (fun _ => Named)
  · apply cleaningUp_triple _ hinv hupdate
    apply Triple.bind_look
    intro family
    apply Triple.bind (fun r s => P s ∧ Snapshot engine opened r.1 r.2 ∧
      s.recoveryTemporary = .ofMain r.1)
    · intro m hm
      have hfamily : family = opened := hm.2.symm.trans hm.1.1
      rw [hfamily]
      exact snapshotInto_triple atRecoveryTemporary hinv hupdate m hm.1
    · intro r
      have hcopied : ∀ s : Files Content, P s ∧ Snapshot engine opened r.1 r.2 ∧
          s.recoveryTemporary = .ofMain r.1 → inv s := fun s h => hinv s h.1
      apply Triple.bind_idle hcopied (fun _ _ h => h.1)
      apply Triple.bind_idle hcopied (fun _ _ h => h.1)
      apply Triple.bind_step Named
      · intro s h
        obtain ⟨hP, hsnapshot, htemporary⟩ := h
        refine ⟨hinv _ hP, hP, r.1, r.2, hsnapshot, ?_⟩
        rw [htemporary]
        rfl
      · exact fun _ _ h => h.1
      exact Triple.idle hnamed (fun _ _ h => h.1)
  · intro _
    apply Triple.bind_idle hnamed (fun _ _ h => h.1)
    apply Triple.bind_idle hnamed (fun _ _ h => h.1)
    apply Triple.bind_step (fun s => P s ∧ ∃ content report,
      Snapshot engine opened content report ∧ s.recovery = some content ∧
        s.recoveryManifest = some (engine.sha256 content))
    · intro s h
      obtain ⟨hP, content, report, hsnapshot, hrecovery⟩ := h
      refine ⟨hinv _ hP, hP, content, report, hsnapshot, hrecovery, ?_⟩
      rw [hrecovery, Option.map_some]
    · exact fun _ _ h => h.1
    exact Triple.idle (fun s h => hinv s h.1) (fun _ _ h => h.1)

theorem recoveryAttempt_triple (hopens : engine.OpensReadOnly)
    (hinv : ∀ s : Files Content, Opened engine old s.target → inv s) :
    Triple inv (fun s => s.target = old ∧ Quarantined engine old s)
      (recoveryAttempt engine paths)
      (fun _ s => Opened engine old s.target ∧ Recovered engine old s)
      (fun _ s => Opened engine old s.target ∧ Quarantined engine old s) := by
  let P := fun s : Files Content => s.target = engine.inspected old ∧ Quarantined engine old s
  have hopened : ∀ s, P s → Opened engine old s.target := by
    intro s h
    rw [h.1]
    exact hopens old
  have herr : ∀ s, P s → Opened engine old s.target ∧ Quarantined engine old s :=
    fun s h => ⟨hopened s h, h.2⟩
  have hsafe : ∀ s, P s → inv s := fun s h => hinv s (hopened s h)
  apply Triple.bind_step P
  · intro s h
    have hP : P { s with target := engine.inspected s.target } := by
      refine ⟨?_, h.2⟩
      rw [h.1]
    exact ⟨hsafe _ hP, hP⟩
  · intro _ s h
    refine ⟨?_, h.2⟩
    rw [h.1]
    exact Opened.refl engine old
  apply Triple.bind_look
  intro family
  apply Triple.bind_ofExcept (fun _ s _ h => herr s h.1)
  intro _ _
  apply Triple.bind_idle (fun s h => hsafe s h.1) (fun _ s h => herr s h.1)
  apply Triple.weaken (createVerifiedBackup_triple hsafe)
  · exact fun _ h => h.1
  · intro _ s h
    obtain ⟨hP, content, report, hsnapshot, hrecovery, hmanifest⟩ := h
    exact ⟨hopened s hP, _, content, report, hopens old, hsnapshot, hrecovery, hmanifest⟩
  · exact fun _ => herr

/-- The target is only opened until the old database is kept aside. -/
theorem preserveTargetBeforeRestore_triple (hopens : engine.OpensReadOnly)
    (hinv : ∀ s : Files Content, Opened engine old s.target → inv s) :
    Triple inv (fun s => s.target = old) (preserveTargetBeforeRestore engine paths)
      (fun _ s => Opened engine old s.target ∧
        (databaseFilesHaveContent engine old = true → Preserved engine old s))
      (fun _ s => Opened engine old s.target) := by
  have hopened : ∀ s : Files Content, s.target = old → Opened engine old s.target := by
    intro s h
    rw [h]
    exact Opened.refl engine old
  have hold : ∀ s : Files Content, s.target = old → inv s := fun s h => hinv s (hopened s h)
  have hquarantined : ∀ s : Files Content, s.target = old ∧ Quarantined engine old s → inv s :=
    fun s h => hold s h.1
  apply Triple.bind_idle hold (fun _ => hopened)
  apply Triple.bind_look
  intro hasContent
  apply Triple.ite
  · intro _
    apply Triple.bind (fun _ s => s.target = old ∧ Quarantined engine old s)
    · apply Triple.weaken (quarantineDatabaseFiles_triple hold)
      · exact fun _ h => h.1
      · exact fun _ _ h => h
      · exact fun _ => hopened
    intro _
    apply Triple.bind_idle hquarantined (fun _ s h => hopened s h.1)
    apply Triple.bind_look
    intro isHeadless
    apply Triple.ite
    · intro _
      apply Triple.pure
      exact fun s h => ⟨hopened s h.1.1, fun _ => Or.inr h.1.2⟩
    · intro _
      apply Triple.of_pre (fun s => s.target = old ∧ Quarantined engine old s) (fun _ h => h.1)
      apply Triple.bind_attempt _ _ (recoveryAttempt_triple hopens hinv)
      · intro _
        apply Triple.bind (fun _ s => Opened engine old s.target ∧ Recovered engine old s)
        · apply Triple.weaken (discardQuarantine_triple
            (P := fun s => Opened engine old s.target ∧ Recovered engine old s)
            (fun s h => hinv s h.1) (fun _ _ h => h))
          · exact fun _ h => h
          · exact fun _ _ h => h
          · exact fun _ _ h => h.1
        · exact fun _ => Triple.pure (fun _ h => ⟨h.1, fun _ => Or.inl h.2⟩)
      · intro error
        apply Triple.ite
        · exact fun _ => Triple.pure (fun _ h => ⟨h.1, fun _ => Or.inr h.2⟩)
        · intro _
          apply Triple.bind_attempt (fun _ s => Opened engine old s.target)
            (fun _ s => Opened engine old s.target)
          · apply Triple.weaken (discardQuarantine_triple
              (P := fun s => Opened engine old s.target) hinv (fun _ _ h => h))
            · exact fun _ h => h.1
            · exact fun _ _ h => h
            · exact fun _ _ h => h
          · exact fun _ => Triple.fail (fun _ h => h)
          · exact fun _ => Triple.fail (fun _ h => h)
  · intro hempty
    apply Triple.pure
    intro s h
    refine ⟨hopened s h.1, ?_⟩
    intro hcontent
    rw [← h.2, h.1] at hempty
    exact absurd hcontent hempty

/-! ## Replacement -/

variable {source : BackupSource Content}

theorem Safe.of_opened {s : Files Content} (h : Opened engine old s.target) :
    Safe engine source old s :=
  ⟨Or.inl ⟨s.target, h, rfl, fun _ => Or.inr rfl⟩, fun _ hnot => absurd h hnot⟩

theorem Safe.of_kept {s : Files Content}
    (htarget : Shrunk engine old s.target ∨ Replaced engine source s.target)
    (hkept : databaseFilesHaveContent engine old = true → Preserved engine old s) :
    Safe engine source old s :=
  ⟨htarget, fun hcontent _ => hkept hcontent⟩

/-- A sidecar less. -/
theorem Shrunk.remove {family : Family Content} {member : Member} (hmember : member ≠ .main)
    (h : Shrunk engine old family) : Shrunk engine old (family.set member none) := by
  obtain ⟨opened, hopened, hmain, hfiles⟩ := h
  refine ⟨opened, hopened, ?_, ?_⟩
  · exact (Family.get_set_of_ne family none (Ne.symm hmember)).trans hmain
  · intro other
    by_cases hsame : other = member
    · rw [hsame, Family.get_set]
      exact Or.inl rfl
    · rw [Family.get_set_of_ne _ _ hsame]
      exact hfiles other

/-- The sidecars go, and then the main file is replaced. -/
theorem replaceTarget_triple {sourceReport : DatabaseReport}
    (hreport : engine.check source.main = .ok sourceReport) :
    Triple (Safe engine source old)
      (fun s => Opened engine old s.target ∧
        (databaseFilesHaveContent engine old = true → Preserved engine old s))
      (replaceTarget engine source sourceReport)
      (fun _ s => Replaced engine source s.target)
      (fun _ s => Safe engine source old s ∧
        (s.target.main = old.main ∨ Replaced engine source s.target)) := by
  let Kept := fun s : Files Content =>
    databaseFilesHaveContent engine old = true → Preserved engine old s
  apply Triple.bind (fun r s => (Opened engine old s.target ∧ Kept s) ∧
    Snapshot engine (.ofMain source.main) r.1 r.2 ∧ s.temporary = .ofMain r.1)
  · apply Triple.weaken (snapshotInto_triple atTemporary
      (P := fun s => Opened engine old s.target ∧ Kept s)
      (fun _ h => Safe.of_opened h.1) (fun _ _ h => h))
    · exact fun _ h => h
    · exact fun _ _ h => h
    · exact fun _ _ h => ⟨Safe.of_opened h.1, Or.inl h.1.main⟩
  intro r
  obtain ⟨content, report⟩ := r
  let Ready := fun s : Files Content => (Shrunk engine old s.target ∧ Kept s) ∧
    Snapshot engine (.ofMain source.main) content report ∧ s.temporary = .ofMain content
  have hsafe : ∀ s, Ready s → Safe engine source old s :=
    fun s h => Safe.of_kept (Or.inl h.1.1) h.1.2
  have herr : ∀ s, Ready s → Safe engine source old s ∧
      (s.target.main = old.main ∨ Replaced engine source s.target) := by
    intro s h
    obtain ⟨opened, hopened, hmain, _⟩ := h.1.1
    exact ⟨hsafe s h, Or.inl (hmain.trans hopened.main)⟩
  apply Triple.of_pre Ready
  · intro s h
    obtain ⟨⟨hopened, hkept⟩, hsnapshot, htemporary⟩ := h
    exact ⟨⟨⟨s.target, hopened, rfl, fun _ => Or.inr rfl⟩, hkept⟩, hsnapshot, htemporary⟩
  apply Triple.ite
  · exact fun _ => Triple.fail herr
  intro hmatches
  rw [not_or, not_not, not_not] at hmatches
  apply Triple.bind_idle hsafe (fun _ => herr)
  apply Triple.bind_idle hsafe (fun _ => herr)
  apply Triple.bind (fun _ s => Ready s ∧
    ∀ member, member ≠ .main → s.target.get member = none)
  · apply Triple.weaken (removeSqliteSidecars_triple atTarget (P := Ready) hsafe ?_)
    · exact fun _ h => h
    · exact fun _ _ h => h
    · exact fun _ => herr
    · intro member hmember s h
      exact ⟨⟨h.1.1.remove hmember, h.1.2⟩, h.2⟩
  intro _
  let Done := fun s : Files Content => Kept s ∧ Replaced engine source s.target
  have hdone : ∀ s, Done s → Safe engine source old s :=
    fun s h => Safe.of_kept (Or.inr h.2) h.1
  apply Triple.bind_step Done
  · intro s h
    obtain ⟨⟨⟨_, hkept⟩, hsnapshot, htemporary⟩, hsidecars⟩ := h
    have hDone : Done { s with
        target := s.target.set .main s.temporary.main
        temporary := s.temporary.set .main none } := by
      refine ⟨hkept, content, report, sourceReport, hsnapshot, hreport, hmatches.1, hmatches.2, ?_⟩
      apply Family.ext_get
      intro member
      cases member with
      | main => rw [Family.get_set, htemporary]; rfl
      | wal => exact hsidecars .wal (by decide)
      | shm => exact hsidecars .shm (by decide)
      | journal => exact hsidecars .journal (by decide)
    exact ⟨hdone _ hDone, hDone⟩
  · exact fun _ s h => herr s h.1
  have hsynced : Triple (Safe engine source old) Done (fileOperation : Restoration Content Unit)
      (fun _ => Done) (fun _ => Done) := Triple.idle hdone (fun _ _ h => h)
  apply Triple.weaken hsynced
  · exact fun _ h => h
  · exact fun _ _ h => h.2
  · exact fun _ s h => ⟨hdone s h, Or.inr h.2⟩

/-- The check of the backup reports what the engine reports of it. -/
theorem checkSource_ok {report : DatabaseReport} (h : checkSource engine source = .ok report) :
    engine.check source.main = .ok report := by
  cases hmanifest : verifyManifest engine source with
  | error e => simp [checkSource, hmanifest, Bind.bind, Except.bind] at h
  | ok _ =>
      cases hcheck : engine.check source.main with
      | error e => simp [checkSource, hmanifest, hcheck, Bind.bind, Except.bind] at h
      | ok sourceReport =>
          by_cases hsupported : currentSchemaVersion < sourceReport.userVersion
          · simp [checkSource, hmanifest, hcheck, hsupported, Bind.bind, Except.bind, throw,
              throwThe, MonadExceptOf.throw] at h
          · simp [checkSource, hmanifest, hcheck, hsupported, Bind.bind, Except.bind, pure,
              Except.pure] at h
            rw [h]

theorem restoreDatabase_triple (hopens : engine.OpensReadOnly) :
    Triple (Safe engine source old) (fun s => s.target = old)
      (restoreDatabase engine paths source)
      (fun _ s => Replaced engine source s.target)
      (fun _ s => s.target.main = old.main ∨ Replaced engine source s.target) := by
  have hopened : ∀ s : Files Content, s.target = old → Opened engine old s.target := by
    intro s h
    rw [h]
    exact Opened.refl engine old
  have hold : ∀ s : Files Content, s.target = old → Safe engine source old s :=
    fun s h => Safe.of_opened (hopened s h)
  have herr : ∀ s : Files Content, s.target = old →
      s.target.main = old.main ∨ Replaced engine source s.target :=
    fun s h => Or.inl (hopened s h).main
  apply Triple.ite
  · exact fun _ => Triple.fail herr
  intro _
  apply Triple.bind_idle hold (fun _ => herr)
  apply Triple.bind_ofExcept (fun _ s _ => herr s)
  intro sourceReport hreport
  apply Triple.bind_idle hold (fun _ => herr)
  apply Triple.bind_step (fun s => s.target = old) (fun s h => ⟨hold s h, h⟩) (fun _ => herr)
  apply Triple.bind (fun _ s => Opened engine old s.target ∧
    (databaseFilesHaveContent engine old = true → Preserved engine old s))
  · apply Triple.weaken (preserveTargetBeforeRestore_triple hopens
      (fun s => Safe.of_opened))
    · exact fun _ h => h
    · exact fun _ _ h => h
    · exact fun _ _ h => Or.inl h.main
  intro preservation
  have hkept : ∀ s : Files Content, Opened engine old s.target ∧
      (databaseFilesHaveContent engine old = true → Preserved engine old s) →
      Safe engine source old s := fun s h => Safe.of_opened h.1
  apply Triple.bind_idle hkept (fun _ _ h => Or.inl h.1.main)
  apply Triple.bind_idle hkept (fun _ _ h => Or.inl h.1.main)
  apply Triple.bind_step (fun s => Opened engine old s.target ∧
    (databaseFilesHaveContent engine old = true → Preserved engine old s))
  · exact fun s h => ⟨Safe.of_opened h.1, h⟩
  · exact fun _ _ h => Or.inl h.1.main
  apply Triple.bind (fun _ s => Replaced engine source s.target)
  · apply Triple.weaken (cleaningUp_triple (replaceTarget_triple (checkSource_ok hreport))
      (fun _ h => h.1) (fun _ _ h => ⟨⟨h.1.target, h.1.kept⟩, h.2⟩))
    · exact fun _ h => h
    · exact fun _ _ h => h
    · exact fun _ _ h => h.2
  · exact fun _ => Triple.pure (fun _ h => h)

end

/-! ## Crash safety -/

/-- A restoration from a backup, with the decisions about its steps. -/
def restoration {Content : Type} (engine : Engine Content) (paths : Paths)
    (source : BackupSource Content) (old : Family Content) (decisions : List (Option String)) :
    Except DatabaseError Preservation × Machine (Files Content) :=
  start (restoreDatabase engine paths source) (Files.before old) decisions

/-- Whatever step a restoration stops at, by a failure or a crash, the target is
the old family without some sidecars or the verified new database on its own; an
old database with some content is kept aside before anything of it goes; and after
an error the old main file is in place unless the new one already was. -/
theorem restore_crash_safe {Content : Type} (engine : Engine Content)
    (hopens : engine.OpensReadOnly) (paths : Paths) (source : BackupSource Content)
    (old : Family Content) (decisions : List (Option String)) :
    (∀ s ∈ (restoration engine paths source old decisions).2.passed,
      Safe engine source old s) ∧
    (∀ preservation, (restoration engine paths source old decisions).1 = .ok preservation →
      Replaced engine source (restoration engine paths source old decisions).2.state.target) ∧
    (∀ error, (restoration engine paths source old decisions).1 = .error error →
      (restoration engine paths source old decisions).2.state.target.main = old.main ∨
        Replaced engine source
          (restoration engine paths source old decisions).2.state.target) := by
  have htriple : Triple (Safe engine source old) (fun s => s.target = old)
      (restoreDatabase engine paths source) (fun _ s => Replaced engine source s.target)
      (fun _ s => s.target.main = old.main ∨ Replaced engine source s.target) :=
    restoreDatabase_triple hopens
  have hsafe : Safe engine source old (Files.before old) :=
    Safe.of_opened (Opened.refl engine old)
  obtain ⟨hpassed, hresult⟩ := htriple.start rfl hsafe decisions
  refine ⟨hpassed, ?_, ?_⟩
  · intro preservation hok
    unfold restoration at hok
    rw [hok] at hresult
    exact hresult
  · intro error herror
    unfold restoration at herror
    rw [herror] at hresult
    exact hresult

/-- The contents of an example. -/
inductive SampleFile where
  | empty
  | oldDatabase
  | writeAheadLog
  | index
  | rebuiltIndex
  | oldCopy
  | backup
  | newDatabase
  deriving DecidableEq, Repr

/-- What the engine reports of the databases of the example. -/
def sampleCheck : SampleFile → Except DatabaseError DatabaseReport
  | .oldDatabase | .oldCopy => .ok ⟨7, [("routers", 1)]⟩
  | .backup | .newDatabase => .ok ⟨7, [("routers", 2)]⟩
  | _ => .error (.sqlite .notADatabase "file is not a database")

/-- The engine on the files of the example. -/
def sampleEngine : Engine SampleFile where
  emptyFile := .empty
  size content := if content = .empty then 0 else 4096
  sha256 content := match content with
    | .oldDatabase => "21"
    | .oldCopy => "22"
    | .backup => "23"
    | .newDatabase => "24"
    | _ => "20"
  inspected family := { family with shm := family.shm.map (fun _ => .rebuiltIndex) }
  userVersion family := match family.main with
    | some content => (sampleCheck content).map (fun report => report.userVersion)
    | none => .error (.sqlite .other "unable to open database file")
  backup family := match family.main with
    | some .oldDatabase => .ok .oldCopy
    | some .backup => .ok .newDatabase
    | _ => .error (.sqlite .notADatabase "file is not a database")
  deleteJournal content := .ok content
  hasPlaintextSecret _ := .ok false
  check := sampleCheck

/-- The names of the example. -/
def samplePaths : Paths :=
  ⟨"routerview.db", "pre-restore.db", "quarantine", "backup.tmp", "restore.tmp"⟩

/-- A restoration of the example. -/
def sampleRestore (old : Family SampleFile) :
    Except DatabaseError Preservation × Machine (Files SampleFile) :=
  restoration sampleEngine samplePaths ⟨.backup, some "23"⟩ old []

/-- A database in the write-ahead mode. -/
def sampleOld : Family SampleFile := ⟨some .oldDatabase, some .writeAheadLog, some .index, none⟩

theorem sampleEngine_opensReadOnly : sampleEngine.OpensReadOnly :=
  fun family => ⟨rfl, rfl, Or.inl rfl, by simp [sampleEngine]⟩

theorem restore_crash_safe_sample :
    (∀ s ∈ (sampleRestore sampleOld).2.passed,
      Safe sampleEngine ⟨.backup, some "23"⟩ sampleOld s) ∧
    Replaced sampleEngine ⟨.backup, some "23"⟩ (sampleRestore sampleOld).2.state.target := by
  have hok : (sampleRestore sampleOld).1 = .ok .recoveryBackup := by decide +kernel
  unfold sampleRestore at hok ⊢
  obtain ⟨hpassed, hreplaced, _⟩ := restore_crash_safe sampleEngine sampleEngine_opensReadOnly
    samplePaths ⟨.backup, some "23"⟩ sampleOld []
  exact ⟨hpassed, hreplaced .recoveryBackup hok⟩

/-- An empty main file is replaced without a copy of it, and a database that was
only opened may have a new index. -/
theorem restore_not_crash_safe :
    ((sampleRestore (.ofMain .empty)).2.state.target = .ofMain .newDatabase ∧
      (sampleRestore (.ofMain .empty)).2.state.quarantine = none ∧
      (sampleRestore (.ofMain .empty)).2.state.recovery = none) ∧
    ∃ s ∈ (sampleRestore sampleOld).2.passed,
      s.target.main = sampleOld.main ∧ s.target.shm = some .rebuiltIndex := by
  decide +kernel

end RouterView.Maintenance
