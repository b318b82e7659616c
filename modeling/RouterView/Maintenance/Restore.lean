/-
  Maintenance/Restore.lean --- the restoration of a database from a backup.

  `restore_database` of `db/maintenance.rs` with the functions that it calls, as
  a program of atomic file operations.  A database is a family of four files.
  What the files contain is left open: their size, their digest and what the
  database engine makes of them are a parameter.  The private permissions of new
  files and the removal of the lock at the end are left out.

  Scope: one command, with the lock of the database held; a copy of a file is one step.  Left
  out: the directories, and the format of the manifest apart from the order of its lines.
-/
import RouterView.Foundation.CrashProgram

set_option autoImplicit false

namespace RouterView.Maintenance

open RouterView.Foundation

/-! ## Errors -/

/-- The codes of `SqliteFailure` that are told apart. -/
inductive ErrorCode where
  | databaseCorrupt
  | notADatabase
  | other
  deriving DecidableEq, Repr

/-- `DatabaseError`, the variants of a restoration. -/
inductive DatabaseError where
  | sqlite (code : ErrorCode) (message : String)
  | io (message : String)
  | inUse (path : String)
  | integrity (message : String)
  | unsupportedVersion (found supported : Int)
  | insufficientSpace (message : String)
  | checksumMismatch (expected actual : String)
  | verification (message : String)
  | invalidCommand (message : String)
  deriving DecidableEq, Repr

/-- The text of an error. -/
def DatabaseError.text : DatabaseError → String
  | .sqlite _ message => "SQLite error: " ++ message
  | .io message => "I/O error: " ++ message
  | .inUse path => "database is already in use: " ++ path
  | .integrity message => "database integrity check failed: " ++ message
  | .unsupportedVersion found supported =>
      "database schema version " ++ toString found ++ " is newer than supported version " ++
        toString supported
  | .insufficientSpace message => "insufficient free space at " ++ message
  | .checksumMismatch expected actual =>
      "backup checksum mismatch: expected " ++ expected ++ ", calculated " ++ actual
  | .verification message => "database verification failed: " ++ message
  | .invalidCommand message => "invalid database command: " ++ message

/-- `is_corrupt_database_error`. -/
def isCorruptDatabaseError : DatabaseError → Bool
  | .integrity _ => true
  | .sqlite code _ => decide (code = .databaseCorrupt ∨ code = .notADatabase)
  | _ => false

/-- `CURRENT_SCHEMA_VERSION`. -/
def currentSchemaVersion : Int := 7

/-! ## Files -/

/-- The suffixes of the files of a database. -/
inductive Member where
  | main
  | wal
  | shm
  | journal
  deriving DecidableEq, Repr

variable {Content : Type}

/-- The files of a database; an absent file is `none`. -/
structure Family (Content : Type) where
  main : Option Content
  wal : Option Content
  shm : Option Content
  journal : Option Content
  deriving DecidableEq

/-- One of the files. -/
def Family.get (family : Family Content) : Member → Option Content
  | .main => family.main
  | .wal => family.wal
  | .shm => family.shm
  | .journal => family.journal

/-- Write or remove one of the files. -/
def Family.set (family : Family Content) (member : Member) (content : Option Content) :
    Family Content :=
  match member with
  | .main => { family with main := content }
  | .wal => { family with wal := content }
  | .shm => { family with shm := content }
  | .journal => { family with journal := content }

/-- No file. -/
def Family.absent : Family Content := ⟨none, none, none, none⟩

/-- A main file on its own. -/
def Family.ofMain (content : Content) : Family Content := ⟨some content, none, none, none⟩

/-- A quarantine directory: the copies, and the names and digests in
`SHA256SUMS`. -/
structure Quarantine (Content : Type) where
  files : Family Content
  manifest : Option (List (String × String))
  deriving DecidableEq

/-- The files that a restoration works on. -/
structure Files (Content : Type) where
  target : Family Content
  temporary : Family Content
  quarantine : Option (Quarantine Content)
  recoveryTemporary : Family Content
  recovery : Option Content
  recoveryManifest : Option String
  deriving DecidableEq

/-- The files before a restoration: the generated names are new. -/
def Files.before (target : Family Content) : Files Content :=
  ⟨target, .absent, none, .absent, none, none⟩

/-- `DatabaseReport`, the fields that are compared. -/
structure DatabaseReport where
  userVersion : Int
  tableCounts : List (String × Nat)
  deriving DecidableEq, Repr

/-- The file contents and the database engine.  `inspected` is a family after it
was opened read-only, which may still rebuild the shared memory; `backup` reads
a whole database into one file; `deleteJournal` leaves the write-ahead mode. -/
structure Engine (Content : Type) where
  emptyFile : Content
  size : Content → Nat
  sha256 : Content → String
  inspected : Family Content → Family Content
  userVersion : Family Content → Except DatabaseError Int
  backup : Family Content → Except DatabaseError Content
  deleteJournal : Content → Except DatabaseError Content
  hasPlaintextSecret : Content → Except DatabaseError Bool
  check : Content → Except DatabaseError DatabaseReport

/-- The names in messages. -/
structure Paths where
  target : String
  recovery : String
  quarantine : String
  recoveryTemporary : String
  temporary : String
  deriving DecidableEq, Repr

/-- A program on the files. -/
abbrev Restoration (Content α : Type) : Type := CrashProgram (Files Content) DatabaseError α

/-- A file operation that changes nothing that is modelled. -/
def fileOperation : Restoration Content Unit := CrashProgram.step .io (fun s => s)

/-- `ensure_available_space`. -/
def ensureAvailableSpace : Restoration Content Unit :=
  CrashProgram.step .insufficientSpace (fun s => s)

/-! ## Removal -/

/-- Where a family of files is. -/
structure Location (Content : Type) where
  family : Files Content → Family Content
  update : (Family Content → Family Content) → Files Content → Files Content
  family_update : ∀ f s, family (update f s) = f (family s)

/-- The target itself. -/
def atTarget : Location Content :=
  ⟨fun s => s.target, fun f s => { s with target := f s.target }, fun _ _ => rfl⟩

/-- The temporary file of the restoration. -/
def atTemporary : Location Content :=
  ⟨fun s => s.temporary, fun f s => { s with temporary := f s.temporary }, fun _ _ => rfl⟩

/-- The temporary file of the recovery backup. -/
def atRecoveryTemporary : Location Content :=
  ⟨fun s => s.recoveryTemporary,
    fun f s => { s with recoveryTemporary := f s.recoveryTemporary }, fun _ _ => rfl⟩

/-- `remove_sqlite_files`: every file is tried, and the first error is reported. -/
def removeSqliteFiles (location : Location Content) :
    Option DatabaseError → List Member → Restoration Content Unit
  | none, [] => pure ()
  | some error, [] => CrashProgram.fail error
  | firstError, member :: rest => do
      let result ← CrashProgram.attempt
        (CrashProgram.step .io (location.update (fun family => family.set member none)))
      removeSqliteFiles location
        (firstError.or (match result with
          | .ok _ => none
          | .error error => some error)) rest

/-- `remove_sqlite_sidecars`. -/
def removeSqliteSidecars (location : Location Content) : Restoration Content Unit :=
  removeSqliteFiles location none [.wal, .shm, .journal]

/-- Run a program that fills a temporary file; on an error the temporary files
are removed (`cleanup_snapshot_error`). -/
def cleaningUp {α : Type} (location : Location Content) (path : String)
    (p : Restoration Content α) : Restoration Content α := do
  match ← CrashProgram.attempt p with
  | .ok a => pure a
  | .error error =>
      match ← CrashProgram.attempt
          (removeSqliteFiles location none [.main, .wal, .shm, .journal]) with
      | .ok _ => CrashProgram.fail error
      | .error cleanupError =>
          CrashProgram.fail (.verification
            (error.text ++ "; failed to discard temporary SQLite file family " ++ path ++ ": " ++
              cleanupError.text))

/-! ## Quarantine -/

/-- The name of a file in the quarantine directory. -/
def Member.storedName : Member → String
  | .main => "database.db"
  | .wal => "database.db-wal"
  | .shm => "database.db-shm"
  | .journal => "database.db-journal"

/-- Change the quarantine directory. -/
def onQuarantine (f : Quarantine Content → Quarantine Content) (s : Files Content) :
    Files Content :=
  { s with quarantine := s.quarantine.map f }

/-- `fs::remove_dir_all` of the quarantine directory, file by file. -/
def removeQuarantine : List Member → Restoration Content Unit
  | [] => do
      CrashProgram.step .io (onQuarantine (fun q => { q with manifest := none }))
      CrashProgram.step .io (fun s => { s with quarantine := none })
  | member :: rest => do
      CrashProgram.step .io
        (onQuarantine (fun q => { q with files := q.files.set member none }))
      removeQuarantine rest

/-- `discard_quarantine`. -/
def discardQuarantine : Restoration Content Unit := do
  removeQuarantine [.main, .wal, .shm, .journal]
  fileOperation

/-- Copy the files that exist, and digest the copies. -/
def copyToQuarantine : List Member → Restoration Content Unit
  | [] => pure ()
  | member :: rest => do
      if ← CrashProgram.look (fun s => (s.target.get member).isSome) then do
        CrashProgram.step .io (fun s =>
          onQuarantine (fun q => { q with files := q.files.set member (s.target.get member) }) s)
        fileOperation
        copyToQuarantine rest
      else copyToQuarantine rest

section

variable (engine : Engine Content) (paths : Paths)

/-- The lines of `SHA256SUMS`, ordered by the stored name. -/
def fileChecksums (files : Family Content) : List (String × String) :=
  [Member.main, .journal, .shm, .wal].filterMap (fun member =>
    (files.get member).map (fun content => (member.storedName, engine.sha256 content)))

/-- `quarantine_database_files`. -/
def quarantineDatabaseFiles : Restoration Content Unit := do
  fileOperation
  ensureAvailableSpace
  CrashProgram.step .io (fun s => { s with quarantine := some ⟨.absent, none⟩ })
  let result ← CrashProgram.attempt (do
    copyToQuarantine [.main, .wal, .shm, .journal]
    let checksums ← CrashProgram.look (fun s =>
      (s.quarantine.map (fun q => fileChecksums engine q.files)).getD [])
    if checksums = [] then
      CrashProgram.fail (.verification "database quarantine contained no files")
    else do
      CrashProgram.step .io (onQuarantine (fun q => { q with manifest := some checksums }))
      fileOperation
      fileOperation)
  match result with
  | .ok _ => pure ()
  | .error error => do
      let _ ← CrashProgram.attempt (removeQuarantine [.main, .wal, .shm, .journal])
      CrashProgram.fail error

/-! ## Snapshots -/

/-- `refuse_plaintext_secret_backup`. -/
def refusePlaintextSecretBackup (content : Content) : Except DatabaseError Unit := do
  if ← engine.hasPlaintextSecret content then
    throw (.verification
      "refusing to create a database backup while config contains a plaintext router password; start the service with ROUTERVIEW_MASTER_KEY_FILE so the bootstrap encryption step can complete first")

/-- Change the main file of a temporary family. -/
def writeMain (location : Location Content) (content : Content) : Restoration Content Unit :=
  CrashProgram.step .io (location.update (fun family => family.set .main (some content)))

/-- `backup` into a temporary file, and `normalize_and_check_snapshot`. -/
def snapshotInto (location : Location Content) (source : Family Content)
    (rejectPlaintextSecrets : Bool) : Restoration Content (Content × DatabaseReport) := do
  let raw ← CrashProgram.ofExcept (engine.backup source)
  writeMain location raw
  let content ← CrashProgram.ofExcept (engine.deleteJournal raw)
  writeMain location content
  if rejectPlaintextSecrets then
    CrashProgram.ofExcept (refusePlaintextSecretBackup engine content)
  let report ← CrashProgram.ofExcept (engine.check content)
  removeSqliteSidecars location
  return (content, report)

/-- `create_verified_backup`, with `write_manifest` at its end. -/
def createVerifiedBackup : Restoration Content Unit := do
  if ← CrashProgram.look (fun s => s.recovery.isSome || s.recoveryManifest.isSome) then
    CrashProgram.fail (.invalidCommand ("backup destination already exists: " ++ paths.recovery))
  else do
    fileOperation
    ensureAvailableSpace
    writeMain atRecoveryTemporary engine.emptyFile
    cleaningUp atRecoveryTemporary paths.recoveryTemporary (do
      let source ← CrashProgram.look (fun s => s.target)
      let _ ← snapshotInto engine atRecoveryTemporary source true
      fileOperation
      fileOperation
      CrashProgram.step .io (fun s =>
        { s with
          recovery := s.recoveryTemporary.main
          recoveryTemporary := s.recoveryTemporary.set .main none })
      fileOperation)
    fileOperation
    fileOperation
    CrashProgram.step .io (fun s => { s with recoveryManifest := s.recovery.map engine.sha256 })
    fileOperation

/-! ## Restoration -/

/-- Some file of the family is not empty: `database_files_have_content`. -/
def databaseFilesHaveContent (family : Family Content) : Bool :=
  [Member.main, .wal, .shm, .journal].any (fun member =>
    (family.get member).any (fun content => decide (0 < engine.size content)))

/-- What was kept of the target. -/
inductive Preservation where
  | nothing
  | recoveryBackup
  | quarantined
  deriving DecidableEq, Repr

/-- The main file is missing or empty. -/
def headless (family : Family Content) : Bool :=
  family.main.all (fun content => decide (engine.size content = 0))

/-- The attempt at a recovery backup. -/
def recoveryAttempt : Restoration Content Unit := do
  CrashProgram.step (.sqlite .other) (fun s => { s with target := engine.inspected s.target })
  let family ← CrashProgram.look (fun s => s.target)
  let _ ← CrashProgram.ofExcept (engine.userVersion family)
  fileOperation
  createVerifiedBackup engine paths

/-- `preserve_target_before_restore`. -/
def preserveTargetBeforeRestore : Restoration Content Preservation := do
  fileOperation
  if ← CrashProgram.look (fun s => databaseFilesHaveContent engine s.target) then do
    quarantineDatabaseFiles engine
    fileOperation
    if ← CrashProgram.look (fun s => headless engine s.target) then return .quarantined
    else do
      match ← CrashProgram.attempt (recoveryAttempt engine paths) with
      | .ok _ => do
          discardQuarantine
          return .recoveryBackup
      | .error error =>
          if isCorruptDatabaseError error then return .quarantined
          else do
            match ← CrashProgram.attempt discardQuarantine with
            | .ok _ => CrashProgram.fail error
            | .error cleanupError =>
                CrashProgram.fail (.verification
                  ("target validation failed (" ++ error.text ++ "); temporary quarantine " ++
                    paths.quarantine ++ " could not be removed: " ++ cleanupError.text))
  else return .nothing

/-- A backup: its main file, and the digest in its manifest, if that has one. -/
structure BackupSource (Content : Type) where
  main : Content
  manifestDigest : Option String

/-- `verify_manifest`, once the first word of the manifest was read. -/
def verifyManifest (source : BackupSource Content) : Except DatabaseError Unit :=
  match source.manifestDigest with
  | none => .error (.verification "invalid SHA-256 manifest")
  | some expected =>
      if expected = engine.sha256 source.main then .ok ()
      else .error (.checksumMismatch expected (engine.sha256 source.main))

/-- The checks of the backup, before the target is locked. -/
def checkSource (source : BackupSource Content) : Except DatabaseError DatabaseReport := do
  verifyManifest engine source
  let report ← engine.check source.main
  if currentSchemaVersion < report.userVersion then
    throw (.unsupportedVersion report.userVersion currentSchemaVersion)
  return report

/-- The replacement of the target. -/
def replaceTarget (source : BackupSource Content) (sourceReport : DatabaseReport) :
    Restoration Content Unit := do
  let (_, restoredReport) ← snapshotInto engine atTemporary (.ofMain source.main) false
  if restoredReport.tableCounts ≠ sourceReport.tableCounts ∨
      restoredReport.userVersion ≠ sourceReport.userVersion then
    CrashProgram.fail (.verification
      "restored database metadata does not match the source backup")
  else do
    fileOperation
    fileOperation
    removeSqliteSidecars atTarget
    CrashProgram.step .io (fun s =>
      { s with
        target := s.target.set .main s.temporary.main
        temporary := s.temporary.set .main none })
    fileOperation

/-- `restore_database`. -/
def restoreDatabase (source : BackupSource Content) : Restoration Content Preservation := do
  if paths.target = ":memory:" then
    CrashProgram.fail (.invalidCommand "db restore requires a filesystem target")
  else do
    fileOperation
    let sourceReport ← CrashProgram.ofExcept (checkSource engine source)
    fileOperation
    CrashProgram.step (fun _ => .inUse paths.target) (fun s => s)
    let preservation ← preserveTargetBeforeRestore engine paths
    fileOperation
    ensureAvailableSpace
    writeMain atTemporary engine.emptyFile
    cleaningUp atTemporary paths.temporary (replaceTarget engine source sourceReport)
    return preservation

end

end RouterView.Maintenance
