/-
  Auth/Setup.lean --- the first-run setup.

  The setup token of `auth.rs` lives in a row of the database and in a file.
  Issuing a token, setting up the administrator and cleaning up change them in
  separate steps under one lock, a setup request validates the token and hashes
  the password before it takes the lock, and any file operation may fail.  The
  process issues a token without the lock before it serves anything.  The digest
  of tokens is a parameter.

  Left out: the permissions and the synchronisation of the file, the characters and the
  lengths that a name or a password may have, and the listener that serves the setup.
-/
import RouterView.Auth.StoreSpec
import RouterView.Foundation.Run
import RouterView.Foundation.Text
import RouterView.Foundation.Terminated

set_option autoImplicit false

namespace RouterView.Auth

open RouterView.Foundation

/-! ## The row -/

/-- `store_setup_token_if_no_admin`. -/
def storeSetupTokenIfNoAdmin (tokenHash : Hash) (expiresAt : Int) (db : AuthDb) : Bool × AuthDb :=
  if db.admin.isSome then (false, db)
  else (true, { db with setupToken := some ⟨tokenHash, expiresAt, none⟩ })

/-- `setup_token_is_valid`. -/
def setupTokenIsValid (tokenHash : Hash) (now : Int) (db : AuthDb) : Bool :=
  db.setupToken.any (fun row =>
    decide (row.tokenHash = tokenHash ∧ row.usedAt = none ∧ now < row.expiresAt)) &&
    db.admin.isNone

/-- `expired_setup_token_hash`. -/
def expiredSetupTokenHash (now : Int) (db : AuthDb) : Option Hash :=
  (db.setupToken.filter (fun row => decide (row.usedAt = none ∧ row.expiresAt ≤ now))).map
    (fun row => row.tokenHash)

/-- `current_setup_token_hash`. -/
def currentSetupTokenHash (db : AuthDb) : Option Hash :=
  (db.setupToken.filter (fun row => decide (row.usedAt = none))).map (fun row => row.tokenHash)

/-- `invalidate_setup_token_if_matches`. -/
def invalidateSetupTokenIfMatches (tokenHash : Hash) (now : Int) (db : AuthDb) : Bool × AuthDb :=
  if db.setupToken.any (fun row => decide (row.tokenHash = tokenHash ∧ row.usedAt = none)) then
    (true, { db with setupToken := some ⟨[], 0, some now⟩ })
  else (false, db)

/-! ## Operations -/

/-- `SETUP_SECS`. -/
def setupSecs : Int := 15 * 60

/-- `SETUP_TOKEN_FILE_MAX_BYTES`. -/
def setupTokenFileMaxBytes : Nat := 128

/-- A setup request, with the digest of its password and the session to create. -/
structure SetupRequest where
  token : String
  username : String
  passwordHash : String
  session : AuthSessionRecord
  deriving DecidableEq, Repr

/-- The operations of a running server. -/
inductive SetupOperation where
  | issue (token : String)
  | cleanup (expiredOnly : Bool) (now : Int)
  | setup (request : SetupRequest)
  deriving DecidableEq, Repr

/-- Where the operation that holds the lock stands, named after its next step. -/
inductive Critical where
  | storing (token : String)
  | refused
  | writing (token : String)
  | writeFailed (token : String)
  | selecting (expiredOnly : Bool) (now : Int)
  | invalidating (tokenHash : Hash) (now : Int)
  | matching (tokenHash : Hash) (ok : Bool)
  | removing (ok : Bool)
  | consuming (request : SetupRequest)
  deriving DecidableEq, Repr

/-- The first step under the lock. -/
def SetupOperation.critical : SetupOperation → Critical
  | issue token => .storing token
  | cleanup expiredOnly now => .selecting expiredOnly now
  | setup request => .consuming request

/-- What a step under the lock leads to: another step, or the end of the operation. -/
inductive Next where
  | go (stage : Critical)
  | finish (ok : Bool)
  deriving DecidableEq, Repr

/-- A creation of the administrator: the request, its time, the row that it consumed, and
the token stored last. -/
structure Creation where
  request : SetupRequest
  now : Int
  row : SetupToken
  stored : Option String
  deriving DecidableEq, Repr

/-- The database and the file, the token stored last, and the creations so far. -/
structure SetupShared where
  db : AuthDb
  file : Option (List UInt8)
  stored : Option String
  creations : List Creation
  deriving DecidableEq

section

variable (hashToken : String → Hash)

/-- `validated_token_hash`. -/
def validatedTokenHash (token : String) : Option Hash :=
  if (trim token).utf8ByteSize = 43 ∧
      (trim token).toList.all (fun c => c.isAlphanum || c == '-' || c == '_') = true then
    some (hashToken (trim token))
  else none

/-- What `write_setup_token_file` writes. -/
def setupTokenFile (token : String) : List UInt8 := asBytes (token ++ "\n")

/-- The token of a file: `trim_end_matches` of line ends. -/
def tokenOfFile (text : String) : String :=
  String.ofList (text.toList.reverse.dropWhile (fun c => c == '\r' || c == '\n')).reverse

/-- The inspection of `remove_setup_token_file_if_matches`. -/
def inspectFile (tokenHash : Hash) (ok : Bool) : Option (List UInt8) → Next
  | none => .finish ok
  | some bytes =>
      if bytes.length > setupTokenFileMaxBytes then .finish ok
      else
        match String.fromUTF8? ⟨bytes.toArray⟩ with
        | none => .finish false
        | some text =>
            if hashToken (tokenOfFile text) = tokenHash then .go (.removing ok) else .finish ok

/-- The consumption of a request: `None` where it is refused. -/
def consumeRequest (request : SetupRequest) (now : Int) (db : AuthDb) : Option (Hash × AuthDb) :=
  (validatedTokenHash hashToken request.token).bind (fun tokenHash =>
    match consumeSetupAndCreateAdminAndSession tokenHash now request.username
        request.passwordHash request.session db with
    | .ok (true, db') => some (tokenHash, db')
    | _ => none)

/-- The creation that the consumption of a request records. -/
def SetupShared.creation (s : SetupShared) (request : SetupRequest) (now : Int) : List Creation :=
  s.db.setupToken.toList.map (fun row => ⟨request, now, row, s.stored⟩)

/-- One step under the lock. -/
def act (now : Int) (fails : Bool) (s : SetupShared) : Critical → Next × SetupShared
  | .storing token =>
      if (storeSetupTokenIfNoAdmin (hashToken token) (now + setupSecs) s.db).1 then
        (.go (.writing token),
          { s with
            db := (storeSetupTokenIfNoAdmin (hashToken token) (now + setupSecs) s.db).2
            stored := some token })
      else (.go .refused, s)
  | .refused => if fails then (.finish false, s) else (.finish true, { s with file := none })
  | .writing token =>
      if fails then (.go (.writeFailed token), s)
      else (.finish true, { s with file := some (setupTokenFile token) })
  | .writeFailed token =>
      (.go (.matching (hashToken token) false),
        { s with db := (invalidateSetupTokenIfMatches (hashToken token) now s.db).2 })
  | .selecting expiredOnly when =>
      match if expiredOnly then expiredSetupTokenHash when s.db
        else currentSetupTokenHash s.db with
      | none => (.finish true, s)
      | some tokenHash => (.go (.invalidating tokenHash when), s)
  | .invalidating tokenHash when =>
      if (invalidateSetupTokenIfMatches tokenHash when s.db).1 then
        (.go (.matching tokenHash true),
          { s with db := (invalidateSetupTokenIfMatches tokenHash when s.db).2 })
      else (.finish true, s)
  | .matching tokenHash ok =>
      if fails then (.finish false, s) else (inspectFile hashToken tokenHash ok s.file, s)
  | .removing ok => if fails then (.finish false, s) else (.finish ok, { s with file := none })
  | .consuming request =>
      match consumeRequest hashToken request now s.db with
      | none => (.finish false, s)
      | some (tokenHash, db') =>
          (.go (.matching tokenHash true),
            { s with db := db', creations := s.creations ++ s.creation request now })

/-! ## The process -/

/-- An operation that waits for the lock; a setup request is ready once it was validated. -/
structure Waiting where
  operation : SetupOperation
  ready : Bool
  deriving DecidableEq, Repr

/-- The process: whether it serves requests, the operation under the lock, and those that
wait. -/
structure SetupSystem extends SetupShared where
  serving : Bool
  critical : Option Critical
  waiting : List Waiting
  deriving DecidableEq

/-- An event: an operation begins, a setup request validates its token, an operation takes
the lock, one ends without taking it, or the one under the lock takes a step. -/
inductive SetupEvent where
  | begin (operation : SetupOperation)
  | validate (index : Nat) (now : Int)
  | enter (index : Nat)
  | leave (index : Nat)
  | act (now : Int) (fails : Bool)
  deriving DecidableEq, Repr

/-- A new process, about to issue its first token. -/
def SetupSystem.start (token : String) (db : AuthDb) (file : Option (List UInt8)) :
    SetupSystem where
  db := db
  file := file
  stored := none
  creations := []
  serving := false
  critical := some (.storing token)
  waiting := []

/-- A setup request validates its token before it hashes its password. -/
def validateRequest (now : Int) (db : AuthDb) (request : SetupRequest) : Bool :=
  db.admin.isNone &&
    (validatedTokenHash hashToken request.token).any (fun tokenHash =>
      setupTokenIsValid tokenHash now db)

/-- After a step under the lock. -/
def SetupSystem.proceed (s : SetupSystem) (shared : SetupShared) : Next → SetupSystem
  | .go stage => { s with toSetupShared := shared, critical := some stage }
  | .finish ok =>
      { s with toSetupShared := shared, critical := none, serving := s.serving || ok }

/-- One event. -/
def setupStep (s : SetupSystem) : SetupEvent → SetupSystem
  | .begin operation =>
      if s.serving then
        let ready := match operation with
          | .setup _ => false
          | _ => true
        { s with waiting := s.waiting ++ [⟨operation, ready⟩] }
      else s
  | .validate index now =>
      match s.waiting[index]? with
      | some ⟨.setup request, _⟩ =>
          if validateRequest hashToken now s.db request then
            { s with waiting := s.waiting.set index ⟨.setup request, true⟩ }
          else { s with waiting := s.waiting.eraseIdx index }
      | _ => s
  | .enter index =>
      match s.critical, s.waiting[index]? with
      | none, some ⟨operation, true⟩ =>
          { s with critical := some operation.critical, waiting := s.waiting.eraseIdx index }
      | _, _ => s
  | .leave index => { s with waiting := s.waiting.eraseIdx index }
  | .act now fails =>
      match s.critical with
      | none => s
      | some stage =>
          s.proceed (act hashToken now fails s.toSetupShared stage).2
            (act hashToken now fails s.toSetupShared stage).1

end

end RouterView.Auth
