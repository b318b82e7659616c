/-
  Auth/Login.lean --- the steps of the login requests.

  `login` asks the limiter about the user name and the source, waits for a
  hashing slot, and lets a task record the attempt under both keys before it
  verifies the password; a request that succeeds clears both keys.  Every access
  to the limiter is a step of its own, so that the steps of the requests
  interleave.

  Left out: the password hash, the session that a login inserts (`Auth/Requests.lean`), and
  the cookies of the response.
-/
import Mathlib.Logic.Function.Basic
import RouterView.Auth.Limiter

set_option autoImplicit false

namespace RouterView.Auth

open RouterView.Foundation

/-! ## Requests -/

/-- `LoginFailureKey`. -/
inductive LoginFailureKey (User Addr : Type) where
  | username (user : User)
  | source (address : Addr)
  deriving DecidableEq, Repr

/-- What a login request brings: the key of its user name, and its source. -/
structure LoginRequest (User Addr : Type) where
  username : User
  source : Addr
  deriving DecidableEq, Repr

variable {User Addr : Type}

/-- The array `failure_keys`. -/
def failureKeys (request : LoginRequest User Addr) : List (LoginFailureKey User Addr) :=
  [.username request.username, .source request.source]

/-- Where a request is, with the keys that are left to do. -/
inductive LoginPhase (User Addr : Type) where
  | checking (left : List (LoginFailureKey User Addr)) (waits : List Nat)
  | rejected (retryAfterSecs : Nat)
  | waiting
  | admitted
  | recording (startedAt : Nat) (left : List (LoginFailureKey User Addr))
  | verifying (startedAt : Nat)
  | unauthorized
  | clearing (startedAt : Nat) (left : List (LoginFailureKey User Addr))
  deriving DecidableEq, Repr

/-- The longest wait rejects the request. -/
def LoginPhase.afterCheck (left : List (LoginFailureKey User Addr)) (waits : List Nat) :
    LoginPhase User Addr :=
  match left, waits.max? with
  | [], some retryAfterSecs => .rejected retryAfterSecs
  | [], none => .waiting
  | _ :: _, _ => .checking left waits

/-- The task verifies the password when the attempt is recorded under both keys. -/
def LoginPhase.afterRecord (startedAt : Nat) :
    List (LoginFailureKey User Addr) → LoginPhase User Addr
  | [] => .verifying startedAt
  | left => .recording startedAt left

/-! ## Steps -/

/-- The limiter, the free hashing slots and the requests. -/
structure LoginState (User Addr : Type) where
  entries : FailureEntries (LoginFailureKey User Addr)
  clock : Nat
  slots : Nat
  phase : Nat → LoginPhase User Addr

/-- A step of a request. -/
inductive LoginEvent (User Addr : Type) where
  | check (id : Nat) (now : Nat)
  | acquire (id : Nat)
  | timeOut (id : Nat)
  | start (id : Nat) (now : Nat)
  | record (id : Nat) (order : List (LoginFailureKey User Addr × FailureState))
  | verify (id : Nat) (success : Bool)
  | clear (id : Nat)

/-- No request has done anything. -/
def LoginState.initial (requests : Nat → LoginRequest User Addr) (slots : Nat) :
    LoginState User Addr :=
  ⟨Dict.empty, 0, slots, fun id => .checking (failureKeys (requests id)) []⟩

/-- The request goes on to another phase. -/
def LoginState.goTo (s : LoginState User Addr) (id : Nat) (next : LoginPhase User Addr) :
    LoginState User Addr :=
  { s with phase := Function.update s.phase id next }

variable [DecidableEq User] [DecidableEq Addr]

/-- One step; a request that is not there leaves the state. -/
def loginStep (requests : Nat → LoginRequest User Addr) (s : LoginState User Addr) :
    LoginEvent User Addr → LoginState User Addr
  | .check id now =>
      match s.phase id with
      | .checking (key :: left) waits =>
          let (wait, entries) := retryAfter s.entries key now
          { s with entries := entries, clock := now }.goTo id
            (.afterCheck left (waits ++ wait.toList))
      | _ => s
  | .acquire id =>
      match s.phase id with
      | .waiting =>
          if 0 < s.slots then { s with slots := s.slots - 1 }.goTo id .admitted else s
      | _ => s
  | .timeOut id =>
      match s.phase id with
      | .waiting => s.goTo id (.rejected 1)
      | _ => s
  | .start id now =>
      match s.phase id with
      | .admitted => { s with clock := now }.goTo id (.recording now (failureKeys (requests id)))
      | _ => s
  | .record id order =>
      match s.phase id with
      | .recording startedAt (key :: left) =>
          { s with entries := (recordFailure order s.entries key startedAt).2 }.goTo id
            (.afterRecord startedAt left)
      | _ => s
  | .verify id success =>
      match s.phase id with
      | .verifying startedAt =>
          { s with slots := s.slots + 1 }.goTo id
            (if success then .clearing startedAt (failureKeys (requests id)) else .unauthorized)
      | _ => s
  | .clear id =>
      match s.phase id with
      | .clearing startedAt (key :: left) =>
          { s with entries := clearIfLatest s.entries key startedAt }.goTo id
            (.clearing startedAt left)
      | _ => s

end RouterView.Auth
