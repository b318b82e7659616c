/-
  Auth/Limiter.lean --- the failure limiters.

  `FailureLimiter` of `auth.rs`, whose entries are a hash map under a lock, so
  that every call is one step.  The iteration order of a hash map is open: the
  eviction at capacity is given the order in which it meets the entries.

  Every call is given its instant; that the instants of a run are ordered is for its users
  to say.
-/
import Mathlib.Data.List.MinMax
import RouterView.Foundation.Dict

set_option autoImplicit false

namespace RouterView.Auth

open RouterView.Foundation

/-! ## Constants -/

/-- A number of seconds, in the nanoseconds of the monotonic clock. -/
def seconds (n : Nat) : Nat := n * 1000000000

/-- `AUTH_FAILURE_CAPACITY`. -/
def authFailureCapacity : Nat := 1024

/-- `AUTH_FAILURE_TTL`. -/
def authFailureTtl : Nat := seconds (15 * 60)

/-- `AUTH_BACKOFF_MAX_SECS`. -/
def authBackoffMaxSecs : Nat := 60

/-! ## Entries -/

/-- `FailureState`; the instants are nanoseconds. -/
structure FailureState where
  failures : Nat
  blockedUntil : Nat
  lastFailure : Nat
  lastSeen : Nat
  deriving DecidableEq, Repr

/-- The entries of a limiter. -/
abbrev FailureEntries (K : Type) : Type := Dict K FailureState

/-- `retry_after_seconds`: rounded up. -/
def retryAfterSeconds (blockedUntil now : Nat) : Nat :=
  let remaining := blockedUntil - now
  remaining / 1000000000 + (if remaining % 1000000000 ≠ 0 then 1 else 0)

/-- The entry was not seen for the time to live. -/
def FailureState.stale (now : Nat) (state : FailureState) : Bool :=
  decide (now - state.lastSeen ≥ authFailureTtl)

/-- `expire_failure_entries`. -/
def expireFailureEntries {K : Type} (entries : FailureEntries K) (now : Nat) : FailureEntries K :=
  entries.retain (fun _ state => decide (now - state.lastSeen < authFailureTtl))

variable {K : Type} [DecidableEq K]

/-- The entry that `record_failure_entry_locked` starts from. -/
def FailureState.fresh (now : Nat) : FailureState := ⟨0, now, now, now⟩

/-- The entry after one more failure. -/
def FailureState.fail (state : FailureState) (now : Nat) : FailureState :=
  let failures := min (min (state.failures + 1) 255) 7
  ⟨failures, now + seconds (min (2 ^ (failures - 1)) authBackoffMaxSecs), now, now⟩

/-- `record_failure_entry_locked`: the penalty in seconds, and the entries. -/
def recordFailureEntryLocked (entries : FailureEntries K) (key : K) (now : Nat) :
    Nat × FailureEntries K :=
  let state := ((entries.find? key).getD (.fresh now)).fail now
  (min (2 ^ (state.failures - 1)) authBackoffMaxSecs, entries.put key state)

/-- The first of the entries that were seen the longest time ago. -/
def oldestEntry (order : List (K × FailureState)) : Option K :=
  (order.argmin (fun e => e.2.lastSeen)).map Prod.fst

/-- Make room for a new key at capacity. -/
def evictOldest (order : List (K × FailureState)) (entries : FailureEntries K) (key : K) :
    FailureEntries K :=
  if entries.find? key = none ∧ entries.size ≥ authFailureCapacity then
    match oldestEntry order with
    | some oldest => entries.remove oldest
    | none => entries
  else entries

/-- `record_failure_locked`, when the entries are met in the given order. -/
def recordFailureLocked (order : List (K × FailureState)) (entries : FailureEntries K) (key : K)
    (now : Nat) : Nat × FailureEntries K :=
  recordFailureEntryLocked (evictOldest order entries key) key now

/-! ## The limiter -/

/-- `FailureLimiter::retry_after`. -/
def retryAfter (entries : FailureEntries K) (key : K) (now : Nat) :
    Option Nat × FailureEntries K :=
  match entries.find? key with
  | none => (none, entries)
  | some state =>
      if state.stale now then (none, entries.remove key)
      else
        (if state.blockedUntil > now then some (retryAfterSeconds state.blockedUntil now) else none,
          entries.put key { state with lastSeen := now })

/-- `FailureLimiter::record_failure`. -/
def recordFailure (order : List (K × FailureState)) (entries : FailureEntries K) (key : K)
    (now : Nat) : Nat × FailureEntries K :=
  recordFailureLocked order (expireFailureEntries entries now) key now

/-- `FailureLimiter::clear_if_latest`. -/
def clearIfLatest (entries : FailureEntries K) (key : K) (attemptStartedAt : Nat) :
    FailureEntries K :=
  match entries.find? key with
  | some state => if state.lastFailure = attemptStartedAt then entries.remove key else entries
  | none => entries

/-! ## Pairing attempts -/

/-- `PairingFailureKey`, over the addresses. -/
inductive PairingFailureKey (Addr : Type) where
  | source (address : Addr)
  | overflow
  deriving DecidableEq, Repr

/-- The key is that of a source. -/
def PairingFailureKey.isSource {Addr : Type} : PairingFailureKey Addr → Bool
  | .source _ => true
  | .overflow => false

/-- `PairingAttempt`. -/
structure PairingAttempt (Addr : Type) where
  key : PairingFailureKey Addr
  startedAt : Nat
  deriving DecidableEq, Repr

/-- Remove the entry of a key when it is stale. -/
def dropStale (entries : FailureEntries K) (key : K) (now : Nat) : FailureEntries K :=
  match entries.find? key with
  | some state => if state.stale now then entries.remove key else entries
  | none => entries

/-- Note that the key was seen; an error while it is blocked. -/
def admitOrBlock (entries : FailureEntries K) (key : K) (now : Nat) :
    Except Nat Unit × FailureEntries K :=
  match entries.find? key with
  | some state =>
      (if state.blockedUntil > now then .error (retryAfterSeconds state.blockedUntil now)
        else .ok (), entries.put key { state with lastSeen := now })
  | none => (.ok (), entries)

/-- `begin_failure_attempt_locked`. -/
def beginFailureAttemptLocked (entries : FailureEntries K) (key : K) (now : Nat) :
    Except Nat Unit × FailureEntries K :=
  match admitOrBlock (dropStale entries key now) key now with
  | (.error retryAfterSecs, seen) => (.error retryAfterSecs, seen)
  | (.ok (), seen) => (.ok (), (recordFailureEntryLocked seen key now).2)

section

variable {Addr : Type} [DecidableEq Addr]

/-- The end of `begin_pairing_attempt`. -/
def beginWith (entries : FailureEntries (PairingFailureKey Addr)) (key : PairingFailureKey Addr)
    (now : Nat) : Except Nat (PairingAttempt Addr) × FailureEntries (PairingFailureKey Addr) :=
  match beginFailureAttemptLocked entries key now with
  | (.error retryAfterSecs, entries') => (.error retryAfterSecs, entries')
  | (.ok (), entries') => (.ok ⟨key, now⟩, entries')

/-- `begin_pairing_attempt`. -/
def beginPairingAttempt (entries : FailureEntries (PairingFailureKey Addr)) (source : Addr)
    (now : Nat) : Except Nat (PairingAttempt Addr) × FailureEntries (PairingFailureKey Addr) :=
  if (entries.find? (.source source)).isSome ∨ entries.size < authFailureCapacity then
    beginWith entries (.source source) now
  else
    match admitOrBlock (dropStale entries .overflow now) .overflow now with
    | (.error retryAfterSecs, seen) => (.error retryAfterSecs, seen)
    | (.ok (), seen) =>
        let kept := expireFailureEntries seen now
        if kept.count (fun key _ => key.isSource) < authFailureCapacity then
          beginWith (kept.remove .overflow) (.source source) now
        else beginWith kept .overflow now

end

end RouterView.Auth
