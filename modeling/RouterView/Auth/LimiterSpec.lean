/-
  Auth/LimiterSpec.lean --- what a limiter remembers.

  The number of entries is bounded, and an entry that still blocks its key goes
  only in two ways: the latest attempt is cleared, or it is the one that was
  seen the longest time ago when a new key comes to a limiter at capacity.  The
  penalty of a failure depends on the number of failures since the key was last
  removed.
-/
import RouterView.Foundation.Run
import RouterView.Auth.Limiter

set_option autoImplicit false

namespace RouterView.Auth

open RouterView.Foundation

/-! ## Entries -/

/-- The penalty after a number of failures, in seconds. -/
def penaltySecs (failures : Nat) : Nat := min (2 ^ (min failures 7 - 1)) authBackoffMaxSecs

theorem penaltySecs_le (failures : Nat) : penaltySecs failures ≤ 60 := min_le_right _ _

/-- An entry as the calls up to an instant leave it. -/
structure FailureState.Sound (clock : Nat) (state : FailureState) : Prop where
  failures_pos : 1 ≤ state.failures
  failures_le : state.failures ≤ 7
  blocked_eq : state.blockedUntil = state.lastFailure + seconds (penaltySecs state.failures)
  failed_le : state.lastFailure ≤ state.lastSeen
  seen_le : state.lastSeen ≤ clock

/-- All entries are sound. -/
def EntriesSound {K : Type} [DecidableEq K] (clock : Nat) (entries : FailureEntries K) : Prop :=
  ∀ key state, entries.find? key = some state → state.Sound clock

namespace FailureState

variable {state : FailureState} {clock now : Nat}

theorem Sound.mono (h : state.Sound clock) (hle : clock ≤ now) : state.Sound now :=
  ⟨h.failures_pos, h.failures_le, h.blocked_eq, h.failed_le, le_trans h.seen_le hle⟩

/-- The time to live is longer than any penalty: a blocked entry is not stale. -/
theorem Sound.not_stale (h : state.Sound clock) (hblocked : now < state.blockedUntil) :
    state.stale now = false := by
  have hpenalty := penaltySecs_le state.failures
  have hfailed := h.failed_le
  rw [h.blocked_eq] at hblocked
  simp only [seconds] at hblocked
  rw [stale, decide_eq_false_iff_not]
  simp only [authFailureTtl, seconds]
  omega

/-- The entry is touched by a later call. -/
theorem Sound.see (h : state.Sound clock) (hle : clock ≤ now) :
    Sound now { state with lastSeen := now } := by
  have hfailed := h.failed_le
  have hseen := h.seen_le
  exact ⟨h.failures_pos, h.failures_le, h.blocked_eq, by simp only; omega, le_refl _⟩

theorem fail_failures (hle : state.failures ≤ 7) (now : Nat) :
    (state.fail now).failures = min (state.failures + 1) 7 := by
  simp only [fail]
  omega

theorem fail_penalty (state : FailureState) (now : Nat) :
    min (2 ^ ((state.fail now).failures - 1)) authBackoffMaxSecs =
      penaltySecs (state.fail now).failures := by
  have hle : (state.fail now).failures ≤ 7 := min_le_right _ _
  rw [penaltySecs, min_eq_left hle]

theorem fail_sound (hle : state.failures ≤ 7) (now : Nat) : (state.fail now).Sound now where
  failures_pos := by
    rw [fail_failures hle]
    omega
  failures_le := min_le_right _ _
  blocked_eq := by
    rw [← fail_penalty]
    rfl
  failed_le := le_refl _
  seen_le := le_refl _

end FailureState

theorem retain_stale_iff (state : FailureState) (now : Nat) :
    decide (now - state.lastSeen < authFailureTtl) = true ↔ state.stale now = false := by
  simp only [FailureState.stale, decide_eq_true_eq, decide_eq_false_iff_not, not_le]

section

variable {K : Type} [DecidableEq K] {entries : FailureEntries K} {clock now : Nat}

theorem expireFailureEntries_find? {key : K} {state : FailureState} :
    (expireFailureEntries entries now).find? key = some state ↔
      entries.find? key = some state ∧ state.stale now = false := by
  rw [expireFailureEntries, Dict.find?_retain_eq_some_iff, retain_stale_iff]

/-- The entry of a key, unless it is stale. -/
def liveEntry (entries : FailureEntries K) (key : K) (now : Nat) : Option FailureState :=
  (entries.find? key).filter (fun state => !state.stale now)

theorem liveEntry_eq_some {key : K} {state : FailureState} :
    liveEntry entries key now = some state ↔
      entries.find? key = some state ∧ state.stale now = false := by
  rw [liveEntry, Option.filter_eq_some_iff, Bool.not_eq_true']

theorem liveEntry_of_find?_eq_none {key : K} (h : entries.find? key = none) :
    liveEntry entries key now = none := by
  rw [liveEntry, h]
  rfl

/-- The key is blocked. -/
def BlockedAt (entries : FailureEntries K) (key : K) (now : Nat) : Prop :=
  ∃ state, liveEntry entries key now = some state ∧ now < state.blockedUntil

instance (entries : FailureEntries K) (key : K) (now : Nat) :
    Decidable (BlockedAt entries key now) :=
  decidable_of_iff ((liveEntry entries key now).any (fun state => decide (now < state.blockedUntil)))
    (by simp only [BlockedAt, Option.any_eq_true, decide_eq_true_eq])

/-- One more failure of a key: its penalty, and its entry. -/
theorem recordFailureEntryLocked_fst (entries : FailureEntries K) (key : K) (now : Nat) :
    (recordFailureEntryLocked entries key now).1 =
      penaltySecs (((entries.find? key).getD (.fresh now)).fail now).failures :=
  FailureState.fail_penalty _ now

theorem recordFailureEntryLocked_find? (entries : FailureEntries K) (key : K) (now : Nat)
    (key' : K) : (recordFailureEntryLocked entries key now).2.find? key' =
      if key' = key then some (((entries.find? key).getD (.fresh now)).fail now)
      else entries.find? key' :=
  Dict.find?_put _ _ _ _

theorem failures_le_of_sound (h : EntriesSound clock entries) (key : K) (now : Nat) :
    ((entries.find? key).getD (.fresh now)).failures ≤ 7 := by
  cases hfind : entries.find? key with
  | none => exact Nat.zero_le 7
  | some state => exact (h key state hfind).failures_le

theorem recordFailureEntryLocked_sound {later : Nat} (h : EntriesSound clock entries)
    (hclock : clock ≤ later) (hnow : now ≤ later) (key : K) :
    EntriesSound later (recordFailureEntryLocked entries key now).2 := by
  intro key' state hfind
  rw [recordFailureEntryLocked_find?] at hfind
  split at hfind
  · rw [← Option.some.inj hfind]
    exact (FailureState.fail_sound (failures_le_of_sound h key now) now).mono hnow
  · exact (h key' state hfind).mono hclock

/-! ## Eviction -/

/-- The entry was seen no later than any other. -/
def SeenFirst (entries : FailureEntries K) (state : FailureState) : Prop :=
  ∀ key' state', entries.find? key' = some state' → state.lastSeen ≤ state'.lastSeen

theorem oldestEntry_eq_some {order : List (K × FailureState)} {key : K}
    (horder : order.Perm entries.rows) (h : oldestEntry order = some key) :
    ∃ state, entries.find? key = some state ∧ SeenFirst entries state := by
  obtain ⟨e, he, rfl⟩ := Option.map_eq_some_iff.mp h
  have hmem : e ∈ order := List.argmin_mem he
  refine ⟨e.2, Dict.mem_rows_iff.mp (horder.mem_iff.mp hmem), ?_⟩
  intro key' state' hfind
  exact List.le_of_mem_argmin (f := fun e : K × FailureState => e.2.lastSeen)
    (horder.mem_iff.mpr (Dict.mem_rows_iff.mpr hfind)) he

/-- What makes room for a new key. -/
theorem evictOldest_cases {order : List (K × FailureState)} (horder : order.Perm entries.rows)
    (key : K) :
    (¬ (entries.find? key = none ∧ entries.size ≥ authFailureCapacity) ∧
      evictOldest order entries key = entries) ∨
    (entries.find? key = none ∧ entries.size ≥ authFailureCapacity ∧
      ∃ oldest state, entries.find? oldest = some state ∧ SeenFirst entries state ∧
        evictOldest order entries key = entries.remove oldest) := by
  unfold evictOldest
  split
  · rename_i hfull
    right
    refine ⟨hfull.1, hfull.2, ?_⟩
    cases holdest : oldestEntry order with
    | none =>
        have hnil : order = [] := List.argmin_eq_none.mp (Option.map_eq_none_iff.mp holdest)
        have hsize := hfull.2
        rw [Dict.size, ← horder.length_eq, hnil, List.length_nil, authFailureCapacity] at hsize
        omega
    | some oldest =>
        obtain ⟨state, hfind, hfirst⟩ := oldestEntry_eq_some horder holdest
        exact ⟨oldest, state, hfind, hfirst, rfl⟩
  · rename_i hroom
    exact Or.inl ⟨hroom, rfl⟩

/-- The key of the failure keeps its entry. -/
theorem evictOldest_find?_self {order : List (K × FailureState)}
    (horder : order.Perm entries.rows) (key : K) :
    (evictOldest order entries key).find? key = entries.find? key := by
  rcases evictOldest_cases horder key with ⟨_, hsame⟩ | ⟨hnone, _, oldest, state, hfind, _, hevict⟩
  · rw [hsame]
  · rw [hevict, Dict.find?_remove]
    split
    · exact hnone.symm
    · rfl

theorem evictOldest_find?_some {order : List (K × FailureState)} {key key' : K}
    {state : FailureState} (horder : order.Perm entries.rows)
    (h : (evictOldest order entries key).find? key' = some state) :
    entries.find? key' = some state := by
  rcases evictOldest_cases horder key with ⟨_, hsame⟩ | ⟨_, _, oldest, _, _, _, hevict⟩
  · rwa [hsame] at h
  · rw [hevict, Dict.find?_remove] at h
    split at h
    · cases h
    · exact h

/-- What the eviction takes is the entry that was seen the longest time ago. -/
theorem evictOldest_removed {order : List (K × FailureState)} {key key' : K}
    {state : FailureState} (hfind : entries.find? key' = some state)
    (hgone : (evictOldest order entries key).find? key' = none) :
    entries.find? key = none ∧ entries.size ≥ authFailureCapacity ∧
      oldestEntry order = some key' := by
  unfold evictOldest at hgone
  split at hgone
  · rename_i hfull
    refine ⟨hfull.1, hfull.2, ?_⟩
    cases holdest : oldestEntry order with
    | none =>
        simp only [holdest, hfind] at hgone
        cases hgone
    | some oldest =>
        simp only [holdest, Dict.find?_remove] at hgone
        split at hgone
        · rename_i hsame
          rw [hsame]
        · rw [hfind] at hgone
          cases hgone
  · rw [hfind] at hgone
    cases hgone

/-- There is room for the key afterwards. -/
theorem evictOldest_room {order : List (K × FailureState)} (horder : order.Perm entries.rows)
    (hsize : entries.size ≤ authFailureCapacity) (key : K) :
    (evictOldest order entries key).size ≤ authFailureCapacity ∧
      ((evictOldest order entries key).find? key = none →
        (evictOldest order entries key).size < authFailureCapacity) := by
  rcases evictOldest_cases horder key with ⟨hroom, hsame⟩ | ⟨_, hfull, oldest, state, hfind, _, hevict⟩
  · rw [hsame]
    refine ⟨hsize, fun hnone => ?_⟩
    by_contra hfull
    exact hroom ⟨hnone, by omega⟩
  · have hone := Dict.size_remove_of_some hfind
    rw [hevict]
    exact ⟨by omega, fun _ => by omega⟩

/-! ## One call -/

theorem recordFailureEntryLocked_size {key : K} (hsize : entries.size ≤ authFailureCapacity)
    (hroom : entries.find? key = none → entries.size < authFailureCapacity) :
    (recordFailureEntryLocked entries key now).2.size ≤ authFailureCapacity := by
  unfold recordFailureEntryLocked
  cases hfind : entries.find? key with
  | none =>
      have hlt := hroom hfind
      rw [Dict.size_put_of_none _ hfind]
      omega
  | some state =>
      rw [Dict.size_put_of_some _ hfind]
      exact hsize

theorem recordFailure_size {order : List (K × FailureState)}
    (horder : order.Perm (expireFailureEntries entries now).rows)
    (hsize : entries.size ≤ authFailureCapacity) (key : K) :
    (recordFailure order entries key now).2.size ≤ authFailureCapacity := by
  have hexpired : (expireFailureEntries entries now).size ≤ authFailureCapacity :=
    le_trans (Dict.size_retain_le _ entries) hsize
  obtain ⟨hle, hroom⟩ := evictOldest_room horder hexpired key
  exact recordFailureEntryLocked_size hle hroom

/-- The entry of the key after its failure: it starts anew when there was none, or a stale one. -/
theorem recordFailure_find?_self {order : List (K × FailureState)}
    (horder : order.Perm (expireFailureEntries entries now).rows) (key : K) :
    (recordFailure order entries key now).2.find? key =
      some ((((expireFailureEntries entries now).find? key).getD (.fresh now)).fail now) := by
  rw [recordFailure, recordFailureLocked, recordFailureEntryLocked_find?, if_pos rfl,
    evictOldest_find?_self horder]

theorem recordFailure_find?_ne {order : List (K × FailureState)} {key key' : K}
    (hne : key' ≠ key) : (recordFailure order entries key now).2.find? key' =
      (evictOldest order (expireFailureEntries entries now) key).find? key' := by
  rw [recordFailure, recordFailureLocked, recordFailureEntryLocked_find?, if_neg hne]

theorem recordFailure_sound {order : List (K × FailureState)} {later : Nat}
    (horder : order.Perm (expireFailureEntries entries now).rows)
    (h : EntriesSound clock entries) (hclock : clock ≤ later) (hnow : now ≤ later) (key : K) :
    EntriesSound later (recordFailure order entries key now).2 := by
  have hevicted : EntriesSound clock (evictOldest order (expireFailureEntries entries now) key) := by
    intro key' state hfind
    exact h key' state (expireFailureEntries_find?.mp (evictOldest_find?_some horder hfind)).1
  exact recordFailureEntryLocked_sound hevicted hclock hnow key

/-- The entry was left as it was, or it was seen. -/
def SeenAt (now : Nat) (before after : FailureState) : Prop :=
  after = before ∨ after = { before with lastSeen := now }

theorem SeenAt.trans {first second third : FailureState} (h : SeenAt now first second)
    (h' : SeenAt now second third) : SeenAt now first third := by
  rcases h with rfl | rfl
  · exact h'
  · rcases h' with rfl | rfl
    · exact Or.inr rfl
    · exact Or.inr rfl

theorem FailureState.Sound.of_seenAt {before after : FailureState} (h : before.Sound clock)
    (hle : clock ≤ now) (hseen : SeenAt now before after) : after.Sound now := by
  rcases hseen with rfl | rfl
  · exact h.mono hle
  · exact h.see hle

/-- Where an entry comes from after a check. -/
theorem retryAfter_origin {key key' : K} {state : FailureState}
    (h : (retryAfter entries key' now).2.find? key = some state) :
    ∃ before, entries.find? key = some before ∧ SeenAt now before state := by
  unfold retryAfter at h
  cases hkey : entries.find? key' with
  | none =>
      rw [hkey] at h
      exact ⟨state, h, Or.inl rfl⟩
  | some stored =>
      simp only [hkey] at h
      split at h
      · rw [Dict.find?_remove] at h
        split at h
        · cases h
        · exact ⟨state, h, Or.inl rfl⟩
      · rw [Dict.find?_put] at h
        split at h
        · rename_i hsame
          subst hsame
          cases h
          exact ⟨stored, hkey, Or.inr rfl⟩
        · exact ⟨state, h, Or.inl rfl⟩

theorem retryAfter_sound (h : EntriesSound clock entries) (hle : clock ≤ now) (key : K) :
    EntriesSound now (retryAfter entries key now).2 := by
  intro key' state hfind
  obtain ⟨before, hbefore, hseen⟩ := retryAfter_origin hfind
  exact (h key' before hbefore).of_seenAt hle hseen

/-- The failed key is blocked for the penalty that is returned. -/
theorem recordFailure_blocks {order : List (K × FailureState)}
    (horder : order.Perm (expireFailureEntries entries now).rows) (key : K) :
    ∃ state, (recordFailure order entries key now).2.find? key = some state ∧
      state.blockedUntil = now + seconds (recordFailure order entries key now).1 := by
  refine ⟨_, recordFailure_find?_self horder key, ?_⟩
  rw [recordFailure, recordFailureLocked, recordFailureEntryLocked, evictOldest_find?_self horder]
  rfl

/-- A check that finds no wait leaves the key open. -/
theorem retryAfter_open {key : K} {state : FailureState}
    (hnone : (retryAfter entries key now).1 = none)
    (hfind : (retryAfter entries key now).2.find? key = some state) :
    state.blockedUntil ≤ now := by
  unfold retryAfter at hnone hfind
  cases hkey : entries.find? key with
  | none =>
      rw [hkey] at hfind
      simp only [hkey] at hfind
      cases hfind
  | some stored =>
      simp only [hkey] at hnone hfind
      split at hfind
      · rw [Dict.find?_remove_self] at hfind
        cases hfind
      · rename_i hfresh
        rw [if_neg hfresh] at hnone
        rw [Dict.find?_put_self] at hfind
        cases hfind
        by_contra hblocked
        simp only at hnone hblocked
        rw [if_pos (not_le.mp hblocked)] at hnone
        cases hnone

/-- A check keeps the entry of every key that is blocked. -/
theorem retryAfter_keeps {key key' : K} {state : FailureState} (h : EntriesSound clock entries)
    (hfind : entries.find? key = some state) (hblocked : now < state.blockedUntil) :
    ∃ after, (retryAfter entries key' now).2.find? key = some after ∧
      after.blockedUntil = state.blockedUntil := by
  have hfresh := (h key state hfind).not_stale hblocked
  unfold retryAfter
  cases hkey : entries.find? key' with
  | none => exact ⟨state, hfind, rfl⟩
  | some stored =>
      by_cases hsame : key = key'
      · subst hsame
        rw [hfind] at hkey
        cases hkey
        simp only [hfresh, Bool.false_eq_true, if_false, Dict.find?_put_self]
        exact ⟨_, rfl, rfl⟩
      · simp only
        split
        · rw [Dict.find?_remove_ne _ hsame]
          exact ⟨state, hfind, rfl⟩
        · rw [Dict.find?_put_ne _ _ hsame]
          exact ⟨state, hfind, rfl⟩

/-- A check that finds no wait found the key open. -/
theorem retryAfter_none {key : K} {state : FailureState} (h : EntriesSound clock entries)
    (hnone : (retryAfter entries key now).1 = none) (hfind : entries.find? key = some state) :
    state.blockedUntil ≤ now := by
  by_contra hblocked
  obtain ⟨after, hafter, hsame⟩ := @retryAfter_keeps _ _ _ _ _ _ key _ h hfind (not_le.mp hblocked)
  have hopen := retryAfter_open hnone hafter
  omega

theorem retryAfter_size (entries : FailureEntries K) (key : K) (now : Nat) :
    (retryAfter entries key now).2.size ≤ entries.size := by
  unfold retryAfter
  cases hkey : entries.find? key with
  | none => exact le_refl _
  | some stored =>
      simp only
      split
      · exact Dict.size_remove_le entries key
      · exact le_of_eq (Dict.size_put_of_some _ hkey)

theorem clearIfLatest_find?_some {key key' : K} {attemptStartedAt : Nat} {state : FailureState}
    (h : (clearIfLatest entries key attemptStartedAt).find? key' = some state) :
    entries.find? key' = some state := by
  unfold clearIfLatest at h
  split at h
  · split at h
    · rw [Dict.find?_remove] at h
      split at h
      · cases h
      · exact h
    · exact h
  · exact h

theorem clearIfLatest_keeps {key key' : K} {attemptStartedAt : Nat} {state : FailureState}
    (hfind : entries.find? key = some state)
    (hother : key ≠ key' ∨ state.lastFailure ≠ attemptStartedAt) :
    (clearIfLatest entries key' attemptStartedAt).find? key = some state := by
  unfold clearIfLatest
  by_cases hkey : key = key'
  · subst hkey
    have hnewer := hother.resolve_left (fun hne => hne rfl)
    simp only [hfind, if_neg hnewer]
  · split
    · split
      · rw [Dict.find?_remove_ne _ hkey, hfind]
      · exact hfind
    · exact hfind

theorem clearIfLatest_size (entries : FailureEntries K) (key : K) (attemptStartedAt : Nat) :
    (clearIfLatest entries key attemptStartedAt).size ≤ entries.size := by
  unfold clearIfLatest
  split
  · split
    · exact Dict.size_remove_le entries key
    · exact le_refl _
  · exact le_refl _

end

/-! ## Runs -/

/-- A call on a limiter. -/
inductive LimiterOp (K : Type) where
  | retryAfter (key : K) (now : Nat)
  | recordFailure (key : K) (now : Nat) (order : List (K × FailureState))
  | clearIfLatest (key : K) (attemptStartedAt : Nat)

/-- A limiter, with the time of the last call. -/
structure Limiter (K : Type) where
  entries : FailureEntries K
  clock : Nat

/-- `FailureLimiter::default`. -/
def Limiter.initial {K : Type} : Limiter K := ⟨Dict.empty, 0⟩

/-- The time of a call. -/
def LimiterOp.now? {K : Type} : LimiterOp K → Option Nat
  | .retryAfter _ now => some now
  | .recordFailure _ now _ => some now
  | .clearIfLatest _ _ => none

section

variable {K : Type} [DecidableEq K]

/-- One call. -/
def limiterStep (l : Limiter K) : LimiterOp K → Limiter K
  | .retryAfter key now => ⟨(retryAfter l.entries key now).2, now⟩
  | .recordFailure key now order => ⟨(recordFailure order l.entries key now).2, now⟩
  | .clearIfLatest key attemptStartedAt => ⟨clearIfLatest l.entries key attemptStartedAt, l.clock⟩

/-- The call comes no earlier than the one before it, and the eviction meets the entries there
are. -/
def LimiterOp.Timely (l : Limiter K) : LimiterOp K → Prop
  | .retryAfter _ now => l.clock ≤ now
  | .recordFailure _ now order =>
      l.clock ≤ now ∧ order.Perm (expireFailureEntries l.entries now).rows
  | .clearIfLatest _ _ => True

instance (l : Limiter K) (op : LimiterOp K) : Decidable (op.Timely l) := by
  cases op
  · exact inferInstanceAs (Decidable (_ ≤ _))
  · exact inferInstanceAs (Decidable (_ ∧ _))
  · exact inferInstanceAs (Decidable True)

/-- The invariant of a limiter. -/
structure Limiter.Sound (l : Limiter K) : Prop where
  entries : EntriesSound l.clock l.entries
  size : l.entries.size ≤ authFailureCapacity

theorem Limiter.initial_sound : (Limiter.initial : Limiter K).Sound :=
  ⟨fun key state h => (by cases h), Nat.zero_le _⟩

theorem Limiter.Sound.step {l : Limiter K} (h : l.Sound) {op : LimiterOp K} (hop : op.Timely l) :
    (limiterStep l op).Sound := by
  cases op with
  | retryAfter key now =>
      exact ⟨retryAfter_sound h.entries hop key, le_trans (retryAfter_size _ _ _) h.size⟩
  | recordFailure key now order =>
      exact ⟨recordFailure_sound hop.2 h.entries hop.1 (le_refl _) key, recordFailure_size hop.2 h.size key⟩
  | clearIfLatest key attemptStartedAt =>
      exact ⟨fun key' state hfind => h.entries key' state (clearIfLatest_find?_some hfind),
        le_trans (clearIfLatest_size _ _ _) h.size⟩

theorem Limiter.Sound.run {l : Limiter K} (h : l.Sound) {ops : List (LimiterOp K)}
    (hops : Along limiterStep (fun l op => op.Timely l) l ops) : (run limiterStep l ops).Sound := by
  have hstep : ∀ (l : Limiter K) (op : LimiterOp K), l.Sound → op.Timely l →
      (limiterStep l op).Sound := fun l op h hop => h.step hop
  exact run_invariant hstep h hops

/-- The failure takes the entry away to make room: its key is new, the limiter is at capacity,
and the entry was seen no later than any other. -/
def EvictedBy (l : Limiter K) (key : K) (state : FailureState) : LimiterOp K → Prop
  | .recordFailure other now _ =>
      other ≠ key ∧ (expireFailureEntries l.entries now).find? other = none ∧
        (expireFailureEntries l.entries now).size = authFailureCapacity ∧
        SeenFirst (expireFailureEntries l.entries now) state
  | _ => False

/-- How an entry goes that still blocks its key: its latest attempt is cleared, or it is
evicted. -/
theorem Limiter.Sound.removal {l : Limiter K} (h : l.Sound) {op : LimiterOp K}
    (hop : op.Timely l) {key : K} {state : FailureState} (hheld : l.entries.find? key = some state)
    (hgone : (limiterStep l op).entries.find? key = none)
    (hblocked : ∀ now, op.now? = some now → now < state.blockedUntil) :
    op = .clearIfLatest key state.lastFailure ∨ EvictedBy l key state op := by
  have hsound := h.entries key state hheld
  cases op with
  | retryAfter key' now =>
      obtain ⟨after, hafter, _⟩ := retryAfter_keeps h.entries hheld (hblocked now rfl)
      rw [limiterStep, hafter] at hgone
      cases hgone
  | recordFailure key' now order =>
      have hfresh := hsound.not_stale (hblocked now rfl)
      have hkept := expireFailureEntries_find?.mpr ⟨hheld, hfresh⟩
      by_cases hkey : key = key'
      · subst hkey
        rw [limiterStep, recordFailure_find?_self hop.2] at hgone
        cases hgone
      · rw [limiterStep, recordFailure_find?_ne hkey] at hgone
        rcases evictOldest_cases hop.2 key' with
          ⟨_, hsame⟩ | ⟨hnone, hfull, oldest, first, hfind, hfirst, hevict⟩
        · rw [hsame, hkept] at hgone
          cases hgone
        · right
          rw [hevict, Dict.find?_remove] at hgone
          split at hgone
          · rename_i holdest
            subst holdest
            rw [hkept] at hfind
            cases hfind
            have hsize : (expireFailureEntries l.entries now).size ≤ authFailureCapacity :=
              le_trans (Dict.size_retain_le _ _) h.size
            exact ⟨fun heq => hkey heq.symm, hnone, by omega, hfirst⟩
          · rw [hkept] at hgone
            cases hgone
  | clearIfLatest key' attemptStartedAt =>
      left
      simp only [limiterStep, clearIfLatest] at hgone
      by_cases hkey : key = key'
      · subst hkey
        simp only [hheld] at hgone
        split at hgone
        · rename_i hlatest
          rw [hlatest]
        · rw [hheld] at hgone
          cases hgone
      · cases hother : l.entries.find? key' with
        | none =>
            rw [hother, hheld] at hgone
            cases hgone
        | some stored =>
            simp only [hother] at hgone
            split at hgone
            · rw [Dict.find?_remove_ne _ hkey, hheld] at hgone
              cases hgone
            · rw [hheld] at hgone
              cases hgone

/-! ## The history of a key -/

/-- What happened to a key: its failures since it was last removed, and its latest attempt. -/
structure KeyHistory where
  failures : Nat
  latest : Option Nat
  deriving DecidableEq, Repr

/-- The failures that count on: none when the entries no longer hold the key. -/
def KeyHistory.keep (history : KeyHistory) (entries : FailureEntries K) (key : K) : Nat :=
  if (entries.find? key).isSome then history.failures else 0

/-- The history after a call; a failure may find the key removed because it was stale. -/
def historyStep (key : K) (l : Limiter K) (history : KeyHistory) : LimiterOp K → KeyHistory
  | .recordFailure key' now order =>
      if key' = key then
        ⟨history.keep (expireFailureEntries l.entries now) key + 1, some now⟩
      else ⟨history.keep (recordFailure order l.entries key' now).2 key, history.latest⟩
  | .retryAfter key' now => ⟨history.keep (retryAfter l.entries key' now).2 key, history.latest⟩
  | .clearIfLatest key' attemptStartedAt =>
      ⟨history.keep (clearIfLatest l.entries key' attemptStartedAt) key, history.latest⟩

/-- One call, with the history of a key. -/
def trackedStep (key : K) (tracked : Limiter K × KeyHistory) (op : LimiterOp K) :
    Limiter K × KeyHistory :=
  (limiterStep tracked.1 op, historyStep key tracked.1 tracked.2 op)

/-- The history of a key after some calls on an empty limiter. -/
def keyHistory (key : K) (ops : List (LimiterOp K)) : KeyHistory :=
  (run (trackedStep key) (.initial, ⟨0, none⟩) ops).2

/-- What the entry of a key says about its history. -/
structure Remembers (key : K) (tracked : Limiter K × KeyHistory) : Prop where
  failures : ∀ state, tracked.1.entries.find? key = some state →
    state.failures = min tracked.2.failures 7 ∧ tracked.2.latest = some state.lastFailure
  removed : tracked.1.entries.find? key = none → tracked.2.failures = 0

theorem Remembers.keep {key : K} {tracked : Limiter K × KeyHistory} (h : Remembers key tracked)
    {entries : FailureEntries K} {clock : Nat}
    (hkept : ∀ state, entries.find? key = some state → ∃ before,
      tracked.1.entries.find? key = some before ∧ state.failures = before.failures ∧
        state.lastFailure = before.lastFailure) :
    Remembers key (⟨entries, clock⟩, ⟨tracked.2.keep entries key, tracked.2.latest⟩) where
  failures := by
    intro state hfind
    obtain ⟨before, hbefore, hfailures, hlast⟩ := hkept state hfind
    obtain ⟨hcount, hlatest⟩ := h.failures before hbefore
    have hfind' : entries.find? key = some state := hfind
    simp only [KeyHistory.keep, hfind', Option.isSome_some, if_true, hfailures, hlast]
    exact ⟨hcount, hlatest⟩
  removed := by
    intro hnone
    have hnone' : entries.find? key = none := hnone
    simp only [KeyHistory.keep, hnone', Option.isSome_none, Bool.false_eq_true, if_false]

/-- The failures of the entry that a failure starts from. -/
theorem Remembers.expired_failures {key : K} {tracked : Limiter K × KeyHistory}
    (h : Remembers key tracked) (now : Nat) :
    (((expireFailureEntries tracked.1.entries now).find? key).getD (.fresh now)).failures =
      min (tracked.2.keep (expireFailureEntries tracked.1.entries now) key) 7 := by
  cases hfind : (expireFailureEntries tracked.1.entries now).find? key with
  | none =>
      simp only [KeyHistory.keep, hfind, Option.isSome_none, Bool.false_eq_true, if_false]
      rfl
  | some state =>
      have hbefore := (expireFailureEntries_find?.mp hfind).1
      simp only [KeyHistory.keep, hfind, Option.isSome_some, if_true, Option.getD_some]
      exact (h.failures state hbefore).1

/-- The failures of the entry that a failure leaves. -/
theorem Remembers.fail_failures {key : K} {tracked : Limiter K × KeyHistory}
    (h : Remembers key tracked) (now : Nat) :
    ((((expireFailureEntries tracked.1.entries now).find? key).getD (.fresh now)).fail
      now).failures =
      min (tracked.2.keep (expireFailureEntries tracked.1.entries now) key + 1) 7 := by
  have hfailures := h.expired_failures now
  rw [FailureState.fail_failures (by rw [hfailures]; exact min_le_right _ _), hfailures]
  omega

theorem Remembers.step {key : K} {tracked : Limiter K × KeyHistory} (h : Remembers key tracked)
    {op : LimiterOp K} (hop : op.Timely tracked.1) : Remembers key (trackedStep key tracked op) := by
  cases op with
  | retryAfter key' now =>
      refine h.keep (fun state hfind => ?_)
      obtain ⟨before, hbefore, hseen⟩ := retryAfter_origin hfind
      refine ⟨before, hbefore, ?_⟩
      rcases hseen with rfl | rfl
      · exact ⟨rfl, rfl⟩
      · exact ⟨rfl, rfl⟩
  | clearIfLatest key' attemptStartedAt =>
      exact h.keep (fun state hfind => ⟨state, clearIfLatest_find?_some hfind, rfl, rfl⟩)
  | recordFailure key' now order =>
      by_cases hkey : key' = key
      · subst hkey
        have hself := recordFailure_find?_self hop.2 key'
        have hfailures := h.fail_failures now
        simp only [trackedStep, historyStep, if_true]
        refine ⟨?_, ?_⟩
        · intro state hfind
          simp only [limiterStep, hself, Option.some.injEq] at hfind
          rw [← hfind]
          exact ⟨hfailures, rfl⟩
        · intro hnone
          simp only [limiterStep, hself] at hnone
          cases hnone
      · simp only [trackedStep, historyStep, if_neg hkey]
        refine h.keep (fun state hfind => ⟨state, ?_, rfl, rfl⟩)
        rw [recordFailure_find?_ne (fun heq => hkey heq.symm)] at hfind
        exact (expireFailureEntries_find?.mp (evictOldest_find?_some hop.2 hfind)).1

theorem remembers_run (key : K) {ops : List (LimiterOp K)}
    (hops : Along limiterStep (fun l op => op.Timely l) Limiter.initial ops) :
    Remembers key (run limiterStep .initial ops, keyHistory key ops) := by
  have hview : ∀ (tracked : Limiter K × KeyHistory) (op : LimiterOp K),
      (trackedStep key tracked op).1 = limiterStep tracked.1 op := fun _ _ => rfl
  have hstep : ∀ (tracked : Limiter K × KeyHistory) (op : LimiterOp K), Remembers key tracked →
      op.Timely tracked.1 → Remembers key (trackedStep key tracked op) :=
    fun _ _ h hop => h.step hop
  have hinitial : Remembers key ((.initial : Limiter K), ⟨0, none⟩) :=
    ⟨fun state hfind => (by cases hfind), fun _ => rfl⟩
  have hguard : Along (trackedStep key)
      (fun (tracked : Limiter K × KeyHistory) op => op.Timely tracked.1)
      ((.initial : Limiter K), ⟨0, none⟩) ops :=
    Along.of_view hview hops
  have hrun := run_invariant hstep hinitial hguard
  have hfst : (run (trackedStep key) ((.initial : Limiter K), ⟨0, none⟩) ops).1 =
      run limiterStep .initial ops := run_map hview _ ops
  rw [← hfst]
  exact hrun

/-- Over any calls in the order of their times: there are at most as many entries as the
capacity; an entry that still blocks its key is removed only by clearing its latest attempt, or
when a new key comes to a limiter at capacity and no entry was seen earlier; and the penalty of
a failure is that of the number of failures since the last removal. -/
theorem penalties_remembered (ops : List (LimiterOp K))
    (hops : Along limiterStep (fun l op => op.Timely l) Limiter.initial ops) :
    (run limiterStep Limiter.initial ops).entries.size ≤ authFailureCapacity ∧
    (∀ op key state, op.Timely (run limiterStep Limiter.initial ops) →
      (run limiterStep Limiter.initial ops).entries.find? key = some state →
      (limiterStep (run limiterStep Limiter.initial ops) op).entries.find? key = none →
      (∀ now, op.now? = some now → now < state.blockedUntil) →
      (op = .clearIfLatest key state.lastFailure ∧
          (keyHistory key ops).latest = some state.lastFailure) ∨
        EvictedBy (run limiterStep Limiter.initial ops) key state op) ∧
    ∀ key now order,
      (LimiterOp.recordFailure key now order).Timely (run limiterStep Limiter.initial ops) →
      (recordFailure order (run limiterStep Limiter.initial ops).entries key now).1 =
          penaltySecs (keyHistory key (ops ++ [.recordFailure key now order])).failures ∧
        ∃ state, (recordFailure order (run limiterStep Limiter.initial ops).entries key
            now).2.find? key = some state ∧
          state.blockedUntil = now +
            seconds (penaltySecs (keyHistory key (ops ++ [.recordFailure key now order])).failures) := by
  have hsound := Limiter.initial_sound.run hops
  refine ⟨hsound.size, ?_, ?_⟩
  · intro op key state hop hheld hgone hblocked
    rcases hsound.removal hop hheld hgone hblocked with hclear | hevicted
    · exact Or.inl ⟨hclear, ((remembers_run key hops).failures state hheld).2⟩
    · exact Or.inr hevicted
  · intro key now order hop
    have hremembers := remembers_run key hops
    have hafter : (keyHistory key (ops ++ [.recordFailure key now order])).failures =
        (keyHistory key ops).keep (expireFailureEntries
          (run limiterStep Limiter.initial ops).entries now) key + 1 := by
      have hfst : (run (trackedStep key) ((.initial : Limiter K), ⟨0, none⟩) ops).1 =
          run limiterStep .initial ops := run_map (fun _ _ => rfl) _ ops
      rw [keyHistory, run_append, run_cons, run_nil, trackedStep, historyStep, if_pos rfl, hfst]
      rfl
    have hfailures := hremembers.fail_failures now
    have hself := recordFailure_find?_self hop.2 key
    have hpenalty : penaltySecs ((((expireFailureEntries (run limiterStep
        Limiter.initial ops).entries now).find? key).getD (.fresh now)).fail now).failures =
          penaltySecs (keyHistory key (ops ++ [.recordFailure key now order])).failures := by
      rw [hafter, hfailures, penaltySecs, penaltySecs, min_assoc, min_self]
    refine ⟨?_, _, hself, ?_⟩
    · rw [← hpenalty, recordFailure, recordFailureLocked, recordFailureEntryLocked_fst,
        evictOldest_find?_self hop.2]
    · rw [← hpenalty, ← FailureState.fail_penalty]
      rfl

end

/-- Two failures of a key, one second apart. -/
def twoFailures : List (LimiterOp Nat) :=
  [.recordFailure 3 0 [], .retryAfter 3 500000000,
    .recordFailure 3 (seconds 1) [(3, ⟨1, seconds 1, 0, 500000000⟩)]]

/-- The third failure costs four seconds, and only the attempt of the second one clears the
entry. -/
theorem penalties_remembered_third_failure :
    (recordFailure [(3, ⟨2, seconds 3, seconds 1, seconds 1⟩)]
      (run limiterStep Limiter.initial twoFailures).entries 3 (seconds 3)).1 = 4 ∧
    (LimiterOp.clearIfLatest 3 (seconds 1) = .clearIfLatest 3 (seconds 1) ∧
        (keyHistory 3 twoFailures).latest = some (seconds 1) ∨
      EvictedBy (run limiterStep Limiter.initial twoFailures) 3
        ⟨2, seconds 3, seconds 1, seconds 1⟩ (.clearIfLatest 3 (seconds 1))) := by
  obtain ⟨_, hremoved, hpenalty⟩ := penalties_remembered twoFailures (by decide +kernel)
  refine ⟨?_, hremoved (.clearIfLatest 3 (seconds 1)) 3 ⟨2, seconds 3, seconds 1, seconds 1⟩
    trivial (by decide +kernel) (by decide +kernel) (fun now h => by cases h)⟩
  rw [(hpenalty 3 (seconds 3) _ (by decide +kernel)).1]
  decide +kernel

/-! ## At capacity -/

/-- The entries of that many keys with one failure each. -/
def flooded (n : Nat) : List (Nat × FailureState) :=
  (List.range n).map (fun key => (key, (FailureState.fresh 0).fail 0))

/-- One failure of each of that many keys. -/
def flood (n : Nat) : List (LimiterOp Nat) :=
  (List.range n).map (fun key => .recordFailure key 0 (flooded key))

theorem flooded_succ (n : Nat) :
    flooded (n + 1) = flooded n ++ [(n, (FailureState.fresh 0).fail 0)] := by
  rw [flooded, List.range_succ, List.map_append]
  rfl

theorem flood_succ (n : Nat) : flood (n + 1) = flood n ++ [.recordFailure n 0 (flooded n)] := by
  rw [flood, List.range_succ, List.map_append]
  rfl

section

variable {entries : FailureEntries Nat} {n : Nat}

theorem flooded_find? (h : entries.rows = flooded n) {key : Nat} {state : FailureState} :
    entries.find? key = some state ↔ key < n ∧ (FailureState.fresh 0).fail 0 = state := by
  rw [← Dict.mem_rows_iff, h, flooded, List.mem_map]
  constructor
  · rintro ⟨key', hmem, heq⟩
    cases heq
    exact ⟨List.mem_range.mp hmem, rfl⟩
  · rintro ⟨hlt, rfl⟩
    exact ⟨key, List.mem_range.mpr hlt, rfl⟩

theorem flooded_new (h : entries.rows = flooded n) : entries.find? n = none := by
  cases hfind : entries.find? n with
  | none => rfl
  | some state => exact absurd ((flooded_find? h).mp hfind).1 (lt_irrefl n)

/-- Nothing is stale at the instant of the failures. -/
theorem flooded_expire (h : entries.rows = flooded n) :
    (expireFailureEntries entries 0).rows = flooded n := by
  rw [← h]
  show entries.rows.filter _ = entries.rows
  rw [List.filter_eq_self]
  intro e _
  simp only [Nat.zero_sub, decide_eq_true_eq, authFailureTtl, seconds]
  decide

/-- Below the capacity a new key is added. -/
theorem flooded_record (h : entries.rows = flooded n) (hn : n < authFailureCapacity) :
    (recordFailure (flooded n) entries n 0).2.rows = flooded (n + 1) := by
  have hrows := flooded_expire h
  have hnew := flooded_new hrows
  have hroom : (expireFailureEntries entries 0).size < authFailureCapacity := by
    rw [Dict.size, hrows, flooded, List.length_map, List.length_range]
    exact hn
  have hkeep : evictOldest (flooded n) (expireFailureEntries entries 0) n =
      expireFailureEntries entries 0 := by
    rw [evictOldest, if_neg (fun hfull => absurd hfull.2 (by omega))]
  rw [recordFailure, recordFailureLocked, hkeep, recordFailureEntryLocked, hnew, flooded_succ]
  show ((expireFailureEntries entries 0).remove n).rows ++ _ = _
  rw [Dict.remove_of_find?_eq_none hnew, hrows]
  rfl

end

theorem flood_run {n : Nat} (hn : n ≤ authFailureCapacity) :
    Along limiterStep (fun l op => op.Timely l) Limiter.initial (flood n) ∧
      (run limiterStep Limiter.initial (flood n)).entries.rows = flooded n ∧
      (run limiterStep Limiter.initial (flood n)).clock = 0 := by
  induction n with
  | zero => exact ⟨trivial, rfl, rfl⟩
  | succ n ih =>
      obtain ⟨halong, hrows, hclock⟩ := ih (by omega)
      have hperm : (flooded n).Perm (expireFailureEntries
          (run limiterStep Limiter.initial (flood n)).entries 0).rows := by
        rw [flooded_expire hrows]
      rw [flood_succ]
      refine ⟨Along.append.mpr ⟨halong, ⟨le_of_eq hclock, hperm⟩, trivial⟩, ?_, ?_⟩
      · rw [run_append]
        exact flooded_record hrows (by omega)
      · rw [run_append]
        rfl

/-- The entry that goes when one more key fails still blocks its own. -/
theorem flood_evicts {entries : FailureEntries Nat} {n : Nat} (h : entries.rows = flooded n)
    (hn : n = authFailureCapacity) :
    ∃ oldest, entries.find? oldest = some ((FailureState.fresh 0).fail 0) ∧
      (recordFailure (flooded n) entries n 0).2.find? oldest = none := by
  have hexpired := flooded_expire h
  have hperm : (flooded n).Perm (expireFailureEntries entries 0).rows := by rw [hexpired]
  have hsize : (expireFailureEntries entries 0).size = n := by
    rw [Dict.size, hexpired, flooded, List.length_map, List.length_range]
  rcases evictOldest_cases hperm n with ⟨hroom, _⟩ | ⟨_, _, oldest, state, hfind, _, hevict⟩
  · exact absurd ⟨flooded_new hexpired, by omega⟩ hroom
  · obtain ⟨hlt, _⟩ := (flooded_find? hexpired).mp hfind
    refine ⟨oldest, (flooded_find? h).mpr ⟨hlt, rfl⟩, ?_⟩
    rw [recordFailure_find?_ne (Nat.ne_of_lt hlt), hevict, Dict.find?_remove_self]

/-- When 1024 keys have failed once, the failure of one more key at the same instant takes away
an entry that still blocks its key. -/
theorem blocked_entry_evicted_at_capacity :
    ¬ ∀ (ops : List (LimiterOp Nat)) (op : LimiterOp Nat) (key : Nat) (state : FailureState),
      Along limiterStep (fun l op => op.Timely l) Limiter.initial ops →
      op.Timely (run limiterStep Limiter.initial ops) →
      (run limiterStep Limiter.initial ops).entries.find? key = some state →
      (limiterStep (run limiterStep Limiter.initial ops) op).entries.find? key = none →
      (∀ now, op.now? = some now → now < state.blockedUntil) →
      ∃ attemptStartedAt, op = .clearIfLatest key attemptStartedAt := by
  intro hclaim
  obtain ⟨n, hn⟩ : ∃ n, n = authFailureCapacity := ⟨_, rfl⟩
  obtain ⟨halong, hrows, hclock⟩ := flood_run (le_of_eq hn)
  have hperm : (flooded n).Perm (expireFailureEntries
      (run limiterStep Limiter.initial (flood n)).entries 0).rows := by
    rw [flooded_expire hrows]
  obtain ⟨oldest, hheld, hgone⟩ := flood_evicts hrows hn
  have hblocked : ∀ now, (LimiterOp.recordFailure n 0 (flooded n)).now? = some now →
      now < ((FailureState.fresh 0).fail 0).blockedUntil := by
    intro now hnow
    cases hnow
    decide
  obtain ⟨_, hclear⟩ := hclaim (flood n) (.recordFailure n 0 (flooded n)) oldest _ halong
    ⟨le_of_eq hclock, hperm⟩ hheld hgone hblocked
  cases hclear

end RouterView.Auth
