/-
  Auth/PairingLimiter.lean --- the limiter of the pairing attempts.

  `begin_pairing_attempt` tracks 1024 sources and lets all further ones share a
  single entry.  An entry keeps its penalty whatever is done for other keys, so
  that the attempts under one key are as far apart as their number requires.
-/
import RouterView.Auth.LimiterSpec

set_option autoImplicit false

namespace RouterView.Auth

open RouterView.Foundation

/-! ## The gate -/

section Gate

variable {K : Type} [DecidableEq K] {entries : FailureEntries K} {key : K} {now : Nat}

theorem dropStale_find? : (dropStale entries key now).find? key = liveEntry entries key now := by
  unfold dropStale liveEntry
  cases hfind : entries.find? key with
  | none =>
      rw [hfind]
      rfl
  | some state =>
      by_cases hstale : state.stale now = true
      · simp only [hstale, if_true, Dict.find?_remove_self, Option.filter_some, Bool.not_true,
          Bool.false_eq_true, if_false]
      · simp only [hstale, Bool.false_eq_true, if_false, hfind, Option.filter_some,
          Bool.not_false, if_true]

theorem dropStale_remove (entries : FailureEntries K) (key : K) (now : Nat) :
    (dropStale entries key now).remove key = entries.remove key := by
  unfold dropStale
  split
  · split
    · exact Dict.remove_remove _ _
    · rfl
  · rfl

theorem admitOrBlock_remove (entries : FailureEntries K) (key : K) (now : Nat) :
    (admitOrBlock entries key now).2.remove key = entries.remove key := by
  unfold admitOrBlock
  split
  · exact Dict.remove_put _ _ _
  · rfl

theorem admitOrBlock_find? (entries : FailureEntries K) (key : K) (now : Nat) :
    (admitOrBlock entries key now).2.find? key =
      (entries.find? key).map (fun state => { state with lastSeen := now }) := by
  unfold admitOrBlock
  cases hfind : entries.find? key with
  | none =>
      simp only [hfind]
      rfl
  | some state =>
      simp only [Dict.find?_put_self]
      rfl

/-- What the two checks do to the entries. -/
theorem gate_entries (entries : FailureEntries K) (key : K) (now : Nat) :
    (admitOrBlock (dropStale entries key now) key now).2.remove key = entries.remove key ∧
      (admitOrBlock (dropStale entries key now) key now).2.find? key =
        (liveEntry entries key now).map (fun state => { state with lastSeen := now }) := by
  rw [admitOrBlock_remove, dropStale_remove, admitOrBlock_find?, dropStale_find?]
  exact ⟨rfl, rfl⟩

theorem gate_blocked {state : FailureState} (hlive : liveEntry entries key now = some state)
    (hblocked : now < state.blockedUntil) :
    (admitOrBlock (dropStale entries key now) key now).1 =
      .error (retryAfterSeconds state.blockedUntil now) := by
  have hfind : (dropStale entries key now).find? key = some state := by
    rw [dropStale_find?, hlive]
  unfold admitOrBlock
  simp only [hfind]
  rw [if_pos hblocked]

theorem gate_open (h : ¬ BlockedAt entries key now) :
    (admitOrBlock (dropStale entries key now) key now).1 = .ok () := by
  unfold admitOrBlock
  cases hfind : (dropStale entries key now).find? key with
  | none => rfl
  | some state =>
      have hlive : liveEntry entries key now = some state := by rw [← dropStale_find?, hfind]
      simp only
      rw [if_neg (fun hblocked => h ⟨state, hlive, hblocked⟩)]

/-! ## An attempt under a key -/

theorem beginFailureAttemptLocked_blocked {state : FailureState}
    (hlive : liveEntry entries key now = some state) (hblocked : now < state.blockedUntil) :
    (beginFailureAttemptLocked entries key now).1 =
        .error (retryAfterSeconds state.blockedUntil now) ∧
      (beginFailureAttemptLocked entries key now).2.remove key = entries.remove key ∧
      (beginFailureAttemptLocked entries key now).2.find? key =
        some { state with lastSeen := now } := by
  have herror := gate_blocked hlive hblocked
  obtain ⟨hremove, hfind⟩ := gate_entries entries key now
  rw [hlive, Option.map_some] at hfind
  unfold beginFailureAttemptLocked
  cases hgate : admitOrBlock (dropStale entries key now) key now with
  | mk verdict seen =>
      rw [hgate] at herror hremove hfind
      cases verdict with
      | ok => cases herror
      | error secs => exact ⟨herror, hremove, hfind⟩

theorem beginFailureAttemptLocked_open (h : ¬ BlockedAt entries key now) :
    (beginFailureAttemptLocked entries key now).1 = .ok () ∧
      (beginFailureAttemptLocked entries key now).2.remove key = entries.remove key ∧
      (beginFailureAttemptLocked entries key now).2.find? key =
        some (((liveEntry entries key now).getD (.fresh now)).fail now) := by
  have hopen := gate_open h
  obtain ⟨hremove, hfind⟩ := gate_entries entries key now
  unfold beginFailureAttemptLocked
  cases hgate : admitOrBlock (dropStale entries key now) key now with
  | mk verdict seen =>
      rw [hgate] at hopen hremove hfind
      cases verdict with
      | error secs => cases hopen
      | ok =>
          refine ⟨rfl, ?_, ?_⟩
          · rw [← hremove]
            exact Dict.remove_put _ _ _
          · simp only [recordFailureEntryLocked_find?, if_true]
            have hsame : ((seen.find? key).getD (.fresh now)).fail now =
                ((liveEntry entries key now).getD (.fresh now)).fail now := by
              simp only at hfind
              rw [hfind]
              cases liveEntry entries key now <;> rfl
            rw [hsame]

/-- An attempt touches the entry of its key alone. -/
theorem beginFailureAttemptLocked_entries (entries : FailureEntries K) (key : K) (now : Nat) :
    (beginFailureAttemptLocked entries key now).2.remove key = entries.remove key ∧
      ∃ state, (beginFailureAttemptLocked entries key now).2.find? key = some state := by
  by_cases hblocked : BlockedAt entries key now
  · obtain ⟨state, hlive, hlt⟩ := hblocked
    obtain ⟨_, hremove, hfind⟩ := beginFailureAttemptLocked_blocked hlive hlt
    exact ⟨hremove, _, hfind⟩
  · obtain ⟨_, hremove, hfind⟩ := beginFailureAttemptLocked_open hblocked
    exact ⟨hremove, _, hfind⟩

theorem beginFailureAttemptLocked_count (p : K → Bool) (entries : FailureEntries K) (key : K)
    (now : Nat) : (beginFailureAttemptLocked entries key now).2.count (fun k _ => p k) =
      (entries.remove key).count (fun k _ => p k) + (if p key = true then 1 else 0) := by
  obtain ⟨hremove, state, hfind⟩ := beginFailureAttemptLocked_entries entries key now
  rw [← hremove, Dict.count_remove_add (fun k _ => p k) hfind]

/-- Where an entry comes from. -/
theorem beginFailureAttemptLocked_origin {key' : K} {state : FailureState}
    (hfind : (beginFailureAttemptLocked entries key now).2.find? key' = some state) :
    (key' = key ∧ (beginFailureAttemptLocked entries key now).1 = .ok () ∧
      state = ((liveEntry entries key now).getD (.fresh now)).fail now) ∨
    ∃ before, entries.find? key' = some before ∧ SeenAt now before state := by
  obtain ⟨hremove, _⟩ := beginFailureAttemptLocked_entries entries key now
  by_cases hkey : key' = key
  · subst hkey
    by_cases hblocked : BlockedAt entries key' now
    · obtain ⟨before, hlive, hlt⟩ := hblocked
      obtain ⟨_, _, hself⟩ := beginFailureAttemptLocked_blocked hlive hlt
      rw [hself] at hfind
      cases hfind
      exact Or.inr ⟨before, (liveEntry_eq_some.mp hlive).1, Or.inr rfl⟩
    · obtain ⟨hok, _, hself⟩ := beginFailureAttemptLocked_open hblocked
      rw [hself] at hfind
      cases hfind
      exact Or.inl ⟨rfl, hok, rfl⟩
  · rw [Dict.find?_of_remove_eq hremove hkey] at hfind
    exact Or.inr ⟨state, hfind, Or.inl rfl⟩

end Gate

/-! ## One call -/

section Call

variable {Addr : Type} [DecidableEq Addr] {entries : FailureEntries (PairingFailureKey Addr)}
  {source : Addr} {key : PairingFailureKey Addr} {now : Nat}

theorem beginWith_fst (entries : FailureEntries (PairingFailureKey Addr))
    (key : PairingFailureKey Addr) (now : Nat) : (beginWith entries key now).1 =
      (beginFailureAttemptLocked entries key now).1.map (fun _ => ⟨key, now⟩) := by
  unfold beginWith
  rcases beginFailureAttemptLocked entries key now with ⟨_ | _, _⟩ <;> rfl

theorem beginWith_snd (entries : FailureEntries (PairingFailureKey Addr))
    (key : PairingFailureKey Addr) (now : Nat) :
    (beginWith entries key now).2 = (beginFailureAttemptLocked entries key now).2 := by
  unfold beginWith
  rcases beginFailureAttemptLocked entries key now with ⟨_ | _, _⟩ <;> rfl

/-- The entries after the shared one was checked. -/
def afterGate (entries : FailureEntries (PairingFailureKey Addr)) (now : Nat) :
    FailureEntries (PairingFailureKey Addr) :=
  (admitOrBlock (dropStale entries .overflow now) .overflow now).2

/-- The source is tracked, or there is room to track it. -/
def Direct (entries : FailureEntries (PairingFailureKey Addr)) (source : Addr) : Prop :=
  (entries.find? (.source source)).isSome ∨ entries.size < authFailureCapacity

/-- The four ways that an attempt takes. -/
theorem beginPairingAttempt_elim
    {P : Except Nat (PairingAttempt Addr) × FailureEntries (PairingFailureKey Addr) → Prop}
    (direct : Direct entries source → P (beginWith entries (.source source) now))
    (refused : ∀ state, ¬ Direct entries source → liveEntry entries .overflow now = some state →
      now < state.blockedUntil →
      P (.error (retryAfterSeconds state.blockedUntil now), afterGate entries now))
    (freed : ¬ Direct entries source → ¬ BlockedAt entries .overflow now →
      (expireFailureEntries (afterGate entries now) now).count (fun key _ => key.isSource) <
        authFailureCapacity →
      P (beginWith ((expireFailureEntries (afterGate entries now) now).remove .overflow)
        (.source source) now))
    (shared : ¬ Direct entries source → ¬ BlockedAt entries .overflow now →
      authFailureCapacity ≤
        (expireFailureEntries (afterGate entries now) now).count (fun key _ => key.isSource) →
      P (beginWith (expireFailureEntries (afterGate entries now) now) .overflow now)) :
    P (beginPairingAttempt entries source now) := by
  unfold beginPairingAttempt
  split
  · rename_i hdirect
    exact direct hdirect
  · rename_i hdirect
    by_cases hblocked : BlockedAt entries .overflow now
    · obtain ⟨state, hlive, hlt⟩ := hblocked
      have herror := gate_blocked hlive hlt
      have hrefused := refused state hdirect hlive hlt
      unfold afterGate at hrefused
      cases hgate : admitOrBlock (dropStale entries .overflow now) .overflow now with
      | mk verdict seen =>
          rw [hgate] at herror hrefused
          simp only at herror
          subst herror
          exact hrefused
    · have hopen := gate_open hblocked
      have hfreed := freed hdirect hblocked
      have hshared := shared hdirect hblocked
      unfold afterGate at hfreed hshared
      cases hgate : admitOrBlock (dropStale entries .overflow now) .overflow now with
      | mk verdict seen =>
          rw [hgate] at hopen hfreed hshared
          simp only at hopen
          subst hopen
          simp only
          split
          · rename_i hfree
            exact hfreed hfree
          · rename_i hfull
            exact hshared (not_lt.mp hfull)

theorem afterGate_remove (entries : FailureEntries (PairingFailureKey Addr)) (now : Nat) :
    (afterGate entries now).remove .overflow = entries.remove .overflow :=
  (gate_entries entries .overflow now).1

theorem afterGate_origin {state : FailureState}
    (h : (afterGate entries now).find? key = some state) :
    ∃ before, entries.find? key = some before ∧ SeenAt now before state := by
  obtain ⟨hremove, hself⟩ := gate_entries entries (.overflow : PairingFailureKey Addr) now
  by_cases hkey : key = .overflow
  · subst hkey
    rw [afterGate, hself] at h
    obtain ⟨before, hlive, hseen⟩ := Option.map_eq_some_iff.mp h
    exact ⟨before, (liveEntry_eq_some.mp hlive).1, Or.inr hseen.symm⟩
  · rw [afterGate, Dict.find?_of_remove_eq hremove hkey] at h
    exact ⟨state, h, Or.inl rfl⟩

/-- The shared entry is live after its check as before. -/
theorem liveEntry_afterGate (entries : FailureEntries (PairingFailureKey Addr)) (now : Nat) :
    liveEntry (expireFailureEntries (afterGate entries now) now) .overflow now =
      (liveEntry entries .overflow now).map (fun state => { state with lastSeen := now }) := by
  obtain ⟨_, hself⟩ := gate_entries entries (.overflow : PairingFailureKey Addr) now
  cases hlive : liveEntry entries .overflow now with
  | none =>
      rw [hlive] at hself
      exact liveEntry_of_find?_eq_none (Dict.find?_retain_eq_none hself)
  | some state =>
      rw [hlive] at hself
      have hfresh : FailureState.stale now { state with lastSeen := now } = false := by
        rw [FailureState.stale, decide_eq_false_iff_not, Nat.sub_self]
        decide
      rw [Option.map_some, liveEntry_eq_some, expireFailureEntries_find?]
      exact ⟨⟨hself, hfresh⟩, hfresh⟩

/-- A source that is not tracked is still not when a slot is freed. -/
theorem freed_new (h : entries.find? (.source source) = none) :
    ((expireFailureEntries (afterGate entries now) now).remove .overflow).find?
      (.source source) = none := by
  rw [Dict.find?_remove_ne _ (by simp)]
  apply Dict.find?_retain_eq_none
  rw [Dict.find?_of_remove_eq (afterGate_remove entries now) (by simp), h]

/-- Where an entry comes from: from an attempt that was admitted under its key, or it was there
before. -/
theorem beginPairingAttempt_origin {state : FailureState}
    (hfind : (beginPairingAttempt entries source now).2.find? key = some state) :
    ((beginPairingAttempt entries source now).1 = .ok ⟨key, now⟩ ∧
      state = ((liveEntry entries key now).getD (.fresh now)).fail now) ∨
    ∃ before, entries.find? key = some before ∧ SeenAt now before state := by
  revert hfind
  refine beginPairingAttempt_elim (P := fun r => r.2.find? key = some state →
    (r.1 = .ok ⟨key, now⟩ ∧ state = ((liveEntry entries key now).getD (.fresh now)).fail now) ∨
    ∃ before, entries.find? key = some before ∧ SeenAt now before state) ?_ ?_ ?_ ?_
  · intro _ hfind
    rw [beginWith_snd] at hfind
    rcases beginFailureAttemptLocked_origin hfind with ⟨rfl, hok, hstate⟩ | hbefore
    · rw [beginWith_fst, hok]
      exact Or.inl ⟨rfl, hstate⟩
    · exact Or.inr hbefore
  · intro _ _ _ _ hfind
    exact Or.inr (afterGate_origin hfind)
  · intro hdirect _ _ hfind
    rw [beginWith_snd] at hfind
    have huntracked : entries.find? (.source source) = none :=
      Option.not_isSome_iff_eq_none.mp (fun h => hdirect (Or.inl h))
    have hthen := @freed_new _ _ _ _ now huntracked
    rcases beginFailureAttemptLocked_origin hfind with ⟨rfl, hok, hstate⟩ | ⟨before, hkept, hseen⟩
    · rw [beginWith_fst, hok]
      rw [liveEntry_of_find?_eq_none hthen] at hstate
      rw [liveEntry_of_find?_eq_none huntracked]
      exact Or.inl ⟨rfl, hstate⟩
    · rw [Dict.find?_remove] at hkept
      split at hkept
      · cases hkept
      · obtain ⟨first, hfirst, hthrough⟩ := afterGate_origin (expireFailureEntries_find?.mp hkept).1
        exact Or.inr ⟨first, hfirst, hthrough.trans hseen⟩
  · intro _ _ _ hfind
    rw [beginWith_snd] at hfind
    rcases beginFailureAttemptLocked_origin hfind with ⟨rfl, hok, hstate⟩ | ⟨before, hkept, hseen⟩
    · rw [beginWith_fst, hok]
      refine Or.inl ⟨rfl, ?_⟩
      rw [hstate, liveEntry_afterGate]
      cases liveEntry entries .overflow now <;> rfl
    · obtain ⟨first, hfirst, hthrough⟩ := afterGate_origin (expireFailureEntries_find?.mp hkept).1
      exact Or.inr ⟨first, hfirst, hthrough.trans hseen⟩

theorem liveEntry_failures_le {clock : Nat} (h : EntriesSound clock entries) :
    ((liveEntry entries key now).getD (.fresh now)).failures ≤ 7 := by
  cases hlive : liveEntry entries key now with
  | none => exact Nat.zero_le 7
  | some state => exact (h key state (liveEntry_eq_some.mp hlive).1).failures_le

theorem beginPairingAttempt_sound {clock : Nat} (h : EntriesSound clock entries)
    (hle : clock ≤ now) : EntriesSound now (beginPairingAttempt entries source now).2 := by
  intro key state hfind
  rcases beginPairingAttempt_origin hfind with ⟨_, rfl⟩ | ⟨before, hbefore, hseen⟩
  · exact FailureState.fail_sound (liveEntry_failures_le h) now
  · exact (h key before hbefore).of_seenAt hle hseen

/-! ## The number of entries -/

/-- The number of sources that have an entry. -/
def trackedSources (entries : FailureEntries (PairingFailureKey Addr)) : Nat :=
  entries.count (fun key _ => key.isSource)

theorem trackedSources_remove_le (entries : FailureEntries (PairingFailureKey Addr))
    (key : PairingFailureKey Addr) : trackedSources (entries.remove key) ≤ trackedSources entries :=
  Dict.count_remove_le _ _ _

theorem trackedSources_remove_overflow (entries : FailureEntries (PairingFailureKey Addr)) :
    trackedSources (entries.remove .overflow) = trackedSources entries :=
  Dict.count_remove_of_false (fun _ => rfl) entries

/-- The check of the shared entry does not change which sources are unexpired. -/
theorem trackedSources_afterGate (entries : FailureEntries (PairingFailureKey Addr)) (now : Nat) :
    trackedSources (expireFailureEntries (afterGate entries now) now) =
      trackedSources (expireFailureEntries entries now) := by
  rw [← trackedSources_remove_overflow, ← trackedSources_remove_overflow (expireFailureEntries
    entries now), expireFailureEntries, expireFailureEntries, Dict.remove_retain,
    Dict.remove_retain, afterGate_remove]

theorem trackedSources_source (entries : FailureEntries (PairingFailureKey Addr)) (source : Addr)
    (now : Nat) : trackedSources (beginWith entries (.source source) now).2 =
      trackedSources (entries.remove (.source source)) + 1 := by
  rw [beginWith_snd]
  exact beginFailureAttemptLocked_count _ entries (.source source) now

theorem trackedSources_shared (entries : FailureEntries (PairingFailureKey Addr)) (now : Nat) :
    trackedSources (beginWith entries .overflow now).2 = trackedSources entries := by
  rw [beginWith_snd, ← trackedSources_remove_overflow entries]
  exact beginFailureAttemptLocked_count _ entries .overflow now

theorem beginPairingAttempt_trackedSources (h : trackedSources entries ≤ authFailureCapacity) :
    trackedSources (beginPairingAttempt entries source now).2 ≤ authFailureCapacity := by
  have hexpire : trackedSources (expireFailureEntries (afterGate entries now) now) ≤
      authFailureCapacity := by
    rw [trackedSources_afterGate]
    exact le_trans (Dict.count_retain_le _ _ _) h
  refine beginPairingAttempt_elim (P := fun r => trackedSources r.2 ≤ authFailureCapacity)
    ?_ ?_ ?_ ?_
  · intro hdirect
    rw [trackedSources_source]
    cases hfind : entries.find? (.source source) with
    | some state =>
        have hadd := Dict.count_remove_add (fun key _ => key.isSource) hfind
        exact le_trans (le_of_eq hadd) h
    | none =>
        have hroom : entries.size < authFailureCapacity := by
          rcases hdirect with htracked | hroom
          · rw [hfind] at htracked
            cases htracked
          · exact hroom
        have hremove := trackedSources_remove_le entries (.source source)
        have hsize : trackedSources entries ≤ entries.size := Dict.count_le_size _ _
        omega
  · intro _ _ _ _
    show trackedSources (afterGate entries now) ≤ _
    rw [← trackedSources_remove_overflow, afterGate_remove, trackedSources_remove_overflow]
    exact h
  · intro _ _ hfree
    rw [trackedSources_source]
    have hremove := trackedSources_remove_le
      ((expireFailureEntries (afterGate entries now) now).remove .overflow) (.source source)
    rw [trackedSources_remove_overflow] at hremove
    exact lt_of_le_of_lt hremove hfree
  · intro _ _ _
    rw [trackedSources_shared]
    exact hexpire

/-- One entry is not that of a source. -/
theorem size_le_trackedSources (entries : FailureEntries (PairingFailureKey Addr)) :
    entries.size ≤ trackedSources entries + 1 := by
  have hall : ∀ e ∈ (entries.remove .overflow).rows, e.1.isSource = true := by
    intro e he
    have hne : e.1 ≠ .overflow := by
      intro hkey
      have hfind := Dict.mem_rows_iff.mp he
      rw [hkey, Dict.find?_remove_self] at hfind
      cases hfind
    cases hkey : e.1 with
    | source address => rfl
    | overflow => exact absurd hkey hne
  have hcount : (entries.remove .overflow).size = trackedSources (entries.remove .overflow) :=
    (List.countP_eq_length.mpr hall).symm
  rw [trackedSources_remove_overflow] at hcount
  cases hfind : entries.find? .overflow with
  | none =>
      rw [Dict.size, Dict.remove_of_find?_eq_none hfind] at hcount
      rw [Dict.size]
      omega
  | some state =>
      have hone := Dict.size_remove_of_some hfind
      omega

end Call

end RouterView.Auth
