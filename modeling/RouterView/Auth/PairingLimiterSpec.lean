/-
  Auth/PairingLimiterSpec.lean --- runs of the pairing limiter.

  From the instant of an admitted attempt its key is blocked, and neither other
  attempts nor the expiry of entries end that early.  So the attempts of a
  tracked source are spaced by their penalties, and those of all further sources
  together are, through the shared entry.
-/
import RouterView.Auth.PairingLimiter

set_option autoImplicit false

namespace RouterView.Auth

open RouterView.Foundation

/-! ## Blocked keys -/

section Call

variable {Addr : Type} [DecidableEq Addr] {entries : FailureEntries (PairingFailureKey Addr)}
  {source : Addr} {key : PairingFailureKey Addr} {clock now : Nat} {state : FailureState}

theorem liveEntry_of_blocked (h : EntriesSound clock entries)
    (hfind : entries.find? key = some state) (hblocked : now < state.blockedUntil) :
    liveEntry entries key now = some state :=
  liveEntry_eq_some.mpr ⟨hfind, (h key state hfind).not_stale hblocked⟩

/-- An attempt of a source that is blocked is refused. -/
theorem beginPairingAttempt_refused (h : EntriesSound clock entries)
    (hfind : entries.find? (.source source) = some state) (hblocked : now < state.blockedUntil) :
    (beginPairingAttempt entries source now).1 =
      .error (retryAfterSeconds state.blockedUntil now) := by
  have hlive := liveEntry_of_blocked h hfind hblocked
  have htracked : (entries.find? (.source source)).isSome := by rw [hfind, Option.isSome_some]
  obtain ⟨herror, _⟩ := beginFailureAttemptLocked_blocked hlive hblocked
  rw [beginPairingAttempt, if_pos (Or.inl htracked), beginWith_fst, herror]
  rfl

/-- So is one that comes to a shared entry that is blocked. -/
theorem beginPairingAttempt_refused_shared (h : EntriesSound clock entries)
    (hfind : entries.find? .overflow = some state) (hblocked : now < state.blockedUntil)
    (hdirect : ¬ Direct entries source) :
    (beginPairingAttempt entries source now).1 =
      .error (retryAfterSeconds state.blockedUntil now) := by
  have hlive := liveEntry_of_blocked h hfind hblocked
  refine beginPairingAttempt_elim
    (P := fun r => r.1 = .error (retryAfterSeconds state.blockedUntil now)) ?_ ?_ ?_ ?_
  · intro hyes
    exact absurd hyes hdirect
  · intro state' _ hlive' _
    rw [hlive] at hlive'
    cases hlive'
    rfl
  · intro _ hopen _
    exact absurd ⟨state, hlive, hblocked⟩ hopen
  · intro _ hopen _
    exact absurd ⟨state, hlive, hblocked⟩ hopen

/-- The entry is that of the same attempt. -/
def SameAttempt (before after : FailureState) : Prop :=
  after.lastFailure = before.lastFailure ∧ after.failures = before.failures

/-- An attempt keeps the entry of every key that is blocked. -/
theorem beginPairingAttempt_keeps (h : EntriesSound clock entries)
    (hfind : entries.find? key = some state) (hblocked : now < state.blockedUntil) :
    ∃ after, (beginPairingAttempt entries source now).2.find? key = some after ∧
      SameAttempt state after := by
  have hlive := liveEntry_of_blocked h hfind hblocked
  have hkept : ∀ address, key = .source address →
      (expireFailureEntries (afterGate entries now) now).find? key = some state := by
    rintro address rfl
    rw [expireFailureEntries_find?, Dict.find?_of_remove_eq (afterGate_remove entries now) (by simp)]
    exact liveEntry_eq_some.mp hlive
  refine beginPairingAttempt_elim (P := fun r => ∃ after, r.2.find? key = some after ∧
    SameAttempt state after) ?_ ?_ ?_ ?_
  · intro _
    rw [beginWith_snd]
    by_cases hkey : key = .source source
    · subst hkey
      obtain ⟨_, _, hself⟩ := beginFailureAttemptLocked_blocked hlive hblocked
      exact ⟨_, hself, rfl, rfl⟩
    · obtain ⟨hremove, _⟩ := beginFailureAttemptLocked_entries entries (.source source) now
      rw [Dict.find?_of_remove_eq hremove hkey]
      exact ⟨state, hfind, rfl, rfl⟩
  · intro _ _ _ _
    cases key with
    | overflow =>
        obtain ⟨_, hself⟩ := gate_entries entries (.overflow : PairingFailureKey Addr) now
        rw [hlive] at hself
        exact ⟨_, hself, rfl, rfl⟩
    | source address =>
        rw [Dict.find?_of_remove_eq (afterGate_remove entries now) (by simp)]
        exact ⟨state, hfind, rfl, rfl⟩
  · intro hdirect hopen _
    cases key with
    | overflow => exact absurd ⟨state, hlive, hblocked⟩ hopen
    | source address =>
        have hne : PairingFailureKey.source address ≠ .source source := by
          intro heq
          rw [heq] at hfind
          exact hdirect (Or.inl (by rw [hfind, Option.isSome_some]))
        obtain ⟨hremove, _⟩ := beginFailureAttemptLocked_entries
          ((expireFailureEntries (afterGate entries now) now).remove .overflow) (.source source) now
        rw [beginWith_snd, Dict.find?_of_remove_eq hremove hne, Dict.find?_remove_ne _ (by simp)]
        exact ⟨state, hkept address rfl, rfl, rfl⟩
  · intro _ hopen _
    cases key with
    | overflow => exact absurd ⟨state, hlive, hblocked⟩ hopen
    | source address =>
        obtain ⟨hremove, _⟩ := beginFailureAttemptLocked_entries
          (expireFailureEntries (afterGate entries now) now)
          (.overflow : PairingFailureKey Addr) now
        rw [beginWith_snd, Dict.find?_of_remove_eq hremove (by simp)]
        exact ⟨state, hkept address rfl, rfl, rfl⟩

/-- An admitted attempt has an entry under its key, which starts anew when there was none, or a
stale one. -/
theorem beginPairingAttempt_admitted {attempt : PairingAttempt Addr}
    (hok : (beginPairingAttempt entries source now).1 = .ok attempt) :
    attempt.startedAt = now ∧
      (beginPairingAttempt entries source now).2.find? attempt.key =
        some (((liveEntry entries attempt.key now).getD (.fresh now)).fail now) := by
  have hbegin : ∀ {d : FailureEntries (PairingFailureKey Addr)} {key : PairingFailureKey Addr},
      (beginWith d key now).1 = .ok attempt → attempt = ⟨key, now⟩ ∧
        (beginWith d key now).2.find? key =
          some (((liveEntry d key now).getD (.fresh now)).fail now) := by
    intro d key hd
    rw [beginWith_fst] at hd
    rw [beginWith_snd]
    by_cases hblocked : BlockedAt d key now
    · obtain ⟨state, hlive, hlt⟩ := hblocked
      rw [(beginFailureAttemptLocked_blocked hlive hlt).1] at hd
      cases hd
    · obtain ⟨hverdictOk, _, hself⟩ := beginFailureAttemptLocked_open hblocked
      rw [hverdictOk] at hd
      cases hd
      exact ⟨rfl, hself⟩
  revert hok
  refine beginPairingAttempt_elim (P := fun r => r.1 = .ok attempt → attempt.startedAt = now ∧
    r.2.find? attempt.key =
      some (((liveEntry entries attempt.key now).getD (.fresh now)).fail now)) ?_ ?_ ?_ ?_
  · intro _ hok
    obtain ⟨rfl, hself⟩ := hbegin hok
    exact ⟨rfl, hself⟩
  · intro _ _ _ _ hok
    cases hok
  · intro hdirect _ _ hok
    obtain ⟨rfl, hself⟩ := hbegin hok
    have huntracked : entries.find? (.source source) = none :=
      Option.not_isSome_iff_eq_none.mp (fun h => hdirect (Or.inl h))
    refine ⟨rfl, ?_⟩
    rw [hself, liveEntry_of_find?_eq_none huntracked, liveEntry_of_find?_eq_none (freed_new huntracked)]
  · intro _ _ _ hok
    obtain ⟨rfl, hself⟩ := hbegin hok
    refine ⟨rfl, ?_⟩
    rw [hself, liveEntry_afterGate]
    cases liveEntry entries .overflow now <;> rfl

end Call

/-! ## Runs -/

/-- A call on the pairing limiter. -/
inductive PairingOp (Addr : Type) where
  | attempt (source : Addr) (now : Nat)
  | clear (attempt : PairingAttempt Addr)

section Runs

variable {Addr : Type} [DecidableEq Addr]

/-- One call. -/
def pairingStep (l : Limiter (PairingFailureKey Addr)) :
    PairingOp Addr → Limiter (PairingFailureKey Addr)
  | .attempt source now => ⟨(beginPairingAttempt l.entries source now).2, now⟩
  | .clear attempt => ⟨clearIfLatest l.entries attempt.key attempt.startedAt, l.clock⟩

/-- The attempt comes no earlier than the one before it. -/
def PairingOp.Timely (l : Limiter (PairingFailureKey Addr)) : PairingOp Addr → Prop
  | .attempt _ now => l.clock ≤ now
  | .clear _ => True

instance (l : Limiter (PairingFailureKey Addr)) (op : PairingOp Addr) : Decidable (op.Timely l) := by
  cases op
  · exact inferInstanceAs (Decidable (_ ≤ _))
  · exact inferInstanceAs (Decidable True)

/-- The invariant of the pairing limiter. -/
structure PairingSound (l : Limiter (PairingFailureKey Addr)) : Prop where
  entries : EntriesSound l.clock l.entries
  sources : trackedSources l.entries ≤ authFailureCapacity

theorem PairingSound.initial : PairingSound (Limiter.initial : Limiter (PairingFailureKey Addr)) :=
  ⟨fun key state h => (by cases h), Nat.zero_le _⟩

theorem clearIfLatest_trackedSources (entries : FailureEntries (PairingFailureKey Addr))
    (attempt : PairingAttempt Addr) :
    trackedSources (clearIfLatest entries attempt.key attempt.startedAt) ≤
      trackedSources entries := by
  unfold clearIfLatest
  split
  · split
    · exact trackedSources_remove_le entries attempt.key
    · exact le_refl _
  · exact le_refl _

theorem PairingSound.step {l : Limiter (PairingFailureKey Addr)} (h : PairingSound l)
    {op : PairingOp Addr} (hop : op.Timely l) : PairingSound (pairingStep l op) := by
  cases op with
  | attempt source now =>
      exact ⟨beginPairingAttempt_sound h.entries hop, beginPairingAttempt_trackedSources h.sources⟩
  | clear attempt =>
      exact ⟨fun key state hfind => h.entries key state (clearIfLatest_find?_some hfind),
        le_trans (clearIfLatest_trackedSources _ _) h.sources⟩

theorem PairingSound.along {l : Limiter (PairingFailureKey Addr)} (h : PairingSound l)
    {ops : List (PairingOp Addr)} (hops : Along pairingStep (fun l op => op.Timely l) l ops) :
    PairingSound (run pairingStep l ops) := by
  have hstep : ∀ (l : Limiter (PairingFailureKey Addr)) (op : PairingOp Addr), PairingSound l →
      op.Timely l → PairingSound (pairingStep l op) := fun _ _ h hop => h.step hop
  exact run_invariant hstep h hops

/-- Until its penalty is over, the entry of an attempt is there. -/
def HeldBack (key : PairingFailureKey Addr) (startedAt failures : Nat)
    (l : Limiter (PairingFailureKey Addr)) : Prop :=
  (∃ state, l.entries.find? key = some state ∧ state.lastFailure = startedAt ∧
    state.failures = failures) ∨
  startedAt + seconds (penaltySecs failures) ≤ l.clock

theorem HeldBack.step {key : PairingFailureKey Addr} {startedAt failures : Nat}
    {l : Limiter (PairingFailureKey Addr)} (h : HeldBack key startedAt failures l)
    (hsound : PairingSound l) {op : PairingOp Addr} (hop : op.Timely l)
    (hclear : op ≠ .clear ⟨key, startedAt⟩) : HeldBack key startedAt failures (pairingStep l op) := by
  rcases h with ⟨state, hfind, hstarted, hfailures⟩ | hover
  · have hblock := (hsound.entries key state hfind).blocked_eq
    rw [hstarted, hfailures] at hblock
    cases op with
    | clear attempt =>
        left
        refine ⟨state, clearIfLatest_keeps hfind ?_, hstarted, hfailures⟩
        rw [hstarted]
        by_contra hboth
        obtain ⟨hkey, hlatest⟩ := not_or.mp hboth
        apply hclear
        rw [not_not.mp hkey, not_not.mp hlatest]
    | attempt source now =>
        by_cases hblocked : now < state.blockedUntil
        · obtain ⟨after, hafter, hlast, hcount⟩ :=
            beginPairingAttempt_keeps hsound.entries hfind hblocked
          exact Or.inl ⟨after, hafter, hlast.trans hstarted, hcount.trans hfailures⟩
        · right
          show startedAt + seconds (penaltySecs failures) ≤ now
          omega
  · right
    cases op with
    | clear attempt => exact hover
    | attempt source now => exact le_trans hover hop

/-- The state after some calls, with the entry of an attempt while its penalty lasts. -/
theorem HeldBack.along {key : PairingFailureKey Addr} {startedAt failures : Nat}
    {l : Limiter (PairingFailureKey Addr)} (h : HeldBack key startedAt failures l)
    (hsound : PairingSound l) {ops : List (PairingOp Addr)}
    (hops : Along pairingStep (fun l op => op.Timely l) l ops)
    (hclear : .clear ⟨key, startedAt⟩ ∉ ops) :
    HeldBack key startedAt failures (run pairingStep l ops) := by
  induction ops generalizing l with
  | nil => exact h
  | cons op rest ih =>
      obtain ⟨hop, hrest⟩ := hops
      have hne : op ≠ .clear ⟨key, startedAt⟩ := by
        rintro rfl
        exact hclear List.mem_cons_self
      exact ih (h.step hsound hop hne) (hsound.step hop) hrest
        (fun hmem => hclear (List.mem_cons_of_mem _ hmem))

/-- While the penalty lasts, the entry blocks its key. -/
theorem HeldBack.blocks {key : PairingFailureKey Addr} {startedAt failures now : Nat}
    {l : Limiter (PairingFailureKey Addr)} (h : HeldBack key startedAt failures l)
    (hsound : PairingSound l) (hclock : l.clock ≤ now)
    (hnow : now < startedAt + seconds (penaltySecs failures)) :
    ∃ state, l.entries.find? key = some state ∧
      state.blockedUntil = startedAt + seconds (penaltySecs failures) := by
  rcases h with ⟨state, hfind, hstarted, hfailures⟩ | hover
  · refine ⟨state, hfind, ?_⟩
    rw [(hsound.entries key state hfind).blocked_eq, hstarted, hfailures]
  · omega

/-! ## The number of attempts -/

/-- The attempts that count on: none when the entries no longer hold the key. -/
def keepAttempts (attempts : Nat) (entries : FailureEntries (PairingFailureKey Addr))
    (key : PairingFailureKey Addr) : Nat :=
  if (entries.find? key).isSome then attempts else 0

/-- The number of attempts under a key since it was last removed, after a call; an admitted attempt
may find the entry stale. -/
def attemptsStep (key : PairingFailureKey Addr) (l : Limiter (PairingFailureKey Addr))
    (attempts : Nat) : PairingOp Addr → Nat
  | .attempt source now =>
      if (beginPairingAttempt l.entries source now).1 = .ok ⟨key, now⟩ then
        (if (liveEntry l.entries key now).isSome then attempts else 0) + 1
      else keepAttempts attempts (beginPairingAttempt l.entries source now).2 key
  | .clear attempt =>
      keepAttempts attempts (clearIfLatest l.entries attempt.key attempt.startedAt) key

/-- One call, with the number of attempts under a key. -/
def countedStep (key : PairingFailureKey Addr)
    (counted : Limiter (PairingFailureKey Addr) × Nat) (op : PairingOp Addr) :
    Limiter (PairingFailureKey Addr) × Nat :=
  (pairingStep counted.1 op, attemptsStep key counted.1 counted.2 op)

/-- The number of attempts under a key after some calls on an empty limiter. -/
def attemptCount (key : PairingFailureKey Addr) (ops : List (PairingOp Addr)) : Nat :=
  (run (countedStep key) (.initial, 0) ops).2

/-- The entry of a key counts the attempts. -/
def Counts (key : PairingFailureKey Addr) (counted : Limiter (PairingFailureKey Addr) × Nat) :
    Prop :=
  ∀ state, counted.1.entries.find? key = some state → state.failures = min counted.2 7

/-- The failures of the entry that an admitted attempt leaves. -/
theorem Counts.fail_failures {key : PairingFailureKey Addr}
    {counted : Limiter (PairingFailureKey Addr) × Nat} (h : Counts key counted) (now : Nat) :
    (((liveEntry counted.1.entries key now).getD (.fresh now)).fail now).failures =
      min ((if (liveEntry counted.1.entries key now).isSome then counted.2 else 0) + 1) 7 := by
  cases hlive : liveEntry counted.1.entries key now with
  | none => rfl
  | some state =>
      have hcount := h state (liveEntry_eq_some.mp hlive).1
      rw [Option.getD_some, FailureState.fail_failures (by rw [hcount]; exact min_le_right _ _),
        hcount, Option.isSome_some, if_pos rfl]
      omega

theorem Counts.keep {key : PairingFailureKey Addr}
    {counted : Limiter (PairingFailureKey Addr) × Nat} (h : Counts key counted)
    {entries : FailureEntries (PairingFailureKey Addr)} {clock : Nat}
    (hkept : ∀ state, entries.find? key = some state → ∃ before,
      counted.1.entries.find? key = some before ∧ state.failures = before.failures) :
    Counts key (⟨entries, clock⟩, keepAttempts counted.2 entries key) := by
  intro state hfind
  obtain ⟨before, hbefore, hfailures⟩ := hkept state hfind
  have hfind' : entries.find? key = some state := hfind
  rw [hfailures, h before hbefore, keepAttempts, hfind', Option.isSome_some, if_pos rfl]

theorem Counts.step {key : PairingFailureKey Addr}
    {counted : Limiter (PairingFailureKey Addr) × Nat} (h : Counts key counted)
    (op : PairingOp Addr) : Counts key (countedStep key counted op) := by
  cases op with
  | clear attempt => exact h.keep (fun state hfind => ⟨state, clearIfLatest_find?_some hfind, rfl⟩)
  | attempt source now =>
      by_cases hok : (beginPairingAttempt counted.1.entries source now).1 = .ok ⟨key, now⟩
      · obtain ⟨_, hself⟩ := beginPairingAttempt_admitted hok
        intro state hfind
        simp only [countedStep, pairingStep, hself, Option.some.injEq] at hfind
        simp only [countedStep, attemptsStep, if_pos hok]
        rw [← hfind]
        exact h.fail_failures now
      · simp only [countedStep, attemptsStep, if_neg hok]
        refine h.keep (fun state hfind => ?_)
        rcases beginPairingAttempt_origin hfind with ⟨hadmitted, _⟩ | ⟨before, hbefore, hseen⟩
        · exact absurd hadmitted hok
        · refine ⟨before, hbefore, ?_⟩
          rcases hseen with rfl | rfl <;> rfl

theorem counts_run (key : PairingFailureKey Addr) (ops : List (PairingOp Addr)) :
    Counts key (run pairingStep .initial ops, attemptCount key ops) := by
  have hstep : ∀ (counted : Limiter (PairingFailureKey Addr) × Nat) (op : PairingOp Addr),
      Counts key counted → True → Counts key (countedStep key counted op) :=
    fun _ op h _ => h.step op
  have hinitial : Counts key ((.initial : Limiter (PairingFailureKey Addr)), 0) :=
    fun state hfind => (by cases hfind)
  have hrun := run_invariant hstep hinitial (Along.of_forall (fun _ _ _ => trivial) _ : Along _ _ _ ops)
  have hfst : (run (countedStep key) ((.initial : Limiter (PairingFailureKey Addr)), 0) ops).1 =
      run pairingStep .initial ops := run_map (fun _ _ => rfl) _ ops
  rw [← hfst]
  exact hrun

/-! ## The limits -/

/-- The attempt of a source is admitted under a key. -/
def AdmittedAt (l : Limiter (PairingFailureKey Addr)) (source : Addr) (now : Nat)
    (key : PairingFailureKey Addr) : Prop :=
  l.clock ≤ now ∧ (beginPairingAttempt l.entries source now).1 = .ok ⟨key, now⟩

instance (l : Limiter (PairingFailureKey Addr)) (source : Addr) (now : Nat)
    (key : PairingFailureKey Addr) : Decidable (AdmittedAt l source now key) :=
  inferInstanceAs (Decidable (_ ∧ _))

/-- All the sources that can be tracked are, and none of their entries is stale. -/
def Saturated (l : Limiter (PairingFailureKey Addr)) (now : Nat) : Prop :=
  trackedSources (expireFailureEntries l.entries now) = authFailureCapacity

/-- The source has no entry of its own. -/
def Untracked (l : Limiter (PairingFailureKey Addr)) (source : Addr) : Prop :=
  l.entries.find? (.source source) = none

theorem Saturated.not_direct {l : Limiter (PairingFailureKey Addr)} {source : Addr} {now : Nat}
    (h : Saturated l now) (huntracked : Untracked l source) : ¬ Direct l.entries source := by
  rintro (htracked | hroom)
  · rw [huntracked] at htracked
    cases htracked
  · have hexpire : trackedSources (expireFailureEntries l.entries now) ≤ trackedSources l.entries :=
      Dict.count_retain_le _ _ _
    have hsize : trackedSources l.entries ≤ l.entries.size := Dict.count_le_size _ _
    rw [Saturated] at h
    omega

/-- Further sources share an entry. -/
theorem Saturated.key_eq {l : Limiter (PairingFailureKey Addr)} {source : Addr} {now : Nat}
    {key : PairingFailureKey Addr} (h : Saturated l now) (huntracked : Untracked l source)
    (hok : AdmittedAt l source now key) : key = .overflow := by
  have hadmitted := hok.2
  revert hadmitted
  refine beginPairingAttempt_elim (P := fun r => r.1 = .ok ⟨key, now⟩ → key = .overflow)
    ?_ ?_ ?_ ?_
  · intro hdirect
    exact absurd hdirect (h.not_direct huntracked)
  · intro _ _ _ _ herror
    cases herror
  · intro _ _ hfree
    have hfree' : trackedSources (expireFailureEntries (afterGate l.entries now) now) <
        authFailureCapacity := hfree
    rw [trackedSources_afterGate, h] at hfree'
    exact absurd hfree' (lt_irrefl _)
  · intro _ _ _ hverdictOk
    rw [beginWith_fst] at hverdictOk
    cases hverdict : (beginFailureAttemptLocked (expireFailureEntries (afterGate l.entries now) now)
      .overflow now).1 with
    | error secs =>
        rw [hverdict] at hverdictOk
        cases hverdictOk
    | ok =>
        rw [hverdict] at hverdictOk
        cases hverdictOk
        rfl

/-- An admitted attempt is held from its instant. -/
theorem held_of_admitted {ops : List (PairingOp Addr)} {source : Addr} {now : Nat}
    {key : PairingFailureKey Addr} (hok : AdmittedAt (run pairingStep .initial ops) source now key) :
    HeldBack key now (min (attemptCount key (ops ++ [.attempt source now])) 7)
      (pairingStep (run pairingStep .initial ops) (.attempt source now)) := by
  obtain ⟨_, hself⟩ := beginPairingAttempt_admitted hok.2
  have hcount := counts_run key (ops ++ [.attempt source now])
  rw [run_append, run_cons, run_nil] at hcount
  exact Or.inl ⟨_, hself, rfl, hcount _ hself⟩

theorem penaltySecs_min (attempts : Nat) : penaltySecs (min attempts 7) = penaltySecs attempts := by
  rw [penaltySecs, penaltySecs, min_assoc, min_self]

section Reached

variable {l : Limiter (PairingFailureKey Addr)} {later : List (PairingOp Addr)}

/-- A tracked source stays blocked, whatever is done but clearing its latest attempt. -/
theorem PairingSound.stays_blocked (hsound : PairingSound l) {source : Addr} {state : FailureState}
    (hfind : l.entries.find? (.source source) = some state)
    (hlater : Along pairingStep (fun l op => op.Timely l) l later)
    (hclear : .clear ⟨.source source, state.lastFailure⟩ ∉ later) {now : Nat}
    (hclock : (run pairingStep l later).clock ≤ now) (hnow : now < state.blockedUntil) :
    (beginPairingAttempt (run pairingStep l later).entries source now).1 =
      .error (retryAfterSeconds state.blockedUntil now) := by
  have hheld : HeldBack (.source source) state.lastFailure state.failures l :=
    Or.inl ⟨state, hfind, rfl, rfl⟩
  have hblock := (hsound.entries _ state hfind).blocked_eq
  have hafter := hsound.along hlater
  rw [hblock] at hnow
  obtain ⟨after, hafterFind, huntil⟩ := (hheld.along hsound hlater hclear).blocks hafter hclock hnow
  rw [hblock, ← huntil]
  rw [← huntil] at hnow
  exact beginPairingAttempt_refused hafter.entries hafterFind hnow

/-- An attempt that is held keeps the next one away until its penalty is over. -/
theorem HeldBack.spaced {key : PairingFailureKey Addr} {startedAt failures : Nat}
    (h : HeldBack key startedAt failures l) (hsound : PairingSound l)
    (hlater : Along pairingStep (fun l op => op.Timely l) l later)
    (hclear : .clear ⟨key, startedAt⟩ ∉ later) {source : Addr} {now : Nat}
    {key' : PairingFailureKey Addr} (hok : AdmittedAt (run pairingStep l later) source now key')
    (hcomes : key = .source source ∨
      key = .overflow ∧ ¬ Direct (run pairingStep l later).entries source) :
    startedAt + seconds (penaltySecs failures) ≤ now := by
  by_contra hearly
  have hafter := hsound.along hlater
  obtain ⟨state, hfind, huntil⟩ :=
    (h.along hsound hlater hclear).blocks hafter hok.1 (not_le.mp hearly)
  have hblocked : now < state.blockedUntil := by
    rw [huntil]
    exact not_le.mp hearly
  have hadmitted := hok.2
  rcases hcomes with rfl | ⟨rfl, hdirect⟩
  · rw [beginPairingAttempt_refused hafter.entries hfind hblocked] at hadmitted
    cases hadmitted
  · rw [beginPairingAttempt_refused_shared hafter.entries hfind hblocked hdirect] at hadmitted
    cases hadmitted

end Reached

/-- Over any calls in the order of their times: at most 1024 sources are tracked, and at most one
entry is shared; a tracked source stays blocked until its penalty is over unless its latest attempt
is cleared; two admitted attempts of a tracked source are as far apart as the penalty of the first
one; and while 1024 sources are tracked the same holds of all further sources together. -/
theorem pairing_attempts_limited (ops : List (PairingOp Addr))
    (hops : Along pairingStep (fun l op => op.Timely l) Limiter.initial ops) :
    (trackedSources (run pairingStep Limiter.initial ops).entries ≤ authFailureCapacity ∧
      (run pairingStep Limiter.initial ops).entries.size ≤
        trackedSources (run pairingStep Limiter.initial ops).entries + 1) ∧
    (∀ source state later now,
      (run pairingStep Limiter.initial ops).entries.find? (.source source) = some state →
      Along pairingStep (fun l op => op.Timely l) (run pairingStep Limiter.initial ops) later →
      .clear ⟨.source source, state.lastFailure⟩ ∉ later →
      (run pairingStep Limiter.initial (ops ++ later)).clock ≤ now → now < state.blockedUntil →
      (beginPairingAttempt (run pairingStep Limiter.initial (ops ++ later)).entries source now).1 =
        .error (retryAfterSeconds state.blockedUntil now)) ∧
    (∀ source now later now' key',
      AdmittedAt (run pairingStep Limiter.initial ops) source now (.source source) →
      Along pairingStep (fun l op => op.Timely l)
        (run pairingStep Limiter.initial (ops ++ [.attempt source now])) later →
      .clear ⟨.source source, now⟩ ∉ later →
      AdmittedAt (run pairingStep Limiter.initial (ops ++ [.attempt source now] ++ later)) source
        now' key' →
      now + seconds (penaltySecs (attemptCount (.source source) (ops ++ [.attempt source now]))) ≤
        now') ∧
    (∀ source now key, Saturated (run pairingStep Limiter.initial ops) now →
      Untracked (run pairingStep Limiter.initial ops) source →
      AdmittedAt (run pairingStep Limiter.initial ops) source now key → key = .overflow) ∧
    ∀ source now later source' now' key',
      AdmittedAt (run pairingStep Limiter.initial ops) source now .overflow →
      Along pairingStep (fun l op => op.Timely l)
        (run pairingStep Limiter.initial (ops ++ [.attempt source now])) later →
      .clear ⟨.overflow, now⟩ ∉ later →
      Saturated (run pairingStep Limiter.initial (ops ++ [.attempt source now] ++ later)) now' →
      Untracked (run pairingStep Limiter.initial (ops ++ [.attempt source now] ++ later)) source' →
      AdmittedAt (run pairingStep Limiter.initial (ops ++ [.attempt source now] ++ later)) source'
        now' key' →
      now + seconds (penaltySecs (attemptCount .overflow (ops ++ [.attempt source now]))) ≤ now' := by
  have hsound := PairingSound.initial.along hops
  have hnext : ∀ source now key, AdmittedAt (run pairingStep Limiter.initial ops) source now key →
      PairingSound (pairingStep (run pairingStep Limiter.initial ops) (.attempt source now)) :=
    fun _ _ _ hok => hsound.step hok.1
  refine ⟨⟨hsound.sources, size_le_trackedSources _⟩, ?_, ?_, ?_, ?_⟩
  · intro source state later now hfind hlater hclear
    rw [run_append]
    exact hsound.stays_blocked hfind hlater hclear
  · intro source now later now' key' hfirst hlater hclear hsecond
    have hheld := held_of_admitted hfirst
    rw [run_append] at hlater hsecond
    rw [run_append] at hsecond
    have hspaced := hheld.spaced (hnext _ _ _ hfirst) hlater hclear hsecond (Or.inl rfl)
    rwa [penaltySecs_min] at hspaced
  · intro source now key hsaturated huntracked hok
    exact hsaturated.key_eq huntracked hok
  · intro source now later source' now' key' hfirst hlater hclear hsaturated huntracked hsecond
    have hheld := held_of_admitted hfirst
    have hdirect := hsaturated.not_direct huntracked
    rw [run_append] at hlater hsecond hdirect
    rw [run_append] at hsecond hdirect
    have hspaced := hheld.spaced (hnext _ _ _ hfirst) hlater hclear hsecond (Or.inr ⟨rfl, hdirect⟩)
    rwa [penaltySecs_min] at hspaced

end Runs

/-! ## A crowd of sources -/

/-- One attempt of each of that many sources. -/
def crowd (n : Nat) : List (PairingOp Nat) :=
  (List.range n).map (fun source => .attempt source 0)

/-- Their entries. -/
def crowded (n : Nat) : List (PairingFailureKey Nat × FailureState) :=
  (List.range n).map (fun source => (.source source, (FailureState.fresh 0).fail 0))

theorem crowd_succ (n : Nat) : crowd (n + 1) = crowd n ++ [.attempt n 0] := by
  rw [crowd, List.range_succ, List.map_append]
  rfl

theorem crowded_succ (n : Nat) :
    crowded (n + 1) = crowded n ++ [(.source n, (FailureState.fresh 0).fail 0)] := by
  rw [crowded, List.range_succ, List.map_append]
  rfl

section

variable {entries : FailureEntries (PairingFailureKey Nat)} {n : Nat}

theorem crowded_new (h : entries.rows = crowded n) : entries.find? (.source n) = none := by
  rw [Dict.find?_eq_none_iff, h]
  intro state hmem
  obtain ⟨source, hsource, heq⟩ := List.mem_map.mp hmem
  cases heq
  exact absurd (List.mem_range.mp hsource) (lt_irrefl n)

theorem crowded_overflow (h : entries.rows = crowded n) : entries.find? .overflow = none := by
  rw [Dict.find?_eq_none_iff, h]
  intro state hmem
  obtain ⟨source, _, heq⟩ := List.mem_map.mp hmem
  cases heq

/-- A source that finds room gets an entry of its own. -/
theorem crowded_attempt (h : entries.rows = crowded n) (hn : n < authFailureCapacity) :
    (beginPairingAttempt entries n 0).2.rows = crowded (n + 1) := by
  have hnew := crowded_new h
  have hroom : entries.size < authFailureCapacity := by
    rw [Dict.size, h, crowded, List.length_map, List.length_range]
    exact hn
  have hdrop : dropStale entries (.source n) 0 = entries := by
    unfold dropStale
    simp only [hnew]
  have hgate : admitOrBlock entries (.source n) 0 = (.ok (), entries) := by
    unfold admitOrBlock
    simp only [hnew]
  rw [beginPairingAttempt, if_pos (Or.inr hroom), beginWith_snd, beginFailureAttemptLocked, hdrop,
    hgate]
  show (recordFailureEntryLocked entries (.source n) 0).2.rows = _
  rw [recordFailureEntryLocked, hnew, crowded_succ]
  show (entries.remove (.source n)).rows ++ _ = _
  rw [Dict.remove_of_find?_eq_none hnew, h]
  rfl

/-- A full crowd leaves no room. -/
theorem crowded_saturated (h : entries.rows = crowded n) :
    trackedSources (expireFailureEntries entries 0) = n := by
  have hfresh : (expireFailureEntries entries 0).rows = crowded n := by
    rw [← h]
    show entries.rows.filter _ = entries.rows
    rw [List.filter_eq_self]
    intro e _
    simp only [Nat.zero_sub, decide_eq_true_eq, authFailureTtl, seconds]
    decide
  have hall : ∀ e ∈ crowded n, e.1.isSource = true := by
    intro e he
    obtain ⟨source, _, rfl⟩ := List.mem_map.mp he
    rfl
  rw [trackedSources, Dict.count, hfresh, List.countP_eq_length.mpr hall, crowded, List.length_map,
    List.length_range]

end

theorem crowd_run {n : Nat} (hn : n ≤ authFailureCapacity) :
    Along pairingStep (fun l op => op.Timely l) Limiter.initial (crowd n) ∧
      (run pairingStep Limiter.initial (crowd n)).entries.rows = crowded n ∧
      (run pairingStep Limiter.initial (crowd n)).clock = 0 := by
  induction n with
  | zero => exact ⟨trivial, rfl, rfl⟩
  | succ n ih =>
      obtain ⟨halong, hrows, hclock⟩ := ih (by omega)
      rw [crowd_succ]
      refine ⟨Along.append.mpr ⟨halong, le_of_eq hclock, trivial⟩, ?_, ?_⟩
      · rw [run_append]
        exact crowded_attempt hrows (by omega)
      · rw [run_append]
        rfl

/-- The next source is admitted under the shared entry. -/
theorem crowd_admitted {n : Nat} (hn : n = authFailureCapacity) :
    Saturated (run pairingStep Limiter.initial (crowd n)) 0 ∧
      Untracked (run pairingStep Limiter.initial (crowd n)) n ∧
      AdmittedAt (run pairingStep Limiter.initial (crowd n)) n 0 .overflow := by
  obtain ⟨_, hrows, hclock⟩ := crowd_run (le_of_eq hn)
  have hsaturated : Saturated (run pairingStep Limiter.initial (crowd n)) 0 :=
    (crowded_saturated hrows).trans hn
  have huntracked := crowded_new hrows
  have hlive : liveEntry (run pairingStep Limiter.initial (crowd n)).entries
      PairingFailureKey.overflow 0 = none := liveEntry_of_find?_eq_none (crowded_overflow hrows)
  refine ⟨hsaturated, huntracked, le_of_eq hclock, ?_⟩
  refine beginPairingAttempt_elim (P := fun r => r.1 = .ok ⟨.overflow, 0⟩) ?_ ?_ ?_ ?_
  · intro hdirect
    exact absurd hdirect (hsaturated.not_direct huntracked)
  · intro state _ hstate _
    rw [hlive] at hstate
    cases hstate
  · intro _ _ hfree
    have hfree' : trackedSources (expireFailureEntries (afterGate
        (run pairingStep Limiter.initial (crowd n)).entries 0) 0) < authFailureCapacity := hfree
    rw [trackedSources_afterGate, hsaturated] at hfree'
    exact absurd hfree' (lt_irrefl _)
  · intro _ _ _
    have hopen : ¬ BlockedAt (expireFailureEntries (afterGate
        (run pairingStep Limiter.initial (crowd n)).entries 0) 0) .overflow 0 := by
      rintro ⟨state, hstate, _⟩
      rw [liveEntry_afterGate, hlive] at hstate
      cases hstate
    rw [beginWith_fst, (beginFailureAttemptLocked_open hopen).1]
    rfl

/-- Between two attempts of a source, another source makes one. -/
def twoSources : List (PairingOp Nat) := [.attempt 7 0, .attempt 8 0]

/-- The second attempt of a source costs two seconds, and an attempt after a full crowd is made
under the shared entry. -/
theorem pairing_attempts_limited_instances :
    ((beginPairingAttempt (run pairingStep Limiter.initial
        (twoSources ++ [.attempt 9 500000000])).entries 7 500000000).1 = .error 1 ∧
      seconds 1 + seconds (penaltySecs (attemptCount (.source 7)
        (twoSources ++ [.attempt 7 (seconds 1)]))) ≤ seconds 3) ∧
    ∀ key, AdmittedAt (run pairingStep Limiter.initial (crowd authFailureCapacity))
      authFailureCapacity 0 key → key = .overflow := by
  obtain ⟨_, hblocked, hspaced, _⟩ := pairing_attempts_limited twoSources (by decide +kernel)
  obtain ⟨n, hn⟩ : ∃ n, n = authFailureCapacity := ⟨_, rfl⟩
  obtain ⟨_, _, _, hkey, _⟩ := pairing_attempts_limited (crowd n) (crowd_run (le_of_eq hn)).1
  obtain ⟨hsaturated, huntracked, _⟩ := crowd_admitted hn
  refine ⟨⟨?_, ?_⟩, ?_⟩
  · exact hblocked 7 ⟨1, seconds 1, 0, 0⟩ [.attempt 9 500000000] 500000000 (by decide +kernel)
      (by decide +kernel) (by simp) (by decide +kernel) (by decide +kernel)
  · exact hspaced 7 (seconds 1) [.attempt 9 (seconds 2)] (seconds 3) (.source 7)
      (by decide +kernel) (by decide +kernel) (by simp) (by decide +kernel)
  · rw [← hn]
    exact fun key => hkey n 0 key hsaturated huntracked

end RouterView.Auth
