/-
  Auth/LoginSpec.lean --- the back-off of the logins.

  A request asks the limiter before it waits for a hashing slot, and records its
  attempt after that.  When no other attempt is recorded for a key in between,
  no attempt is made while the key is blocked, and the attempts under it are as
  far apart as their penalties.  Two requests that both ask first break this.
-/
import RouterView.Foundation.Run
import RouterView.Auth.LimiterSpec
import RouterView.Auth.Login

set_option autoImplicit false

namespace RouterView.Auth

open RouterView.Foundation

variable {User Addr : Type}

/-! ## What is watched -/

/-- The number of attempts recorded under each key, that number when a request last checked the
key, and the attempts with their penalties since the key was last cleared, the newest first. -/
structure LoginWatch (User Addr : Type) where
  attempts : LoginFailureKey User Addr → Nat
  atCheck : Nat → LoginFailureKey User Addr → Nat
  streak : LoginFailureKey User Addr → List (Nat × Nat)

/-- Nothing was recorded. -/
def LoginWatch.initial : LoginWatch User Addr := ⟨fun _ => 0, fun _ _ => 0, fun _ => []⟩

/-- The state of the logins, watched. -/
abbrev Watched (User Addr : Type) : Type := LoginState User Addr × LoginWatch User Addr

section

variable (requests : Nat → LoginRequest User Addr)

/-! ## Pending attempts -/

/-- The request found the key open, and has not recorded its attempt under it. -/
def Pending : LoginPhase User Addr → Nat → LoginFailureKey User Addr → Prop
  | .checking left waits, id, key => waits = [] ∧ key ∈ failureKeys (requests id) ∧ key ∉ left
  | .waiting, id, key => key ∈ failureKeys (requests id)
  | .admitted, id, key => key ∈ failureKeys (requests id)
  | .recording _ left, _, key => key ∈ left
  | _, _, _ => False

variable {requests}

theorem pending_afterCheck {left : List (LoginFailureKey User Addr)} {waits : List Nat} {id : Nat}
    {key : LoginFailureKey User Addr} (h : Pending requests (.afterCheck left waits) id key) :
    waits = [] ∧ key ∈ failureKeys (requests id) ∧ key ∉ left := by
  unfold LoginPhase.afterCheck at h
  cases left with
  | cons head rest => exact h
  | nil =>
      cases waits with
      | cons wait rest =>
          rw [List.max?_cons'] at h
          exact h.elim
      | nil => exact ⟨rfl, h, List.not_mem_nil⟩

theorem pending_afterRecord {left : List (LoginFailureKey User Addr)} {startedAt id : Nat}
    {key : LoginFailureKey User Addr} (h : Pending requests (.afterRecord startedAt left) id key) :
    key ∈ left ∧ LoginPhase.afterRecord startedAt left = .recording startedAt left := by
  cases left with
  | nil => exact h.elim
  | cons head rest => exact ⟨h, rfl⟩

/-- The instant at which an attempt will be recorded is no earlier than this. -/
def LoginPhase.bound (clock : Nat) : LoginPhase User Addr → Nat
  | .recording startedAt _ => startedAt
  | _ => clock

theorem afterCheck_bound (clock : Nat) (left : List (LoginFailureKey User Addr))
    (waits : List Nat) : (LoginPhase.afterCheck left waits).bound clock = clock := by
  unfold LoginPhase.afterCheck
  split <;> rfl

theorem LoginPhase.bound_mono {clock clock' : Nat} (hle : clock ≤ clock')
    (phase : LoginPhase User Addr) : phase.bound clock ≤ phase.bound clock' := by
  cases phase with
  | recording startedAt left => exact le_refl _
  | _ => exact hle

/-- The attempt of the request is pending, and none was recorded under the key since its check. -/
def Clear (requests : Nat → LoginRequest User Addr) (x : Watched User Addr) (id : Nat)
    (key : LoginFailureKey User Addr) : Prop :=
  Pending requests (x.1.phase id) id key ∧ x.2.attempts key = x.2.atCheck id key

/-- What the request records next: the instant of its attempt, and a key. -/
def LoginPhase.next? : LoginPhase User Addr → Option (Nat × LoginFailureKey User Addr)
  | .recording startedAt (key :: _) => some (startedAt, key)
  | _ => none

/-- An attempt is recorded for a key of a request that no other one has overtaken. -/
def Unovertaken (x : Watched User Addr) : LoginEvent User Addr → Prop
  | .record id _ => ∀ p ∈ (x.1.phase id).next?, x.2.attempts p.2 = x.2.atCheck id p.2
  | _ => True

/-- The step comes no earlier than the one before it, and an eviction meets the entries there
are. -/
def LoginEvent.Timely (x : Watched User Addr) : LoginEvent User Addr → Prop
  | .check _ now => x.1.clock ≤ now
  | .start _ now => x.1.clock ≤ now
  | .record id order =>
      ∀ p ∈ (x.1.phase id).next?, order.Perm (expireFailureEntries x.1.entries p.1).rows
  | _ => True

/-- The counts are those of the past, and so are the instants. -/
structure Ordered (x : Watched User Addr) : Prop where
  checked : ∀ id key, x.2.atCheck id key ≤ x.2.attempts key
  started : ∀ id startedAt left, x.1.phase id = .recording startedAt left → startedAt ≤ x.1.clock

theorem next?_of_recording {phase : LoginPhase User Addr} {startedAt : Nat}
    {key : LoginFailureKey User Addr} {left : List (LoginFailureKey User Addr)}
    (h : phase = .recording startedAt (key :: left)) : (startedAt, key) ∈ phase.next? := by
  rw [h]
  rfl

theorem mem_next? {phase : LoginPhase User Addr} {p : Nat × LoginFailureKey User Addr}
    (h : p ∈ phase.next?) : ∃ left, phase = .recording p.1 (p.2 :: left) := by
  unfold LoginPhase.next? at h
  split at h
  · rename_i startedAt key left
    cases h
    exact ⟨left, rfl⟩
  · cases h

/-- The attempt that a request records next is pending. -/
theorem clear_of_next? (requests : Nat → LoginRequest User Addr) {x : Watched User Addr} {id : Nat}
    {p : Nat × LoginFailureKey User Addr} (h : p ∈ (x.1.phase id).next?)
    (hcount : x.2.attempts p.2 = x.2.atCheck id p.2) :
    Clear requests x id p.2 ∧ (x.1.phase id).bound x.1.clock = p.1 := by
  obtain ⟨left, hphase⟩ := mem_next? h
  refine ⟨⟨?_, hcount⟩, ?_⟩
  · rw [hphase]
    exact List.mem_cons_self
  · rw [hphase]
    rfl

theorem goTo_phase (s : LoginState User Addr) (id id' : Nat) (next : LoginPhase User Addr) :
    (s.goTo id next).phase id' = if id' = id then next else s.phase id' :=
  Function.update_apply _ _ _ _

/-- A phase change that keeps the clock and records nothing. -/
theorem Ordered.goTo {s : LoginState User Addr} {w : LoginWatch User Addr} (h : Ordered (s, w))
    {entries : FailureEntries (LoginFailureKey User Addr)} {slots id : Nat}
    {next : LoginPhase User Addr} {w' : LoginWatch User Addr}
    (hnext : ∀ startedAt left, next = .recording startedAt left → startedAt ≤ s.clock)
    (hchecked : ∀ id key, w'.atCheck id key ≤ w'.attempts key) {clock : Nat}
    (hclock : s.clock ≤ clock) :
    Ordered ((LoginState.mk entries clock slots s.phase).goTo id next, w') where
  checked := hchecked
  started := by
    intro id' startedAt left hphase
    simp only [goTo_phase] at hphase
    split at hphase
    · exact le_trans (hnext startedAt left hphase) hclock
    · exact le_trans (h.started id' startedAt left hphase) hclock

variable (requests)

/-- The logins before any step. -/
def Watched.initial (slots : Nat) : Watched User Addr :=
  (LoginState.initial requests slots, LoginWatch.initial)

theorem Ordered.initial (slots : Nat) : Ordered (Watched.initial requests slots) :=
  ⟨fun _ _ => le_refl _, fun _ _ _ hphase => by cases hphase⟩

end

/-! ## Steps -/

variable [DecidableEq User] [DecidableEq Addr]

/-- A request checks a key. -/
def LoginWatch.noteCheck (w : LoginWatch User Addr) (id : Nat) (key : LoginFailureKey User Addr) :
    LoginWatch User Addr :=
  { w with
    atCheck := Function.update w.atCheck id
      (Function.update (w.atCheck id) key (w.attempts key)) }

/-- An attempt is recorded under a key. -/
def LoginWatch.noteRecord (w : LoginWatch User Addr) (key : LoginFailureKey User Addr)
    (startedAt penalty : Nat) : LoginWatch User Addr :=
  { w with
    attempts := Function.update w.attempts key (w.attempts key + 1)
    streak := Function.update w.streak key ((startedAt, penalty) :: w.streak key) }

/-- The key has an entry, and its latest attempt is the given one. -/
def isLatest (entries : FailureEntries (LoginFailureKey User Addr))
    (key : LoginFailureKey User Addr) (startedAt : Nat) : Bool :=
  (entries.find? key).any (fun state => decide (state.lastFailure = startedAt))

/-- A key is cleared. -/
def LoginWatch.noteClear (w : LoginWatch User Addr) (key : LoginFailureKey User Addr)
    (cleared : Bool) : LoginWatch User Addr :=
  { w with streak := Function.update w.streak key (if cleared then [] else w.streak key) }

/-- What a step adds to what is watched. -/
def watchStep (s : LoginState User Addr) (w : LoginWatch User Addr) :
    LoginEvent User Addr → LoginWatch User Addr
  | .check id _ =>
      match s.phase id with
      | .checking (key :: _) _ => w.noteCheck id key
      | _ => w
  | .record id order =>
      match s.phase id with
      | .recording startedAt (key :: _) =>
          w.noteRecord key startedAt (recordFailure order s.entries key startedAt).1
      | _ => w
  | .clear id =>
      match s.phase id with
      | .clearing startedAt (key :: _) => w.noteClear key (isLatest s.entries key startedAt)
      | _ => w
  | _ => w

section

variable (requests : Nat → LoginRequest User Addr)

/-- One step, watched. -/
def watchedStep (x : Watched User Addr) (e : LoginEvent User Addr) : Watched User Addr :=
  (loginStep requests x.1 e, watchStep x.1 x.2 e)

/-- The step of a request, by its phase. -/
theorem watchedStep_elim {P : Watched User Addr → Prop} {s : LoginState User Addr}
    {w : LoginWatch User Addr} {e : LoginEvent User Addr} (idle : P (s, w))
    (check : ∀ id now key left waits, e = .check id now →
      s.phase id = .checking (key :: left) waits →
      P ({ s with entries := (retryAfter s.entries key now).2, clock := now }.goTo id
          (.afterCheck left (waits ++ (retryAfter s.entries key now).1.toList)),
        w.noteCheck id key))
    (acquire : ∀ id, s.phase id = .waiting →
      P ({ s with slots := s.slots - 1 }.goTo id .admitted, w))
    (timeOut : ∀ id, s.phase id = .waiting → P (s.goTo id (.rejected 1), w))
    (start : ∀ id now, e = .start id now → s.phase id = .admitted →
      P ({ s with clock := now }.goTo id (.recording now (failureKeys (requests id))), w))
    (record : ∀ id order startedAt key left, e = .record id order →
      s.phase id = .recording startedAt (key :: left) →
      P ({ s with entries := (recordFailure order s.entries key startedAt).2 }.goTo id
          (.afterRecord startedAt left),
        w.noteRecord key startedAt (recordFailure order s.entries key startedAt).1))
    (verify : ∀ id (success : Bool) startedAt, s.phase id = .verifying startedAt →
      P ({ s with slots := s.slots + 1 }.goTo id
        (if success then .clearing startedAt (failureKeys (requests id)) else .unauthorized), w))
    (clear : ∀ id startedAt key left, e = .clear id →
      s.phase id = .clearing startedAt (key :: left) →
      P ({ s with entries := clearIfLatest s.entries key startedAt }.goTo id
          (.clearing startedAt left),
        w.noteClear key (isLatest s.entries key startedAt))) :
    P (watchedStep requests (s, w) e) := by
  unfold watchedStep
  cases e with
  | check id now =>
      cases hphase : s.phase id with
      | checking left waits =>
          cases left with
          | nil => simpa only [loginStep, watchStep, hphase] using idle
          | cons key left =>
              simpa only [loginStep, watchStep, hphase] using check id now key left waits rfl hphase
      | _ => simpa only [loginStep, watchStep, hphase] using idle
  | acquire id =>
      cases hphase : s.phase id with
      | waiting =>
          by_cases hslot : 0 < s.slots
          · simpa only [loginStep, watchStep, hphase, if_pos hslot] using acquire id hphase
          · simpa only [loginStep, watchStep, hphase, if_neg hslot] using idle
      | _ => simpa only [loginStep, watchStep, hphase] using idle
  | timeOut id =>
      cases hphase : s.phase id with
      | waiting => simpa only [loginStep, watchStep, hphase] using timeOut id hphase
      | _ => simpa only [loginStep, watchStep, hphase] using idle
  | start id now =>
      cases hphase : s.phase id with
      | admitted => simpa only [loginStep, watchStep, hphase] using start id now rfl hphase
      | _ => simpa only [loginStep, watchStep, hphase] using idle
  | record id order =>
      cases hphase : s.phase id with
      | recording startedAt left =>
          cases left with
          | nil => simpa only [loginStep, watchStep, hphase] using idle
          | cons key left =>
              simpa only [loginStep, watchStep, hphase] using
                record id order startedAt key left rfl hphase
      | _ => simpa only [loginStep, watchStep, hphase] using idle
  | verify id success =>
      cases hphase : s.phase id with
      | verifying startedAt =>
          simpa only [loginStep, watchStep, hphase] using verify id success startedAt hphase
      | _ => simpa only [loginStep, watchStep, hphase] using idle
  | clear id =>
      cases hphase : s.phase id with
      | clearing startedAt left =>
          cases left with
          | nil => simpa only [loginStep, watchStep, hphase] using idle
          | cons key left =>
              simpa only [loginStep, watchStep, hphase] using
                clear id startedAt key left rfl hphase
      | _ => simpa only [loginStep, watchStep, hphase] using idle

variable {requests}

theorem noteCheck_atCheck (w : LoginWatch User Addr) (id id' : Nat)
    (key key' : LoginFailureKey User Addr) : (w.noteCheck id key).atCheck id' key' =
      if id' = id ∧ key' = key then w.attempts key else w.atCheck id' key' := by
  show Function.update w.atCheck id _ id' key' = _
  rw [Function.update_apply]
  by_cases hid : id' = id
  · subst hid
    rw [if_pos rfl, Function.update_apply]
    simp only [true_and]
  · rw [if_neg hid, if_neg (fun h => hid h.1)]

theorem noteRecord_attempts (w : LoginWatch User Addr) (key key' : LoginFailureKey User Addr)
    (startedAt penalty : Nat) : (w.noteRecord key startedAt penalty).attempts key' =
      if key' = key then w.attempts key + 1 else w.attempts key' :=
  Function.update_apply _ _ _ _

theorem noteRecord_streak (w : LoginWatch User Addr) (key key' : LoginFailureKey User Addr)
    (startedAt penalty : Nat) : (w.noteRecord key startedAt penalty).streak key' =
      if key' = key then (startedAt, penalty) :: w.streak key else w.streak key' :=
  Function.update_apply _ _ _ _

theorem noteClear_streak (w : LoginWatch User Addr) (key key' : LoginFailureKey User Addr)
    (cleared : Bool) : (w.noteClear key cleared).streak key' =
      if key' = key then (if cleared then [] else w.streak key) else w.streak key' :=
  Function.update_apply _ _ _ _

theorem Ordered.step {x : Watched User Addr} (h : Ordered x) {e : LoginEvent User Addr}
    (htimely : e.Timely x) : Ordered (watchedStep requests x e) := by
  obtain ⟨s, w⟩ := x
  refine watchedStep_elim (P := Ordered) requests ?_ ?_ ?_ ?_ ?_ ?_ ?_ ?_
  · exact h
  · rintro id now key left waits rfl hphase
    refine h.goTo ?_ ?_ htimely
    · intro startedAt left' hnext
      have hbound := afterCheck_bound s.clock left (waits ++ (retryAfter s.entries key now).1.toList)
      rw [hnext] at hbound
      exact le_of_eq hbound
    · intro id' key'
      rw [noteCheck_atCheck]
      split
      · rename_i hsame
        rw [hsame.2]
        exact le_refl _
      · exact h.checked id' key'
  · intro id _
    refine h.goTo ?_ h.checked (le_refl _)
    intro startedAt left hnext
    cases hnext
  · intro id _
    refine h.goTo ?_ h.checked (le_refl _)
    intro startedAt left hnext
    cases hnext
  · rintro id now rfl _
    refine ⟨h.checked, ?_⟩
    intro id' startedAt left hphase
    simp only [goTo_phase] at hphase
    split at hphase
    · cases hphase
      exact le_refl _
    · exact le_trans (h.started id' startedAt left hphase) htimely
  · rintro id order startedAt key left rfl hphase
    refine h.goTo ?_ ?_ (le_refl _)
    · intro startedAt' left' hnext
      cases left with
      | nil => cases hnext
      | cons head rest =>
          cases hnext
          exact h.started id startedAt _ hphase
    · intro id' key'
      rw [noteRecord_attempts]
      have hchecked := h.checked id' key'
      split
      · rename_i hsame
        subst hsame
        exact le_trans hchecked (Nat.le_succ _)
      · exact hchecked
  · intro id success startedAt _
    refine h.goTo ?_ h.checked (le_refl _)
    intro startedAt' left' hnext
    cases success <;> cases hnext
  · rintro id startedAt key left rfl _
    refine h.goTo ?_ ?_ (le_refl _)
    · intro startedAt' left' hnext
      cases hnext
    · exact h.checked

/-- The key was found open just now. -/
def JustChecked (x x' : Watched User Addr) (id : Nat) (key : LoginFailureKey User Addr) : Prop :=
  x.1.clock ≤ x'.1.clock ∧ (x'.1.phase id).bound x'.1.clock = x'.1.clock ∧
    (retryAfter x.1.entries key x'.1.clock).1 = none ∧
    x'.1.entries = (retryAfter x.1.entries key x'.1.clock).2 ∧ x'.2.streak = x.2.streak

/-- A pending attempt was pending before, or its key was checked just now. -/
theorem Clear.before {x : Watched User Addr} (h : Ordered x) {e : LoginEvent User Addr}
    (htimely : e.Timely x) {id : Nat} {key : LoginFailureKey User Addr}
    (hclear : Clear requests (watchedStep requests x e) id key) :
    (Clear requests x id key ∧ (x.1.phase id).bound x.1.clock ≤
        ((watchedStep requests x e).1.phase id).bound (watchedStep requests x e).1.clock ∧
      (watchedStep requests x e).2.attempts key = x.2.attempts key) ∨
    JustChecked x (watchedStep requests x e) id key := by
  obtain ⟨s, w⟩ := x
  revert hclear
  refine watchedStep_elim (P := fun x' => Clear requests x' id key →
    (Clear requests (s, w) id key ∧ (s.phase id).bound s.clock ≤ (x'.1.phase id).bound x'.1.clock ∧
      x'.2.attempts key = w.attempts key) ∨ JustChecked (s, w) x' id key)
    requests ?_ ?_ ?_ ?_ ?_ ?_ ?_ ?_
  · intro hclear
    exact Or.inl ⟨hclear, le_refl _, rfl⟩
  · rintro id₀ now key₀ left waits rfl hphase ⟨hpending, hcount⟩
    simp only [noteCheck_atCheck] at hcount
    by_cases hid : id = id₀
    · subst hid
      simp only [goTo_phase, if_true] at hpending
      obtain ⟨hwaits, hmem, hleft⟩ := pending_afterCheck hpending
      obtain ⟨hempty, hwait⟩ := List.append_eq_nil_iff.mp hwaits
      by_cases hkey : key = key₀
      · subst hkey
        refine Or.inr ⟨htimely, ?_, ?_, rfl, rfl⟩
        · simp only [goTo_phase, if_true]
          exact afterCheck_bound _ _ _
        · cases hwhat : (retryAfter s.entries key now).1 with
          | none => exact hwhat
          | some secs =>
              rw [hwhat] at hwait
              cases hwait
      · rw [if_neg (fun hsame => hkey hsame.2)] at hcount
        refine Or.inl ⟨⟨?_, hcount⟩, ?_, rfl⟩
        · simp only [hphase]
          exact ⟨hempty, hmem, fun hin => (List.mem_cons.mp hin).elim hkey hleft⟩
        · simp only [hphase, goTo_phase, if_true, afterCheck_bound]
          exact htimely
    · rw [if_neg (fun hsame => hid hsame.1)] at hcount
      simp only [goTo_phase, if_neg hid] at hpending ⊢
      exact Or.inl ⟨⟨hpending, hcount⟩, LoginPhase.bound_mono htimely _, rfl⟩
  · rintro id₀ hphase ⟨hpending, hcount⟩
    by_cases hid : id = id₀
    · subst hid
      simp only [goTo_phase, if_true] at hpending ⊢
      refine Or.inl ⟨⟨?_, hcount⟩, ?_, trivial⟩
      · simp only [hphase]
        exact hpending
      · simp only [hphase]
        exact le_refl _
    · simp only [goTo_phase, if_neg hid] at hpending ⊢
      exact Or.inl ⟨⟨hpending, hcount⟩, le_refl _, trivial⟩
  · rintro id₀ hphase ⟨hpending, hcount⟩
    by_cases hid : id = id₀
    · subst hid
      simp only [goTo_phase, if_true] at hpending
      exact hpending.elim
    · simp only [goTo_phase, if_neg hid] at hpending ⊢
      exact Or.inl ⟨⟨hpending, hcount⟩, le_refl _, trivial⟩
  · rintro id₀ now rfl hphase ⟨hpending, hcount⟩
    by_cases hid : id = id₀
    · subst hid
      simp only [goTo_phase, if_true] at hpending ⊢
      refine Or.inl ⟨⟨?_, hcount⟩, ?_, trivial⟩
      · simp only [hphase]
        exact hpending
      · simp only [hphase]
        exact htimely
    · simp only [goTo_phase, if_neg hid] at hpending ⊢
      exact Or.inl ⟨⟨hpending, hcount⟩, LoginPhase.bound_mono htimely _, trivial⟩
  · rintro id₀ order startedAt key₀ left rfl hphase ⟨hpending, hcount⟩
    have hchecked := h.checked id key
    simp only [noteRecord_attempts] at hcount ⊢
    have hkey : key ≠ key₀ := by
      rintro rfl
      rw [if_pos rfl] at hcount
      have hcount' : w.attempts key + 1 = w.atCheck id key := hcount
      simp only at hchecked
      omega
    rw [if_neg hkey] at hcount ⊢
    by_cases hid : id = id₀
    · subst hid
      simp only [goTo_phase, if_true] at hpending ⊢
      obtain ⟨hmem, hgoes⟩ := pending_afterRecord hpending
      refine Or.inl ⟨⟨?_, hcount⟩, ?_, trivial⟩
      · simp only [hphase]
        exact List.mem_cons_of_mem _ hmem
      · simp only [hphase, hgoes]
        exact le_refl _
    · simp only [goTo_phase, if_neg hid] at hpending ⊢
      exact Or.inl ⟨⟨hpending, hcount⟩, le_refl _, trivial⟩
  · rintro id₀ success startedAt hphase ⟨hpending, hcount⟩
    by_cases hid : id = id₀
    · subst hid
      simp only [goTo_phase, if_true] at hpending
      split at hpending
      · exact hpending.elim
      · exact hpending.elim
    · simp only [goTo_phase, if_neg hid] at hpending ⊢
      exact Or.inl ⟨⟨hpending, hcount⟩, le_refl _, trivial⟩
  · rintro id₀ startedAt key₀ left rfl hphase ⟨hpending, hcount⟩
    by_cases hid : id = id₀
    · subst hid
      simp only [goTo_phase, if_true] at hpending
      exact hpending.elim
    · simp only [goTo_phase, if_neg hid] at hpending ⊢
      exact Or.inl ⟨⟨hpending, hcount⟩, le_refl _, rfl⟩

/-! ## Entries -/

/-- An entry whose key had no new attempt comes from one with the same penalty. -/
theorem entry_origin {x : Watched User Addr} {e : LoginEvent User Addr} (htimely : e.Timely x)
    {key : LoginFailureKey User Addr}
    (hcount : (watchedStep requests x e).2.attempts key = x.2.attempts key) {state : FailureState}
    (hfind : (watchedStep requests x e).1.entries.find? key = some state) :
    ∃ before, x.1.entries.find? key = some before ∧
      state.blockedUntil = before.blockedUntil := by
  obtain ⟨s, w⟩ := x
  revert hcount hfind
  refine watchedStep_elim (P := fun x' => x'.2.attempts key = w.attempts key →
    x'.1.entries.find? key = some state → ∃ before, s.entries.find? key = some before ∧
      state.blockedUntil = before.blockedUntil) requests ?_ ?_ ?_ ?_ ?_ ?_ ?_ ?_
  · intro _ hfind
    exact ⟨state, hfind, rfl⟩
  · intro id now key₀ left waits _ _ _ hfind
    obtain ⟨before, hbefore, hseen⟩ := retryAfter_origin hfind
    refine ⟨before, hbefore, ?_⟩
    rcases hseen with rfl | rfl <;> rfl
  · intro _ _ _ hfind
    exact ⟨state, hfind, rfl⟩
  · intro _ _ _ hfind
    exact ⟨state, hfind, rfl⟩
  · intro _ _ _ _ _ hfind
    exact ⟨state, hfind, rfl⟩
  · rintro id order startedAt key₀ left rfl hphase hcount hfind
    have hkey : key ≠ key₀ := by
      rintro rfl
      rw [noteRecord_attempts, if_pos rfl] at hcount
      omega
    have hkept : (recordFailure order s.entries key₀ startedAt).2.find? key = some state := hfind
    rw [recordFailure_find?_ne hkey] at hkept
    have hevicted := evictOldest_find?_some (htimely _ (next?_of_recording hphase)) hkept
    exact ⟨state, (expireFailureEntries_find?.mp hevicted).1, rfl⟩
  · intro _ _ _ _ _ hfind
    exact ⟨state, hfind, rfl⟩
  · intro id startedAt key₀ left _ _ _ hfind
    exact ⟨state, clearIfLatest_find?_some hfind, rfl⟩

/-- The entries that a request found open are still open when it records its attempt. -/
def OpenSinceCheck (requests : Nat → LoginRequest User Addr) (x : Watched User Addr) : Prop :=
  ∀ id key, Clear requests x id key → ∀ state, x.1.entries.find? key = some state →
    state.blockedUntil ≤ (x.1.phase id).bound x.1.clock

theorem OpenSinceCheck.step {x : Watched User Addr} (h : OpenSinceCheck requests x)
    (hordered : Ordered x) {e : LoginEvent User Addr} (htimely : e.Timely x) :
    OpenSinceCheck requests (watchedStep requests x e) := by
  intro id key hclear state hfind
  rcases hclear.before hordered htimely with ⟨hbefore, hbound, hcount⟩ | ⟨_, hbound, hnone, hsame, _⟩
  · obtain ⟨before, hentry, hblocked⟩ := entry_origin htimely hcount hfind
    rw [hblocked]
    exact le_trans (h id key hbefore before hentry) hbound
  · rw [hbound]
    rw [hsame] at hfind
    exact retryAfter_open hnone hfind

/-- The attempt is recorded under a key that an earlier one blocks. -/
def Bypass (x : Watched User Addr) : LoginEvent User Addr → Prop
  | .record id _ => ∃ p ∈ (x.1.phase id).next?, BlockedAt x.1.entries p.2 p.1
  | _ => False

theorem OpenSinceCheck.no_bypass {x : Watched User Addr} (h : OpenSinceCheck requests x)
    {e : LoginEvent User Addr} (hunovertaken : Unovertaken x e) : ¬ Bypass x e := by
  cases e with
  | record id order =>
      rintro ⟨p, hnext, state, hlive, hblocked⟩
      obtain ⟨hclear, hbound⟩ := clear_of_next? requests hnext (hunovertaken p hnext)
      have hopen := h id p.2 hclear state (liveEntry_eq_some.mp hlive).1
      omega
  | check id now => exact fun hbypass => hbypass
  | acquire id => exact fun hbypass => hbypass
  | timeOut id => exact fun hbypass => hbypass
  | start id now => exact fun hbypass => hbypass
  | verify id success => exact fun hbypass => hbypass
  | clear id => exact fun hbypass => hbypass

/-! ## Streaks -/

/-- The eviction for a new key takes an entry that no longer blocks its own. -/
def SparesBlocked (x : Watched User Addr) : LoginEvent User Addr → Prop
  | .record id order =>
      ∀ p ∈ (x.1.phase id).next?, (expireFailureEntries x.1.entries p.1).find? p.2 = none →
        authFailureCapacity ≤ (expireFailureEntries x.1.entries p.1).size →
        ∀ oldest ∈ oldestEntry order, ∀ state ∈ x.1.entries.find? oldest,
          state.blockedUntil ≤ x.1.clock
  | _ => True

/-- The entry of a blocked key lasts, unless the key is cleared or gets a new attempt. -/
theorem entry_lasts {x : Watched User Addr} (hordered : Ordered x)
    (hsound : EntriesSound x.1.clock x.1.entries) {e : LoginEvent User Addr}
    (htimely : e.Timely x) (hspares : SparesBlocked x e) {key : LoginFailureKey User Addr}
    (hcount : (watchedStep requests x e).2.attempts key = x.2.attempts key)
    {state : FailureState} (hfind : x.1.entries.find? key = some state) :
    (∃ after, (watchedStep requests x e).1.entries.find? key = some after ∧
        after.blockedUntil = state.blockedUntil) ∨
      state.blockedUntil ≤ (watchedStep requests x e).1.clock ∨
      (watchedStep requests x e).2.streak key = [] := by
  obtain ⟨s, w⟩ := x
  revert hcount
  refine watchedStep_elim (P := fun x' => x'.2.attempts key = w.attempts key →
    (∃ after, x'.1.entries.find? key = some after ∧ after.blockedUntil = state.blockedUntil) ∨
      state.blockedUntil ≤ x'.1.clock ∨ x'.2.streak key = []) requests ?_ ?_ ?_ ?_ ?_ ?_ ?_ ?_
  · intro _
    exact Or.inl ⟨state, hfind, rfl⟩
  · intro id now key₀ left waits _ _ _
    by_cases hblocked : now < state.blockedUntil
    · exact Or.inl (retryAfter_keeps hsound hfind hblocked)
    · exact Or.inr (Or.inl (not_lt.mp hblocked))
  · intro _ _ _
    exact Or.inl ⟨state, hfind, rfl⟩
  · intro _ _ _
    exact Or.inl ⟨state, hfind, rfl⟩
  · intro _ _ _ _ _
    exact Or.inl ⟨state, hfind, rfl⟩
  · rintro id order startedAt key₀ left rfl hphase hcount
    have hkey : key ≠ key₀ := by
      rintro rfl
      rw [noteRecord_attempts, if_pos rfl] at hcount
      omega
    have hstarted : startedAt ≤ s.clock := hordered.started id startedAt _ hphase
    by_cases hblocked : s.clock < state.blockedUntil
    · left
      have hfresh := (hsound key state hfind).not_stale (lt_of_le_of_lt hstarted hblocked)
      have hkept := expireFailureEntries_find?.mpr ⟨hfind, hfresh⟩
      show ∃ after, (recordFailure order s.entries key₀ startedAt).2.find? key = some after ∧ _
      rw [recordFailure_find?_ne hkey]
      cases hafter : (evictOldest order (expireFailureEntries s.entries startedAt) key₀).find? key with
      | none =>
          obtain ⟨hnew, hfull, holdest⟩ := evictOldest_removed hkept hafter
          have hover := hspares _ (next?_of_recording hphase) hnew hfull key holdest state hfind
          exact absurd hover (not_le.mpr hblocked)
      | some after =>
          have hbefore := evictOldest_find?_some (htimely _ (next?_of_recording hphase)) hafter
          rw [hkept] at hbefore
          exact ⟨after, rfl, by rw [Option.some.inj hbefore]⟩
    · exact Or.inr (Or.inl (not_lt.mp hblocked))
  · intro _ _ _ _ _
    exact Or.inl ⟨state, hfind, rfl⟩
  · intro id startedAt key₀ left _ _ _
    by_cases hkey : key = key₀
    · subst hkey
      by_cases hlatest : state.lastFailure = startedAt
      · right
        right
        rw [noteClear_streak, if_pos rfl, isLatest, hfind, Option.any_some, decide_eq_true hlatest,
          if_pos rfl]
      · exact Or.inl ⟨state, clearIfLatest_keeps hfind (Or.inr hlatest), rfl⟩
    · exact Or.inl ⟨state, clearIfLatest_keeps hfind (Or.inl hkey), rfl⟩

theorem clock_step_le {x : Watched User Addr} {e : LoginEvent User Addr} (htimely : e.Timely x) :
    x.1.clock ≤ (watchedStep requests x e).1.clock := by
  obtain ⟨s, w⟩ := x
  refine watchedStep_elim (P := fun x' => s.clock ≤ x'.1.clock) requests ?_ ?_ ?_ ?_ ?_ ?_ ?_ ?_
  · exact le_refl _
  · rintro id now key left waits rfl _
    exact htimely
  · exact fun _ _ => le_refl _
  · exact fun _ _ => le_refl _
  · rintro id now rfl _
    exact htimely
  · exact fun _ _ _ _ _ _ _ => le_refl _
  · exact fun _ _ _ _ => le_refl _
  · exact fun _ _ _ _ _ _ => le_refl _

theorem entries_step_sound {x : Watched User Addr} (hordered : Ordered x)
    (hsound : EntriesSound x.1.clock x.1.entries) {e : LoginEvent User Addr}
    (htimely : e.Timely x) :
    EntriesSound (watchedStep requests x e).1.clock (watchedStep requests x e).1.entries := by
  obtain ⟨s, w⟩ := x
  refine watchedStep_elim (P := fun x' => EntriesSound x'.1.clock x'.1.entries) requests
    ?_ ?_ ?_ ?_ ?_ ?_ ?_ ?_
  · exact hsound
  · rintro id now key left waits rfl _
    exact retryAfter_sound hsound htimely key
  · exact fun _ _ => hsound
  · exact fun _ _ => hsound
  · rintro id now rfl _ key state hfind
    exact (hsound key state hfind).mono htimely
  · rintro id order startedAt key left rfl hphase
    exact recordFailure_sound (htimely _ (next?_of_recording hphase)) hsound (le_refl _)
      (hordered.started id startedAt _ hphase) key
  · exact fun _ _ _ _ => hsound
  · intro id startedAt key left _ _ key' state hfind
    exact hsound key' state (clearIfLatest_find?_some hfind)

/-- What a step does to a streak: it goes on, it ends, or an attempt is added. -/
theorem streak_step (requests : Nat → LoginRequest User Addr) (x : Watched User Addr)
    (e : LoginEvent User Addr)
    (key : LoginFailureKey User Addr) :
    ((watchedStep requests x e).2.attempts key = x.2.attempts key ∧
      ((watchedStep requests x e).2.streak key = x.2.streak key ∨
        (watchedStep requests x e).2.streak key = [])) ∨
    ∃ id order startedAt, e = .record id order ∧ (startedAt, key) ∈ (x.1.phase id).next? ∧
      (watchedStep requests x e).1.entries = (recordFailure order x.1.entries key startedAt).2 ∧
      (watchedStep requests x e).2.streak key =
        (startedAt, (recordFailure order x.1.entries key startedAt).1) :: x.2.streak key := by
  obtain ⟨s, w⟩ := x
  refine watchedStep_elim (P := fun x' =>
    (x'.2.attempts key = w.attempts key ∧
      (x'.2.streak key = w.streak key ∨ x'.2.streak key = [])) ∨
    ∃ id order startedAt, e = .record id order ∧ (startedAt, key) ∈ (s.phase id).next? ∧
      x'.1.entries = (recordFailure order s.entries key startedAt).2 ∧
      x'.2.streak key =
        (startedAt, (recordFailure order s.entries key startedAt).1) :: w.streak key)
    requests ?_ ?_ ?_ ?_ ?_ ?_ ?_ ?_
  · exact Or.inl ⟨rfl, Or.inl rfl⟩
  · exact fun _ _ _ _ _ _ _ => Or.inl ⟨rfl, Or.inl rfl⟩
  · exact fun _ _ => Or.inl ⟨rfl, Or.inl rfl⟩
  · exact fun _ _ => Or.inl ⟨rfl, Or.inl rfl⟩
  · exact fun _ _ _ _ => Or.inl ⟨rfl, Or.inl rfl⟩
  · rintro id order startedAt key₀ left rfl hphase
    by_cases hkey : key = key₀
    · subst hkey
      refine Or.inr ⟨id, order, startedAt, rfl, next?_of_recording hphase, rfl, ?_⟩
      rw [noteRecord_streak, if_pos rfl]
    · rw [noteRecord_attempts, noteRecord_streak, if_neg hkey, if_neg hkey]
      exact Or.inl ⟨rfl, Or.inl rfl⟩
  · exact fun _ _ _ _ => Or.inl ⟨rfl, Or.inl rfl⟩
  · intro id startedAt key₀ left _ _
    refine Or.inl ⟨rfl, ?_⟩
    rw [noteClear_streak]
    by_cases hkey : key = key₀
    · subst hkey
      rw [if_pos rfl]
      split
      · exact Or.inr rfl
      · exact Or.inl rfl
    · rw [if_neg hkey]
      exact Or.inl rfl

/-- The later attempt comes after the penalty of the earlier one. -/
def AfterPenalty (later earlier : Nat × Nat) : Prop := earlier.1 + seconds earlier.2 ≤ later.1

/-- The penalty of the newest attempt under a key is in force or over, the pending attempts come
after it, and the attempts are spaced. -/
structure Paced (requests : Nat → LoginRequest User Addr) (x : Watched User Addr) : Prop where
  sound : EntriesSound x.1.clock x.1.entries
  held : ∀ key newest rest, x.2.streak key = newest :: rest →
    (∃ state, x.1.entries.find? key = some state ∧
      state.blockedUntil = newest.1 + seconds newest.2) ∨
    newest.1 + seconds newest.2 ≤ x.1.clock
  pending : ∀ id key, Clear requests x id key → ∀ newest rest, x.2.streak key = newest :: rest →
    newest.1 + seconds newest.2 ≤ (x.1.phase id).bound x.1.clock
  spaced : ∀ key, (x.2.streak key).IsChain AfterPenalty

theorem Paced.step_held {x : Watched User Addr} (h : Paced requests x) (hordered : Ordered x)
    {e : LoginEvent User Addr} (htimely : e.Timely x) (hspares : SparesBlocked x e)
    {key : LoginFailureKey User Addr} {newest : Nat × Nat} {rest : List (Nat × Nat)}
    (hstreak : (watchedStep requests x e).2.streak key = newest :: rest) :
    (∃ state, (watchedStep requests x e).1.entries.find? key = some state ∧
      state.blockedUntil = newest.1 + seconds newest.2) ∨
    newest.1 + seconds newest.2 ≤ (watchedStep requests x e).1.clock := by
  rcases streak_step requests x e key with
    ⟨hcount, hsame | hnil⟩ | ⟨id, order, startedAt, rfl, hnext, hentries, hadded⟩
  · rw [hsame] at hstreak
    rcases h.held key newest rest hstreak with ⟨state, hfind, hblocked⟩ | hover
    · rcases entry_lasts hordered h.sound htimely hspares hcount hfind with
        ⟨after, hafter, hkept⟩ | hover | hnil
      · exact Or.inl ⟨after, hafter, hkept.trans hblocked⟩
      · exact Or.inr (le_trans (le_of_eq hblocked.symm) hover)
      · rw [hsame, hstreak] at hnil
        cases hnil
    · exact Or.inr (le_trans hover (clock_step_le htimely))
  · rw [hnil] at hstreak
    cases hstreak
  · rw [hadded] at hstreak
    cases hstreak
    rw [hentries]
    exact Or.inl (recordFailure_blocks (htimely _ hnext) key)

theorem Paced.step_pending {x : Watched User Addr} (h : Paced requests x) (hordered : Ordered x)
    {e : LoginEvent User Addr} (htimely : e.Timely x) {id : Nat}
    {key : LoginFailureKey User Addr} (hclear : Clear requests (watchedStep requests x e) id key)
    {newest : Nat × Nat} {rest : List (Nat × Nat)}
    (hstreak : (watchedStep requests x e).2.streak key = newest :: rest) :
    newest.1 + seconds newest.2 ≤
      ((watchedStep requests x e).1.phase id).bound (watchedStep requests x e).1.clock := by
  rcases hclear.before hordered htimely with
    ⟨hbefore, hbound, hcount⟩ | ⟨hclock, hbound, hnone, _, hsame⟩
  · rcases streak_step requests x e key with
      ⟨_, hsame | hnil⟩ | ⟨id', order, startedAt, rfl, hnext, _, hadded⟩
    · rw [hsame] at hstreak
      exact le_trans (h.pending id key hbefore newest rest hstreak) hbound
    · rw [hnil] at hstreak
      cases hstreak
    · obtain ⟨left, hphase⟩ := mem_next? hnext
      simp only [watchedStep, watchStep, hphase, noteRecord_attempts, if_true] at hcount
      omega
  · rw [hsame] at hstreak
    rw [hbound]
    rcases h.held key newest rest hstreak with ⟨state, hfind, hblocked⟩ | hover
    · rw [← hblocked]
      exact retryAfter_none h.sound hnone hfind
    · exact le_trans hover hclock

theorem Paced.step_spaced {x : Watched User Addr} (h : Paced requests x)
    {e : LoginEvent User Addr} (hunovertaken : Unovertaken x e) (key : LoginFailureKey User Addr) :
    ((watchedStep requests x e).2.streak key).IsChain AfterPenalty := by
  rcases streak_step requests x e key with
    ⟨_, hsame | hnil⟩ | ⟨id, order, startedAt, rfl, hnext, _, hadded⟩
  · rw [hsame]
    exact h.spaced key
  · rw [hnil]
    exact List.isChain_nil
  · rw [hadded]
    have hbefore := h.spaced key
    obtain ⟨hclear, hbound⟩ := clear_of_next? requests hnext (hunovertaken _ hnext)
    cases hstreak : x.2.streak key with
    | nil => exact List.isChain_singleton _
    | cons newest rest =>
        have hpast := h.pending id key hclear newest rest hstreak
        rw [hstreak] at hbefore
        rw [hbound] at hpast
        exact List.isChain_cons_cons.mpr ⟨hpast, hbefore⟩

theorem Paced.step {x : Watched User Addr} (h : Paced requests x) (hordered : Ordered x)
    {e : LoginEvent User Addr} (htimely : e.Timely x) (hunovertaken : Unovertaken x e)
    (hspares : SparesBlocked x e) : Paced requests (watchedStep requests x e) where
  sound := entries_step_sound hordered h.sound htimely
  held := fun _ _ _ hstreak => h.step_held hordered htimely hspares hstreak
  pending := fun _ _ hclear _ _ hstreak => h.step_pending hordered htimely hclear hstreak
  spaced := h.step_spaced hunovertaken

/-- Spaced attempts take at least the sum of their penalties. -/
theorem sum_le_of_spaced {newest : Nat × Nat} {attempts : List (Nat × Nat)}
    (h : (newest :: attempts).IsChain AfterPenalty) {oldest : Nat × Nat}
    (hlast : attempts.getLast? = some oldest) :
    oldest.1 + seconds (attempts.map Prod.snd).sum ≤ newest.1 := by
  induction attempts generalizing newest with
  | nil => cases hlast
  | cons next rest ih =>
      obtain ⟨hafter, hrest⟩ := List.isChain_cons_cons.mp h
      unfold AfterPenalty at hafter
      cases rest with
      | nil =>
          cases hlast
          rw [List.map_singleton, List.sum_singleton]
          exact hafter
      | cons later rest =>
          have hsum := ih hrest (by rw [← hlast, List.getLast?_cons_cons])
          have hadd : seconds ((next :: later :: rest).map Prod.snd).sum =
              seconds next.2 + seconds ((later :: rest).map Prod.snd).sum := by
            rw [List.map_cons, List.sum_cons, seconds, seconds, seconds, Nat.add_mul]
          rw [hadd]
          omega

/-! ## Runs -/

variable (requests)

theorem OpenSinceCheck.initial (slots : Nat) :
    OpenSinceCheck requests (Watched.initial requests slots) :=
  fun _ _ _ _ hfind => by cases hfind

theorem Paced.initial (slots : Nat) : Paced requests (Watched.initial requests slots) where
  sound := fun _ _ hfind => by cases hfind
  held := fun _ _ _ hstreak => by cases hstreak
  pending := fun _ _ _ _ _ hstreak => by cases hstreak
  spaced := fun _ => List.isChain_nil

variable {requests}

/-- No attempt is recorded under a blocked key along a run that overtakes none. -/
theorem no_bypass_along {x : Watched User Addr} (hordered : Ordered x)
    (hopen : OpenSinceCheck requests x) {events : List (LoginEvent User Addr)}
    (hevents : Along (watchedStep requests) (fun x e => e.Timely x ∧ Unovertaken x e) x events) :
    Along (watchedStep requests) (fun x e => ¬ Bypass x e) x events := by
  induction events generalizing x with
  | nil => trivial
  | cons e rest ih =>
      obtain ⟨⟨htimely, hunovertaken⟩, hrest⟩ := hevents
      exact ⟨hopen.no_bypass hunovertaken,
        ih (hordered.step htimely) (hopen.step hordered htimely) hrest⟩

theorem paced_along {x : Watched User Addr} (hordered : Ordered x) (hpaced : Paced requests x)
    {events : List (LoginEvent User Addr)}
    (hevents : Along (watchedStep requests) (fun x e => e.Timely x ∧ Unovertaken x e) x events)
    (hspares : Along (watchedStep requests) SparesBlocked x events) :
    Paced requests (run (watchedStep requests) x events) := by
  induction events generalizing x with
  | nil => exact hpaced
  | cons e rest ih =>
      obtain ⟨⟨htimely, hunovertaken⟩, hrest⟩ := hevents
      exact ih (hordered.step htimely) (hpaced.step hordered htimely hunovertaken hspares.1) hrest
        hspares.2

/-- Over any steps of any login requests: when no attempt is recorded for a key between a request's
check of it and its own attempt, no attempt is made under a key that an earlier one blocks; and when
no key at capacity is evicted while it is blocked, consecutive attempts under a key that is not
cleared take at least the sum of their penalties. -/
theorem login_backoff_enforced (requests : Nat → LoginRequest User Addr) (slots : Nat)
    (events : List (LoginEvent User Addr))
    (hevents : Along (watchedStep requests) (fun x e => e.Timely x ∧ Unovertaken x e)
      (Watched.initial requests slots) events) :
    Along (watchedStep requests) (fun x e => ¬ Bypass x e) (Watched.initial requests slots) events ∧
    (Along (watchedStep requests) SparesBlocked (Watched.initial requests slots) events →
      ∀ key newest attempts oldest,
        (newest :: attempts) <:+: (run (watchedStep requests) (Watched.initial requests slots)
          events).2.streak key →
        attempts.getLast? = some oldest →
        oldest.1 + seconds (attempts.map Prod.snd).sum ≤ newest.1) := by
  refine ⟨no_bypass_along (Ordered.initial requests slots) (OpenSinceCheck.initial requests slots)
    hevents, ?_⟩
  intro hspares key newest attempts oldest hinfix hlast
  have hpaced := paced_along (Ordered.initial requests slots) (Paced.initial requests slots)
    hevents hspares
  obtain ⟨later, earlier, hstreak⟩ := hinfix
  have hspaced := hpaced.spaced key
  rw [← hstreak] at hspaced
  exact sum_le_of_spaced hspaced.left_of_append.right_of_append hlast

end

/-! ## Two requests -/

instance (x : Watched String Nat) (e : LoginEvent String Nat) : Decidable (e.Timely x) := by
  cases e with
  | check id now => exact inferInstanceAs (Decidable (_ ≤ _))
  | start id now => exact inferInstanceAs (Decidable (_ ≤ _))
  | record id order => exact inferInstanceAs (Decidable (∀ p ∈ (x.1.phase id).next?, _))
  | acquire id => exact inferInstanceAs (Decidable True)
  | timeOut id => exact inferInstanceAs (Decidable True)
  | verify id success => exact inferInstanceAs (Decidable True)
  | clear id => exact inferInstanceAs (Decidable True)

instance (x : Watched String Nat) (e : LoginEvent String Nat) : Decidable (Unovertaken x e) := by
  cases e with
  | record id order => exact inferInstanceAs (Decidable (∀ p ∈ (x.1.phase id).next?, _))
  | check id now => exact inferInstanceAs (Decidable True)
  | start id now => exact inferInstanceAs (Decidable True)
  | acquire id => exact inferInstanceAs (Decidable True)
  | timeOut id => exact inferInstanceAs (Decidable True)
  | verify id success => exact inferInstanceAs (Decidable True)
  | clear id => exact inferInstanceAs (Decidable True)

instance (x : Watched String Nat) (e : LoginEvent String Nat) : Decidable (Bypass x e) := by
  cases e with
  | record id order => exact inferInstanceAs (Decidable (∃ p ∈ (x.1.phase id).next?, _))
  | check id now => exact inferInstanceAs (Decidable False)
  | start id now => exact inferInstanceAs (Decidable False)
  | acquire id => exact inferInstanceAs (Decidable False)
  | timeOut id => exact inferInstanceAs (Decidable False)
  | verify id success => exact inferInstanceAs (Decidable False)
  | clear id => exact inferInstanceAs (Decidable False)

instance (x : Watched String Nat) (e : LoginEvent String Nat) : Decidable (SparesBlocked x e) := by
  cases e with
  | record id order => exact inferInstanceAs (Decidable (∀ p ∈ (x.1.phase id).next?, _))
  | check id now => exact inferInstanceAs (Decidable True)
  | acquire id => exact inferInstanceAs (Decidable True)
  | timeOut id => exact inferInstanceAs (Decidable True)
  | start id now => exact inferInstanceAs (Decidable True)
  | verify id success => exact inferInstanceAs (Decidable True)
  | clear id => exact inferInstanceAs (Decidable True)

/-- All requests are for one user name and come from one source. -/
def sameLogin (_ : Nat) : LoginRequest String Nat := ⟨"admin", 7⟩

/-- The second request comes a second after the first one. -/
def inTurn : List (LoginEvent String Nat) :=
  [.check 0 0, .check 0 0, .acquire 0, .start 0 0, .record 0 [],
    .record 0 [(.username "admin", ⟨1, seconds 1, 0, 0⟩)], .verify 0 false,
    .check 1 (seconds 1), .check 1 (seconds 1), .acquire 1, .start 1 (seconds 1),
    .record 1 [(.username "admin", ⟨1, seconds 1, 0, seconds 1⟩),
      (.source 7, ⟨1, seconds 1, 0, seconds 1⟩)]]

/-- Its attempt is no bypass, and comes after the penalty of the first one. -/
theorem login_backoff_enforced_in_turn :
    Along (watchedStep sameLogin) (fun x e => ¬ Bypass x e) (Watched.initial sameLogin 2) inTurn ∧
    0 + seconds 1 ≤ seconds 1 := by
  obtain ⟨hno, hspaced⟩ := login_backoff_enforced sameLogin 2 inTurn (by decide +kernel)
  have hstreak : (run (watchedStep sameLogin) (Watched.initial sameLogin 2) inTurn).2.streak
      (.username "admin") = [(seconds 1, 2), (0, 1)] := by decide +kernel
  refine ⟨hno, ?_⟩
  exact hspaced (by decide +kernel) (.username "admin") (seconds 1, 2) [(0, 1)] (0, 1)
    (by rw [hstreak]) rfl

/-- Both requests find the keys open, and each records its attempt after that. -/
def burst : List (LoginEvent String Nat) :=
  [.check 0 0, .check 0 0, .check 1 0, .check 1 0, .acquire 0, .acquire 1, .start 0 0,
    .record 0 [], .record 0 [(.username "admin", ⟨1, seconds 1, 0, 0⟩)], .verify 0 false,
    .start 1 1000, .record 1 [(.username "admin", ⟨1, seconds 1, 0, 0⟩),
      (.source 7, ⟨1, seconds 1, 0, 0⟩)]]

/-- The second request of a burst gets to its verification while the first one blocks the key. -/
theorem burst_bypasses_backoff :
    ¬ ∀ events : List (LoginEvent String Nat),
      Along (watchedStep sameLogin) (fun x e => e.Timely x) (Watched.initial sameLogin 2) events →
      Along (watchedStep sameLogin) (fun x e => ¬ Bypass x e) (Watched.initial sameLogin 2)
        events := by
  intro hclaim
  have htimely : Along (watchedStep sameLogin) (fun x e => e.Timely x)
      (Watched.initial sameLogin 2) burst := by decide +kernel
  have hbypass : ¬ Along (watchedStep sameLogin) (fun x e => ¬ Bypass x e)
      (Watched.initial sameLogin 2) burst := by decide +kernel
  exact hbypass (hclaim burst htimely)

end RouterView.Auth
