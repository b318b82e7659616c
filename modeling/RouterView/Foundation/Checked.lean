/-
  Foundation/Checked.lean --- guards in `Except`, and the transaction around them.

  A function that checks its arguments one after the other and stops at the first failing
  check is a sequence of `ensure`s.  The lemmas invert such a sequence without unfolding
  the monad: it succeeds exactly when every check holds and the remainder succeeds.  A
  transaction leaves the state of its last step, or the state it started from when a step
  fails; what every step keeps, by a reflexive and transitive relation, it keeps.
-/
import Mathlib.Tactic

set_option autoImplicit false

namespace RouterView.Foundation

section

variable {ε α β : Type}

/-- Stop with `e` unless the check holds. -/
def ensure (c : Prop) [Decidable c] (e : ε) : Except ε Unit :=
  if c then .ok () else .error e

@[simp] theorem ensure_eq_ok_iff {c : Prop} [Decidable c] {e : ε} {u : Unit} :
    ensure c e = .ok u ↔ c := by
  unfold ensure
  split <;> simp_all

theorem ensure_of {c : Prop} [Decidable c] {e : ε} (h : c) : ensure c e = .ok () := by
  simp [ensure, h]

theorem exists_ok_of_isSome {x : Except ε α} (h : x.toOption.isSome = true) :
    ∃ a, x = .ok a := by
  cases x with
  | error e => cases h
  | ok a => exact ⟨a, rfl⟩

/-- A computation after another succeeds exactly when the first does and the
second does on its result. -/
theorem bind_eq_ok_iff {x : Except ε α} {f : α → Except ε β} {b : β} :
    (x >>= f) = .ok b ↔ ∃ a, x = .ok a ∧ f a = .ok b := by
  cases x with
  | error e => simp [bind, Except.bind]
  | ok a => simp [bind, Except.bind]

theorem ok_bind (a : α) (f : α → Except ε β) : (Except.ok a >>= f) = f a := rfl

theorem error_bind (e : ε) (f : α → Except ε β) :
    ((Except.error e : Except ε α) >>= f) = .error e := rfl

theorem pure_eq_ok (a : α) : (pure a : Except ε α) = .ok a := rfl

/-- A guarded computation succeeds exactly when the check holds and the
remainder succeeds. -/
theorem ensure_bind_eq_ok_iff {c : Prop} [Decidable c] {e : ε}
    {f : Unit → Except ε β} {b : β} :
    (ensure c e >>= f) = .ok b ↔ c ∧ f () = .ok b := by
  rw [bind_eq_ok_iff]
  constructor
  · rintro ⟨u, hc, hf⟩
    exact ⟨ensure_eq_ok_iff.mp hc, hf⟩
  · rintro ⟨hc, hf⟩
    exact ⟨(), ensure_of hc, hf⟩

/-- A guarded computation fails with the guard's error or with the remainder's. -/
theorem ensure_bind_eq_error {c : Prop} [Decidable c] {e e' : ε}
    {f : Unit → Except ε β} (h : (ensure c e >>= f) = .error e') :
    (¬ c ∧ e' = e) ∨ (c ∧ f () = .error e') := by
  by_cases hc : c
  · rw [ensure_of hc] at h
    exact Or.inr ⟨hc, h⟩
  · simp only [ensure, hc, if_false, error_bind, Except.error.injEq] at h
    exact Or.inl ⟨hc, h.symm⟩

/-- `Option::ok_or`. -/
def okOr (o : Option α) (e : ε) : Except ε α :=
  match o with
  | none => .error e
  | some a => .ok a

@[simp] theorem okOr_eq_ok_iff {o : Option α} {e : ε} {a : α} :
    okOr o e = .ok a ↔ o = some a := by
  cases o <;> simp [okOr]

/-- Every error of the computation is a `P`. -/
def FailsOnly (P : ε → Prop) (x : Except ε α) : Prop := ∀ e, x = .error e → P e

namespace FailsOnly

variable {P : ε → Prop}

theorem ok (a : α) : FailsOnly P (Except.ok a : Except ε α) := fun _ h => by cases h

theorem error {e : ε} (he : P e) : FailsOnly P (Except.error e : Except ε α) := by
  intro e' h
  cases h
  exact he

theorem imp {P' : ε → Prop} {x : Except ε α} (hx : FailsOnly P x) (h : ∀ e, P e → P' e) :
    FailsOnly P' x := fun e he => h e (hx e he)

theorem bind {x : Except ε α} {f : α → Except ε β} (hx : FailsOnly P x)
    (hf : ∀ a, x = .ok a → FailsOnly P (f a)) : FailsOnly P (x >>= f) := by
  cases x with
  | error e => exact error (hx e rfl)
  | ok a => exact hf a rfl

theorem ensure {c : Prop} [Decidable c] {e : ε} (he : ¬ c → P e) :
    FailsOnly P (Foundation.ensure c e) := by
  unfold Foundation.ensure
  split
  · exact ok ()
  · rename_i hc
    exact error (he hc)

theorem okOr {o : Option α} {e : ε} (he : o = none → P e) : FailsOnly P (Foundation.okOr o e) := by
  cases o with
  | none => exact error (he rfl)
  | some a => exact ok a

end FailsOnly

end

/-! ## Transactions -/

section

variable {ε σ : Type}

/-- Run the steps; a failure rolls back. -/
def transact (steps : σ → Except ε σ) (s : σ) : Except ε Unit × σ :=
  match steps s with
  | .ok s' => (.ok (), s')
  | .error e => (.error e, s)

theorem transact_cases (steps : σ → Except ε σ) (s : σ) :
    (∃ e, transact steps s = (.error e, s)) ∨
      ∃ s', steps s = .ok s' ∧ transact steps s = (.ok (), s') := by
  unfold transact
  cases steps s with
  | error e => exact Or.inl ⟨e, rfl⟩
  | ok s' => exact Or.inr ⟨s', rfl, rfl⟩

/-- The step relates what it starts from to what it leaves. -/
def Keeps (R : σ → σ → Prop) (step : σ → Except ε σ) : Prop :=
  ∀ s s', step s = .ok s' → R s s'

namespace Keeps

variable {R : σ → σ → Prop} {f g : σ → Except ε σ}

theorem andThen (htrans : ∀ {a b c}, R a b → R b c → R a c) (hf : Keeps R f) (hg : Keeps R g) :
    Keeps R (fun s => f s >>= g) := by
  intro s s' h
  obtain ⟨mid, hmid, h⟩ := bind_eq_ok_iff.mp h
  exact htrans (hf s mid hmid) (hg mid s' h)

/-- A step that is taken on a condition only. -/
theorem onlyIf (hrefl : ∀ s, R s s) (c : Prop) [Decidable c] (hf : Keeps R f) :
    Keeps R (fun s => if c then f s else .ok s) := by
  intro s s' h
  dsimp only at h
  split at h
  · exact hf s s' h
  · cases h
    exact hrefl s

end Keeps

end

end RouterView.Foundation
