/-
  Foundation/WaitLoop.lean --- a loop that waits for a condition.

  The waiter creates a future of a notification, reads the condition, and awaits the
  future when the condition does not hold; then it starts again.  A notification that
  finds nobody parked leaves one permit, which the next await takes.  When whoever makes
  the condition true notifies, the waiter is never parked while the condition holds.
-/
import Mathlib.Tactic

set_option autoImplicit false

namespace RouterView.Foundation

/-! ## The waiter -/

/-- Where the waiter stands: before it waits, about to read the condition, about to await
the notification, parked; or it has returned, or was given up. -/
inductive WaitPhase where
  | idle
  | checking
  | awaiting
  | parked
  | returned
  | abandoned
  deriving DecidableEq, Repr

/-- A waiter, with the permit of its notification. -/
structure Waiter where
  permit : Bool
  phase : WaitPhase
  deriving DecidableEq, Repr

namespace Waiter

/-- Nobody waits, and no permit is left. -/
def new : Waiter := ⟨false, .idle⟩

/-- `notify_one`. -/
def notifyOne (w : Waiter) : Waiter :=
  if w.phase = .parked then { w with phase := .checking } else { w with permit := true }

/-- The waiter begins to wait. -/
def start (w : Waiter) : Waiter := if w.phase = .idle then { w with phase := .checking } else w

/-- The waiter is given up. -/
def abandon (w : Waiter) : Waiter :=
  match w.phase with
  | .checking => { w with phase := .abandoned }
  | .awaiting => { w with phase := .abandoned }
  | .parked => { w with phase := .abandoned }
  | _ => w

/-- A step of the loop, with the condition as it is. -/
def wait (condition : Bool) (w : Waiter) : Waiter :=
  match w.phase with
  | .checking => { w with phase := if condition then .returned else .awaiting }
  | .awaiting => if w.permit then ⟨false, .checking⟩ else { w with phase := .parked }
  | _ => w

/-- The waiter waits. -/
def Waiting (w : Waiter) : Prop := w.phase = .checking ∨ w.phase = .awaiting ∨ w.phase = .parked

instance (w : Waiter) : Decidable w.Waiting :=
  inferInstanceAs (Decidable (_ ∨ _ ∨ _))

/-! ## No lost notification -/

/-- The waiter is not parked while the condition holds, and is not about to park. -/
structure Alert (condition : Bool) (w : Waiter) : Prop where
  awaiting : w.phase = .awaiting → condition = true → w.permit = true
  parked : w.phase = .parked → condition = false

variable {condition condition' : Bool} {w : Waiter}

theorem alert_new (condition : Bool) : Alert condition new := by constructor <;> simp [new]

theorem Alert.wait (h : Alert condition w) : Alert condition (w.wait condition) := by
  cases hphase : w.phase with
  | checking => constructor <;> cases condition <;> simp [Waiter.wait, hphase]
  | awaiting =>
      cases hpermit : w.permit with
      | true => constructor <;> simp [Waiter.wait, hphase, hpermit]
      | false =>
          refine ⟨by simp [Waiter.wait, hphase, hpermit], fun _ => ?_⟩
          cases condition with
          | false => rfl
          | true =>
              have hleft := h.awaiting hphase rfl
              rw [hpermit] at hleft
              cases hleft
  | _ => rw [show w.wait condition = w by simp only [Waiter.wait, hphase]]; exact h

theorem Alert.start (h : Alert condition w) : Alert condition w.start := by
  unfold Waiter.start
  split
  · constructor <;> simp
  · exact h

theorem Alert.abandon (h : Alert condition w) : Alert condition w.abandon := by
  cases hphase : w.phase with
  | checking => constructor <;> simp [Waiter.abandon, hphase]
  | awaiting => constructor <;> simp [Waiter.abandon, hphase]
  | parked => constructor <;> simp [Waiter.abandon, hphase]
  | _ => rw [show w.abandon = w by simp only [Waiter.abandon, hphase]]; exact h

/-- A notification leaves no waiter parked. -/
theorem alert_notifyOne (condition : Bool) (w : Waiter) : Alert condition w.notifyOne := by
  unfold notifyOne
  split
  · constructor <;> simp
  · next h => exact ⟨fun _ _ => rfl, fun hparked => absurd hparked h⟩

/-- A change that does not make the condition true needs no notification. -/
theorem Alert.weaken (h : Alert condition w) (hcondition : condition' = true → condition = true) :
    Alert condition' w where
  awaiting := fun hphase htrue => h.awaiting hphase (hcondition htrue)
  parked := by
    intro hphase
    have hfalse := h.parked hphase
    cases condition' with
    | false => rfl
    | true =>
        rw [hcondition rfl] at hfalse
        cases hfalse

/-! ## Phases -/

theorem notifyOne_returned (h : w.notifyOne.phase = .returned) :
    w.phase = .returned := by
  unfold Waiter.notifyOne at h
  split at h
  · cases h
  · exact h

theorem notifyOne_idle (h : w.notifyOne.phase ≠ .idle) : w.phase ≠ .idle := by
  unfold Waiter.notifyOne at h
  split at h
  · next hparked => simp [hparked]
  · exact h

theorem start_returned (h : w.start.phase = .returned) : w.phase = .returned := by
  unfold Waiter.start at h
  split at h
  · cases h
  · exact h

theorem wait_returned (h : (w.wait condition).phase = .returned) :
    w.phase = .returned ∨ condition = true := by
  cases hphase : w.phase <;> cases condition <;> simp [Waiter.wait, hphase] at h ⊢
  split at h <;> cases h

theorem wait_idle (h : (w.wait condition).phase ≠ .idle) :
    w.phase ≠ .idle := by
  intro hphase
  simp [Waiter.wait, hphase] at h

theorem not_idle_of_waiting (h : w.Waiting) : w.phase ≠ .idle := by
  obtain hphase | hphase | hphase := h <;> simp [hphase]

theorem abandon_of_waiting (h : w.Waiting) : w.abandon.phase ≠ .returned := by
  obtain hphase | hphase | hphase := h <;> simp [Waiter.abandon, hphase]

theorem waiting_notifyOne (h : w.Waiting) : w.notifyOne.Waiting := by
  obtain hphase | hphase | hphase := h <;> simp [notifyOne, Waiting, hphase]

/-- While the condition holds, three steps of the loop end it. -/
theorem Alert.returns (h : Alert true w) (hwaiting : w.Waiting) :
    (((w.wait true).wait true).wait true).phase = .returned := by
  obtain hphase | hphase | hphase := hwaiting
  · simp [Waiter.wait, hphase]
  · simp [Waiter.wait, hphase, h.awaiting hphase rfl]
  · cases h.parked hphase

end Waiter

end RouterView.Foundation
