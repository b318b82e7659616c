/-
  Foundation/Replay.lean --- replaying a log of overwrites.

  A log of messages is read by position, from a channel that keeps the newest ones
  only.  A message sets a cell or leaves it alone.  Where every message that left
  the cell alone found it unchanged, replaying any end of the log over the latest
  value gives the latest value, so that a reader may start from a value that is
  newer than its position.
-/
import Mathlib.Tactic

set_option autoImplicit false

namespace RouterView.Foundation

/-! ## Bounded logs -/

/-- What a reader at a position receives. -/
inductive Received (μ : Type) where
  | nothing
  /-- The channel dropped messages that the reader had not received; it continues at
  the oldest one left. -/
  | lagged (position : Nat)
  | message (value : μ)

/-- A receive at the position, from a channel that keeps `capacity` messages. -/
def receive {μ : Type} (capacity : Nat) (log : List μ) (position : Nat) : Received μ :=
  if capacity < log.length - position then .lagged (log.length - capacity)
  else match log[position]? with
    | some value => .message value
    | none => .nothing

theorem receive_message {μ : Type} {capacity position : Nat} {log : List μ} {value : μ}
    (h : receive capacity log position = .message value) : log[position]? = some value := by
  unfold receive at h
  split at h
  · cases h
  · cases hvalue : log[position]? with
    | none => simp [hvalue] at h
    | some other =>
        simp only [hvalue, Received.message.injEq] at h
        rw [h]

theorem receive_lagged {μ : Type} {capacity position next : Nat} {log : List μ}
    (h : receive capacity log position = .lagged next) : next ≤ log.length := by
  unfold receive at h
  split at h
  · injection h with h
    omega
  · cases hvalue : log[position]? <;> simp [hvalue] at h

theorem receive_nothing {μ : Type} {capacity position : Nat} {log : List μ}
    (h : receive capacity log position = .nothing) : log.length ≤ position := by
  unfold receive at h
  split at h
  · cases h
  · cases hvalue : log[position]? with
    | none => exact List.getElem?_eq_none_iff.mp hvalue
    | some other => simp [hvalue] at h

/-! ## Overwrites -/

section

variable {α : Type}

/-- The value after the overwrites. -/
def overwrite (value : α) (effects : List (Option α)) : α :=
  effects.foldl (fun value effect => effect.getD value) value

@[simp] theorem overwrite_nil (value : α) : overwrite value [] = value := rfl

@[simp] theorem overwrite_cons (value : α) (effect : Option α) (rest : List (Option α)) :
    overwrite value (effect :: rest) = overwrite (effect.getD value) rest := rfl

theorem overwrite_append (value : α) (first second : List (Option α)) :
    overwrite value (first ++ second) = overwrite (overwrite value first) second :=
  List.foldl_append

/-- Overwrites set the value, or leave every value alone. -/
theorem overwrite_const_or_id (effects : List (Option α)) :
    (∃ result, ∀ value, overwrite value effects = result) ∨
      ∀ value, overwrite value effects = value := by
  induction effects with
  | nil => exact Or.inr (fun _ => rfl)
  | cons effect rest ih =>
      cases effect with
      | none => simpa using ih
      | some set => exact Or.inl ⟨overwrite set rest, fun _ => rfl⟩

/-- The effect of a message that takes the cell from one value to the next: it sets
the next one, or finds it unchanged. -/
structure Carries (effect : Option α) (previous current : α) : Prop where
  sets : ∀ value, effect = some value → value = current
  unchanged : effect = none → previous = current

theorem Carries.getD {effect : Option α} {previous current value : α}
    (h : Carries effect previous current) (hvalue : value = previous ∨ value = current) :
    effect.getD value = current := by
  cases effect with
  | some set => exact h.sets set rfl
  | none =>
      have hsame := h.unchanged rfl
      rcases hvalue with rfl | rfl
      · exact hsame
      · rfl

theorem Carries.whole (previous current : α) : Carries (some current) previous current where
  sets := fun _ h => (Option.some.inj h).symm
  unchanged := fun h => by cases h

/-- Replaying any end of the log over the latest value gives it again. -/
def Settles (log : List (Option α)) (latest : α) : Prop :=
  ∀ position, overwrite latest (log.drop position) = latest

/-- Over a newer value, it gives the latest or the newer one. -/
theorem Settles.newer {log : List (Option α)} {latest : α} (h : Settles log latest)
    (value : α) (position : Nat) :
    overwrite value (log.drop position) = latest ∨
      overwrite value (log.drop position) = value := by
  rcases overwrite_const_or_id (log.drop position) with ⟨result, hresult⟩ | hid
  · have hlatest := h position
    rw [hresult] at hlatest
    exact Or.inl ((hresult value).trans hlatest)
  · exact Or.inr (hid value)

/-- A reader whose value the rest of the log takes to the latest or to the next value
follows a message that carries the next one. -/
theorem Carries.follows {effect : Option α} {latest current value : α} {log : List (Option α)}
    {position : Nat} (h : Carries effect latest current) (hposition : position ≤ log.length)
    (hvalue : overwrite value (log.drop position) = latest ∨
      overwrite value (log.drop position) = current) :
    overwrite value ((log ++ [effect]).drop position) = current := by
  rw [List.drop_append_of_le_length hposition, overwrite_append]
  exact h.getD hvalue

theorem Carries.settles {effect : Option α} {latest current : α} {log : List (Option α)}
    (h : Carries effect latest current) (hlog : Settles log latest) :
    Settles (log ++ [effect]) current := by
  intro position
  by_cases hposition : position ≤ log.length
  · exact h.follows hposition (hlog.newer current position)
  · rw [List.drop_eq_nil_of_le (by simp; omega)]
    rfl

/-- A message that sets the cell needs no history. -/
theorem settles_set (log : List (Option α)) (current : α) :
    Settles (log ++ [some current]) current := by
  intro position
  by_cases hposition : position ≤ log.length
  · rw [List.drop_append_of_le_length hposition, overwrite_append]
    rfl
  · rw [List.drop_eq_nil_of_le (by simp; omega)]
    rfl

/-- Receiving the message at the position. -/
theorem overwrite_drop {value : α} {log : List (Option α)} {position : Nat} {effect : Option α}
    (h : log[position]? = some effect) :
    overwrite value (log.drop position) =
      overwrite (effect.getD value) (log.drop (position + 1)) := by
  obtain ⟨hlt, heffect⟩ := List.getElem?_eq_some_iff.mp h
  rw [List.drop_eq_getElem_cons hlt, heffect, overwrite_cons]

end

end RouterView.Foundation
