/-
  Foundation/CountMap.lean --- a map from keys to the number of holders.

  The map stores an entry for the keys that are held, and none for the others.
  What it counts is a list of held keys, and the two rules say how taking one
  hold and giving one up are followed by the map.
-/
import Mathlib.Data.List.Perm.Basic
import Mathlib.Logic.Function.Basic
import Mathlib.Tactic

set_option autoImplicit false

namespace RouterView.Foundation

/-- A map from keys to counts, with or without an entry for a key. -/
abbrev CountMap (K : Type) := K → Option Nat

namespace CountMap

variable {K : Type}

/-- The map without entries. -/
def empty : CountMap K := fun _ => none

/-- The count of a key, absent entries counting as zero. -/
def count (counts : CountMap K) (key : K) : Nat := (counts key).getD 0

/-- The entry that a number of holders has. -/
def entry (n : Nat) : Option Nat := if n = 0 then none else some n

@[simp] theorem entry_getD (n : Nat) : (entry n).getD 0 = n := by
  unfold entry
  split
  · next h => exact h.symm
  · rfl

theorem entry_succ (n : Nat) : entry (n + 1) = some (n + 1) := if_neg (Nat.succ_ne_zero n)

variable [DecidableEq K]

/-- Store a count for a key. -/
def set (counts : CountMap K) (key : K) (n : Nat) : CountMap K :=
  Function.update counts key (some n)

/-- Drop the entry of a key. -/
def remove (counts : CountMap K) (key : K) : CountMap K := Function.update counts key none

/-- The map has an entry for exactly the held keys, and it is how often each is held. -/
def Counts (counts : CountMap K) (held : List K) : Prop :=
  ∀ key, counts key = entry (held.count key)

theorem Counts.empty : Counts (CountMap.empty : CountMap K) [] := by
  intro key
  rw [List.count_nil]
  rfl

theorem Counts.count_eq {counts : CountMap K} {held : List K} (h : Counts counts held) (key : K) :
    counts.count key = held.count key := by
  rw [CountMap.count, h key, entry_getD]

/-- What is counted does not depend on the order of the holders. -/
theorem Counts.perm {counts : CountMap K} {held other : List K} (h : Counts counts held)
    (hperm : held.Perm other) : Counts counts other := by
  intro key
  rw [h key, hperm.count_eq key]

/-- Taking one hold adds one to the count of its key. -/
theorem Counts.take {counts : CountMap K} {held : List K} (h : Counts counts held) (key : K) :
    Counts (counts.set key (counts.count key + 1)) (key :: held) := by
  intro other
  by_cases hkey : other = key
  · subst hkey
    rw [set, Function.update_self, h.count_eq, List.count_cons_self, entry_succ]
  · rw [set, Function.update_of_ne hkey, h other, List.count_cons_of_ne (Ne.symm hkey)]

/-- Giving up the last hold of a key drops its entry. -/
theorem Counts.release_last {counts : CountMap K} {key : K} {held : List K}
    (h : Counts counts (key :: held)) (hlast : counts.count key ≤ 1) :
    Counts (counts.remove key) held := by
  rw [h.count_eq, List.count_cons_self] at hlast
  intro other
  by_cases hkey : other = key
  · subst hkey
    have hnone : held.count other = 0 := by omega
    rw [remove, Function.update_self, hnone]
    rfl
  · rw [remove, Function.update_of_ne hkey, h other, List.count_cons_of_ne (Ne.symm hkey)]

/-- Giving up one hold of several takes one from the count. -/
theorem Counts.release {counts : CountMap K} {key : K} {held : List K}
    (h : Counts counts (key :: held)) (hmore : 1 < counts.count key) :
    Counts (counts.set key (counts.count key - 1)) held := by
  rw [h.count_eq, List.count_cons_self] at hmore
  obtain ⟨n, hn⟩ : ∃ n, held.count key = n + 1 := ⟨held.count key - 1, by omega⟩
  intro other
  by_cases hkey : other = key
  · subst hkey
    rw [set, Function.update_self, h.count_eq, List.count_cons_self, hn, Nat.add_sub_cancel,
      entry_succ]
  · rw [set, Function.update_of_ne hkey, h other, List.count_cons_of_ne (Ne.symm hkey)]

end CountMap

end RouterView.Foundation
