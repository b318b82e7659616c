/-
  Foundation/Pending.lean --- what was started and has not ended yet.

  Timers, or requests that wait for an answer.  Each gets an identifier that is
  never used again, by which it is looked up and ended.

  Requests whose steps interleave are a table of phases: where each of them stands,
  those that never came included.
-/
import Mathlib.Logic.Function.Basic
import Mathlib.Tactic

set_option autoImplicit false

namespace RouterView.Foundation

/-! ## Phases -/

/-- The phase of each request. -/
structure Phases (φ : Type) where
  phase : Nat → φ

namespace Phases

variable {φ : Type}

instance : CoeFun (Phases φ) (fun _ => Nat → φ) := ⟨phase⟩

/-- Every request is in the phase. -/
def all (a : φ) : Phases φ := ⟨fun _ => a⟩

/-- The request enters the phase. -/
def set (s : Phases φ) (i : Nat) (a : φ) : Phases φ := ⟨Function.update s.phase i a⟩

@[simp] theorem all_apply (a : φ) (i : Nat) : all a i = a := rfl

@[simp] theorem set_self (s : Phases φ) (i : Nat) (a : φ) : s.set i a i = a := by
  simp only [set, Function.update_self]

@[simp] theorem set_set (s : Phases φ) (i : Nat) (a b : φ) : (s.set i a).set i b = s.set i b := by
  simp only [set, Function.update_idem]

theorem set_of_ne (s : Phases φ) {i j : Nat} (a : φ) (h : j ≠ i) : s.set i a j = s j := by
  simp only [set, Function.update_of_ne h]

end Phases

/-! ## Pending items -/

/-- The pending items, each under its identifier, and the next identifier. -/
structure Pending (α : Type) where
  items : List (Nat × α)
  next : Nat
  issued : ∀ item ∈ items, item.1 < next
  distinct : (items.map Prod.fst).Nodup

namespace Pending

variable {α : Type} {s : Pending α} {id other : Nat} {a b : α}

/-- Nothing is pending. -/
def empty : Pending α := ⟨[], 0, fun _ h => absurd h List.not_mem_nil, List.nodup_nil⟩

/-- The next identifier gets the item. -/
def start (a : α) (s : Pending α) : Pending α where
  items := s.items ++ [(s.next, a)]
  next := s.next + 1
  issued := by
    intro item hitem
    rcases List.mem_append.mp hitem with hold | hnew
    · exact (s.issued item hold).trans (Nat.lt_succ_self _)
    · rw [List.mem_singleton.mp hnew]
      exact Nat.lt_succ_self _
  distinct := by
    rw [List.map_append, List.nodup_append]
    refine ⟨s.distinct, List.nodup_singleton _, ?_⟩
    intro x hx y hy
    obtain ⟨item, hitem, rfl⟩ := List.mem_map.mp hx
    rw [List.map_singleton, List.mem_singleton] at hy
    rw [hy]
    exact (s.issued item hitem).ne

/-- The item of the identifier ends, if there is one. -/
def stop (id : Nat) (s : Pending α) : Pending α where
  items := s.items.filter (fun item => item.1 != id)
  next := s.next
  issued := fun item hitem => s.issued item (List.mem_of_mem_filter hitem)
  distinct := s.distinct.sublist (List.filter_sublist.map _)

/-- The item of the identifier. -/
def get? (id : Nat) (s : Pending α) : Option α :=
  (s.items.find? (fun item => item.1 == id)).map Prod.snd

@[simp] theorem empty_items : (empty : Pending α).items = [] := rfl

@[simp] theorem start_items : (s.start a).items = s.items ++ [(s.next, a)] := rfl

@[simp] theorem stop_items :
    (s.stop id).items = s.items.filter (fun item => item.1 != id) := rfl

theorem mem_of_get? (h : s.get? id = some a) : (id, a) ∈ s.items := by
  obtain ⟨item, hfind, rfl⟩ := Option.map_eq_some_iff.mp h
  have hid := List.find?_some hfind
  rw [beq_iff_eq] at hid
  rw [← hid]
  exact List.mem_of_find?_eq_some hfind

/-- An identifier has one item. -/
theorem eq_of_get? (h : s.get? id = some a) (hmem : (id, b) ∈ s.items) : b = a := by
  have hpair := List.inj_on_of_nodup_map s.distinct hmem (mem_of_get? h) rfl
  exact congrArg Prod.snd hpair

/-- What is pending besides the only item: nothing. -/
theorem stop_only (h : s.items = [(id, a)]) : (s.stop id).items = [] := by
  rw [stop_items, h]
  simp

end Pending

end RouterView.Foundation
