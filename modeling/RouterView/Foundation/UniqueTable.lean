/-
  Foundation/UniqueTable.lean --- rows under uniqueness constraints.

  No two rows of such a table clash.  With one unique column, rows clash when
  they agree in it; with several, when they agree in one of them.  An insert
  that would clash is refused, and an update may not change what a row clashes
  with, so the constraint is part of the type.
-/
import Mathlib.Tactic

set_option autoImplicit false

namespace RouterView.Foundation

/-- When two rows may not both be stored. -/
class UniqueRow (α : Type) where
  clash : α → α → Bool
  clash_self : ∀ a, clash a a = true
  clash_comm : ∀ a b, clash a b = clash b a

/-- A table none of whose rows clash. -/
structure UniqueTable (α : Type) [UniqueRow α] where
  rows : List α
  unique : rows.Pairwise (fun a b => UniqueRow.clash a b = false)

namespace UniqueTable

variable {α : Type} [UniqueRow α]

instance [DecidableEq α] : DecidableEq (UniqueTable α) := fun t u =>
  decidable_of_iff (t.rows = u.rows)
    ⟨fun h => by
      cases t
      cases u
      simp only at h
      subst h
      rfl, fun h => by rw [h]⟩

/-- The table without rows. -/
def empty : UniqueTable α := ⟨[], List.Pairwise.nil⟩

/-- Insert a row, unless it clashes with a stored one. -/
def insert (t : UniqueTable α) (row : α) : Option (UniqueTable α) :=
  if h : ∀ a ∈ t.rows, UniqueRow.clash a row = false then
    some ⟨t.rows ++ [row], by
      rw [List.pairwise_append]
      refine ⟨t.unique, List.pairwise_singleton _ _, ?_⟩
      intro a ha b hb
      rw [List.mem_singleton.mp hb]
      exact h a ha⟩
  else none

/-- Update the rows that satisfy `p`, without changing what they clash with. -/
def updateWhere (p : α → Bool) (f : α → α)
    (hf : ∀ a b, UniqueRow.clash (f a) b = UniqueRow.clash a b) (t : UniqueTable α) :
    UniqueTable α where
  rows := t.rows.map (fun r => if p r then f r else r)
  unique := by
    have hleft : ∀ a b, UniqueRow.clash (if p a then f a else a) b = UniqueRow.clash a b := by
      intro a b
      split
      · exact hf a b
      · rfl
    rw [List.pairwise_map]
    refine t.unique.imp ?_
    intro a b hab
    rw [hleft, UniqueRow.clash_comm, hleft, UniqueRow.clash_comm]
    exact hab

/-- How many rows satisfy the condition of an update. -/
def countWhere (p : α → Bool) (t : UniqueTable α) : Nat := t.rows.countP p

@[simp] theorem empty_rows : (empty : UniqueTable α).rows = [] := rfl

@[simp] theorem updateWhere_rows (p : α → Bool) (f : α → α)
    (hf : ∀ a b, UniqueRow.clash (f a) b = UniqueRow.clash a b) (t : UniqueTable α) :
    (t.updateWhere p f hf).rows = t.rows.map (fun r => if p r then f r else r) := rfl

/-- An insert appends the row, which clashes with no other. -/
theorem insert_eq_some {t t' : UniqueTable α} {row : α} (h : t.insert row = some t') :
    t'.rows = t.rows ++ [row] ∧ ∀ a ∈ t.rows, UniqueRow.clash a row = false := by
  unfold insert at h
  split at h
  · rename_i hfree
    rw [Option.some.injEq] at h
    rw [← h]
    exact ⟨rfl, hfree⟩
  · cases h

/-- Rows that clash are one row. -/
theorem eq_of_clash (t : UniqueTable α) {a b : α} (ha : a ∈ t.rows) (hb : b ∈ t.rows)
    (h : UniqueRow.clash a b = true) : a = b := by
  by_contra hne
  have hsymm : Std.Symm (fun x y : α => UniqueRow.clash x y = false) :=
    ⟨fun x y hxy => (UniqueRow.clash_comm y x).trans hxy⟩
  have hfree := t.unique.forall ha hb hne
  rw [h] at hfree
  cases hfree

end UniqueTable

end RouterView.Foundation
