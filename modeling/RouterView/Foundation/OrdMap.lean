/-
  Foundation/OrdMap.lean --- a map iterated in the order of its keys.

  The model of an ordered map: the entries in strictly increasing key order,
  carried together with the proof that they are.  The one update is `alter`,
  the entry-or-default update of a key in place.
-/
import Mathlib.Order.Basic
import Mathlib.Algebra.BigOperators.Group.List.Basic
import Mathlib.Algebra.Order.Group.Int
import Mathlib.Tactic

set_option autoImplicit false

namespace RouterView.Foundation

/-- Entries in strictly increasing key order. -/
structure OrdMap (K V : Type) [LinearOrder K] where
  entries : List (K × V)
  sorted : entries.Pairwise (fun x y => x.1 < y.1)

namespace OrdMap

variable {K V : Type} [LinearOrder K]

/-- The map without entries. -/
def empty : OrdMap K V := ⟨[], List.Pairwise.nil⟩

/-- Entry-or-default update on the entry list: an absent key enters at its place
with `f` applied to the default. -/
def alterEntries (k : K) (d : V) (f : V → V) : List (K × V) → List (K × V)
  | [] => [(k, f d)]
  | e :: rest =>
      if k < e.1 then (k, f d) :: e :: rest
      else if k = e.1 then (e.1, f e.2) :: rest
      else e :: alterEntries k d f rest

theorem mem_alterEntries_key {k : K} {d : V} {f : V → V} {l : List (K × V)}
    {x : K × V} (hx : x ∈ alterEntries k d f l) : x.1 = k ∨ x ∈ l := by
  induction l with
  | nil => simp_all [alterEntries]
  | cons e rest ih =>
      simp only [alterEntries] at hx
      split at hx
      · rcases List.mem_cons.mp hx with rfl | hmem
        · exact Or.inl rfl
        · exact Or.inr hmem
      · split at hx
        · rename_i hk
          rcases List.mem_cons.mp hx with rfl | hmem
          · exact Or.inl hk.symm
          · exact Or.inr (List.mem_cons_of_mem _ hmem)
        · rcases List.mem_cons.mp hx with rfl | hmem
          · exact Or.inr List.mem_cons_self
          · rcases ih hmem with h | h
            · exact Or.inl h
            · exact Or.inr (List.mem_cons_of_mem _ h)

theorem alterEntries_sorted (k : K) (d : V) (f : V → V) {l : List (K × V)}
    (h : l.Pairwise (fun x y => x.1 < y.1)) :
    (alterEntries k d f l).Pairwise (fun x y => x.1 < y.1) := by
  induction l with
  | nil => exact List.pairwise_singleton _ _
  | cons e rest ih =>
      rw [List.pairwise_cons] at h
      obtain ⟨he, hrest⟩ := h
      simp only [alterEntries]
      split
      · rename_i hlt
        refine List.Pairwise.cons ?_ (List.Pairwise.cons he hrest)
        intro y hy
        rcases List.mem_cons.mp hy with rfl | hmem
        · exact hlt
        · exact lt_trans hlt (he y hmem)
      · split
        · exact List.Pairwise.cons he hrest
        · rename_i hnlt hne
          refine List.Pairwise.cons ?_ (ih hrest)
          intro y hy
          rcases mem_alterEntries_key hy with h | h
          · rw [h]
            exact lt_of_le_of_ne (not_lt.mp hnlt) (fun heq => hne heq.symm)
          · exact he y h

/-- Update the entry of `k`, starting from `d` when there is none. -/
def alter (m : OrdMap K V) (k : K) (d : V) (f : V → V) : OrdMap K V :=
  ⟨alterEntries k d f m.entries, alterEntries_sorted k d f m.sorted⟩

/-- The value stored under `k`. -/
def get? (m : OrdMap K V) (k : K) : Option V :=
  (m.entries.find? (fun e => e.1 = k)).map (·.2)

@[simp] theorem empty_entries : (empty : OrdMap K V).entries = [] := rfl

theorem mem_entries_iff {m : OrdMap K V} {k : K} {v : V} :
    (k, v) ∈ m.entries ↔ m.get? k = some v := by
  obtain ⟨entries, sorted⟩ := m
  simp only [get?]
  induction entries with
  | nil => simp
  | cons e rest ih =>
      rw [List.pairwise_cons] at sorted
      by_cases hk : e.1 = k
      · subst hk
        simp only [List.mem_cons, List.find?_cons, decide_true, Option.map_some,
          Option.some.injEq]
        constructor
        · rintro (heq | hmem)
          · rw [← heq]
          · exact absurd (sorted.1 _ hmem) (lt_irrefl _)
        · intro h
          exact Or.inl (by rw [← h])
      · simp only [List.mem_cons, List.find?_cons, hk, decide_false]
        rw [← ih sorted.2]
        constructor
        · rintro (heq | hmem)
          · exact absurd (by rw [← heq]) hk
          · exact hmem
        · exact Or.inr

theorem alterEntries_mem_iff {k : K} {d : V} {f : V → V} {l : List (K × V)}
    (hl : l.Pairwise (fun x y => x.1 < y.1)) {x : K × V} :
    x ∈ alterEntries k d f l ↔
      (x ∈ l ∧ x.1 ≠ k) ∨
        x = (k, f (((l.find? (fun e => e.1 = k)).map (·.2)).getD d)) := by
  induction l with
  | nil => simp [alterEntries]
  | cons e rest ih =>
      rw [List.pairwise_cons] at hl
      obtain ⟨he, hrest⟩ := hl
      simp only [alterEntries, List.find?_cons]
      split
      · rename_i hlt
        have hne : ¬ e.1 = k := fun h => absurd (h ▸ hlt) (lt_irrefl _)
        have hfind : rest.find? (fun e => e.1 = k) = none := by
          rw [List.find?_eq_none]
          intro y hy
          have hky : k < y.1 := lt_trans hlt (he y hy)
          simpa using (ne_of_gt hky)
        have hnotin : ∀ y, y ∈ e :: rest → y.1 ≠ k := by
          intro y hy
          rcases List.mem_cons.mp hy with rfl | hmem
          · exact hne
          · exact ne_of_gt (lt_trans hlt (he y hmem))
        simp only [hne, decide_false, hfind, Option.map_none, Option.getD_none,
          List.mem_cons (a := x) (b := (k, f d))]
        constructor
        · rintro (h | h)
          · exact Or.inr h
          · exact Or.inl ⟨h, hnotin x h⟩
        · rintro (⟨h, _⟩ | h)
          · exact Or.inr h
          · exact Or.inl h
      · split
        · rename_i hk
          subst hk
          simp only [decide_true, Option.map_some, Option.getD_some, List.mem_cons]
          constructor
          · rintro (h | h)
            · exact Or.inr h
            · exact Or.inl ⟨Or.inr h, ne_of_gt (he x h)⟩
          · rintro (⟨rfl | h, hne⟩ | h)
            · exact absurd rfl hne
            · exact Or.inr h
            · exact Or.inl h
        · rename_i hnlt hne
          have hek : ¬ e.1 = k := fun h => hne h.symm
          simp only [hek, decide_false, List.mem_cons]
          rw [ih hrest]
          constructor
          · rintro (rfl | ⟨h, hx⟩ | h)
            · exact Or.inl ⟨Or.inl rfl, hek⟩
            · exact Or.inl ⟨Or.inr h, hx⟩
            · exact Or.inr h
          · rintro (⟨rfl | h, hx⟩ | h)
            · exact Or.inl rfl
            · exact Or.inr (Or.inl ⟨h, hx⟩)
            · exact Or.inr (Or.inr h)

/-- The entries after an update: the other keys keep theirs, the updated key
holds the new value. -/
theorem mem_alter_iff {m : OrdMap K V} {k : K} {d : V} {f : V → V} {x : K × V} :
    x ∈ (m.alter k d f).entries ↔
      (x ∈ m.entries ∧ x.1 ≠ k) ∨ x = (k, f ((m.get? k).getD d)) :=
  alterEntries_mem_iff m.sorted

theorem mem_alter_self (m : OrdMap K V) (k : K) (d : V) (f : V → V) :
    (k, f ((m.get? k).getD d)) ∈ (m.alter k d f).entries :=
  mem_alter_iff.mpr (Or.inr rfl)

/-! ## Weighted totals -/

/-- The sum of a weight over the entries. -/
def total (w : K → V → Int) (m : OrdMap K V) : Int :=
  (m.entries.map (fun e => w e.1 e.2)).sum

@[simp] theorem total_empty (w : K → V → Int) : total w (empty : OrdMap K V) = 0 := rfl

theorem alterEntries_total (w : K → V → Int) {k : K} {d : V} {f : V → V}
    (hd : w k d = 0) {l : List (K × V)} (hl : l.Pairwise (fun x y => x.1 < y.1)) :
    ((alterEntries k d f l).map (fun e => w e.1 e.2)).sum =
      (l.map (fun e => w e.1 e.2)).sum +
        (w k (f (((l.find? (fun e => e.1 = k)).map (·.2)).getD d)) -
          w k (((l.find? (fun e => e.1 = k)).map (·.2)).getD d)) := by
  induction l with
  | nil => simp [alterEntries, hd]
  | cons e rest ih =>
      rw [List.pairwise_cons] at hl
      obtain ⟨he, hrest⟩ := hl
      simp only [alterEntries, List.find?_cons]
      split
      · rename_i hlt
        have hne : ¬ e.1 = k := fun h => absurd (h ▸ hlt) (lt_irrefl _)
        have hfind : rest.find? (fun e => e.1 = k) = none := by
          rw [List.find?_eq_none]
          intro y hy
          have hky : k < y.1 := lt_trans hlt (he y hy)
          simpa using (ne_of_gt hky)
        simp only [hne, decide_false, hfind, Option.map_none, Option.getD_none,
          List.map_cons, List.sum_cons, hd]
        omega
      · split
        · rename_i hk
          subst hk
          simp only [decide_true, Option.map_some, Option.getD_some, List.map_cons,
            List.sum_cons]
          omega
        · rename_i hnlt hne
          have hek : ¬ e.1 = k := fun h => hne h.symm
          simp only [hek, decide_false, List.map_cons, List.sum_cons]
          rw [ih hrest]
          omega

/-- An update changes a total by the change of the updated entry, when the
default weighs nothing. -/
theorem total_alter (w : K → V → Int) (m : OrdMap K V) {k : K} {d : V} {f : V → V}
    (hd : w k d = 0) :
    total w (m.alter k d f) =
      total w m + (w k (f ((m.get? k).getD d)) - w k ((m.get? k).getD d)) :=
  alterEntries_total w hd m.sorted

/-- A total of a weight that only one key has is the weight of its entry. -/
theorem total_of_mem {w : K → V → Int} {m : OrdMap K V} {k : K} {v : V}
    (hw : ∀ k' v', k' ≠ k → w k' v' = 0) (h : (k, v) ∈ m.entries) : total w m = w k v := by
  have hsorted := m.sorted
  obtain ⟨before, after, hsplit⟩ := List.append_of_mem h
  rw [hsplit, List.pairwise_append, List.pairwise_cons] at hsorted
  obtain ⟨_, ⟨hafter, _⟩, hbefore⟩ := hsorted
  have hzeroBefore : (before.map (fun e => w e.1 e.2)).sum = 0 := by
    refine List.sum_eq_zero ?_
    intro x hx
    obtain ⟨e, he, rfl⟩ := List.mem_map.mp hx
    exact hw e.1 e.2 (ne_of_lt (hbefore e he (k, v) List.mem_cons_self))
  have hzeroAfter : (after.map (fun e => w e.1 e.2)).sum = 0 := by
    refine List.sum_eq_zero ?_
    intro x hx
    obtain ⟨e, he, rfl⟩ := List.mem_map.mp hx
    exact hw e.1 e.2 (ne_of_gt (hafter e he))
  simp only [total, hsplit, List.map_append, List.map_cons, List.sum_append, List.sum_cons,
    hzeroBefore, hzeroAfter]
  omega

end OrdMap

end RouterView.Foundation
