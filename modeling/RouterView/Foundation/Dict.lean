/-
  Foundation/Dict.lean --- hash maps.

  A map from keys to values as a program sees it: lookup, removal, replacement,
  a filter over the entries, and the number of entries with a property.  The
  entries are kept as rows with distinct keys; nothing here depends on their
  order, which a hash map leaves open.
-/
import RouterView.Foundation.KeyedTable

set_option autoImplicit false

namespace RouterView.Foundation

/-- A map from keys to values. -/
abbrev Dict (K V : Type) : Type := KeyedTable (Prod.fst : K × V → K)

namespace Dict

variable {K V : Type}

/-- The map without entries. -/
def empty : Dict K V := KeyedTable.empty

/-- The number of entries that satisfy a condition. -/
def count (p : K → V → Bool) (d : Dict K V) : Nat := d.rows.countP (fun e => p e.1 e.2)

/-- The number of entries. -/
def size (d : Dict K V) : Nat := d.rows.length

/-- Keep the entries that satisfy a condition. -/
def retain (p : K → V → Bool) (d : Dict K V) : Dict K V where
  rows := d.rows.filter (fun e => p e.1 e.2)
  unique := d.unique.sublist (List.filter_sublist.map _)

theorem ext_rows {d d' : Dict K V} (h : d.rows = d'.rows) : d = d' := by
  cases d
  cases d'
  cases h
  rfl

theorem count_le_size (p : K → V → Bool) (d : Dict K V) : d.count p ≤ d.size :=
  List.countP_le_length

theorem count_true (d : Dict K V) : d.count (fun _ _ => true) = d.size :=
  congrFun List.countP_true d.rows

@[simp] theorem count_empty (p : K → V → Bool) : (empty : Dict K V).count p = 0 := rfl

theorem count_retain_le (p q : K → V → Bool) (d : Dict K V) :
    (d.retain q).count p ≤ d.count p :=
  List.Sublist.countP_le List.filter_sublist

theorem size_retain_le (p : K → V → Bool) (d : Dict K V) : (d.retain p).size ≤ d.size := by
  rw [← count_true, ← count_true]
  exact count_retain_le _ p d

variable [DecidableEq K]

/-- The value of a key. -/
def find? (d : Dict K V) (k : K) : Option V := (d.get? k).map Prod.snd

/-- Remove the entry of a key. -/
def remove (d : Dict K V) (k : K) : Dict K V := d.erase k

/-- Set the value of a key. -/
def put (d : Dict K V) (k : K) (v : V) : Dict K V := d.insertOrReplace (k, v)

/-! ## Lookups -/

theorem mem_rows_iff {d : Dict K V} {k : K} {v : V} : (k, v) ∈ d.rows ↔ d.find? k = some v := by
  constructor
  · intro h
    rw [find?, KeyedTable.get?_of_mem h]
    rfl
  · intro h
    obtain ⟨row, hrow, hv⟩ := Option.map_eq_some_iff.mp h
    obtain ⟨hmem, hk⟩ := KeyedTable.mem_of_get? hrow
    rw [← hk, ← hv]
    exact hmem

theorem find?_eq_none_iff {d : Dict K V} {k : K} : d.find? k = none ↔ ∀ v, (k, v) ∉ d.rows := by
  constructor
  · intro h v hmem
    rw [mem_rows_iff.mp hmem] at h
    cases h
  · intro h
    cases hfind : d.find? k with
    | none => rfl
    | some v => exact absurd (mem_rows_iff.mpr hfind) (h v)

@[simp] theorem find?_empty (k : K) : (empty : Dict K V).find? k = none := rfl

theorem find?_remove (d : Dict K V) (k k' : K) :
    (d.remove k).find? k' = if k' = k then none else d.find? k' := by
  rw [find?, remove, KeyedTable.get?_erase]
  split <;> rfl

theorem find?_put (d : Dict K V) (k : K) (v : V) (k' : K) :
    (d.put k v).find? k' = if k' = k then some v else d.find? k' := by
  rw [find?, put, KeyedTable.get?_insertOrReplace]
  by_cases h : k' = k
  · simp [KeyedTable.firstOf, h]
  · have hne : k ≠ k' := fun heq => h heq.symm
    simp [KeyedTable.firstOf, h, hne, find?]

@[simp] theorem find?_remove_self (d : Dict K V) (k : K) : (d.remove k).find? k = none := by
  rw [find?_remove, if_pos rfl]

theorem find?_remove_ne (d : Dict K V) {k k' : K} (h : k' ≠ k) :
    (d.remove k).find? k' = d.find? k' := by
  rw [find?_remove, if_neg h]

@[simp] theorem find?_put_self (d : Dict K V) (k : K) (v : V) : (d.put k v).find? k = some v := by
  rw [find?_put, if_pos rfl]

theorem find?_put_ne (d : Dict K V) {k k' : K} (v : V) (h : k' ≠ k) :
    (d.put k v).find? k' = d.find? k' := by
  rw [find?_put, if_neg h]

/-- The filter keeps exactly the entries that satisfy the condition. -/
theorem find?_retain_eq_some_iff {p : K → V → Bool} {d : Dict K V} {k : K} {v : V} :
    (d.retain p).find? k = some v ↔ d.find? k = some v ∧ p k v = true := by
  rw [← mem_rows_iff, ← mem_rows_iff, retain, List.mem_filter]

theorem find?_retain_eq_none {p : K → V → Bool} {d : Dict K V} {k : K}
    (h : d.find? k = none) : (d.retain p).find? k = none := by
  cases hfind : (d.retain p).find? k with
  | none => rfl
  | some v =>
      rw [(find?_retain_eq_some_iff.mp hfind).1] at h
      cases h

/-! ## Counts -/

theorem count_remove_le (p : K → V → Bool) (d : Dict K V) (k : K) :
    (d.remove k).count p ≤ d.count p :=
  List.Sublist.countP_le List.filter_sublist

/-- A key has one entry. -/
theorem filter_key {d : Dict K V} {k : K} {v : V} (h : d.find? k = some v) :
    d.rows.filter (fun e => decide (e.1 = k)) = [(k, v)] := by
  have honly : ∀ e ∈ d.rows.filter (fun e => decide (e.1 = k)), e = (k, v) := by
    intro e he
    obtain ⟨hmem, hk⟩ := List.mem_filter.mp he
    have hfind : d.find? e.1 = some e.2 := mem_rows_iff.mp hmem
    rw [of_decide_eq_true hk, h] at hfind
    exact Prod.ext (of_decide_eq_true hk) (Option.some.inj hfind).symm
  have hin : (k, v) ∈ d.rows.filter (fun e => decide (e.1 = k)) :=
    List.mem_filter.mpr ⟨mem_rows_iff.mpr h, decide_eq_true rfl⟩
  have hnodup : (d.rows.filter (fun e => decide (e.1 = k))).Nodup :=
    (List.Nodup.of_map _ d.unique).filter _
  have hpositive := List.length_pos_of_mem hin
  rw [List.eq_replicate_of_mem honly, List.nodup_replicate] at hnodup
  rw [List.eq_replicate_of_mem honly, show (d.rows.filter (fun e => decide (e.1 = k))).length = 1
    by omega]
  rfl

/-- Removing the entry of a key takes it out of a count. -/
theorem count_remove_add (p : K → V → Bool) {d : Dict K V} {k : K} {v : V}
    (h : d.find? k = some v) :
    (d.remove k).count p + (if p k v = true then 1 else 0) = d.count p := by
  have hsplit := List.countP_eq_countP_filter_add d.rows (fun e => p e.1 e.2)
    (fun e => decide (e.1 = k))
  rw [filter_key h, List.countP_singleton] at hsplit
  rw [count, count, hsplit, add_comm]
  rfl

theorem remove_of_find?_eq_none {d : Dict K V} {k : K} (h : d.find? k = none) :
    (d.remove k).rows = d.rows := by
  show d.rows.filter (fun row => !decide (row.1 = k)) = d.rows
  rw [List.filter_eq_self]
  intro e he
  have hne : e.1 ≠ k := by
    rintro rfl
    exact find?_eq_none_iff.mp h e.2 he
  simp [hne]

theorem count_put (p : K → V → Bool) (d : Dict K V) (k : K) (v : V) :
    (d.put k v).count p = (d.remove k).count p + (if p k v = true then 1 else 0) := by
  show ((d.remove k).rows ++ [(k, v)]).countP (fun e => p e.1 e.2) = _
  rw [List.countP_append, List.countP_singleton]
  rfl

/-- A new key adds one entry. -/
theorem size_put_of_none {d : Dict K V} {k : K} (v : V) (h : d.find? k = none) :
    (d.put k v).size = d.size + 1 := by
  rw [← count_true, ← count_true, count_put, count, remove_of_find?_eq_none h]
  rfl

/-- A new value of a key adds none. -/
theorem size_put_of_some {d : Dict K V} {k : K} {w : V} (v : V) (h : d.find? k = some w) :
    (d.put k v).size = d.size := by
  have hremove := count_remove_add (fun _ _ => true) h
  rw [← count_true, ← count_true, count_put]
  exact hremove

theorem size_remove_of_some {d : Dict K V} {k : K} {v : V} (h : d.find? k = some v) :
    (d.remove k).size + 1 = d.size := by
  have hremove := count_remove_add (fun _ _ => true) h
  rw [← count_true, ← count_true]
  exact hremove

theorem size_remove_le (d : Dict K V) (k : K) : (d.remove k).size ≤ d.size := by
  rw [← count_true, ← count_true]
  exact count_remove_le _ d k

/-! ## The entries of the other keys -/

theorem remove_remove (d : Dict K V) (k : K) : (d.remove k).remove k = d.remove k := by
  apply ext_rows
  show (d.rows.filter _).filter _ = d.rows.filter _
  rw [List.filter_filter]
  exact List.filter_congr (fun e _ => Bool.and_self _)

theorem remove_put (d : Dict K V) (k : K) (v : V) : (d.put k v).remove k = d.remove k := by
  apply ext_rows
  show ((d.rows.filter _) ++ [(k, v)]).filter _ = d.rows.filter _
  rw [List.filter_append, List.filter_filter, List.filter_singleton]
  simp

theorem remove_retain (p : K → V → Bool) (d : Dict K V) (k : K) :
    (d.retain p).remove k = (d.remove k).retain p := by
  apply ext_rows
  show (d.rows.filter _).filter _ = (d.rows.filter _).filter _
  rw [List.filter_filter, List.filter_filter]
  exact List.filter_congr (fun e _ => Bool.and_comm _ _)

/-- A change of one entry keeps the others. -/
theorem find?_of_remove_eq {d d' : Dict K V} {k k' : K} (h : d'.remove k = d.remove k)
    (hne : k' ≠ k) : d'.find? k' = d.find? k' := by
  rw [← find?_remove_ne d' hne, h, find?_remove_ne d hne]

theorem count_remove_of_none (p : K → V → Bool) {d : Dict K V} {k : K} (h : d.find? k = none) :
    (d.remove k).count p = d.count p := by
  rw [count, remove_of_find?_eq_none h, count]

/-- Removing an entry that is not counted. -/
theorem count_remove_of_false {p : K → V → Bool} {k : K} (hp : ∀ v, p k v = false)
    (d : Dict K V) : (d.remove k).count p = d.count p := by
  cases hfind : d.find? k with
  | none => exact count_remove_of_none p hfind
  | some v =>
      have hadd := count_remove_add p hfind
      rw [hp v] at hadd
      exact hadd

end Dict

end RouterView.Foundation
