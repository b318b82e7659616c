/-
  Foundation/KeyedTable.lean --- rows with a primary key.

  No two rows of such a table have the same key.  The statements that fill one
  differ in what they do when the key is taken: a plain insert fails, `OR IGNORE`
  keeps the stored row and `OR REPLACE` keeps the new one.  Over a batch of rows
  the second leaves the first row of each key and the third leaves the last.
-/
import Mathlib.Tactic

set_option autoImplicit false

namespace RouterView.Foundation

/-- A table whose rows have distinct keys. -/
structure KeyedTable {α κ : Type} (key : α → κ) where
  rows : List α
  unique : (rows.map key).Nodup

namespace KeyedTable

variable {α κ : Type} [DecidableEq κ] {key : α → κ}

/-! ## Statements -/

/-- The table without rows. -/
def empty : KeyedTable key := ⟨[], List.nodup_nil⟩

/-- The row of a key. -/
def get? (t : KeyedTable key) (k : κ) : Option α := t.rows.find? (fun row => decide (key row = k))

/-- Append a row whose key is free. -/
def append (t : KeyedTable key) (row : α) (free : key row ∉ t.rows.map key) : KeyedTable key where
  rows := t.rows ++ [row]
  unique := by
    rw [List.map_append, List.map_singleton, List.nodup_append]
    refine ⟨t.unique, List.nodup_singleton _, ?_⟩
    intro a ha b hb hab
    rw [List.mem_singleton.mp hb] at hab
    exact free (hab ▸ ha)

/-- `INSERT`: fails when the key is taken. -/
def insert (t : KeyedTable key) (row : α) : Option (KeyedTable key) :=
  if free : key row ∉ t.rows.map key then some (t.append row free) else none

/-- `INSERT OR IGNORE`: keeps the stored row when the key is taken. -/
def insertOrIgnore (t : KeyedTable key) (row : α) : KeyedTable key :=
  if free : key row ∉ t.rows.map key then t.append row free else t

/-- Delete the row of a key. -/
def erase (t : KeyedTable key) (k : κ) : KeyedTable key where
  rows := t.rows.filter (fun row => !decide (key row = k))
  unique := t.unique.sublist (List.filter_sublist.map key)

theorem erase_free (t : KeyedTable key) (k : κ) : k ∉ (t.erase k).rows.map key := by
  rw [List.mem_map]
  rintro ⟨row, hrow, hk⟩
  have hkept := (List.mem_filter.mp hrow).2
  simp [hk] at hkept

/-- `INSERT OR REPLACE`: deletes the stored row when the key is taken. -/
def insertOrReplace (t : KeyedTable key) (row : α) : KeyedTable key :=
  (t.erase (key row)).append row (t.erase_free (key row))

/-- `INSERT` of a batch. -/
def insertAll (t : KeyedTable key) (batch : List α) : Option (KeyedTable key) :=
  batch.foldlM insert t

/-- `INSERT OR IGNORE` of a batch. -/
def insertAllOrIgnore (t : KeyedTable key) (batch : List α) : KeyedTable key :=
  batch.foldl insertOrIgnore t

/-- `INSERT OR REPLACE` of a batch. -/
def insertAllOrReplace (t : KeyedTable key) (batch : List α) : KeyedTable key :=
  batch.foldl insertOrReplace t

/-! ## The row of a key -/

/-- The first row of a batch with a key. -/
def firstOf (key : α → κ) (k : κ) (batch : List α) : Option α :=
  batch.find? (fun row => decide (key row = k))

/-- The last row of a batch with a key. -/
def lastOf (key : α → κ) (k : κ) (batch : List α) : Option α := firstOf key k batch.reverse

theorem firstOf_append (k : κ) (l m : List α) :
    firstOf key k (l ++ m) = (firstOf key k l).or (firstOf key k m) :=
  List.find?_append

theorem lastOf_append (k : κ) (l m : List α) :
    lastOf key k (l ++ m) = (lastOf key k m).or (lastOf key k l) := by
  rw [lastOf, List.reverse_append, firstOf_append, lastOf, lastOf]

theorem mem_of_firstOf {k : κ} {l : List α} {row : α} (h : firstOf key k l = some row) :
    row ∈ l ∧ key row = k :=
  ⟨List.mem_of_find?_eq_some h, by simpa using List.find?_some h⟩

theorem mem_of_lastOf {k : κ} {l : List α} {row : α} (h : lastOf key k l = some row) :
    row ∈ l ∧ key row = k := by
  have hmem := mem_of_firstOf h
  rwa [List.mem_reverse] at hmem

theorem firstOf_eq_none {k : κ} {l : List α} :
    firstOf key k l = none ↔ ∀ row ∈ l, key row ≠ k := by
  simp [firstOf]

theorem lastOf_eq_none {k : κ} {l : List α} :
    lastOf key k l = none ↔ ∀ row ∈ l, key row ≠ k := by
  simp [lastOf, firstOf]

theorem exists_firstOf {l : List α} {row : α} (h : row ∈ l) :
    ∃ first, firstOf key (key row) l = some first := by
  cases hfirst : firstOf key (key row) l with
  | none => exact absurd rfl (firstOf_eq_none.mp hfirst row h)
  | some first => exact ⟨first, rfl⟩

/-- In a list with distinct keys the first row of a key is the only one. -/
theorem firstOf_of_mem {l : List α} (hl : (l.map key).Nodup) {row : α} (h : row ∈ l) :
    firstOf key (key row) l = some row := by
  obtain ⟨first, hfirst⟩ : ∃ first, firstOf key (key row) l = some first := exists_firstOf h
  have hmem := mem_of_firstOf hfirst
  rw [hfirst, List.inj_on_of_nodup_map hl hmem.1 h hmem.2]

/-- In a list with distinct keys the last row of a key is the only one. -/
theorem lastOf_of_mem {l : List α} (hl : (l.map key).Nodup) {row : α} (h : row ∈ l) :
    lastOf key (key row) l = some row := by
  have hreverse : (l.reverse.map key).Nodup := by
    rw [List.map_reverse]
    exact List.nodup_reverse.mpr hl
  exact firstOf_of_mem hreverse (List.mem_reverse.mpr h)

theorem get?_eq_firstOf (t : KeyedTable key) (k : κ) : t.get? k = firstOf key k t.rows := rfl

theorem mem_of_get? {t : KeyedTable key} {k : κ} {row : α} (h : t.get? k = some row) :
    row ∈ t.rows ∧ key row = k :=
  mem_of_firstOf h

theorem get?_of_mem {t : KeyedTable key} {row : α} (h : row ∈ t.rows) :
    t.get? (key row) = some row :=
  firstOf_of_mem t.unique h

@[simp] theorem get?_empty (k : κ) : (empty : KeyedTable key).get? k = none := rfl

/-! ## One row -/

theorem get?_append (t : KeyedTable key) (row : α) (free : key row ∉ t.rows.map key) (k : κ) :
    (t.append row free).get? k = (t.get? k).or (firstOf key k [row]) :=
  firstOf_append k t.rows [row]

theorem get?_insertOrIgnore (t : KeyedTable key) (row : α) (k : κ) :
    (t.insertOrIgnore row).get? k = (t.get? k).or (firstOf key k [row]) := by
  unfold insertOrIgnore
  split
  · exact get?_append t row _ k
  · rename_i htaken
    rw [not_not, List.mem_map] at htaken
    obtain ⟨stored, hstored, hkey⟩ := htaken
    by_cases hk : key row = k
    · -- The key is taken by the stored row, which the lookup finds.
      rw [← hk, ← hkey, get?_of_mem hstored]
      rfl
    · have hnone : firstOf key k [row] = none :=
        firstOf_eq_none.mpr (fun r hr => List.mem_singleton.mp hr ▸ hk)
      rw [hnone, Option.or_none]

theorem get?_erase (t : KeyedTable key) (k k' : κ) :
    (t.erase k).get? k' = if k' = k then none else t.get? k' := by
  split
  · rename_i h
    rw [h]
    exact firstOf_eq_none.mpr
      (fun row hrow hk => t.erase_free k (List.mem_map.mpr ⟨row, hrow, hk⟩))
  · rename_i h
    show List.find? _ (t.rows.filter _) = List.find? _ t.rows
    rw [List.find?_filter]
    congr 1
    funext row
    by_cases hrow : key row = k'
    · simp [hrow, h]
    · simp [hrow]

theorem get?_insertOrReplace (t : KeyedTable key) (row : α) (k : κ) :
    (t.insertOrReplace row).get? k = (firstOf key k [row]).or (t.get? k) := by
  unfold insertOrReplace
  rw [get?_append, get?_erase]
  split
  · rename_i hk
    have hsome : firstOf key k [row] = some row := by simp [firstOf, hk]
    rw [hsome]
    rfl
  · rename_i hk
    have hnone : firstOf key k [row] = none :=
      firstOf_eq_none.mpr (fun r hr => List.mem_singleton.mp hr ▸ Ne.symm hk)
    rw [hnone, Option.or_none]
    rfl

/-! ## A batch -/

/-- `INSERT OR IGNORE` keeps what is stored, and else the first row of the batch. -/
theorem get?_insertAllOrIgnore (t : KeyedTable key) (batch : List α) (k : κ) :
    (t.insertAllOrIgnore batch).get? k = (t.get? k).or (firstOf key k batch) := by
  induction batch generalizing t with
  | nil =>
      show t.get? k = (t.get? k).or none
      rw [Option.or_none]
  | cons row rest ih =>
      have hcons : firstOf key k (row :: rest) =
          (firstOf key k [row]).or (firstOf key k rest) := firstOf_append k [row] rest
      show ((t.insertOrIgnore row).insertAllOrIgnore rest).get? k = _
      rw [ih, get?_insertOrIgnore, hcons, Option.or_assoc]

/-- `INSERT OR REPLACE` keeps the last row of the batch, and else what is stored. -/
theorem get?_insertAllOrReplace (t : KeyedTable key) (batch : List α) (k : κ) :
    (t.insertAllOrReplace batch).get? k = (lastOf key k batch).or (t.get? k) := by
  induction batch generalizing t with
  | nil => rfl
  | cons row rest ih =>
      have hcons : lastOf key k (row :: rest) =
          (lastOf key k rest).or (firstOf key k [row]) := lastOf_append k [row] rest
      show ((t.insertOrReplace row).insertAllOrReplace rest).get? k = _
      rw [ih, get?_insertOrReplace, hcons, Option.or_assoc]

/-- An `INSERT` that succeeds appends the batch. -/
theorem rows_insertAll {t t' : KeyedTable key} {batch : List α}
    (h : t.insertAll batch = some t') : t'.rows = t.rows ++ batch := by
  induction batch generalizing t with
  | nil =>
      have heq : t = t' := Option.some.inj h
      rw [← heq, List.append_nil]
  | cons row rest ih =>
      rw [insertAll, List.foldlM_cons, Option.bind_eq_bind, Option.bind_eq_some_iff] at h
      obtain ⟨next, hnext, hrest⟩ := h
      unfold insert at hnext
      split at hnext
      · have heq := Option.some.inj hnext
        rw [ih hrest, ← heq, append, List.append_assoc, List.singleton_append]
      · cases hnext

/-- An `INSERT` succeeds when the keys of the batch are distinct and free. -/
theorem insertAll_isSome {t : KeyedTable key} {batch : List α}
    (h : ((t.rows ++ batch).map key).Nodup) : (t.insertAll batch).isSome = true := by
  induction batch generalizing t with
  | nil => rfl
  | cons row rest ih =>
      have hfree : key row ∉ t.rows.map key := by
        rw [List.map_append, List.nodup_append] at h
        intro hmem
        exact h.2.2 _ hmem _ (List.mem_map_of_mem List.mem_cons_self) rfl
      have hnext : t.insert row = some (t.append row hfree) := by
        rw [insert, dif_pos hfree]
      have hrest : (((t.append row hfree).rows ++ rest).map key).Nodup := by
        rwa [append, List.append_assoc, List.singleton_append]
      rw [insertAll, List.foldlM_cons, hnext]
      exact ih hrest

end KeyedTable

/-! ## First writer and last writer -/

namespace KeyedTable

section

variable {α κ β : Type} [DecidableEq κ] {key : α → κ} {base live : List α}
  {imported : α → α → Prop} {quality : α → β}

/-- A row stands for another one: it is that row, or that row was imported from it. -/
def StandsFor (imported : α → α → Prop) (row other : α) : Prop := row = other ∨ imported row other

/-- The first row of every live row's key stands for that row. -/
def Kept (key : α → κ) (imported : α → α → Prop) (base live : List α) : Prop :=
  ∀ row ∈ live, ∃ first, firstOf key (key row) (base ++ live) = some first ∧
    StandsFor imported first row

/-- A base row shares its key only with live rows imported from it, and live rows that
share a key without a base row are one row. -/
structure Apart (key : α → κ) (imported : α → α → Prop) (base live : List α) : Prop where
  from_base : ∀ row ∈ base, ∀ other ∈ live, key row = key other → imported row other
  alone : ∀ row ∈ live, ∀ other ∈ live, key row = key other →
    (∀ old ∈ base, key old ≠ key row) → row = other

/-- The row that the first writer leaves stands for every live row exactly if the keys
are apart. -/
theorem kept_iff_apart (hbase : (base.map key).Nodup)
    (hdisjoint : ∀ row ∈ base, row ∉ live)
    (himported : ∀ row other, imported row other → row ∉ live) :
    Kept key imported base live ↔ Apart key imported base live := by
  constructor
  · intro hkept
    refine ⟨?_, ?_⟩
    · intro row hrow other hother hkey
      obtain ⟨first, hfirst, hstands⟩ := hkept other hother
      rw [firstOf_append, ← hkey, firstOf_of_mem hbase hrow, Option.some_or,
        Option.some.injEq] at hfirst
      rw [← hfirst] at hstands
      rcases hstands with heq | himport
      · exact absurd (heq ▸ hother) (hdisjoint row hrow)
      · exact himport
    · intro row hrow other hother hkey hfree
      obtain ⟨first, hfirst, hstands⟩ := hkept row hrow
      obtain ⟨first', hfirst', hstands'⟩ := hkept other hother
      rw [← hkey, hfirst, Option.some.injEq] at hfirst'
      rw [firstOf_append, firstOf_eq_none.mpr hfree, Option.none_or] at hfirst
      have hlive := (mem_of_firstOf hfirst).1
      have hself : first = row :=
        hstands.resolve_right (fun himport => himported _ _ himport hlive)
      have hself' : first = other := by
        rw [hfirst']
        exact hstands'.resolve_right (fun himport => himported _ _ himport (hfirst' ▸ hlive))
      rw [← hself, hself']
  · intro hapart row hrow
    obtain ⟨first, hfirst⟩ : ∃ first, firstOf key (key row) (base ++ live) = some first :=
      exists_firstOf (List.mem_append_right base hrow)
    refine ⟨first, hfirst, ?_⟩
    have hkey := (mem_of_firstOf hfirst).2
    rw [firstOf_append] at hfirst
    cases hold : firstOf key (key row) base with
    | some old =>
        rw [hold, Option.some_or, Option.some.injEq] at hfirst
        have hmem := (mem_of_firstOf hold).1
        rw [hfirst] at hmem
        exact Or.inr (hapart.from_base first hmem row hrow hkey)
    | none =>
        rw [hold, Option.none_or] at hfirst
        have hmem := (mem_of_firstOf hfirst).1
        refine Or.inl (hapart.alone first hmem row hrow hkey ?_)
        rw [hkey]
        exact firstOf_eq_none.mp hold

/-- When the first writer's row stands for every live row, the first and the last
writer's rows agree in whatever an import preserves. -/
theorem Kept.agrees (hkept : Kept key imported base live) (hbase : (base.map key).Nodup)
    (hquality : ∀ row other, imported row other → quality row = quality other) {k : κ}
    {first : α} (hfirst : firstOf key k (base ++ live) = some first) :
    ∃ last, lastOf key k (base ++ live) = some last ∧ quality last = quality first := by
  have hfirstKey := mem_of_firstOf hfirst
  cases hlast : lastOf key k live with
  | some last =>
      refine ⟨last, by rw [lastOf_append, hlast, Option.some_or], ?_⟩
      have hmem := mem_of_lastOf hlast
      obtain ⟨first', hfirst', hstands⟩ := hkept last hmem.1
      rw [hmem.2, hfirst, Option.some.injEq] at hfirst'
      rw [hfirst']
      rcases hstands with heq | himport
      · rw [heq]
      · exact (hquality _ _ himport).symm
  | none =>
      -- No live row has the key: both writers leave the base row.
      have hnone : firstOf key k live = none := firstOf_eq_none.mpr (lastOf_eq_none.mp hlast)
      rw [firstOf_append, hnone, Option.or_none] at hfirst
      have hmem := mem_of_firstOf hfirst
      refine ⟨first, ?_, rfl⟩
      rw [lastOf_append, hlast, Option.none_or, ← hmem.2, lastOf_of_mem hbase hmem.1]

end

end KeyedTable

end RouterView.Foundation
