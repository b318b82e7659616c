/-
  Foundation/Table.lean --- rows with an automatically increasing key.

  A table keeps its rows in insertion order together with the last key handed
  out.  Keys are never reused, so the sequence is part of the state.  The
  statements are the three that a transaction issues: insert one row, update
  the rows that satisfy a condition, delete the rows that satisfy one.  The
  last two report how many rows they touched.  An upsert that finds its row,
  and an insertion that is ignored, use up a key and insert nothing.
-/
import Mathlib.Algebra.BigOperators.Group.List.Basic
import Mathlib.Algebra.Order.Group.Int
import Mathlib.Tactic

set_option autoImplicit false

namespace RouterView.Foundation

/-- A table with an automatically increasing integer key. -/
structure Table (α : Type) where
  rows : List α
  sequence : Int
  deriving DecidableEq, Repr

namespace Table

variable {α : Type}

/-- The table without rows. -/
def empty : Table α := ⟨[], 0⟩

/-- Insert the row built from the next key. -/
def insert (t : Table α) (row : Int → α) : Table α :=
  ⟨t.rows ++ [row (t.sequence + 1)], t.sequence + 1⟩

/-- An insertion that conflicts with a stored row still uses up the next key. -/
def useKey (t : Table α) : Table α := ⟨t.rows, t.sequence + 1⟩

/-- Update the rows that satisfy `p`; the count is the number of them. -/
def updateWhere (p : α → Bool) (f : α → α) (t : Table α) : Nat × Table α :=
  (t.rows.countP p, ⟨t.rows.map (fun r => if p r then f r else r), t.sequence⟩)

/-- Delete the rows that satisfy `p`; the count is the number of them. -/
def deleteWhere (p : α → Bool) (t : Table α) : Nat × Table α :=
  (t.rows.countP p, ⟨t.rows.filter (fun r => !p r), t.sequence⟩)

@[simp] theorem empty_rows : (empty : Table α).rows = [] := rfl

@[simp] theorem insert_rows (t : Table α) (row : Int → α) :
    (t.insert row).rows = t.rows ++ [row (t.sequence + 1)] := rfl

@[simp] theorem useKey_rows (t : Table α) : t.useKey.rows = t.rows := rfl

@[simp] theorem updateWhere_rows (p : α → Bool) (f : α → α) (t : Table α) :
    (t.updateWhere p f).2.rows = t.rows.map (fun r => if p r then f r else r) := rfl

@[simp] theorem deleteWhere_rows (p : α → Bool) (t : Table α) :
    (t.deleteWhere p).2.rows = t.rows.filter (fun r => !p r) := rfl

theorem mem_updateWhere_iff {p : α → Bool} {f : α → α} {t : Table α} {x : α} :
    x ∈ (t.updateWhere p f).2.rows ↔
      (x ∈ t.rows ∧ p x = false) ∨ ∃ y ∈ t.rows, p y = true ∧ x = f y := by
  rw [updateWhere_rows, List.mem_map]
  constructor
  · rintro ⟨y, hy, hx⟩
    cases hp : p y with
    | false =>
        rw [hp] at hx
        simp only [Bool.false_eq_true, if_false] at hx
        subst hx
        exact Or.inl ⟨hy, hp⟩
    | true =>
        rw [hp] at hx
        exact Or.inr ⟨y, hy, hp, by simpa using hx.symm⟩
  · rintro (⟨hx, hp⟩ | ⟨y, hy, hp, rfl⟩)
    · exact ⟨x, hx, by simp [hp]⟩
    · exact ⟨y, hy, by simp [hp]⟩

/-! ## Weighted totals -/

/-- The sum of a weight over the rows. -/
def total (w : α → Int) (t : Table α) : Int := (t.rows.map w).sum

@[simp] theorem total_empty (w : α → Int) : total w (empty : Table α) = 0 := rfl

@[simp] theorem total_useKey (w : α → Int) (t : Table α) : total w t.useKey = total w t := rfl

@[simp] theorem total_insert (w : α → Int) (t : Table α) (row : Int → α) :
    total w (t.insert row) = total w t + w (row (t.sequence + 1)) := by
  simp [total]

theorem sum_map_update (w : α → Int) (p : α → Bool) (f : α → α) (l : List α) :
    ((l.map (fun r => if p r then f r else r)).map w).sum =
      (l.map w).sum + ((l.filter p).map (fun r => w (f r) - w r)).sum := by
  induction l with
  | nil => rfl
  | cons r rest ih =>
      cases hp : p r with
      | false =>
          simp only [List.map_cons, hp, Bool.false_eq_true, if_false, List.sum_cons,
            List.filter_cons, ih]
          omega
      | true =>
          simp only [List.map_cons, hp, if_true, List.sum_cons, List.filter_cons, ih]
          omega

theorem sum_filter_not (w : α → Int) (p : α → Bool) (l : List α) :
    ((l.filter (fun r => !p r)).map w).sum =
      (l.map w).sum - ((l.filter p).map w).sum := by
  induction l with
  | nil => rfl
  | cons r rest ih =>
      cases hp : p r with
      | false => simp [hp, ih]; omega
      | true => simp [hp, ih]

/-- A total over the kept rows is a total over all rows of a weight that is zero on the
others. -/
theorem sum_filter_ite (p : α → Bool) (w : α → Int) (l : List α) :
    ((l.filter p).map w).sum = (l.map (fun r => if p r then w r else 0)).sum := by
  induction l with
  | nil => rfl
  | cons r rest ih => cases hp : p r <;> simp [hp, ih]

/-- When one row satisfies the condition, it is the only one the filter keeps. -/
theorem filter_eq_singleton {p : α → Bool} {l : List α} {s : α} (hs : s ∈ l)
    (hp : p s = true) (hone : l.countP p = 1) : l.filter p = [s] := by
  have hlen : (l.filter p).length = 1 := by rw [← List.countP_eq_length_filter]; exact hone
  obtain ⟨r, hr⟩ := List.length_eq_one_iff.mp hlen
  have hmem : s ∈ l.filter p := List.mem_filter.mpr ⟨hs, hp⟩
  rw [hr] at hmem ⊢
  rw [List.mem_singleton.mp hmem]

/-- An update of one row changes a total by the change of that row. -/
theorem total_updateWhere_one (w : α → Int) {p : α → Bool} {f : α → α} {t : Table α}
    {s : α} (hs : s ∈ t.rows) (hp : p s = true) (hone : (t.updateWhere p f).1 = 1) :
    total w (t.updateWhere p f).2 = total w t + (w (f s) - w s) := by
  have hfilter := filter_eq_singleton hs hp hone
  simp only [total, updateWhere_rows, sum_map_update, hfilter, List.map_cons, List.map_nil,
    List.sum_cons, List.sum_nil, add_zero]

/-- A deletion of one row takes that row out of a total. -/
theorem total_deleteWhere_one (w : α → Int) {p : α → Bool} {t : Table α}
    {s : α} (hs : s ∈ t.rows) (hp : p s = true) (hone : (t.deleteWhere p).1 = 1) :
    total w (t.deleteWhere p).2 = total w t - w s := by
  have hfilter := filter_eq_singleton hs hp hone
  simp only [total, deleteWhere_rows, sum_filter_not, hfilter, List.map_cons, List.map_nil,
    List.sum_cons, List.sum_nil, add_zero]

/-- Different rows weigh no more than the table, when no row has a negative weight. -/
theorem sum_le_total {w : α → Int} {t : Table α} (hw : ∀ r ∈ t.rows, 0 ≤ w r) {l : List α}
    (hnodup : l.Nodup) (hmem : ∀ r ∈ l, r ∈ t.rows) : (l.map w).sum ≤ total w t := by
  obtain ⟨sub, hperm, hsublist⟩ := hnodup.subperm hmem
  rw [← (hperm.map w).sum_eq]
  refine (hsublist.map w).sum_le_sum ?_
  intro x hx
  obtain ⟨r, hr, rfl⟩ := List.mem_map.mp hx
  exact hw r hr

/-! ## Identifiers -/

/-- The identifiers of the rows are distinct and were handed out already. -/
structure Keyed (key : α → Int) (t : Table α) : Prop where
  nodup : (t.rows.map key).Nodup
  issued : ∀ r ∈ t.rows, key r ≤ t.sequence

theorem Keyed.empty (key : α → Int) : Keyed key (empty : Table α) :=
  ⟨List.nodup_nil, by simp⟩

theorem Keyed.insert {key : α → Int} {t : Table α} (h : Keyed key t) {row : Int → α}
    (hrow : ∀ id, key (row id) = id) : Keyed key (t.insert row) where
  nodup := by
    rw [insert_rows, List.map_append, List.nodup_append]
    refine ⟨h.nodup, by simp, ?_⟩
    intro id hid id' hid' heq
    simp only [List.map_cons, List.map_nil, List.mem_singleton, hrow] at hid'
    obtain ⟨r, hr, rfl⟩ := List.mem_map.mp hid
    have := h.issued r hr
    omega
  issued := by
    intro r hr
    rcases List.mem_append.mp hr with hold | hnew
    · have := h.issued r hold
      simp only [Table.insert]
      omega
    · rw [List.mem_singleton.mp hnew, hrow]
      exact le_refl _

theorem Keyed.useKey {key : α → Int} {t : Table α} (h : Keyed key t) : Keyed key t.useKey where
  nodup := h.nodup
  issued := fun r hr => (h.issued r hr).trans (Int.le_add_one (le_refl _))

theorem Keyed.updateWhere {key : α → Int} {t : Table α} (h : Keyed key t) (p : α → Bool)
    {f : α → α} (hf : ∀ r, p r = true → key (f r) = key r) :
    Keyed key (t.updateWhere p f).2 where
  nodup := by
    have hkeys : (t.rows.map (fun r => if p r then f r else r)).map key = t.rows.map key := by
      rw [List.map_map]
      refine List.map_congr_left ?_
      intro r _
      simp only [Function.comp_apply]
      split
      · rename_i hp
        exact hf r hp
      · rfl
    rw [updateWhere_rows, hkeys]
    exact h.nodup
  issued := by
    intro r hr
    rcases mem_updateWhere_iff.mp hr with ⟨hold, _⟩ | ⟨old, hold, hp, rfl⟩
    · exact h.issued r hold
    · rw [hf old hp]
      exact h.issued old hold

theorem Keyed.deleteWhere {key : α → Int} {t : Table α} (h : Keyed key t) (p : α → Bool) :
    Keyed key (t.deleteWhere p).2 where
  nodup := h.nodup.sublist (List.filter_sublist.map key)
  issued := by
    intro r hr
    exact h.issued r (List.mem_of_mem_filter hr)

/-- Two rows with one identifier are one row. -/
theorem Keyed.eq_of_key_eq {key : α → Int} {t : Table α} (h : Keyed key t) {r r' : α}
    (hr : r ∈ t.rows) (hr' : r' ∈ t.rows) (heq : key r = key r') : r = r' :=
  List.inj_on_of_nodup_map h.nodup hr hr' heq

/-- A condition that only one identifier satisfies counts one row. -/
theorem Keyed.countP_eq_one {key : α → Int} {t : Table α} (h : Keyed key t) {p : α → Bool}
    {s : α} (hs : s ∈ t.rows) (hp : p s = true)
    (hother : ∀ r ∈ t.rows, p r = true → key r = key s) : t.rows.countP p = 1 := by
  have hall : ∀ r ∈ t.rows.filter p, r = s := by
    intro r hr
    obtain ⟨hr, hrp⟩ := List.mem_filter.mp hr
    exact h.eq_of_key_eq hr hs (hother r hr hrp)
  have hnodup : (t.rows.filter p).Nodup := (List.Nodup.of_map key h.nodup).filter p
  rw [List.countP_eq_length_filter, List.eq_replicate_of_mem hall, List.length_replicate]
  rw [List.eq_replicate_of_mem hall, List.nodup_replicate] at hnodup
  have hpos := List.length_pos_of_mem (List.mem_filter.mpr ⟨hs, hp⟩)
  omega

/-- Two different elements of an ordered list stand in one order or the other. -/
theorem pairwise_either {R : α → α → Prop} {l : List α} (h : l.Pairwise R) {a b : α}
    (ha : a ∈ l) (hb : b ∈ l) (hne : a ≠ b) : R a b ∨ R b a := by
  have hsymm : Std.Symm (fun a b => R a b ∨ R b a) := ⟨fun _ _ => Or.symm⟩
  have heither : l.Pairwise (fun a b => R a b ∨ R b a) := h.imp Or.inl
  exact heither.forall ha hb hne

/-- With distinct identifiers, a symmetric relation holds pairwise exactly when
it holds between rows of different identifiers. -/
theorem pairwise_iff_of_nodup {key : α → Int} {R : α → α → Prop}
    (hsymm : ∀ {a b}, R a b → R b a) {l : List α} (hnodup : (l.map key).Nodup) :
    l.Pairwise R ↔ ∀ a ∈ l, ∀ b ∈ l, key a ≠ key b → R a b := by
  induction l with
  | nil => simp
  | cons x rest ih =>
      rw [List.map_cons, List.nodup_cons] at hnodup
      obtain ⟨hx, hrest⟩ := hnodup
      have hne : ∀ y ∈ rest, key x ≠ key y := by
        intro y hy heq
        exact hx (heq ▸ List.mem_map_of_mem hy)
      rw [List.pairwise_cons, ih hrest]
      constructor
      · rintro ⟨hhead, htail⟩ a ha b hb hab
        rcases List.mem_cons.mp ha with hax | har <;> rcases List.mem_cons.mp hb with hbx | hbr
        · exact absurd (by rw [hax, hbx]) hab
        · exact hax ▸ hhead b hbr
        · exact hbx ▸ hsymm (hhead a har)
        · exact htail a har b hbr hab
      · intro h
        refine ⟨fun y hy => h x List.mem_cons_self y (List.mem_cons_of_mem _ hy) (hne y hy), ?_⟩
        intro a ha b hb hab
        exact h a (List.mem_cons_of_mem _ ha) b (List.mem_cons_of_mem _ hb) hab

end Table

end RouterView.Foundation
