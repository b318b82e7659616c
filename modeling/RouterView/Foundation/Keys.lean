/-
  Foundation/Keys.lean --- sorting and minimum by a key, and sets of keys.

  `sort_by_key` is stable and so is the insertion sort; `min_by_key` returns the first of
  several least elements.  Where the keys of a list are distinct, the sorted list does not
  depend on the order in which the elements were given.

  A set of keys is a list without duplicates into which the keys of the rows of a table are
  inserted one after the other.  Which keys the set has afterwards, and that it has no
  duplicates, does not depend on what the keys are.
-/
import Mathlib.Data.List.Sort
import Mathlib.Order.Lattice
import Mathlib.Data.List.Dedup
import Mathlib.Data.List.Perm.Basic

set_option autoImplicit false

namespace RouterView.Foundation

section

variable {α β κ : Type} [LinearOrder κ]

/-! ## Sorting -/

/-- `slice::sort_by_key`. -/
def sortByKey (key : α → κ) (l : List α) : List α := l.insertionSort (fun a b => key a ≤ key b)

theorem sortByKey_perm (key : α → κ) (l : List α) : (sortByKey key l).Perm l :=
  List.perm_insertionSort _ l

@[simp] theorem mem_sortByKey {key : α → κ} {l : List α} {a : α} :
    a ∈ sortByKey key l ↔ a ∈ l := List.mem_insertionSort _

theorem sortByKey_pairwise (key : α → κ) (l : List α) :
    (sortByKey key l).Pairwise (fun a b => key a ≤ key b) := by
  have htotal : Std.Total (fun a b : α => key a ≤ key b) := ⟨fun a b => le_total (key a) (key b)⟩
  have htrans : IsTrans α (fun a b => key a ≤ key b) := ⟨fun _ _ _ => le_trans⟩
  exact List.pairwise_insertionSort _ l

/-- With distinct keys the result does not depend on the order given. -/
theorem sortByKey_eq_of_perm {key : α → κ} {l l' : List α} (h : l.Perm l')
    (hkey : ∀ a ∈ l, ∀ b ∈ l, key a = key b → a = b) : sortByKey key l = sortByKey key l' := by
  have hperm : (sortByKey key l).Perm (sortByKey key l') :=
    (sortByKey_perm key l).trans (h.trans (sortByKey_perm key l').symm)
  refine List.Perm.eq_of_pairwise ?_ (sortByKey_pairwise key l) (sortByKey_pairwise key l') hperm
  intro a b ha hb hab hba
  exact hkey a (mem_sortByKey.1 ha) b (h.symm.subset (mem_sortByKey.1 hb)) (le_antisymm hab hba)

theorem map_sortByKey (f : α → β) {key : α → κ} {key' : β → κ} (h : ∀ a, key' (f a) = key a)
    (l : List α) : (sortByKey key l).map f = sortByKey key' (l.map f) := by
  apply List.map_insertionSort
  intro a _ b _
  rw [h, h]

/-- A least element that no other equals comes first. -/
theorem sortByKey_head {key : α → κ} {l : List α} {a : α} (ha : a ∈ l)
    (hleast : ∀ b ∈ l, b ≠ a → key a < key b) : (sortByKey key l).head? = some a := by
  have hsorted := sortByKey_pairwise key l
  have hmem : a ∈ sortByKey key l := mem_sortByKey.2 ha
  cases h : sortByKey key l with
  | nil =>
      rw [h] at hmem
      cases hmem
  | cons b rest =>
      rw [h, List.pairwise_cons] at hsorted
      rw [h, List.mem_cons] at hmem
      have hb : b ∈ l := mem_sortByKey.1 (h ▸ List.mem_cons_self)
      rcases hmem with rfl | hrest
      · rfl
      · by_cases heq : b = a
        · rw [heq, List.head?_cons]
        · exact absurd (hsorted.1 a hrest) (not_le_of_gt (hleast b hb heq))

/-! ## The minimum -/

/-- The first of the least elements of a list that starts with `best`. -/
def minFrom (key : α → κ) : α → List α → α
  | best, [] => best
  | best, a :: l => minFrom key (if key a < key best then a else best) l

/-- `Iterator::min_by_key`. -/
def minByKey (key : α → κ) : List α → Option α
  | [] => none
  | a :: l => some (minFrom key a l)

theorem minFrom_spec (key : α → κ) (best : α) (l : List α) :
    minFrom key best l ∈ best :: l ∧ ∀ a ∈ best :: l, key (minFrom key best l) ≤ key a := by
  induction l generalizing best with
  | nil => simp [minFrom]
  | cons a l ih =>
      obtain ⟨hmem, hle⟩ := ih (if key a < key best then a else best)
      have hbest : key (if key a < key best then a else best) ≤ key best ∧
          key (if key a < key best then a else best) ≤ key a := by
        split
        · rename_i hlt
          exact ⟨le_of_lt hlt, le_rfl⟩
        · rename_i hnot
          exact ⟨le_rfl, le_of_not_gt hnot⟩
      rw [minFrom]
      constructor
      · rcases List.mem_cons.1 hmem with heq | hmem
        · rw [heq]
          split <;> simp
        · exact List.mem_cons_of_mem _ (List.mem_cons_of_mem _ hmem)
      · intro b hb
        have hhead := hle _ List.mem_cons_self
        rcases List.mem_cons.1 hb with rfl | hb
        · exact hhead.trans hbest.1
        · rcases List.mem_cons.1 hb with rfl | hb
          · exact hhead.trans hbest.2
          · exact hle b (List.mem_cons_of_mem _ hb)

theorem minByKey_mem {key : α → κ} {l : List α} {m : α} (h : minByKey key l = some m) :
    m ∈ l := by
  cases l with
  | nil => cases h
  | cons a l => exact Option.some.inj h ▸ (minFrom_spec key a l).1

theorem minByKey_le {key : α → κ} {l : List α} {m : α} (h : minByKey key l = some m) {a : α}
    (ha : a ∈ l) : key m ≤ key a := by
  cases l with
  | nil => cases h
  | cons b l => exact Option.some.inj h ▸ (minFrom_spec key b l).2 a ha

theorem minByKey_eq_none {key : α → κ} {l : List α} : minByKey key l = none ↔ l = [] := by
  cases l <;> simp [minByKey]

theorem map_minFrom (f : α → β) {key : α → κ} {key' : β → κ} (h : ∀ a, key' (f a) = key a)
    (best : α) (l : List α) : f (minFrom key best l) = minFrom key' (f best) (l.map f) := by
  induction l generalizing best with
  | nil => rfl
  | cons a l ih =>
      rw [minFrom, ih, List.map_cons, minFrom, h, h]
      split <;> rfl

theorem map_minByKey (f : α → β) {key : α → κ} {key' : β → κ} (h : ∀ a, key' (f a) = key a)
    (l : List α) : (minByKey key l).map f = minByKey key' (l.map f) := by
  cases l with
  | nil => rfl
  | cons a l => exact congrArg some (map_minFrom f h a l)

end

/-! ## Sets of keys -/

section

variable {α κ : Type} [DecidableEq κ]

/-- The keys of the rows, inserted in order. -/
def insertKeys (key : α → κ) (known : List κ) (rows : List α) : List κ :=
  rows.foldl (fun known row => known.insert (key row)) known

@[simp] theorem insertKeys_nil (key : α → κ) (known : List κ) :
    insertKeys key known [] = known := rfl

@[simp] theorem insertKeys_cons (key : α → κ) (known : List κ) (row : α) (rows : List α) :
    insertKeys key known (row :: rows) = insertKeys key (known.insert (key row)) rows := rfl

theorem mem_insertKeys {key : α → κ} {rows : List α} {known : List κ} {k : κ} :
    k ∈ insertKeys key known rows ↔ k ∈ known ∨ k ∈ rows.map key := by
  induction rows generalizing known with
  | nil => simp
  | cons row rows ih =>
      rw [insertKeys_cons, ih, List.mem_insert_iff, List.map_cons, List.mem_cons]
      tauto

theorem insertKeys_nodup {key : α → κ} {rows : List α} {known : List κ} (h : known.Nodup) :
    (insertKeys key known rows).Nodup := by
  induction rows generalizing known with
  | nil => exact h
  | cons row rows ih => exact ih (h.insert)

/-- A list without duplicates and a set of keys with the same members have one length. -/
theorem insertKeys_length {key : α → κ} {rows : List α} {known listed : List κ}
    (hknown : known.Nodup) (hlisted : listed.Nodup)
    (h : ∀ k, k ∈ listed ↔ k ∈ known ∨ k ∈ rows.map key) :
    (insertKeys key known rows).length = listed.length := by
  refine ((List.perm_ext_iff_of_nodup (insertKeys_nodup hknown) hlisted).2 ?_).length_eq
  intro k
  rw [mem_insertKeys, h]

end

end RouterView.Foundation
