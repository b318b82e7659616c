/-
  Foundation/Span.lean --- half-open spans over a linear order.

  `[start, stop)` spans, when two of them are apart, and the two shapes of a family of spans
  that the rest of the development uses: a family that is pairwise apart, and a chain that
  tiles an interval with no hole.

  Ordered spans inside an interval are together no wider than the interval, and just as wide
  only when they tile it.  Parts of ordered spans therefore add up to the interval only when
  each part is its whole span and the spans leave no hole.
-/
import Mathlib.Order.Basic
import Mathlib.Order.Lattice
import Mathlib.Tactic
import Mathlib.Algebra.Order.Group.Defs

set_option autoImplicit false

namespace RouterView.Foundation

/-- The half-open span `[start, stop)`. -/
structure Span (α : Type) where
  start : α
  stop : α
  deriving DecidableEq, Repr

namespace Span

variable {α : Type} [LinearOrder α]

/-- A proper span is not empty. -/
def Proper (s : Span α) : Prop := s.start < s.stop

/-- `s` ends before `t` starts. -/
def Before (s t : Span α) : Prop := s.stop ≤ t.start

/-- The two spans share no instant. -/
def Apart (s t : Span α) : Prop := s.Before t ∨ t.Before s

/-- The two spans share an instant, when both are proper. -/
def Meets (s t : Span α) : Prop := s.start < t.stop ∧ t.start < s.stop

instance (s : Span α) : Decidable s.Proper := inferInstanceAs (Decidable (_ < _))
instance (s t : Span α) : Decidable (s.Before t) := inferInstanceAs (Decidable (_ ≤ _))
instance (s t : Span α) : Decidable (s.Apart t) := inferInstanceAs (Decidable (_ ∨ _))
instance (s t : Span α) : Decidable (s.Meets t) := inferInstanceAs (Decidable (_ ∧ _))

theorem Apart.symm {s t : Span α} (h : s.Apart t) : t.Apart s := Or.symm h

theorem not_apart_iff_meets {s t : Span α} : ¬ s.Apart t ↔ s.Meets t := by
  simp only [Apart, Before, Meets, not_or, not_le]
  exact and_comm

/-- A span inside one of two spans apart is apart from the other. -/
theorem Apart.mono {s s' t : Span α} (h : s.Apart t)
    (hstart : s.start ≤ s'.start) (hstop : s'.stop ≤ s.stop) : s'.Apart t := by
  cases h with
  | inl h => exact Or.inl (le_trans hstop h)
  | inr h => exact Or.inr (le_trans h hstart)

/-- Of two proper spans apart, the one that starts no later comes first. -/
theorem Apart.before_of_start_le {s t : Span α} (h : s.Apart t)
    (ht : t.Proper) (hle : s.start ≤ t.start) : s.Before t := by
  cases h with
  | inl h => exact h
  | inr h => exact absurd (lt_of_lt_of_le ht h) (not_lt.mpr hle)

/-- Of two proper spans apart, the one that stops no later comes first. -/
theorem Apart.before_of_stop_le {s t : Span α} (h : s.Apart t)
    (hs : s.Proper) (hle : s.stop ≤ t.stop) : s.Before t := by
  cases h with
  | inl h => exact h
  | inr h => exact absurd (lt_of_le_of_lt h hs) (not_lt.mpr hle)

theorem Before.trans {s t u : Span α} (ht : t.Proper) (hst : s.Before t)
    (htu : t.Before u) : s.Before u :=
  le_trans hst (le_trans (le_of_lt ht) htu)

/-! ## Families sorted by their stops -/

/-- In a family of proper spans sorted by their stops, being pairwise apart is
being listed in order: each span ends before every later one starts. -/
theorem pairwise_apart_iff_before {l : List (Span α)}
    (hproper : ∀ s ∈ l, s.Proper)
    (hsorted : l.Pairwise (fun s t => s.stop ≤ t.stop)) :
    l.Pairwise Apart ↔ l.Pairwise Before := by
  constructor
  · intro h
    refine (h.and hsorted).imp_of_mem ?_
    intro s t hs _ hst
    exact hst.1.before_of_stop_le (hproper s hs) hst.2
  · intro h
    exact h.imp Or.inl

/-! ## Chains -/

/-- The spans tile `[a, b)` in order: the first starts at `a`, each starts where
the previous one stopped, the last stops at `b`. -/
def Tiles (a : α) : List (Span α) → α → Prop
  | [], b => a = b
  | s :: rest, b => s.start = a ∧ s.Proper ∧ Tiles s.stop rest b

theorem Tiles.snoc {a b c : α} {l : List (Span α)} (h : Tiles a l b) (hbc : b < c) :
    Tiles a (l ++ [⟨b, c⟩]) c := by
  induction l generalizing a with
  | nil =>
      have hab : a = b := h
      subst hab
      exact ⟨rfl, hbc, rfl⟩
  | cons s rest ih =>
      obtain ⟨hstart, hs, hrest⟩ := h
      exact ⟨hstart, hs, ih hrest⟩

theorem Tiles.le {a b : α} {l : List (Span α)} (h : Tiles a l b) : a ≤ b := by
  induction l generalizing a with
  | nil => exact le_of_eq h
  | cons s rest ih =>
      obtain ⟨hstart, hs, hrest⟩ := h
      have hlt : s.start < s.stop := hs
      exact le_trans (le_of_eq hstart.symm) (le_trans (le_of_lt hlt) (ih hrest))

/-- Every span of a chain lies inside the interval that the chain tiles. -/
theorem Tiles.mem_bounds {a b : α} {l : List (Span α)} (h : Tiles a l b)
    {s : Span α} (hs : s ∈ l) : a ≤ s.start ∧ s.Proper ∧ s.stop ≤ b := by
  induction l generalizing a with
  | nil => simp at hs
  | cons t rest ih =>
      obtain ⟨hstart, ht, hrest⟩ := h
      have htlt : t.start < t.stop := ht
      rcases List.mem_cons.mp hs with heq | hmem
      · subst heq
        exact ⟨le_of_eq hstart.symm, ht, hrest.le⟩
      · obtain ⟨hlo, hproper, hhi⟩ := ih hrest hmem
        exact ⟨le_trans (le_of_eq hstart.symm) (le_trans (le_of_lt htlt) hlo), hproper, hhi⟩

/-- The spans of a chain are listed in order. -/
theorem Tiles.pairwise_before {a b : α} {l : List (Span α)} (h : Tiles a l b) :
    l.Pairwise Before := by
  induction l generalizing a with
  | nil => exact List.Pairwise.nil
  | cons s rest ih =>
      obtain ⟨_, _, hrest⟩ := h
      refine List.Pairwise.cons ?_ (ih hrest)
      intro t ht
      exact (hrest.mem_bounds ht).1

/-- The spans of a chain are pairwise apart. -/
theorem Tiles.pairwise_apart {a b : α} {l : List (Span α)} (h : Tiles a l b) :
    l.Pairwise Apart :=
  h.pairwise_before.imp Or.inl

end Span

/-! ## Covering -/

namespace Span

section

variable {α : Type} [LinearOrder α] {a b : α} {l : List (Span α)}

/-- The spans are proper, lie in `[a, b)` and are listed in order. -/
structure Inside (a : α) (l : List (Span α)) (b : α) : Prop where
  le : a ≤ b
  proper : ∀ s ∈ l, s.Proper
  start_le : ∀ s ∈ l, a ≤ s.start
  stop_le : ∀ s ∈ l, s.stop ≤ b
  ordered : l.Pairwise Before

/-- The spans after the first lie behind it. -/
theorem Inside.tail {s : Span α} (h : Inside a (s :: l) b) : Inside s.stop l b where
  le := h.stop_le s List.mem_cons_self
  proper := fun t ht => h.proper t (List.mem_cons_of_mem _ ht)
  start_le := fun t ht => (List.pairwise_cons.mp h.ordered).1 t ht
  stop_le := fun t ht => h.stop_le t (List.mem_cons_of_mem _ ht)
  ordered := (List.pairwise_cons.mp h.ordered).2

end

variable {α : Type} [AddCommGroup α] [LinearOrder α] [IsOrderedAddMonoid α]
  {a b : α} {l : List (Span α)}

/-- The width of a span. -/
def width (s : Span α) : α := s.stop - s.start

theorem Inside.sum_width_le (h : Inside a l b) : (l.map width).sum ≤ b - a := by
  induction l generalizing a with
  | nil => exact sub_nonneg.mpr h.le
  | cons s rest ih =>
      have hrest := ih h.tail
      have hstart := h.start_le s List.mem_cons_self
      calc ((s :: rest).map width).sum = width s + (rest.map width).sum := by
            rw [List.map_cons, List.sum_cons]
        _ ≤ width s + (b - s.stop) := add_le_add_right hrest _
        _ = b - s.start := by
            rw [width]
            abel
        _ ≤ b - a := sub_le_sub_left hstart b

/-- The spans are as wide as the interval only when they tile it. -/
theorem Inside.sum_width_eq_iff (h : Inside a l b) :
    (l.map width).sum = b - a ↔ Tiles a l b := by
  induction l generalizing a with
  | nil =>
      rw [List.map_nil, List.sum_nil, eq_comm, sub_eq_zero]
      exact eq_comm
  | cons s rest ih =>
      have hrest := h.tail.sum_width_le
      have hstart := h.start_le s List.mem_cons_self
      rw [List.map_cons, List.sum_cons, Tiles, ← ih h.tail]
      constructor
      · intro hsum
        have hsame : s.start = a := by
          refine le_antisymm ?_ hstart
          have hle : b - a ≤ b - s.start := by
            rw [← hsum]
            calc width s + (rest.map width).sum ≤ width s + (b - s.stop) :=
                  add_le_add_right hrest _
              _ = b - s.start := by
                  rw [width]
                  abel
          exact (sub_le_sub_iff_left b).mp hle
        refine ⟨hsame, h.proper s List.mem_cons_self, ?_⟩
        rw [← hsame, width] at hsum
        have hcancel : (rest.map width).sum = (b - s.start) - (s.stop - s.start) :=
          eq_sub_of_add_eq' hsum
        rw [hcancel]
        abel
      · rintro ⟨hsame, _, hsum⟩
        rw [hsum, ← hsame, width]
        abel

/-- The parts of the spans add up to the interval exactly when each of them is its whole
span and the spans tile the interval. -/
theorem Inside.sum_part_eq_iff {β : Type} {items : List β} {span : β → Span α} (part : β → α)
    (h : Inside a (items.map span) b) (hpart : ∀ i ∈ items, part i ≤ (span i).width) :
    (items.map part).sum = b - a ↔
      (∀ i ∈ items, part i = (span i).width) ∧ Tiles a (items.map span) b := by
  have hwidth := h.sum_width_le
  have hle : (items.map part).sum ≤ ((items.map span).map width).sum := by
    rw [List.map_map]
    exact List.sum_le_sum hpart
  constructor
  · intro hsum
    have heq : (items.map part).sum = ((items.map span).map width).sum :=
      le_antisymm hle (hwidth.trans hsum.ge)
    refine ⟨?_, h.sum_width_eq_iff.mp (heq.symm.trans hsum)⟩
    rw [List.map_map] at heq
    clear h hwidth hle hsum
    induction items with
    | nil => exact fun i hi => absurd hi List.not_mem_nil
    | cons j rest ih =>
        have hrest : ∀ i ∈ rest, part i ≤ (span i).width :=
          fun i hi => hpart i (List.mem_cons_of_mem _ hi)
        have hsums : (rest.map part).sum ≤ (rest.map (width ∘ span)).sum := List.sum_le_sum hrest
        simp only [List.map_cons, List.sum_cons] at heq
        obtain ⟨hhead, htail⟩ :=
          (add_eq_add_iff_eq_and_eq (hpart j List.mem_cons_self) hsums).mp heq
        intro i hi
        rcases List.mem_cons.mp hi with rfl | hi
        · exact hhead
        · exact ih hrest htail i hi
  · rintro ⟨hwhole, htiles⟩
    rw [← h.sum_width_eq_iff.mpr htiles, List.map_map]
    exact congrArg List.sum (List.map_congr_left hwhole)

end Span

end RouterView.Foundation
