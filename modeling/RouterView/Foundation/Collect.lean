/-
  Foundation/Collect.lean --- items that are worked on a few at a time.

  The items of a list start in their order, as long as fewer than a limit are under
  way, and are done in any order.  What they give, put back into the order of the
  items, is one result for each of them, and they can always be brought to their end.
-/
import Mathlib.Tactic

set_option autoImplicit false

namespace RouterView.Foundation

/-- Items that are worked on: how many of them started, the indices of those under way,
and what the others gave, in the order in which they were done. -/
structure Collection (Item Result : Type) where
  items : List Item
  started : Nat
  inFlight : List Nat
  done : List (Nat × Result)

namespace Collection

variable {Item Result : Type}

/-- Before the first item starts. -/
def new (items : List Item) : Collection Item Result := ⟨items, 0, [], []⟩

/-- The next item starts, if there is one and fewer than the limit are under way. -/
def start (limit : Nat) (c : Collection Item Result) : Collection Item Result :=
  if c.started < c.items.length ∧ c.inFlight.length < limit then
    { c with started := c.started + 1, inFlight := c.inFlight ++ [c.started] }
  else c

/-- An item that is under way is done. -/
def finish (index : Nat) (result : Item → Result) (c : Collection Item Result) :
    Collection Item Result :=
  match c.items[index]? with
  | some item =>
      if index ∈ c.inFlight then
        { c with inFlight := c.inFlight.erase index, done := c.done ++ [(index, result item)] }
      else c
  | none => c

/-- Every item is done. -/
def Finished (c : Collection Item Result) : Prop :=
  c.started = c.items.length ∧ c.inFlight = []

instance (c : Collection Item Result) : Decidable c.Finished :=
  inferInstanceAs (Decidable (_ ∧ _))

/-- The order of the indices. -/
def byIndex (a b : Nat × Result) : Bool := decide (a.1 ≤ b.1)

/-- What the items gave, in the order of their indices. -/
def results (c : Collection Item Result) : List Result :=
  (c.done.mergeSort byIndex).map Prod.snd

/-! ## One result for each item -/

/-- What the steps keep: the items that started are under way or done, each once, not
too many are under way, and what is done is what the item may give. -/
structure Sound (gives : Item → Result → Prop) (limit : Nat) (c : Collection Item Result) :
    Prop where
  started : c.started ≤ c.items.length
  indices : (c.inFlight ++ c.done.map Prod.fst).Perm (List.range c.started)
  bounded : c.inFlight.length ≤ limit
  done : ∀ entry ∈ c.done, ∃ item, c.items[entry.1]? = some item ∧ gives item entry.2

variable {gives : Item → Result → Prop} {limit : Nat} {c : Collection Item Result}

theorem Sound.new (items : List Item) : Sound gives limit (new items) :=
  ⟨Nat.zero_le _, List.Perm.refl _, Nat.zero_le _, fun _ hentry => absurd hentry List.not_mem_nil⟩

@[simp] theorem start_items : (c.start limit).items = c.items := by
  rw [start]
  split <;> rfl

@[simp] theorem finish_items {index : Nat} {result : Item → Result} :
    (c.finish index result).items = c.items := by
  rw [finish]
  split
  · split <;> rfl
  · rfl

theorem Sound.start (h : Sound gives limit c) : Sound gives limit (c.start limit) := by
  rw [Collection.start]
  split
  · rename_i hroom
    refine ⟨hroom.1, ?_, ?_, h.done⟩
    · have hnext : (c.inFlight ++ c.done.map Prod.fst ++ [c.started]).Perm
          (List.range c.started ++ [c.started]) := h.indices.append_right _
      rw [← List.range_succ] at hnext
      refine List.Perm.trans ?_ hnext
      rw [List.append_assoc, List.append_assoc]
      exact List.perm_append_comm.append_left c.inFlight
    · rw [List.length_append]
      exact hroom.2
  · exact h

theorem Sound.finish (h : Sound gives limit c) {index : Nat} {result : Item → Result}
    (hresult : ∀ item, gives item (result item)) : Sound gives limit (c.finish index result) := by
  rw [Collection.finish]
  split
  · rename_i item hitem
    split
    · rename_i hmem
      refine ⟨h.started, ?_, ?_, ?_⟩
      · have herase : (index :: c.inFlight.erase index).Perm c.inFlight :=
          (List.perm_cons_erase hmem).symm
        refine List.Perm.trans ?_ ((herase.append_right _).trans h.indices)
        rw [List.map_append, List.map_singleton, ← List.append_assoc]
        exact List.perm_append_singleton index _
      · exact le_trans (List.length_erase_le) h.bounded
      · intro entry hentry
        obtain hentry | hentry := List.mem_append.mp hentry
        · exact h.done entry hentry
        · rw [List.mem_singleton.mp hentry]
          exact ⟨item, hitem, hresult item⟩
    · exact h
  · exact h

theorem pairwise_byIndex (entries : List (Nat × Result)) :
    (entries.mergeSort byIndex).Pairwise (fun a b => a.1 ≤ b.1) := by
  have htrans : ∀ a b c : Nat × Result, byIndex a b = true → byIndex b c = true →
      byIndex a c = true := by
    intro a b c hab hbc
    exact decide_eq_true (le_trans (of_decide_eq_true hab) (of_decide_eq_true hbc))
  have htotal : ∀ a b : Nat × Result, (byIndex a b || byIndex b a) = true := by
    intro a b
    exact Bool.or_eq_true_iff.mpr ((le_total a.1 b.1).imp decide_eq_true decide_eq_true)
  exact (List.pairwise_mergeSort htrans htotal entries).imp of_decide_eq_true

/-- When every item is done, the results are one for each item, in their order. -/
theorem Sound.results (h : Sound gives limit c) (hfinished : c.Finished) :
    List.Forall₂ gives c.items c.results := by
  obtain ⟨hstarted, hnone⟩ := hfinished
  rw [Collection.results]
  have hperm := List.mergeSort_perm c.done byIndex
  have hsorted := pairwise_byIndex c.done
  generalize c.done.mergeSort byIndex = entries at hperm hsorted
  -- The indices of the sorted entries are those of the items, in order.
  have hindices : entries.map Prod.fst = List.range c.items.length := by
    have hall := h.indices
    rw [hnone, List.nil_append, hstarted] at hall
    refine List.Perm.eq_of_pairwise' (r := (· ≤ ·)) (List.pairwise_map.mpr hsorted) ?_
      ((hperm.map Prod.fst).trans hall)
    exact List.pairwise_le_range
  have hlength : entries.length = c.items.length := by
    have hmap := congrArg List.length hindices
    rwa [List.length_map, List.length_range] at hmap
  refine List.forall₂_iff_get.mpr ⟨?_, ?_⟩
  · rw [List.length_map, hlength]
  · intro i hitem hresult
    have hentry : i < entries.length := hlength ▸ hitem
    have hindex : entries[i].1 = i := by
      have hget := List.getElem_of_eq hindices (i := i) (by rwa [List.length_map])
      rwa [List.getElem_map, List.getElem_range] at hget
    obtain ⟨item, hfound, hgives⟩ := h.done _ (hperm.mem_iff.mp (List.getElem_mem hentry))
    rw [hindex, List.getElem?_eq_getElem hitem] at hfound
    cases hfound
    rw [List.get_eq_getElem, List.get_eq_getElem, List.getElem_map]
    exact hgives

/-! ## Every collection comes to its end -/

/-- A step: the next item starts, or one that is under way is done. -/
def Moves (limit : Nat) (result : Nat → Item → Result) (c d : Collection Item Result) : Prop :=
  d = c.start limit ∨ ∃ index, d = c.finish index (result index)

/-- How many steps are left. -/
def remaining (c : Collection Item Result) : Nat :=
  2 * (c.items.length - c.started) + c.inFlight.length

theorem remaining_start (h : c.started < c.items.length) (hroom : c.inFlight.length < limit) :
    (c.start limit).remaining < c.remaining := by
  simp only [Collection.start, if_pos (And.intro h hroom), remaining, List.length_append,
    List.length_singleton]
  omega

theorem remaining_finish {index : Nat} {item : Item} (hitem : c.items[index]? = some item)
    (hmem : index ∈ c.inFlight) (result : Item → Result) :
    (c.finish index result).remaining < c.remaining := by
  have hpos := List.length_pos_of_mem hmem
  have herase := List.length_erase_of_mem hmem
  simp only [Collection.finish, hitem, if_pos hmem, remaining, herase]
  omega

/-- An item that is under way is one of the items. -/
theorem Sound.item_of_inFlight (h : Sound gives limit c) {index : Nat} (hmem : index ∈ c.inFlight) :
    ∃ item, c.items[index]? = some item := by
  have hrange : index ∈ List.range c.started :=
    h.indices.mem_iff.mp (List.mem_append_left _ hmem)
  exact ⟨_, List.getElem?_eq_getElem (lt_of_lt_of_le (List.mem_range.mp hrange) h.started)⟩

/-- From wherever it is, a collection can be brought to its end, with one result for each
of its items. -/
theorem Sound.reaches_finished (h : Sound gives limit c) (hlimit : 0 < limit)
    (result : Nat → Item → Result) (hresult : ∀ index item, gives item (result index item)) :
    ∃ d, Relation.ReflTransGen (Moves limit result) c d ∧ d.Finished ∧
      List.Forall₂ gives c.items d.results := by
  induction hleft : c.remaining using Nat.strong_induction_on generalizing c with
  | _ left ih =>
      subst hleft
      cases hflight : c.inFlight with
      | nil =>
          by_cases hall : c.started = c.items.length
          · exact ⟨c, .refl, ⟨hall, hflight⟩, h.results ⟨hall, hflight⟩⟩
          · have hnext : c.started < c.items.length := lt_of_le_of_ne h.started hall
            have hroom : c.inFlight.length < limit := by rwa [hflight]
            obtain ⟨d, hmoves, hend, hresults⟩ := ih _ (remaining_start hnext hroom) h.start rfl
            rw [start_items] at hresults
            exact ⟨d, .head (Or.inl rfl) hmoves, hend, hresults⟩
      | cons index rest =>
          have hmem : index ∈ c.inFlight := hflight ▸ List.mem_cons_self
          obtain ⟨item, hitem⟩ := h.item_of_inFlight hmem
          obtain ⟨d, hmoves, hend, hresults⟩ := ih _
            (remaining_finish hitem hmem (result index)) (h.finish (hresult index)) rfl
          rw [finish_items] at hresults
          exact ⟨d, .head (Or.inr ⟨index, rfl⟩) hmoves, hend, hresults⟩

end Collection

end RouterView.Foundation
