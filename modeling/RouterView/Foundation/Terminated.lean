/-
  Foundation/Terminated.lean --- sequences of fields, each with a terminator.

  Fields that are written one after the other, each followed by a symbol that
  none of them contains, can be read back.  The bytes of a text contain the byte
  zero only where the text contains the character NUL, so texts without NUL are
  such fields.
-/
import RouterView.Foundation.Text

set_option autoImplicit false

namespace RouterView.Foundation

/-! ## Fields -/

section

variable {α : Type}

/-- The fields in order, each followed by the terminator. -/
def terminated (terminator : α) (fields : List (List α)) : List α :=
  fields.flatMap (fun field => field ++ [terminator])

@[simp] theorem terminated_nil (terminator : α) : terminated terminator [] = [] := rfl

@[simp] theorem terminated_cons (terminator : α) (field : List α) (rest : List (List α)) :
    terminated terminator (field :: rest) = field ++ terminator :: terminated terminator rest := by
  simp [terminated]

/-- Two fields that end at their first terminator are the same. -/
theorem field_unique {terminator : α} {x y s t : List α} (hx : terminator ∉ x)
    (hy : terminator ∉ y) (h : x ++ terminator :: s = y ++ terminator :: t) : x = y ∧ s = t := by
  induction x generalizing y with
  | nil =>
      cases y with
      | nil => exact ⟨rfl, (List.cons.inj h).2⟩
      | cons b y =>
          obtain ⟨hhead, _⟩ := List.cons.inj h
          exact absurd (hhead ▸ List.mem_cons_self) hy
  | cons a x ih =>
      cases y with
      | nil =>
          obtain ⟨hhead, _⟩ := List.cons.inj h
          exact absurd (hhead ▸ List.mem_cons_self) hx
      | cons b y =>
          obtain ⟨hhead, htail⟩ := List.cons.inj h
          obtain ⟨hxy, hst⟩ := ih (fun hmem => hx (List.mem_cons_of_mem _ hmem))
            (fun hmem => hy (List.mem_cons_of_mem _ hmem)) htail
          exact ⟨by rw [hhead, hxy], hst⟩

/-- Fields without the terminator can be read back. -/
theorem terminated_injective {terminator : α} {xs ys : List (List α)}
    (hxs : ∀ x ∈ xs, terminator ∉ x) (hys : ∀ y ∈ ys, terminator ∉ y)
    (h : terminated terminator xs = terminated terminator ys) : xs = ys := by
  induction xs generalizing ys with
  | nil =>
      cases ys with
      | nil => rfl
      | cons y ys => simp at h
  | cons x xs ih =>
      cases ys with
      | nil => simp at h
      | cons y ys =>
          rw [terminated_cons, terminated_cons] at h
          obtain ⟨hfield, hrest⟩ :=
            field_unique (hxs x List.mem_cons_self) (hys y List.mem_cons_self) h
          rw [hfield, ih (fun z hz => hxs z (List.mem_cons_of_mem _ hz))
            (fun z hz => hys z (List.mem_cons_of_mem _ hz)) hrest]

end

/-! ## Texts -/

theorem zero_ne_byte {n : Nat} (hpos : 0 < n) (hbyte : n < 256) : (0 : UInt8) ≠ UInt8.ofNat n := by
  intro h
  have hnat := congrArg UInt8.toNat h
  rw [UInt8.toNat_ofNat_of_lt' hbyte] at hnat
  exact absurd hnat hpos.ne

/-- Only the character NUL is encoded with a byte zero. -/
theorem eq_nul_of_zero_mem {c : Char} (h : (0 : UInt8) ∈ String.utf8EncodeChar c) :
    c = Char.ofNat 0 := by
  have hval : c.val.toNat = 0 := by
    unfold String.utf8EncodeChar at h
    simp only at h
    split at h
    · rw [List.mem_singleton] at h
      by_contra hne
      exact zero_ne_byte (Nat.pos_of_ne_zero hne) (by omega) h
    -- the bytes of a longer encoding have their highest bit set
    · exfalso
      split at h
      · simp only [List.mem_cons, List.not_mem_nil, or_false] at h
        rcases h with h | h <;> exact zero_ne_byte (by omega) (by omega) h
      · split at h
        · simp only [List.mem_cons, List.not_mem_nil, or_false] at h
          rcases h with h | h | h <;> exact zero_ne_byte (by omega) (by omega) h
        · simp only [List.mem_cons, List.not_mem_nil, or_false] at h
          rcases h with h | h | h | h <;> exact zero_ne_byte (by omega) (by omega) h
  apply Char.ext
  apply UInt32.toNat_inj.mp
  rw [hval]
  rfl

/-- The text has no character NUL. -/
def NulFree (s : String) : Prop := Char.ofNat 0 ∉ s.toList

instance (s : String) : Decidable (NulFree s) := inferInstanceAs (Decidable (_ ∉ _))

theorem NulFree.zero_notMem {s : String} (h : NulFree s) : (0 : UInt8) ∉ asBytes s := by
  rw [asBytes_eq, List.mem_flatMap]
  rintro ⟨c, hc, hzero⟩
  exact h (eq_nul_of_zero_mem hzero ▸ hc)

end RouterView.Foundation
