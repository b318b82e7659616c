/-
  Foundation/Amounts.lean --- signed 64-bit amounts, and amounts that are cut.

  Every 64-bit quantity of the model is an `Int`; an operation that Rust performs with an
  explicit overflow policy (`saturating_add`, `saturating_sub`, `checked_mul`,
  `i64::try_from`) is one of the functions below, so that the policy is visible where it is
  used.  The lemmas say when the policy is inactive: the exact result fits, and the
  operation is the one of `Int`.

  An amount `v` spread evenly over a duration `d` is cut at instants `0 ≤ a ≤ b ≤ d`.  The
  slice between two cuts is the difference of two floors, not the floor of the difference:
  consecutive slices therefore telescope, and the slices of a full partition add up to `v`
  with no rounding loss.
-/
import Mathlib.Tactic
import Mathlib.Algebra.Order.Ring.Int

set_option autoImplicit false

namespace RouterView.Foundation

/-! ## The range -/

/-- `i64::MIN`. -/
def i64Min : Int := -9223372036854775808

/-- `i64::MAX`. -/
def i64Max : Int := 9223372036854775807

/-- The value fits a signed 64-bit integer. -/
def IsI64 (x : Int) : Prop := i64Min ≤ x ∧ x ≤ i64Max

instance (x : Int) : Decidable (IsI64 x) := inferInstanceAs (Decidable (_ ∧ _))

/-- `i64::try_from`. -/
def toI64? (x : Int) : Option Int := if IsI64 x then some x else none

theorem toI64?_eq_some_iff {x y : Int} : toI64? x = some y ↔ IsI64 x ∧ x = y := by
  unfold toI64?
  split <;> simp_all

/-! ## Saturation -/

/-- The nearest signed 64-bit integer. -/
def clampI64 (x : Int) : Int := max i64Min (min i64Max x)

/-- `i64::saturating_add`. -/
def satAdd (a b : Int) : Int := clampI64 (a + b)

/-- `i64::saturating_sub`. -/
def satSub (a b : Int) : Int := clampI64 (a - b)

/-- `i64::saturating_mul`. -/
def satMul (a b : Int) : Int := clampI64 (a * b)

theorem clampI64_of_isI64 {x : Int} (h : IsI64 x) : clampI64 x = x := by
  obtain ⟨hlo, hhi⟩ := h
  simp only [clampI64, i64Min, i64Max] at *
  omega

theorem clampI64_isI64 (x : Int) : IsI64 (clampI64 x) := by
  simp only [IsI64, clampI64, i64Min, i64Max]
  omega

theorem clampI64_mono {x y : Int} (h : x ≤ y) : clampI64 x ≤ clampI64 y := by
  simp only [clampI64, i64Min, i64Max]
  omega

theorem clampI64_nonneg {x : Int} (h : 0 ≤ x) : 0 ≤ clampI64 x := by
  simp only [clampI64, i64Min, i64Max]
  omega

theorem clampI64_le_of_nonneg {x : Int} (h : 0 ≤ x) : clampI64 x ≤ x := by
  simp only [clampI64, i64Min, i64Max]
  omega

theorem satAdd_eq {a b : Int} (h : IsI64 (a + b)) : satAdd a b = a + b :=
  clampI64_of_isI64 h

theorem satSub_eq {a b : Int} (h : IsI64 (a - b)) : satSub a b = a - b :=
  clampI64_of_isI64 h

theorem satAdd_nonneg {a b : Int} (ha : 0 ≤ a) (hb : 0 ≤ b) : 0 ≤ satAdd a b :=
  clampI64_nonneg (by omega)

/-- Adding a positive number never lands at or below a value that is itself
below the top of the range: saturation stops at the top. -/
theorem lt_satAdd {a b x : Int} (h : x < a + b) (htop : x < i64Max) :
    x < satAdd a b := by
  simp only [satAdd, clampI64, i64Min, i64Max] at *
  omega

theorem satAdd_le_add {a b : Int} (hlo : i64Min ≤ a + b) : satAdd a b ≤ a + b := by
  simp only [satAdd, clampI64, i64Min, i64Max] at *
  omega

/-! ## Wrapping -/

/-- The signed 64-bit integer that an unchecked operation leaves. -/
def wrapI64 (x : Int) : Int :=
  (x + 9223372036854775808) % 18446744073709551616 - 9223372036854775808

theorem wrapI64_of_isI64 {x : Int} (h : IsI64 x) : wrapI64 x = x := by
  obtain ⟨hlo, hhi⟩ := h
  simp only [i64Min, i64Max] at hlo hhi
  rw [wrapI64, Int.emod_eq_of_lt (by omega) (by omega)]
  omega

/-! ## The 128-bit products of the proportional slices -/

/-- The value fits a signed 128-bit integer. -/
def IsI128 (x : Int) : Prop := -(2 ^ 127) ≤ x ∧ x < 2 ^ 127

instance (x : Int) : Decidable (IsI128 x) := inferInstanceAs (Decidable (_ ∧ _))

/-- `i128::checked_mul`. -/
def checkedMul128 (a b : Int) : Option Int := if IsI128 (a * b) then some (a * b) else none

theorem checkedMul128_eq_some {a b c : Int} (h : checkedMul128 a b = some c) :
    c = a * b := by
  unfold checkedMul128 at h
  split at h <;> simp_all

/-- A product of two nonnegative factors below `2 ^ 64` and `2 ^ 63` fits. -/
theorem checkedMul128_of_bounds {a b : Int} (ha : 0 ≤ a) (ha' : a < 2 ^ 64)
    (hb : 0 ≤ b) (hb' : b < 2 ^ 63) : checkedMul128 a b = some (a * b) := by
  have hlo : 0 ≤ a * b := mul_nonneg ha hb
  have hhi : a * b < 2 ^ 127 := by
    calc a * b ≤ (2 ^ 64 - 1) * b := mul_le_mul_of_nonneg_right (by omega) hb
      _ ≤ (2 ^ 64 - 1) * (2 ^ 63 - 1) := mul_le_mul_of_nonneg_left (by omega) (by norm_num)
      _ < 2 ^ 127 := by norm_num
  have hfit : IsI128 (a * b) := ⟨by omega, hhi⟩
  simp [checkedMul128, hfit]

/-! ## Slices -/

/-- The part of `v`, spread over `[0, d)`, that lies in `[a, b)`. -/
def slice (v d a b : Int) : Int := v * b / d - v * a / d

theorem slice_self (v d a : Int) : slice v d a a = 0 := by
  simp [slice]

/-- Consecutive slices telescope. -/
theorem slice_add (v d a b c : Int) : slice v d a b + slice v d b c = slice v d a c := by
  simp only [slice]
  omega

/-- The slice of the whole duration is the whole quantity. -/
theorem slice_whole {v d : Int} (hd : 0 < d) : slice v d 0 d = v := by
  simp only [slice, mul_zero, Int.zero_ediv, sub_zero]
  exact Int.mul_ediv_cancel v (by omega)

/-- A quantity of one unit per instant has its width in every slice. -/
theorem slice_uniform {d : Int} (hd : 0 < d) (a b : Int) : slice d d a b = b - a := by
  simp only [slice]
  rw [Int.mul_ediv_cancel_left b (by omega), Int.mul_ediv_cancel_left a (by omega)]

theorem slice_nonneg {v d a b : Int} (hv : 0 ≤ v) (hd : 0 < d) (hab : a ≤ b) :
    0 ≤ slice v d a b := by
  have hmul : v * a ≤ v * b := mul_le_mul_of_nonneg_left hab hv
  have hdiv : v * a / d ≤ v * b / d := Int.ediv_le_ediv hd hmul
  simp only [slice]
  omega

/-- A prefix of a nonnegative quantity is at most the quantity. -/
theorem slice_prefix_le {v d b : Int} (hv : 0 ≤ v) (hd : 0 < d) (hb : b ≤ d) :
    slice v d 0 b ≤ v := by
  have hsum := slice_add v d 0 b d
  have hrest := slice_nonneg hv hd hb
  rw [slice_whole hd] at hsum
  omega

/-- The slice of what lies inside a prefix is at most the prefix. -/
theorem slice_inside_le {v d a b stop : Int} (hv : 0 ≤ v) (hd : 0 < d) (ha : 0 ≤ a)
    (hb : b ≤ stop) (hstop : 0 ≤ stop) : slice v d a (max a b) ≤ slice v d 0 stop := by
  rcases le_total a b with hab | hba
  · have hbefore := slice_nonneg hv hd ha
    have hafter := slice_nonneg hv hd hb
    have hfirst := slice_add v d 0 a b
    have hsecond := slice_add v d 0 b stop
    rw [max_eq_right hab]
    omega
  · rw [max_eq_left hba, slice_self]
    exact slice_nonneg hv hd hstop

/-- A quantity of at most one unit per instant has slices of at most one unit
per instant: the two floors cannot gain a full unit over the width. -/
theorem slice_le_width {v d a b : Int} (hd : 0 < d) (hvd : v ≤ d)
    (hab : a ≤ b) : slice v d a b ≤ b - a := by
  have hstep : v * b ≤ v * a + d * (b - a) := by
    have := mul_le_mul_of_nonneg_right hvd (show 0 ≤ b - a by omega)
    linarith [mul_sub v b a]
  have hdiv : v * b / d ≤ (v * a + d * (b - a)) / d := Int.ediv_le_ediv hd hstep
  rw [Int.add_mul_ediv_left _ _ (by omega)] at hdiv
  simp only [slice]
  omega

end RouterView.Foundation
