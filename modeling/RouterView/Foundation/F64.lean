/-
  Foundation/F64.lean --- double-precision numbers.

  A finite number is the rational it stands for; the infinities and `NaN` are
  values of their own, since the code tests for them.  `ofRat` is the rounding of
  IEEE 754: to the nearest number of 53 binary digits, ties to the even one.
  `mul`, `div` and SQLite's `ROUND` round with it, for the code that stores an
  integer computed from the last bit of a rate.

  Left out: the sign of zero, and the rounding of `add` and of the rates that are
  only stored and compared for equality with themselves; nothing is derived from
  their last bit.

  A derived comparison over floating-point fields says that equal values are equal, but
  not that a value is equal to itself.  The half that holds is enough for a program that
  skips what compares equal.
-/
import Mathlib.Data.Rat.Defs
import Mathlib.Tactic

set_option autoImplicit false

namespace RouterView.Foundation

/-- An `f64`. -/
inductive F64 where
  | nan
  | inf (negative : Bool)
  | finite (value : Rat)
  deriving DecidableEq, Repr

namespace F64

/-- `f64::is_finite`. -/
def isFinite : F64 → Bool
  | .finite _ => true
  | _ => false

/-- The comparison `x < 0.0`. -/
def isNegative : F64 → Bool
  | .nan => false
  | .inf negative => negative
  | .finite value => decide (value < 0)

/-- The comparison `x > 0.0`. -/
def isPositive : F64 → Bool
  | .nan => false
  | .inf negative => !negative
  | .finite value => decide (0 < value)

/-- `x + y`. -/
def add : F64 → F64 → F64
  | .finite x, .finite y => .finite (x + y)
  | .inf x, .inf y => if x = y then .inf x else .nan
  | .inf x, .finite _ => .inf x
  | .finite _, .inf y => .inf y
  | .nan, _ => .nan
  | _, .nan => .nan

/-! ## Rounding -/

/-- The nearest integer, and the even one of two. -/
def roundHalfEven (x : Rat) : Int :=
  let below := x.floor
  if x - below < 1 / 2 ∨ (x - below = 1 / 2 ∧ below % 2 = 0) then below else below + 1

/-- The exponent of the leading binary digit of a number that is not zero. -/
def leadingExponent (x : Rat) : Int :=
  let e : Int := (Nat.log2 x.num.natAbs : Int) - Nat.log2 x.den
  if |x| < 2 ^ e then e - 1 else e

/-- The exponent of the last of 53 binary digits; there is none below `2 ^ -1074`. -/
def lastExponent (x : Rat) : Int := max (leadingExponent x - 52) (-1074)

/-- The nearest `f64`. -/
def ofRat (x : Rat) : F64 :=
  let unit : Rat := 2 ^ lastExponent x
  let rounded : Rat := roundHalfEven (x / unit) * unit
  if |rounded| < 2 ^ 1024 then .finite rounded else .inf (decide (x < 0))

/-- `x * y`. -/
def mul : F64 → F64 → F64
  | .nan, _ => .nan
  | _, .nan => .nan
  | .finite x, .finite y => ofRat (x * y)
  | .inf negative, .finite y => if y = 0 then .nan else .inf (negative ^^ decide (y < 0))
  | .finite x, .inf negative => if x = 0 then .nan else .inf (negative ^^ decide (x < 0))
  | .inf x, .inf y => .inf (x ^^ y)

/-- `x / y`; a zero divisor counts as positive. -/
def div : F64 → F64 → F64
  | .nan, _ => .nan
  | _, .nan => .nan
  | .finite x, .finite y =>
      if y = 0 then if x = 0 then .nan else .inf (decide (x < 0)) else ofRat (x / y)
  | .inf negative, .finite y => .inf (negative ^^ decide (y < 0))
  | .finite _, .inf _ => .finite 0
  | .inf _, .inf _ => .nan

/-- SQLite's `ROUND(x)`: a half is added, or subtracted below zero, and the fraction is cut
off; from `2 ^ 52` on there is none. -/
def roundSql : F64 → F64
  | .finite x =>
      if |x| > 2 ^ 52 then .finite x
      else if x < 0 then
        match ofRat (x - 1 / 2) with
        | .finite y => .finite y.ceil
        | other => other
      else
        match ofRat (x + 1 / 2) with
        | .finite y => .finite y.floor
        | other => other
  | other => other

example : ofRat (1 / 10) = .finite (3602879701896397 / 2 ^ 55) := by decide +kernel

/-! ## Comparison -/

/-- The comparison `x == y`: `NaN` is equal to nothing. -/
def eq : F64 → F64 → Bool
  | .nan, _ => false
  | x, y => decide (x = y)

theorem eq_of_eq {x y : F64} (h : F64.eq x y = true) : x = y := by
  cases x with
  | nan => simp [F64.eq] at h
  | inf negative => exact of_decide_eq_true h
  | finite value => exact of_decide_eq_true h

theorem eq_self_iff {x : F64} : F64.eq x x = true ↔ x ≠ .nan := by
  cases x <;> simp [F64.eq]

end F64

/-! ## Comparisons -/

/-- What compares equal is equal. -/
class SoundBEq (α : Type) [BEq α] : Prop where
  eq_of_beq : ∀ {a b : α}, (a == b) = true → a = b

section

variable {α : Type} [BEq α]

theorem sound_beq [SoundBEq α] {a b : α} (h : (a == b) = true) : a = b := SoundBEq.eq_of_beq h

instance (priority := low) [LawfulBEq α] : SoundBEq α where
  eq_of_beq := eq_of_beq

instance [SoundBEq α] : SoundBEq (Option α) where
  eq_of_beq := by
    intro a b h
    cases a with
    | none =>
        cases b with
        | none => rfl
        | some y => cases h
    | some x =>
        cases b with
        | none => cases h
        | some y =>
            have hxy : (x == y) = true := h
            rw [sound_beq hxy]

instance [SoundBEq α] : SoundBEq (List α) where
  eq_of_beq := by
    intro a b h
    induction a generalizing b with
    | nil =>
        cases b with
        | nil => rfl
        | cons y ys => cases h
    | cons x xs ih =>
        cases b with
        | nil => cases h
        | cons y ys =>
            obtain ⟨hxy, hrest⟩ := (Bool.and_eq_true _ _).mp h
            rw [sound_beq hxy, ih hrest]

end

/-- `PartialEq` of `f64`. -/
instance : BEq F64 := ⟨F64.eq⟩

instance : SoundBEq F64 := ⟨F64.eq_of_eq⟩

end RouterView.Foundation
