/-
  Foundation/Instants.lean --- instants that keep a distance, and the months they lie in.

  A list of instants each of which comes at least `gap` after the one before it, and how
  many things fit into a window when any two of them are that far apart.

  Days are counted from 1970-01-01 and instants are milliseconds from its start, in UTC and
  without leap seconds.  A year is taken to begin in March, which puts the leap day at its
  end: the months before it then have fixed lengths, and the day of a month is found from
  the day of such a year without a table.
-/
import Mathlib.Data.Int.Interval
import Mathlib.Tactic

set_option autoImplicit false

namespace RouterView.Foundation

/-! ## Instants in order -/

/-- Each instant comes at least `gap` after the one before it. -/
def Spaced (gap : Int) (instants : List Int) : Prop :=
  instants.IsChain (fun a b => a + gap ≤ b)

instance (gap : Int) (instants : List Int) : Decidable (Spaced gap instants) :=
  inferInstanceAs (Decidable (instants.IsChain _))

section

variable {gap : Int} {instants : List Int}

theorem Spaced.pairwise (h : Spaced gap instants) (hgap : 0 ≤ gap) :
    instants.Pairwise (fun a b => a + gap ≤ b) := by
  have : IsTrans Int (fun a b => a + gap ≤ b) := ⟨fun a b c hab hbc => by omega⟩
  exact List.isChain_iff_pairwise.mp h

theorem Spaced.left {first second : List Int} (h : Spaced gap (first ++ second)) :
    Spaced gap first := (List.isChain_append.mp h).1

/-- The instants before the last one come before it. -/
theorem Spaced.before_last {last : Int} (h : Spaced gap (instants ++ [last])) (hgap : 0 ≤ gap)
    {t : Int} (ht : t ∈ instants) : t + gap ≤ last :=
  (List.pairwise_append.mp (h.pairwise hgap)).2.2 t ht last (List.mem_singleton.mpr rfl)

/-- Two different instants are at least `gap` apart. -/
theorem Spaced.apart (h : Spaced gap instants) (hgap : 0 ≤ gap) {s t : Int} (hs : s ∈ instants)
    (ht : t ∈ instants) (hne : s ≠ t) : s + gap ≤ t ∨ t + gap ≤ s := by
  have hsymm : Std.Symm (fun a b : Int => a + gap ≤ b ∨ b + gap ≤ a) := ⟨fun _ _ => Or.symm⟩
  have heither : instants.Pairwise (fun a b => a + gap ≤ b ∨ b + gap ≤ a) :=
    (h.pairwise hgap).imp Or.inl
  exact heither.forall hs ht hne

end

/-! ## Windows -/

/-- Different integers of a window are no more than the window holds. -/
theorem length_le_of_nodup {l : List Int} (hnodup : l.Nodup) {lo hi : Int}
    (hwithin : ∀ x ∈ l, lo ≤ x ∧ x < hi) : l.length ≤ (hi - lo).toNat := by
  have hsubset : l.toFinset ⊆ Finset.Ico lo hi := by
    intro x hx
    exact Finset.mem_Ico.mpr (hwithin x (List.mem_toFinset.mp hx))
  have hcard := Finset.card_le_card hsubset
  rwa [List.toFinset_card_of_nodup hnodup, Int.card_Ico] at hcard

/-- The window is cut into slots of length `gap`, and no slot holds two of the instants. -/
theorem length_le_of_apart {α : Type} {l : List α} (time : α → Int) (gap lo hi : Int)
    (hgap : 0 < gap)
    (hapart : l.Pairwise (fun a b => time a + gap ≤ time b ∨ time b + gap ≤ time a))
    (hwithin : ∀ a ∈ l, lo ≤ time a ∧ time a < hi) :
    l.length ≤ ((hi - lo + gap - 1) / gap).toNat := by
  have hslots : (l.map (fun a => (time a - lo) / gap)).Nodup := by
    refine List.pairwise_map.mpr (hapart.imp ?_)
    intro a b hab heq
    have ha := Int.emod_nonneg (time a - lo) hgap.ne'
    have hb := Int.emod_nonneg (time b - lo) hgap.ne'
    have ha' := Int.emod_lt_of_pos (time a - lo) hgap
    have hb' := Int.emod_lt_of_pos (time b - lo) hgap
    have hasum := Int.mul_ediv_add_emod (time a - lo) gap
    have hbsum := Int.mul_ediv_add_emod (time b - lo) gap
    rw [heq] at hasum
    omega
  have hslot : ∀ x ∈ l.map (fun a => (time a - lo) / gap),
      0 ≤ x ∧ x < (hi - lo + gap - 1) / gap := by
    intro x hx
    obtain ⟨a, ha, rfl⟩ := List.mem_map.mp hx
    obtain ⟨hlo, hhi⟩ := hwithin a ha
    refine ⟨Int.ediv_nonneg (by omega) hgap.le, ?_⟩
    have hnext : (time a - lo) / gap + 1 = (time a - lo + gap) / gap :=
      (Int.add_ediv_of_dvd_right (dvd_refl gap) |>.trans (by rw [Int.ediv_self hgap.ne'])).symm
    have hmono : (time a - lo + gap) / gap ≤ (hi - lo + gap - 1) / gap :=
      Int.ediv_le_ediv hgap (by omega)
    omega
  have hlength := length_le_of_nodup hslots hslot
  rwa [List.length_map, sub_zero] at hlength

/-! ## The calendar -/

/-- The length of a day. -/
def dayMs : Int := 86400000

/-- The days of the four hundred years that the calendar repeats after. -/
def eraDays : Int := 146097

/-- The day of its era; the eras begin with the first of March of the years that
four hundred divides, the one before 1970 being 719468 days back. -/
def dayOfEra (day : Int) : Int := (day + 719468) % eraDays

/-- The year of its era that holds a day. -/
def yearOfEra (day : Int) : Int :=
  let doe := dayOfEra day
  (doe - doe / 1460 + doe / 36524 - doe / 146096) / 365

/-- The day of its year, from the first of March. -/
def dayOfYear (day : Int) : Int :=
  let yoe := yearOfEra day
  dayOfEra day - (365 * yoe + yoe / 4 - yoe / 100)

/-- The days from the first of March to the first of a month, of which March is
number zero. -/
def daysBeforeMonth (month : Int) : Int := (153 * month + 2) / 5

/-- The month of a day, of which March is number zero. -/
def monthOfYear (day : Int) : Int := (5 * dayOfYear day + 2) / 153

/-- The day of its month, from one. -/
def dayOfMonth (day : Int) : Int := dayOfYear day - daysBeforeMonth (monthOfYear day) + 1

/-- The first instant of the month that holds an instant. -/
def monthStartMs (nowMs : Int) : Int :=
  (nowMs / dayMs - (dayOfMonth (nowMs / dayMs) - 1)) * dayMs

/-- New Year, the leap day of a year that four hundred divides, the day after it, the
last day before the epoch, and the last of a January. -/
example : [0, 11016, 11017, -1, 20484].map dayOfMonth = [1, 29, 1, 31, 31] := by decide

theorem dayOfMonth_bounds (day : Int) : 1 ≤ dayOfMonth day ∧ dayOfMonth day ≤ 31 := by
  simp only [dayOfMonth, daysBeforeMonth, monthOfYear]
  generalize dayOfYear day = doy
  omega

theorem dvd_monthStartMs (nowMs : Int) : dayMs ∣ monthStartMs nowMs := Dvd.intro_left _ rfl

/-- An instant lies less than thirty-one days after the start of its month. -/
theorem lt_monthStartMs_add (nowMs : Int) : nowMs < monthStartMs nowMs + 31 * dayMs := by
  have hday := dayOfMonth_bounds (nowMs / dayMs)
  simp only [monthStartMs, dayMs] at hday ⊢
  omega

/-- The first month has thirty-one days. -/
theorem monthStartMs_january {t : Int} (hpast : 0 ≤ t) (hmonth : t < 31 * dayMs) :
    monthStartMs t = 0 := by
  have hdays : ∀ day : Int, 0 ≤ day → day < 31 → dayOfMonth day = day + 1 := by decide
  simp only [dayMs] at hmonth
  rw [monthStartMs, hdays (t / dayMs) (by simp only [dayMs]; omega) (by simp only [dayMs]; omega)]
  simp

end RouterView.Foundation
