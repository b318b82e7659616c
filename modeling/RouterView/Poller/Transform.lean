/-
  Poller/Transform.lean --- rates of byte counters.

  `calculate_counter_rate` and `wrapped_counter_delta` of
  `poller/transform.rs`.  Counters are unsigned 64-bit integers.  Whatever the
  transition, a reported delta is the difference of the two counters modulo
  `2 ^ 64`: the wrap case adds the part before and the part after the boundary.
-/
import RouterView.Foundation.F64

set_option autoImplicit false

namespace RouterView.Poller

open RouterView.Foundation

/-- `CounterTransition`. -/
inductive CounterTransition where
  | initial
  | advanced
  | wrapped
  | rebooted
  | reset
  | invalidElapsed
  deriving DecidableEq, Repr

/-- `CounterRate`. -/
structure CounterRate where
  deltaBytes : Option UInt64
  bitsPerSecond : Option F64
  transition : CounterTransition
  deriving DecidableEq, Repr

/-- `u64::MAX`. -/
def u64Max : UInt64 := 18446744073709551615

/-- `u64::saturating_add`. -/
def satAddU64 (a b : UInt64) : UInt64 :=
  if a.toNat + b.toNat ≤ u64Max.toNat then a + b else u64Max

/-- `wrapped_counter_delta`. -/
def wrappedCounterDelta (previous current : UInt64) : Option UInt64 :=
  if previous ≤ u64Max / 4 * 3 ∨ u64Max / 4 ≤ current then none
  else some (satAddU64 (satAddU64 (u64Max - previous) current) 1)

/-- The elapsed seconds, when they are finite and positive. -/
def usableElapsed (elapsedSecs : Option F64) : Option Rat :=
  match elapsedSecs with
  | some (.finite elapsed) => if 0 < elapsed then some elapsed else none
  | _ => none

/-- The router restarted: its uptime went down. -/
def uptimeDecreased (previous current : Option UInt64) : Bool :=
  match previous, current with
  | some previous, some current => decide (current < previous)
  | _, _ => false

/-- `calculate_counter_rate`. -/
def calculateCounterRate (previous : Option UInt64) (current : UInt64)
    (previousUptimeSeconds currentUptimeSeconds : Option UInt64)
    (elapsedSecs : Option F64) : CounterRate :=
  match previous with
  | none => ⟨none, none, .initial⟩
  | some previous =>
      if uptimeDecreased previousUptimeSeconds currentUptimeSeconds then
        ⟨none, none, .rebooted⟩
      else
        let change : Option (UInt64 × CounterTransition) :=
          if previous ≤ current then some (current - previous, .advanced)
          else (wrappedCounterDelta previous current).map (·, .wrapped)
        match change with
        | none => ⟨none, none, .reset⟩
        | some (delta, transition) =>
            match usableElapsed elapsedSecs with
            | none => ⟨some delta, none, .invalidElapsed⟩
            | some elapsed =>
                ⟨some delta, some (.finite (delta.toNat * 8 / elapsed)), transition⟩

/-! ## Deltas -/

/-- The transition continues the counter: no traffic was lost from view. -/
def CounterTransition.Continuous (t : CounterTransition) : Prop :=
  t = .advanced ∨ t = .wrapped

instance (t : CounterTransition) : Decidable t.Continuous :=
  inferInstanceAs (Decidable (_ ∨ _))

/-- The saturating sum across the boundary is exact. -/
theorem wrappedCounterDelta_eq_sub {previous current delta : UInt64}
    (h : wrappedCounterDelta previous current = some delta) :
    delta = current - previous := by
  unfold wrappedCounterDelta at h
  split at h
  · cases h
  · rename_i hrange
    simp only [not_or, UInt64.not_le] at hrange
    obtain ⟨hprevious, hcurrent⟩ := hrange
    have hprevious' : 13835058055282163709 < previous.toNat := by
      have := UInt64.lt_iff_toNat_lt.mp hprevious
      simpa [u64Max] using this
    have hcurrent' : current.toNat < 4611686018427387903 := by
      have := UInt64.lt_iff_toNat_lt.mp hcurrent
      simpa [u64Max] using this
    have hp := previous.toNat_lt
    have hle : previous ≤ u64Max := UInt64.le_iff_toNat_le.mpr (by
      simp only [u64Max]
      change previous.toNat ≤ 18446744073709551615
      omega)
    have hhead : (u64Max - previous).toNat = 18446744073709551615 - previous.toNat := by
      rw [UInt64.toNat_sub_of_le _ _ hle]
      rfl
    have hmax : u64Max.toNat = 18446744073709551615 := rfl
    have hfirst : satAddU64 (u64Max - previous) current = u64Max - previous + current := by
      unfold satAddU64
      rw [if_pos (by omega)]
    have hsum : (u64Max - previous + current).toNat =
        18446744073709551615 - previous.toNat + current.toNat := by
      rw [UInt64.toNat_add, hhead]
      omega
    have hsecond : satAddU64 (u64Max - previous + current) 1 = u64Max - previous + current + 1 := by
      unfold satAddU64
      have hone : (1 : UInt64).toNat = 1 := rfl
      rw [if_pos (by omega)]
    rw [hfirst, hsecond, Option.some.injEq] at h
    rw [← h]
    have hone : (1 : UInt64).toNat = 1 := rfl
    apply UInt64.toNat_inj.mp
    rw [UInt64.toNat_add, hsum, UInt64.toNat_sub, hone]
    omega

/-- A rate with both a delta and a speed comes from a continuous transition, and
its delta is the difference of the counters modulo `2 ^ 64`. -/
theorem calculateCounterRate_continuous {previous current : UInt64}
    {previousUptime currentUptime : Option UInt64} {elapsed : Option F64}
    {delta : UInt64} {bps : F64}
    (hdelta : (calculateCounterRate (some previous) current previousUptime currentUptime
      elapsed).deltaBytes = some delta)
    (hbps : (calculateCounterRate (some previous) current previousUptime currentUptime
      elapsed).bitsPerSecond = some bps) :
    (calculateCounterRate (some previous) current previousUptime currentUptime
        elapsed).transition.Continuous ∧
      delta = current - previous := by
  unfold calculateCounterRate at hdelta hbps ⊢
  simp only at hdelta hbps ⊢
  split at hdelta
  · cases hdelta
  · rename_i huptime
    rw [if_neg huptime] at hbps ⊢
    by_cases hle : previous ≤ current
    · simp only [hle, if_true] at hdelta hbps ⊢
      cases helapsed : usableElapsed elapsed with
      | none => simp [helapsed] at hbps
      | some secs =>
          simp only [helapsed, Option.some.injEq] at hdelta ⊢
          exact ⟨Or.inl rfl, hdelta.symm⟩
    · simp only [hle, if_false] at hdelta hbps ⊢
      cases hwrapped : wrappedCounterDelta previous current with
      | none => simp [hwrapped] at hdelta
      | some wrapped =>
          cases helapsed : usableElapsed elapsed with
          | none => simp [hwrapped, helapsed] at hbps
          | some secs =>
              simp only [hwrapped, helapsed, Option.map_some, Option.some.injEq] at hdelta ⊢
              exact ⟨Or.inr rfl, hdelta.symm.trans (wrappedCounterDelta_eq_sub hwrapped)⟩

example : (calculateCounterRate (some 18446744073709551610) 4 (some 7) (some 8)
    (some (.finite 1))).deltaBytes = some 10 := by decide

/-- A counter that stands still, between two uptimes that do not go down. -/
theorem calculateCounterRate_same {counter : UInt64} {before after : Option UInt64} {elapsed : Rat}
    (huptime : uptimeDecreased before after = false) (helapsed : 0 < elapsed) :
    calculateCounterRate (some counter) counter before after (some (.finite elapsed)) =
      ⟨some 0, some (.finite 0), .advanced⟩ := by
  have husable : usableElapsed (some (.finite elapsed)) = some elapsed := if_pos helapsed
  unfold calculateCounterRate
  rw [huptime, husable]
  simp

end RouterView.Poller
