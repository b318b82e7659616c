/-
  Transform/Uptime.lean --- the two parsers of an uptime.

  `parse_uptime_seconds` of `backends/routeros/transform.rs`, by which a reboot is
  detected, and `parse_routeros_uptime_to_seconds` of `poller/transform.rs`, which is
  displayed.  The first rejects and saturates; the second skips what it does not know,
  and adds and multiplies as `u64` does: modulo `2 ^ 64`, or with a panic in a build
  that checks for it.  How Unicode text is lowered is an argument.
-/
import RouterView.Foundation.Text
import RouterView.Poller.Transform

set_option autoImplicit false

namespace RouterView.Transform

open RouterView.Foundation
open RouterView.Poller (u64Max satAddU64)

/-! ## The strict parser -/

/-- `u64::saturating_mul`. -/
def satMulU64 (a b : UInt64) : UInt64 :=
  if a.toNat * b.toNat ≤ u64Max.toNat then a * b else u64Max

/-- The seconds of a unit of an uptime. -/
def unitSeconds : Char → Option UInt64
  | 'w' => some 604800
  | 'd' => some 86400
  | 'h' => some 3600
  | 'm' => some 60
  | 's' => some 1
  | _ => none

/-- The loop of `parse_uptime_seconds`: the digits since the last unit, the total, and
whether there was a unit. -/
def parseUptimeLoop : List Char → String → UInt64 → Bool → Option UInt64
  | [], digits, total, sawUnit => if digits.isEmpty && sawUnit then some total else none
  | unit :: rest, digits, total, sawUnit =>
      if unit.isDigit then parseUptimeLoop rest (digits.push unit) total sawUnit
      else
        (parseU64 digits).bind (fun amount =>
          (unitSeconds unit.toLower).bind (fun factor =>
            parseUptimeLoop rest "" (satAddU64 total (satMulU64 amount factor)) true))

/-- `parse_uptime_seconds`. -/
def parseUptimeSeconds (value : String) : Option UInt64 := parseUptimeLoop value.toList "" 0 false

/-! ## The lenient parser -/

/-- A total of the lenient parser: its value modulo `2 ^ 64`, and whether a product or
a sum did not fit. -/
structure UptimeTotal where
  seconds : UInt64
  overflowed : Bool
  deriving DecidableEq, Repr

/-- `total += val * factor`. -/
def UptimeTotal.add (total : UptimeTotal) (value factor : UInt64) : UptimeTotal where
  seconds := total.seconds + value * factor
  overflowed := total.overflowed || decide (2 ^ 64 ≤ value.toNat * factor.toNat) ||
    decide (2 ^ 64 ≤ total.seconds.toNat + (value * factor).toNat)

/-- The loop of `parse_routeros_uptime_to_seconds`. -/
def parseRouterosUptimeLoop : List Char → String → UptimeTotal → UptimeTotal
  | [], _, total => total
  | ch :: rest, current, total =>
      if ch.isDigit then parseRouterosUptimeLoop rest (current.push ch) total
      else if ch.isAlpha then
        let value := (parseU64 current).getD 0
        let added := match unitSeconds ch with
          | some factor => total.add value factor
          | none => total
        parseRouterosUptimeLoop rest "" added
      else parseRouterosUptimeLoop rest current total

section

variable (lower : String → String)

/-- `parse_routeros_uptime_to_seconds`, with the record of an overflow. -/
def parseRouterosUptimeTotal (raw : String) : UptimeTotal :=
  parseRouterosUptimeLoop (lower raw).toList "" ⟨0, false⟩

/-- `parse_routeros_uptime_to_seconds`. -/
def parseRouterosUptimeToSeconds (raw : String) : UInt64 :=
  (parseRouterosUptimeTotal lower raw).seconds

/-- The text of a number of seconds. -/
def displayUptime (totalSecs : UInt64) : String :=
  let days := totalSecs / 86400
  let hours := totalSecs % 86400 / 3600
  let mins := totalSecs % 3600 / 60
  if days > 0 then toString days ++ "天" ++ toString hours ++ "小时"
  else if hours > 0 then toString hours ++ "小时" ++ toString mins ++ "分钟"
  else toString mins ++ "分钟"

/-- `parse_routeros_uptime`. -/
def parseRouterosUptime (raw : String) : String :=
  displayUptime (parseRouterosUptimeToSeconds lower raw)

end

/-! ## The exact sum -/

/-- The sum of the counts times the seconds of their units, without a bound. -/
def exactUptime : List Char → String → Nat
  | [], _ => 0
  | unit :: rest, digits =>
      if unit.isDigit then exactUptime rest (digits.push unit)
      else ((parseU64 digits).getD 0).toNat * ((unitSeconds unit.toLower).getD 0).toNat +
        exactUptime rest ""

/-- The exact number of seconds of an uptime. -/
def exactSeconds (value : String) : Nat := exactUptime value.toList ""

theorem UptimeTotal.add_overflowed {total : UptimeTotal} (h : total.overflowed = true)
    (value factor : UInt64) : (total.add value factor).overflowed = true := by
  simp only [UptimeTotal.add, h, Bool.true_or]

/-- An overflow is not forgotten. -/
theorem parseRouterosUptimeLoop_overflowed (cs : List Char) (current : String)
    {total : UptimeTotal} (h : total.overflowed = true) :
    (parseRouterosUptimeLoop cs current total).overflowed = true := by
  induction cs generalizing current total with
  | nil => exact h
  | cons ch rest ih =>
      unfold parseRouterosUptimeLoop
      split
      · exact ih _ h
      · split
        · apply ih
          cases unitSeconds ch with
          | none => exact h
          | some factor => exact UptimeTotal.add_overflowed h _ factor
        · exact ih _ h

/-- A sum that fits is exact in both parsers. -/
theorem add_of_fits {total value factor : UInt64}
    (h : total.toNat + value.toNat * factor.toNat < 2 ^ 64) :
    (satAddU64 total (satMulU64 value factor)).toNat =
        total.toNat + value.toNat * factor.toNat ∧
      (UptimeTotal.mk total false).add value factor =
        ⟨satAddU64 total (satMulU64 value factor), false⟩ := by
  have hmax : u64Max.toNat = 2 ^ 64 - 1 := by decide
  have hproduct : value.toNat * factor.toNat ≤ u64Max.toNat := by omega
  have hmul : (value * factor).toNat = value.toNat * factor.toNat := by
    rw [UInt64.toNat_mul, Nat.mod_eq_of_lt (by omega)]
  have hsum : total.toNat + (value * factor).toNat ≤ u64Max.toNat := by omega
  have hadd : satAddU64 total (satMulU64 value factor) = total + value * factor := by
    rw [satMulU64, if_pos hproduct, satAddU64, if_pos hsum]
  rw [hadd]
  constructor
  · rw [UInt64.toNat_add, hmul, Nat.mod_eq_of_lt (by omega)]
  · have hfits : ¬(2 ^ 64 ≤ value.toNat * factor.toNat) := by omega
    have hfits' : ¬(2 ^ 64 ≤ total.toNat + (value * factor).toNat) := by omega
    simp only [UptimeTotal.add, hfits, hfits', decide_false, Bool.or_false]

/-- A sum that does not fit is recorded. -/
theorem add_of_not_fits {total value factor : UInt64}
    (h : 2 ^ 64 ≤ total.toNat + value.toNat * factor.toNat) :
    ((UptimeTotal.mk total false).add value factor).overflowed = true := by
  by_cases hproduct : 2 ^ 64 ≤ value.toNat * factor.toNat
  · simp only [UptimeTotal.add, hproduct, decide_true, Bool.or_true, Bool.true_or]
  · have hmul : (value * factor).toNat = value.toNat * factor.toNat := by
      rw [UInt64.toNat_mul, Nat.mod_eq_of_lt (by omega)]
    have hsum : 2 ^ 64 ≤ total.toNat + (value * factor).toNat := by omega
    simp only [UptimeTotal.add, hsum, decide_true, Bool.or_true]

/-! ## Agreement -/

theorem unitSeconds_unit {ch : Char} {factor : UInt64} (h : unitSeconds ch = some factor) :
    ch.isDigit = false ∧ ch.isAlpha = true ∧ ch.toNat < 128 := by
  unfold unitSeconds at h
  split at h
  case h_6 => cases h
  all_goals decide

theorem toLower_of_isDigit {ch : Char} (h : ch.isDigit = true) : ch.toLower = ch := by
  unfold Char.isDigit at h
  unfold Char.toLower
  rw [dif_neg]
  rintro ⟨hupper, _⟩
  have hle : ch.val ≤ 57 := by simpa using (Bool.and_eq_true_iff.mp h).2
  have hcontra : ('A' : Char).val ≤ 57 := UInt32.le_trans hupper hle
  exact absurd hcontra (by decide)

theorem ascii_of_toLower {ch : Char} (h : ch.toLower.toNat < 128) : ch.toNat < 128 := by
  unfold Char.toLower at h
  split at h
  · rename_i hupper
    exact lt_of_le_of_lt (UInt32.le_iff_toNat_le.mp hupper.2) (by decide)
  · exact h

/-- The strict parser accepts ASCII texts. -/
theorem parseUptimeLoop_ascii {cs : List Char} {digits : String} {total n : UInt64}
    {sawUnit : Bool} (h : parseUptimeLoop cs digits total sawUnit = some n) :
    ∀ ch ∈ cs, ch.toNat < 128 := by
  induction cs generalizing digits total sawUnit with
  | nil => exact fun ch hch => absurd hch List.not_mem_nil
  | cons unit rest ih =>
      unfold parseUptimeLoop at h
      split at h
      · rename_i hdigit
        refine List.forall_mem_cons.mpr ⟨?_, ih h⟩
        have hle : unit.val ≤ 57 := by simpa using (Bool.and_eq_true_iff.mp hdigit).2
        exact lt_of_le_of_lt (UInt32.le_iff_toNat_le.mp hle) (by decide)
      · obtain ⟨amount, _, h⟩ := Option.bind_eq_some_iff.mp h
        obtain ⟨factor, hfactor, h⟩ := Option.bind_eq_some_iff.mp h
        exact List.forall_mem_cons.mpr ⟨ascii_of_toLower (unitSeconds_unit hfactor).2.2, ih h⟩

/-- On what the strict loop accepts, the lenient loop has the same total where the
exact sum fits, and records an overflow where it does not. -/
theorem parseUptimeLoop_agrees {cs : List Char} {digits : String} {total n : UInt64}
    {sawUnit : Bool} (h : parseUptimeLoop cs digits total sawUnit = some n) :
    (total.toNat + exactUptime cs digits < 2 ^ 64 →
      parseRouterosUptimeLoop (cs.map Char.toLower) digits ⟨total, false⟩ = ⟨n, false⟩) ∧
    (2 ^ 64 ≤ total.toNat + exactUptime cs digits →
      (parseRouterosUptimeLoop (cs.map Char.toLower) digits ⟨total, false⟩).overflowed =
        true) := by
  induction cs generalizing digits total sawUnit with
  | nil =>
      unfold parseUptimeLoop at h
      split at h
      · refine ⟨fun _ => ?_, fun hlarge => ?_⟩
        · rw [List.map_nil, parseRouterosUptimeLoop, Option.some.inj h]
        · have hbound := total.toNat_lt
          rw [exactUptime] at hlarge
          omega
      · cases h
  | cons unit rest ih =>
      unfold parseUptimeLoop at h
      by_cases hdigit : unit.isDigit = true
      · rw [if_pos hdigit] at h
        rw [List.map_cons, toLower_of_isDigit hdigit, exactUptime, if_pos hdigit,
          parseRouterosUptimeLoop, if_pos hdigit]
        exact ih h
      · rw [if_neg hdigit] at h
        obtain ⟨amount, hamount, h⟩ := Option.bind_eq_some_iff.mp h
        obtain ⟨factor, hfactor, h⟩ := Option.bind_eq_some_iff.mp h
        obtain ⟨hnotDigit, halpha, _⟩ := unitSeconds_unit hfactor
        rw [List.map_cons, parseRouterosUptimeLoop, if_neg (by rw [hnotDigit]; decide),
          if_pos halpha, exactUptime, if_neg hdigit]
        simp only [hamount, hfactor, Option.getD_some]
        by_cases hfits : total.toNat + amount.toNat * factor.toNat < 2 ^ 64
        · obtain ⟨hsum, hadd⟩ := add_of_fits hfits
          rw [hadd, ← Nat.add_assoc, ← hsum]
          exact ih h
        · refine ⟨fun hall => absurd (by omega) hfits, fun _ => ?_⟩
          exact parseRouterosUptimeLoop_overflowed _ _ (add_of_not_fits (not_lt.mp hfits))

/-- The parsers agree on a response: the lenient one overflows nowhere, has the same
number of seconds, and this number is displayed. -/
structure UptimesAgree (lower : String → String) (raw : String) (seconds : UInt64) : Prop where
  exact : (parseRouterosUptimeTotal lower raw).overflowed = false
  same : parseRouterosUptimeToSeconds lower raw = seconds
  displayed : parseRouterosUptime lower raw = displayUptime seconds

/-- The lowering of ASCII text is that of its ASCII letters. -/
def LowersAscii (lower : String → String) : Prop :=
  ∀ s : String, (∀ ch ∈ s.toList, ch.toNat < 128) → lower s = toAsciiLowercase s

/-- On every response that the strict parser accepts, the parsers agree exactly when the
sum of its counts times their units fits 64 bits. -/
theorem uptime_parsers_agree_iff {lower : String → String} (hlower : LowersAscii lower)
    {raw : String} {seconds : UInt64} (h : parseUptimeSeconds raw = some seconds) :
    UptimesAgree lower raw seconds ↔ exactSeconds raw < 2 ^ 64 := by
  have hlist : (lower raw).toList = raw.toList.map Char.toLower := by
    rw [hlower raw (parseUptimeLoop_ascii h), toAsciiLowercase, String.toList_ofList]
  obtain ⟨hfits, hlarge⟩ := parseUptimeLoop_agrees h
  rw [UInt64.toNat_zero, Nat.zero_add] at hfits hlarge
  rw [← hlist] at hfits hlarge
  constructor
  · intro hagree
    by_contra hnot
    have hoverflow : (parseRouterosUptimeTotal lower raw).overflowed = true :=
      hlarge (not_lt.mp hnot)
    rw [hagree.exact] at hoverflow
    cases hoverflow
  · intro hsmall
    have htotal : parseRouterosUptimeTotal lower raw = ⟨seconds, false⟩ := hfits hsmall
    have hseconds : parseRouterosUptimeToSeconds lower raw = seconds := by
      rw [parseRouterosUptimeToSeconds, htotal]
    exact ⟨by rw [htotal], hseconds, by rw [parseRouterosUptime, hseconds]⟩

theorem uptime_parsers_agree_iff_days :
    parseUptimeSeconds "2d20h12m20s" = some 245540 ∧
      UptimesAgree toAsciiLowercase "2d20h12m20s" 245540 := by
  have hstrict : parseUptimeSeconds "2d20h12m20s" = some 245540 := by decide +kernel
  have hlower : LowersAscii toAsciiLowercase := fun _ _ => rfl
  exact ⟨hstrict, (uptime_parsers_agree_iff hlower hstrict).mpr (by decide +kernel)⟩

/-- The strict parser saturates where the lenient one overflows. -/
theorem uptime_parsers_disagree :
    parseUptimeSeconds "30500568904944w" = some u64Max ∧
      (parseRouterosUptimeTotal toAsciiLowercase "30500568904944w").overflowed = true ∧
      parseRouterosUptimeToSeconds toAsciiLowercase "30500568904944w" ≠ u64Max := by
  decide +kernel

end RouterView.Transform
