/-
  Foundation/Backoff.lean --- attempts that wait longer the more often they fail.

  An attempt that follows a failure waits for a delay that depends on how many
  failures there were; an attempt that starts over waits for nothing.  The failures
  are counted up to a cap.  From what each attempt waits after the one before it
  follows how long a row of refused attempts takes.
-/
import Mathlib.Tactic

set_option autoImplicit false

namespace RouterView.Foundation

/-! ## Attempts -/

/-- When an attempt started, the failures that it followed, whether it started over,
and whether it was accepted. -/
structure Attempt where
  startedAt : Nat
  failures : Nat
  startsOver : Bool
  accepted : Bool
  deriving DecidableEq, Repr

/-- One more failure, up to the cap. -/
def countFailure (cap failures : Nat) : Nat := min (failures + 1) cap

section

variable (delay : Nat → Nat) (cap : Nat)

/-- The later attempt waited for the delay of its failures, of which a refusal of the
earlier one is one more. -/
structure Waits (earlier later : Attempt) : Prop where
  elapsed : earlier.startedAt + delay later.failures ≤ later.startedAt
  counted : 1 ≤ later.failures
  grown : earlier.accepted = false → countFailure cap earlier.failures ≤ later.failures

/-- Every attempt started over, or waited after the one before it; newest first. -/
def PacedAttempts (attempts : List Attempt) : Prop :=
  attempts.IsChain (fun later earlier => later.startsOver = true ∨ Waits delay cap earlier later)

/-- What a number of refusals in a row wait for in total. -/
def totalDelay : Nat → Nat
  | 0 => 0
  | n + 1 => totalDelay n + delay (min (n + 1) cap)

end

section

variable {delay : Nat → Nat} {cap : Nat}

theorem countFailure_le_countFailure {earlier failures : Nat}
    (h : earlier ≤ failures ∨ countFailure cap earlier ≤ failures) :
    countFailure cap earlier ≤ countFailure cap failures := by
  simp only [countFailure] at *
  omega

theorem one_le_countFailure (hcap : 1 ≤ cap) (failures : Nat) :
    1 ≤ countFailure cap failures :=
  le_min (Nat.succ_le_succ (Nat.zero_le failures)) hcap

theorem PacedAttempts.nil : PacedAttempts delay cap [] := List.IsChain.nil

theorem PacedAttempts.tail {attempt : Attempt} {attempts : List Attempt}
    (h : PacedAttempts delay cap (attempt :: attempts)) : PacedAttempts delay cap attempts :=
  List.IsChain.tail h

/-- A new attempt continues the row. -/
theorem PacedAttempts.cons {attempt : Attempt} {attempts : List Attempt} (h : PacedAttempts delay cap attempts)
    (hnew : attempt.startsOver = true ∨
      ∀ last ∈ attempts.head?, Waits delay cap last attempt) :
    PacedAttempts delay cap (attempt :: attempts) := by
  refine List.isChain_cons.mpr ⟨?_, h⟩
  intro last hlast
  exact hnew.imp_right (fun hwaits => hwaits last hlast)

/-- Whether the newest attempt is accepted does not matter to the row. -/
theorem PacedAttempts.accept {attempt : Attempt} {attempts : List Attempt}
    (h : PacedAttempts delay cap (attempt :: attempts)) (accepted : Bool) :
    PacedAttempts delay cap ({ attempt with accepted := accepted } :: attempts) := by
  obtain ⟨hlast, hrest⟩ := List.isChain_cons.mp h
  refine List.isChain_cons.mpr ⟨?_, hrest⟩
  intro last hmem
  refine (hlast last hmem).imp_right (fun hwaits => ?_)
  exact ⟨hwaits.elapsed, hwaits.counted, hwaits.grown⟩

/-- A row of refused attempts takes as long as its delays together.  Induction on the
row, from its newest attempt; the count of failures is at least the length. -/
theorem PacedAttempts.refused (hmono : Monotone delay) {oldest : Attempt} :
    ∀ {between : List Attempt} {newest : Attempt},
      PacedAttempts delay cap (newest :: (between ++ [oldest])) →
      (∀ attempt ∈ newest :: between, attempt.startsOver = false) →
      (∀ attempt ∈ between ++ [oldest], attempt.accepted = false) →
      oldest.startedAt + totalDelay delay cap (between.length + 1) ≤ newest.startedAt ∧
        min (between.length + 1) cap ≤ newest.failures := by
  intro between
  induction between with
  | nil =>
      intro newest h hover haccepted
      obtain ⟨hlast, _⟩ := List.isChain_cons.mp h
      obtain hstarts | hwaits := hlast oldest rfl
      · rw [hover newest List.mem_cons_self] at hstarts
        cases hstarts
      · have hgrown := hwaits.grown (haccepted oldest (by simp))
        have hcount : min (0 + 1) cap ≤ newest.failures := by
          simp only [countFailure] at hgrown
          omega
        have hdelay := hmono hcount
        have helapsed := hwaits.elapsed
        refine ⟨?_, hcount⟩
        simp only [List.length_nil, totalDelay] at hdelay ⊢
        omega
  | cons middle between ih =>
      intro newest h hover haccepted
      obtain ⟨hlast, hrest⟩ := List.isChain_cons.mp h
      obtain ⟨htotal, hfailures⟩ := ih hrest
        (fun attempt hmem => hover attempt (List.mem_cons_of_mem _ hmem))
        (fun attempt hmem => haccepted attempt (List.mem_cons_of_mem _ hmem))
      obtain hstarts | hwaits := hlast middle rfl
      · rw [hover newest List.mem_cons_self] at hstarts
        cases hstarts
      · have hgrown := hwaits.grown (haccepted middle List.mem_cons_self)
        have hcount : min (between.length + 1 + 1) cap ≤ newest.failures := by
          simp only [countFailure] at hgrown
          omega
        have hdelay := hmono hcount
        have helapsed := hwaits.elapsed
        refine ⟨?_, hcount⟩
        simp only [List.length_cons, totalDelay] at htotal ⊢
        omega

end

end RouterView.Foundation
