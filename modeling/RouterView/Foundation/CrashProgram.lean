/-
  Foundation/CrashProgram.lean --- programs that may fail or crash at any step.

  A program is a sequence of atomic steps on a state.  Every step draws a
  decision: it takes effect, or it fails without effect and the program goes on
  from its error.  A crash leaves the state after any of the steps, so a program
  records the states that it passes through.  The triples carry, next to the
  usual conditions, an invariant of these states.
-/
import Mathlib.Tactic

set_option autoImplicit false

namespace RouterView.Foundation

/-- A state, the states passed through, and the decisions to come; a decision
with a message is a failure. -/
structure Machine (σ : Type) where
  state : σ
  passed : List σ
  decisions : List (Option String)

/-- A program with results in `α` and errors in `ε`. -/
def CrashProgram (σ ε α : Type) : Type := Machine σ → Except ε α × Machine σ

namespace CrashProgram

variable {σ ε α β : Type}

/-- Return a value. -/
protected def pure (a : α) : CrashProgram σ ε α := fun m => (.ok a, m)

/-- Run a program, and another on its result unless it fails. -/
protected def bind (p : CrashProgram σ ε α) (f : α → CrashProgram σ ε β) :
    CrashProgram σ ε β := fun m =>
  match p m with
  | (.ok a, m') => f a m'
  | (.error e, m') => (.error e, m')

instance : Monad (CrashProgram σ ε) where
  pure := CrashProgram.pure
  bind := CrashProgram.bind

/-- Fail. -/
def fail (e : ε) : CrashProgram σ ε α := fun m => (.error e, m)

/-- The outcome of a computation that does not touch the state. -/
def ofExcept (x : Except ε α) : CrashProgram σ ε α := fun m => (x, m)

/-- Look at the state. -/
def look (f : σ → α) : CrashProgram σ ε α := fun m => (.ok (f m.state), m)

/-- One step, with the error that a failure is reported as. -/
def step (error : String → ε) (f : σ → σ) : CrashProgram σ ε Unit := fun m =>
  match m.decisions with
  | some message :: rest => (.error (error message), { m with decisions := rest })
  | none :: rest => (.ok (), ⟨f m.state, f m.state :: m.passed, rest⟩)
  | [] => (.ok (), ⟨f m.state, f m.state :: m.passed, []⟩)

/-- Run a program for its outcome, be it an error. -/
def attempt (p : CrashProgram σ ε α) : CrashProgram σ ε (Except ε α) := fun m =>
  (.ok (p m).1, (p m).2)

/-- Start from a state. -/
def start (p : CrashProgram σ ε α) (s : σ) (decisions : List (Option String)) :
    Except ε α × Machine σ :=
  p ⟨s, [s], decisions⟩

/-! ## Triples -/

/-- From a state with `pre` the program passes through states with `inv` only,
and ends with `post` or, on an error, with `err`. -/
def Triple (inv : σ → Prop) (pre : σ → Prop) (p : CrashProgram σ ε α) (post : α → σ → Prop)
    (err : ε → σ → Prop) : Prop :=
  ∀ m : Machine σ, pre m.state → (∀ s ∈ m.passed, inv s) →
    (∀ s ∈ (p m).2.passed, inv s) ∧
      match (p m).1 with
      | .ok a => post a (p m).2.state
      | .error e => err e (p m).2.state

section

variable {inv pre pre' : σ → Prop} {post post' : α → σ → Prop} {err err' : ε → σ → Prop}

theorem Triple.pure {a : α} (h : ∀ s, pre s → post a s) :
    Triple inv pre (Pure.pure a : CrashProgram σ ε α) post err :=
  fun m hpre hinv => ⟨hinv, h m.state hpre⟩

theorem Triple.bind {p : CrashProgram σ ε α} {f : α → CrashProgram σ ε β} (mid : α → σ → Prop)
    {postβ : β → σ → Prop} (hp : Triple inv pre p mid err)
    (hf : ∀ a, Triple inv (mid a) (f a) postβ err) : Triple inv pre (p >>= f) postβ err := by
  intro m hpre hinv
  obtain ⟨hpassed, hresult⟩ := hp m hpre hinv
  have hbind : (p >>= f) m = match p m with
      | (.ok a, m') => f a m'
      | (.error e, m') => (.error e, m') := rfl
  rw [hbind]
  cases hpm : p m with
  | mk result m' =>
      rw [hpm] at hpassed hresult
      cases result with
      | ok a => exact hf a m' hresult hpassed
      | error e => exact ⟨hpassed, hresult⟩

theorem Triple.fail {e : ε} (h : ∀ s, pre s → err e s) :
    Triple inv pre (fail e : CrashProgram σ ε α) post err :=
  fun m hpre hinv => ⟨hinv, h m.state hpre⟩

theorem Triple.ofExcept {x : Except ε α} (hok : ∀ a s, x = .ok a → pre s → post a s)
    (herr : ∀ e s, x = .error e → pre s → err e s) :
    Triple inv pre (ofExcept x : CrashProgram σ ε α) post err := by
  intro m hpre hinv
  refine ⟨hinv, ?_⟩
  cases x with
  | ok a => exact hok a m.state rfl hpre
  | error e => exact herr e m.state rfl hpre

theorem Triple.look {f : σ → α} (h : ∀ s, pre s → post (f s) s) :
    Triple inv pre (look f : CrashProgram σ ε α) post err :=
  fun m hpre hinv => ⟨hinv, h m.state hpre⟩

/-- A step: afterwards the invariant and the postcondition hold, or nothing has
happened. -/
theorem Triple.step {error : String → ε} {f : σ → σ} {postU : Unit → σ → Prop}
    (hpost : ∀ s, pre s → inv (f s) ∧ postU () (f s))
    (herr : ∀ message s, pre s → err (error message) s) :
    Triple inv pre (step error f : CrashProgram σ ε Unit) postU err := by
  intro m hpre hinv
  unfold CrashProgram.step
  split
  · exact ⟨hinv, herr _ m.state hpre⟩
  · refine ⟨?_, (hpost m.state hpre).2⟩
    intro s hs
    rcases List.mem_cons.mp hs with rfl | hs
    · exact (hpost m.state hpre).1
    · exact hinv s hs
  · refine ⟨?_, (hpost m.state hpre).2⟩
    intro s hs
    rcases List.mem_cons.mp hs with rfl | hs
    · exact (hpost m.state hpre).1
    · exact hinv s hs

theorem Triple.attempt {p : CrashProgram σ ε α} (hp : Triple inv pre p post err)
    {errAny : ε → σ → Prop} :
    Triple inv pre (attempt p) (fun result s => match result with
      | .ok a => post a s
      | .error e => err e s) errAny := by
  intro m hpre hinv
  exact hp m hpre hinv

/-- A program whose result and state are known, and a program on that result. -/
theorem Triple.bind_known {p : CrashProgram σ ε α} {f : α → CrashProgram σ ε β}
    {postβ : β → σ → Prop} (a : α) (t : σ)
    (hp : Triple inv pre p (fun b s => b = a ∧ s = t) err)
    (hf : Triple inv (fun s => s = t) (f a) postβ err) : Triple inv pre (p >>= f) postβ err := by
  apply Triple.bind _ hp
  intro b m hm hinv
  obtain ⟨rfl, hstate⟩ := hm
  exact hf m hstate hinv

/-- A look at the state, and a program on what was seen. -/
theorem Triple.bind_look {f : σ → α} {g : α → CrashProgram σ ε β} {postβ : β → σ → Prop}
    (hg : ∀ a, Triple inv (fun s => pre s ∧ f s = a) (g a) postβ err) :
    Triple inv pre (CrashProgram.look f >>= g) postβ err := by
  apply Triple.bind _ (Triple.look ?_) hg
  intro s hpre
  exact ⟨hpre, rfl⟩

/-- An outcome, and a program on its value. -/
theorem Triple.bind_ofExcept {x : Except ε α} {g : α → CrashProgram σ ε β}
    {postβ : β → σ → Prop} (herr : ∀ e s, x = .error e → pre s → err e s)
    (hg : ∀ a, x = .ok a → Triple inv pre (g a) postβ err) :
    Triple inv pre (CrashProgram.ofExcept x >>= g) postβ err := by
  cases x with
  | error e =>
      intro m hpre hinv
      exact ⟨hinv, herr e m.state rfl hpre⟩
  | ok a =>
      intro m hpre hinv
      exact hg a rfl m hpre hinv

/-- A step, and a program after it. -/
theorem Triple.bind_step {error : String → ε} {f : σ → σ} (mid : σ → Prop)
    {g : Unit → CrashProgram σ ε β} {postβ : β → σ → Prop}
    (hstep : ∀ s, pre s → inv (f s) ∧ mid (f s))
    (herr : ∀ message s, pre s → err (error message) s)
    (hg : Triple inv mid (g ()) postβ err) :
    Triple inv pre (CrashProgram.step error f >>= g) postβ err :=
  Triple.bind _ (Triple.step hstep herr) (fun _ => hg)

/-- A step that changes nothing. -/
theorem Triple.idle {error : String → ε} (hinv : ∀ s, pre s → inv s)
    (herr : ∀ message s, pre s → err (error message) s) :
    Triple inv pre (CrashProgram.step error (fun s => s)) (fun _ => pre) err :=
  Triple.step (fun s h => ⟨hinv s h, h⟩) herr

/-- A step that changes nothing, and a program after it. -/
theorem Triple.bind_idle {error : String → ε} {g : Unit → CrashProgram σ ε β}
    {postβ : β → σ → Prop} (hinv : ∀ s, pre s → inv s)
    (herr : ∀ message s, pre s → err (error message) s)
    (hg : Triple inv pre (g ()) postβ err) :
    Triple inv pre (CrashProgram.step error (fun s => s) >>= g) postβ err :=
  Triple.bind _ (Triple.idle hinv herr) (fun _ => hg)

/-- An attempt, and a program on its outcome. -/
theorem Triple.bind_attempt {p : CrashProgram σ ε α} (mid : α → σ → Prop)
    (errMid : ε → σ → Prop) {g : Except ε α → CrashProgram σ ε β} {postβ : β → σ → Prop}
    (hp : Triple inv pre p mid errMid) (hok : ∀ a, Triple inv (mid a) (g (.ok a)) postβ err)
    (herr : ∀ e, Triple inv (errMid e) (g (.error e)) postβ err) :
    Triple inv pre (CrashProgram.attempt p >>= g) postβ err := by
  apply Triple.bind _ (Triple.attempt hp)
  intro result
  cases result with
  | ok a => exact hok a
  | error e => exact herr e

/-- A whole run, and every state that a crash can leave. -/
theorem Triple.start {p : CrashProgram σ ε α} (h : Triple inv pre p post err) {s : σ}
    (hpre : pre s) (hinv : inv s) (decisions : List (Option String)) :
    (∀ t ∈ (CrashProgram.start p s decisions).2.passed, inv t) ∧
      match (CrashProgram.start p s decisions).1 with
      | .ok a => post a (CrashProgram.start p s decisions).2.state
      | .error e => err e (CrashProgram.start p s decisions).2.state := by
  apply h ⟨s, [s], decisions⟩ hpre
  intro t ht
  rw [List.mem_singleton.mp ht]
  exact hinv

theorem Triple.weaken {p : CrashProgram σ ε α} (h : Triple inv pre p post err)
    (hpre : ∀ s, pre' s → pre s) (hpost : ∀ a s, post a s → post' a s)
    (herr : ∀ e s, err e s → err' e s) : Triple inv pre' p post' err' := by
  intro m hm hinv
  obtain ⟨hpassed, hresult⟩ := h m (hpre _ hm) hinv
  refine ⟨hpassed, ?_⟩
  split at hresult
  · exact hpost _ _ hresult
  · exact herr _ _ hresult

/-- A weaker precondition is enough. -/
theorem Triple.of_pre {p : CrashProgram σ ε α} (mid : σ → Prop) (hpre : ∀ s, pre s → mid s)
    (h : Triple inv mid p post err) : Triple inv pre p post err :=
  h.weaken hpre (fun _ _ h => h) (fun _ _ h => h)

theorem Triple.ite {c : Prop} [Decidable c] {p q : CrashProgram σ ε α}
    (hp : c → Triple inv pre p post err) (hq : ¬ c → Triple inv pre q post err) :
    Triple inv pre (if c then p else q) post err := by
  split
  · exact hp ‹c›
  · exact hq ‹¬ c›

end

/-! ## Runs without a failure -/

/-- Where no step fails, the program returns the value and leaves the state. -/
def Succeeds (p : CrashProgram σ ε α) (s : σ) (a : α) (s' : σ) : Prop :=
  ∀ passed, ∃ passed', p ⟨s, passed, []⟩ = (.ok a, ⟨s', passed', []⟩)

section

variable {s s' s'' : σ}

theorem Succeeds.pure (a : α) (s : σ) : Succeeds (Pure.pure a : CrashProgram σ ε α) s a s :=
  fun passed => ⟨passed, rfl⟩

theorem Succeeds.bind {p : CrashProgram σ ε α} {f : α → CrashProgram σ ε β} {a : α} {b : β}
    (hp : Succeeds p s a s') (hf : Succeeds (f a) s' b s'') : Succeeds (p >>= f) s b s'' := by
  intro passed
  obtain ⟨passed', hp⟩ := hp passed
  obtain ⟨passed'', hf⟩ := hf passed'
  refine ⟨passed'', ?_⟩
  have hbind : (p >>= f) ⟨s, passed, []⟩ = match p ⟨s, passed, []⟩ with
      | (.ok a, m') => f a m'
      | (.error e, m') => (.error e, m') := rfl
  rw [hbind, hp]
  exact hf

theorem Succeeds.step (error : String → ε) (f : σ → σ) (s : σ) :
    Succeeds (step error f : CrashProgram σ ε Unit) s () (f s) :=
  fun passed => ⟨f s :: passed, rfl⟩

theorem Succeeds.look (f : σ → α) (s : σ) :
    Succeeds (look f : CrashProgram σ ε α) s (f s) s :=
  fun passed => ⟨passed, rfl⟩

theorem Succeeds.ofExcept {x : Except ε α} {a : α} (h : x = .ok a) (s : σ) :
    Succeeds (ofExcept x : CrashProgram σ ε α) s a s :=
  fun passed => ⟨passed, by rw [h]; rfl⟩

theorem Succeeds.start {p : CrashProgram σ ε α} {a : α} (h : Succeeds p s a s') :
    (start p s []).1 = .ok a ∧ (start p s []).2.state = s' := by
  obtain ⟨passed, h⟩ := h [s]
  rw [CrashProgram.start, h]
  exact ⟨rfl, rfl⟩

end

end CrashProgram

end RouterView.Foundation
