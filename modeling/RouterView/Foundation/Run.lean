/-
  Foundation/Run.lean --- runs of a deterministic step function.

  A run is the fold of a step function over a list of events.  A guard that is
  checked at every state before its step, the induction rule for invariants
  under such a guard, and the first state of a run at which something appears.
-/
import Mathlib.Tactic

set_option autoImplicit false

namespace RouterView.Foundation

section Runs

variable {State Event α : Type} (step : State → Event → State)

/-- The state after the events. -/
def run : State → List Event → State
  | s, [] => s
  | s, e :: rest => run (step s e) rest

@[simp] theorem run_nil (s : State) : run step s [] = s := rfl

@[simp] theorem run_cons (s : State) (e : Event) (rest : List Event) :
    run step s (e :: rest) = run step (step s e) rest := rfl

theorem run_append (s : State) (first second : List Event) :
    run step s (first ++ second) = run step (run step s first) second := by
  induction first generalizing s with
  | nil => rfl
  | cons e rest ih => exact ih (step s e)

/-- The guard holds before every step of the run. -/
def Along (guard : State → Event → Prop) : State → List Event → Prop
  | _, [] => True
  | s, e :: rest => guard s e ∧ Along guard (step s e) rest

instance Along.decidable (guard : State → Event → Prop)
    [h : ∀ s e, Decidable (guard s e)] :
    (s : State) → (events : List Event) → Decidable (Along step guard s events)
  | _, [] => isTrue trivial
  | s, e :: rest =>
      match h s e, Along.decidable guard (step s e) rest with
      | isTrue he, isTrue hrest => isTrue ⟨he, hrest⟩
      | isFalse he, _ => isFalse (fun hall => he hall.1)
      | _, isFalse hrest => isFalse (fun hall => hrest hall.2)

variable {step}

theorem Along.of_forall {guard : State → Event → Prop} {events : List Event}
    (h : ∀ e ∈ events, ∀ s, guard s e) (s : State) : Along step guard s events := by
  induction events generalizing s with
  | nil => trivial
  | cons e rest ih =>
      exact ⟨h e List.mem_cons_self s, ih (fun x hx => h x (List.mem_cons_of_mem _ hx)) (step s e)⟩

/-- The guard holds along two runs in a row when it holds along each. -/
theorem Along.append {guard : State → Event → Prop} {s : State} {first second : List Event} :
    Along step guard s (first ++ second) ↔
      Along step guard s first ∧ Along step guard (run step s first) second := by
  induction first generalizing s with
  | nil => exact ⟨fun h => ⟨trivial, h⟩, fun h => h.2⟩
  | cons e rest ih =>
      constructor
      · rintro ⟨he, hrest⟩
        obtain ⟨hfirst, hsecond⟩ := ih.mp hrest
        exact ⟨⟨he, hfirst⟩, hsecond⟩
      · rintro ⟨⟨he, hfirst⟩, hsecond⟩
        exact ⟨he, ih.mpr ⟨hfirst, hsecond⟩⟩

/-- A run under a guard is a run under every weaker one. -/
theorem Along.imp {guard weaker : State → Event → Prop}
    (himp : ∀ s e, guard s e → weaker s e) {s : State} {events : List Event}
    (h : Along step guard s events) : Along step weaker s events := by
  induction events generalizing s with
  | nil => trivial
  | cons e rest ih => exact ⟨himp s e h.1, ih h.2⟩

/-- What every guarded step preserves, every guarded run preserves. -/
theorem run_invariant {guard : State → Event → Prop} {Invariant : State → Prop}
    (hstep : ∀ s e, Invariant s → guard s e → Invariant (step s e))
    {s : State} {events : List Event} (hs : Invariant s)
    (hevents : Along step guard s events) : Invariant (run step s events) := by
  induction events generalizing s with
  | nil => exact hs
  | cons e rest ih => exact ih (hstep s e hs hevents.1) hevents.2

/-- What every step preserves, every run preserves. -/
theorem run_preserves {Invariant : State → Prop} (hstep : ∀ s e, Invariant s → Invariant (step s e))
    {s : State} (hs : Invariant s) (events : List Event) : Invariant (run step s events) := by
  induction events generalizing s with
  | nil => exact hs
  | cons e rest ih => exact ih (hstep s e hs)

/-- A view of the state that moves with the steps moves with the runs. -/
theorem run_map {View : Type} {viewStep : View → Event → View} {view : State → View}
    (hstep : ∀ s e, view (step s e) = viewStep (view s) e) (s : State) (events : List Event) :
    view (run step s events) = run viewStep (view s) events := by
  induction events generalizing s with
  | nil => rfl
  | cons e rest ih =>
      rw [run_cons, run_cons, ih, hstep]

/-- A guard on the view holds along the runs of the state. -/
theorem Along.of_view {View : Type} {viewStep : View → Event → View} {view : State → View}
    (hstep : ∀ s e, view (step s e) = viewStep (view s) e) {guard : View → Event → Prop}
    {s : State} {events : List Event} (h : Along viewStep guard (view s) events) :
    Along step (fun s e => guard (view s) e) s events := by
  induction events generalizing s with
  | nil => trivial
  | cons e rest ih =>
      refine ⟨h.1, ih ?_⟩
      rw [hstep]
      exact h.2

variable (step)

/-- What `look` sees first along the run, the initial state included. -/
def firstSeen (look : State → Option α) : State → List Event → Option α
  | s, [] => look s
  | s, e :: rest =>
      match look s with
      | some a => some a
      | none => firstSeen look (step s e) rest

/-- What the steps of a run emit, in order. -/
def emitted (emit : State → Event → Option α) : State → List Event → List α
  | _, [] => []
  | s, e :: rest => (emit s e).toList ++ emitted emit (step s e) rest

/-- What is emitted is emitted by a step of the run. -/
theorem mem_emitted {emit : State → Event → Option α} {s : State} {events : List Event} {a : α}
    (h : a ∈ emitted step emit s events) :
    ∃ earlier e later, events = earlier ++ e :: later ∧ emit (run step s earlier) e = some a := by
  induction events generalizing s with
  | nil => cases h
  | cons e rest ih =>
      obtain h | h := List.mem_append.mp h
      · exact ⟨[], e, rest, rfl, Option.mem_toList.mp h⟩
      · obtain ⟨earlier, e', later, rfl, hemit⟩ := ih h
        exact ⟨e :: earlier, e', later, rfl, hemit⟩

end Runs

end RouterView.Foundation
