/-
  Foundation/AppendLog.lean --- replaying a log of appends and resets.

  A reader keeps a buffer, to which an entry of the log appends one item or which it
  replaces.  A reader may also start from a buffer that was taken elsewhere, at any
  place of the log.  Its buffer stays a sublist of what was produced, as long as the
  buffer that it starts from and the entries before the next reset have nothing in
  common.
-/
import Mathlib.Tactic

set_option autoImplicit false

namespace RouterView.Foundation

/-- An entry of the log. -/
inductive LogEntry (α : Type) where
  | skip
  | append (item : α)
  | reset (items : List α)

variable {α : Type}

namespace LogEntry

/-- The buffer after the entry. -/
def apply : LogEntry α → List α → List α
  | .skip, buffer => buffer
  | .append item, buffer => buffer ++ [item]
  | .reset items, _ => items

/-- The entry replaces the buffer. -/
def IsReset : LogEntry α → Prop
  | .skip => False
  | .append _ => False
  | .reset _ => True

theorem apply_sublist (e : LogEntry α) {b b' : List α} (h : b.Sublist b') :
    (e.apply b).Sublist (e.apply b') := by
  cases e with
  | skip => exact h
  | append item => exact h.append (List.Sublist.refl _)
  | reset items => exact List.Sublist.refl _

/-- Pruning before the entry does not matter to what is kept after it. -/
theorem filter_apply_filter (e : LogEntry α) {pruned kept : α → Bool}
    (himp : ∀ a, kept a = true → pruned a = true) (b : List α) :
    (e.apply (b.filter pruned)).filter kept = (e.apply b).filter kept := by
  have hfilter : (b.filter pruned).filter kept = b.filter kept := by
    rw [List.filter_filter]
    apply List.filter_congr
    intro a _
    cases hkept : kept a with
    | false => simp
    | true => simp [himp a hkept]
  cases e with
  | skip => exact hfilter
  | append item => simp only [apply, List.filter_append, hfilter]
  | reset items => rfl

end LogEntry

/-- The buffer after the entries. -/
def replay : List (LogEntry α) → List α → List α
  | [], buffer => buffer
  | e :: rest, buffer => replay rest (e.apply buffer)

@[simp] theorem replay_nil (b : List α) : replay [] b = b := rfl

@[simp] theorem replay_cons (e : LogEntry α) (rest : List (LogEntry α)) (b : List α) :
    replay (e :: rest) b = replay rest (e.apply b) := rfl

theorem replay_append (first second : List (LogEntry α)) (b : List α) :
    replay (first ++ second) b = replay second (replay first b) := by
  induction first generalizing b with
  | nil => rfl
  | cons e rest ih => exact ih (e.apply b)

/-- Replays agree on what is kept, when the buffers do after pruning. -/
theorem filter_replay_filter {pruned kept : α → Bool} (himp : ∀ a, kept a = true → pruned a = true)
    (entries : List (LogEntry α)) (b : List α) :
    (replay entries (b.filter pruned)).filter kept = (replay entries b).filter kept := by
  have hstep : ∀ {b b' : List α}, b.filter kept = b'.filter kept →
      ∀ e : LogEntry α, (e.apply b).filter kept = (e.apply b').filter kept := by
    intro b b' heq e
    cases e with
    | skip => exact heq
    | append item => simp only [LogEntry.apply, List.filter_append, heq]
    | reset items => rfl
  have hall : ∀ (entries : List (LogEntry α)) {b b' : List α}, b.filter kept = b'.filter kept →
      (replay entries b).filter kept = (replay entries b').filter kept := by
    intro entries
    induction entries with
    | nil => exact fun heq => heq
    | cons e rest ih => exact fun heq => ih (hstep heq e)
  exact hall entries (LogEntry.skip.filter_apply_filter himp b)

/-- The log replaces the buffer. -/
def HasReset (entries : List (LogEntry α)) : Prop := ∃ e ∈ entries, e.IsReset

/-- The items that are appended before the first reset. -/
def direct : List (LogEntry α) → List α
  | [] => []
  | .skip :: rest => direct rest
  | .append item :: rest => item :: direct rest
  | .reset _ :: _ => []

/-- After a reset the buffer at the start is forgotten. -/
theorem replay_of_hasReset {entries : List (LogEntry α)} (h : HasReset entries) (b b' : List α) :
    replay entries b = replay entries b' := by
  induction entries generalizing b b' with
  | nil =>
      obtain ⟨_, hmem, _⟩ := h
      cases hmem
  | cons e rest ih =>
      obtain ⟨r, hmem, hreset⟩ := h
      rcases List.mem_cons.mp hmem with rfl | hrest
      · cases r with
        | skip => cases hreset
        | append item => cases hreset
        | reset items => rfl
      · exact ih ⟨r, hrest, hreset⟩ _ _

/-- Without a reset the items are appended. -/
theorem replay_of_not_hasReset {entries : List (LogEntry α)} (h : ¬HasReset entries)
    (b : List α) : replay entries b = b ++ direct entries := by
  induction entries generalizing b with
  | nil => exact (List.append_nil b).symm
  | cons e rest ih =>
      have hrest : ¬HasReset rest := by
        rintro ⟨r, hmem, hreset⟩
        exact h ⟨r, List.mem_cons_of_mem _ hmem, hreset⟩
      rw [replay_cons, ih hrest]
      cases e with
      | skip => rfl
      | append item =>
          rw [LogEntry.apply, List.append_assoc]
          rfl
      | reset items => exact absurd ⟨_, List.mem_cons_self, trivial⟩ h

/-! ## Readers -/

/-- However far a reader with the buffer gets, its buffer is a sublist of what was
produced. -/
def Within (produced : List α) : List α → List (LogEntry α) → Prop
  | b, [] => b.Sublist produced
  | b, e :: rest => b.Sublist produced ∧ Within produced (e.apply b) rest

section

variable {produced b b' : List α} {entries : List (LogEntry α)}

theorem Within.start (h : Within produced b entries) : b.Sublist produced := by
  cases entries with
  | nil => exact h
  | cons e rest => exact h.1

/-- A reader with less. -/
theorem Within.of_sublist (h : Within produced b entries) (hless : b'.Sublist b) :
    Within produced b' entries := by
  induction entries generalizing b b' with
  | nil => exact hless.trans h
  | cons e rest ih => exact ⟨hless.trans h.1, ih h.2 (e.apply_sublist hless)⟩

theorem Within.append {first second : List (LogEntry α)} :
    Within produced b (first ++ second) ↔
      Within produced b first ∧ Within produced (replay first b) second := by
  induction first generalizing b with
  | nil => exact ⟨fun h => ⟨h.start, h⟩, fun h => h.2⟩
  | cons e rest ih =>
      constructor
      · rintro ⟨hb, hrest⟩
        obtain ⟨hfirst, hsecond⟩ := ih.mp hrest
        exact ⟨⟨hb, hfirst⟩, hsecond⟩
      · rintro ⟨⟨hb, hfirst⟩, hsecond⟩
        exact ⟨hb, ih.mpr ⟨hfirst, hsecond⟩⟩

/-- More is produced. -/
theorem Within.produce {more : List α} (h : Within produced b entries) :
    Within (produced ++ more) b entries := by
  induction entries generalizing b with
  | nil => exact List.Sublist.trans h (List.sublist_append_left _ _)
  | cons e rest ih => exact ⟨h.1.trans (List.sublist_append_left _ _), ih h.2⟩

/-- What the last entry leaves, the reader ends with. -/
theorem Within.end (h : Within produced b entries) : (replay entries b).Sublist produced := by
  have hall : Within produced b (entries ++ []) := by rwa [List.append_nil]
  exact (Within.append.mp hall).2

/-- One more entry. -/
theorem Within.snoc (h : Within produced b entries) {e : LogEntry α}
    (he : (e.apply (replay entries b)).Sublist produced) : Within produced b (entries ++ [e]) :=
  Within.append.mpr ⟨h, h.end, he⟩

/-- A reader that starts over, from a buffer that has nothing in common with the items
that are appended before the next reset. -/
theorem Within.restart (h : Within produced b entries) (hb' : b'.Sublist produced)
    (hapart : b' = [] ∨ direct entries = []) : Within produced b' entries := by
  rcases hapart with hempty | hdirect
  · rw [hempty]
    exact h.of_sublist (List.nil_sublist b)
  · induction entries generalizing b with
    | nil => exact hb'
    | cons e rest ih =>
        refine ⟨hb', ?_⟩
        cases e with
        | skip => exact ih h.2 hdirect
        | append item => cases hdirect
        | reset items => exact h.2

end

end RouterView.Foundation
