/-
  Db/CommitSpec.lean --- what a committed observation transaction did.

  One inversion lemma for each transaction of `Db/Commit.lean`: a transaction
  that returns `Ok` either recorded something new, and then the result is the
  database with exactly that row and that checkpoint added, or found the record
  already there, and then the database is unchanged.
-/
import RouterView.Db.Commit

set_option autoImplicit false

namespace RouterView.Db

open RouterView.Foundation

/-! ## Lookups after a write -/

namespace TrafficDb

@[simp] theorem checkpointFor_insertSample (db : TrafficDb) (s : TrafficSampleInput)
    (routerId interfaceId : Int) :
    (db.insertSample s).checkpointFor routerId interfaceId =
      db.checkpointFor routerId interfaceId := rfl

@[simp] theorem checkpointFor_insertGap (db : TrafficDb) (g : TrafficGapInput)
    (routerId interfaceId : Int) :
    (db.insertGap g).checkpointFor routerId interfaceId =
      db.checkpointFor routerId interfaceId := rfl

@[simp] theorem checkpointFor_putCheckpoint_self (db : TrafficDb) (c : CounterCheckpoint) :
    (db.putCheckpoint c).checkpointFor c.routerId c.interfaceId = some c := by
  simp [putCheckpoint, checkpointFor]

theorem checkpointFor_putCheckpoint_ne (db : TrafficDb) (c : CounterCheckpoint)
    {routerId interfaceId : Int}
    (hne : ¬ (c.routerId = routerId ∧ c.interfaceId = interfaceId)) :
    (db.putCheckpoint c).checkpointFor routerId interfaceId =
      db.checkpointFor routerId interfaceId := by
  simp only [putCheckpoint, checkpointFor, List.find?_cons, hne, decide_false,
    List.find?_filter]
  congr 1
  funext x
  by_cases hx : x.routerId = routerId ∧ x.interfaceId = interfaceId
  · have hkey : ¬ (routerId = c.routerId ∧ interfaceId = c.interfaceId) := by
      rintro ⟨h1, h2⟩
      exact hne ⟨h1.symm, h2.symm⟩
    simp only [hx, and_self, decide_true, hkey, decide_false, Bool.not_false]
  · simp [hx]

/-- A stored checkpoint carries the key it is found under. -/
theorem checkpointFor_key {db : TrafficDb} {routerId interfaceId : Int}
    {c : CounterCheckpoint} (h : db.checkpointFor routerId interfaceId = some c) :
    c.routerId = routerId ∧ c.interfaceId = interfaceId := by
  have := List.find?_some h
  simpa using this

/-- When the stored checkpoint is older, the advancing upsert changes one row. -/
theorem advanceCheckpoint_of_older (db : TrafficDb) {c : CounterCheckpoint}
    (h : ∀ current, db.checkpointFor c.routerId c.interfaceId = some current →
      current.observedAtMs < c.observedAtMs) :
    db.advanceCheckpoint c = (1, db.putCheckpoint c) := by
  unfold advanceCheckpoint
  split
  · rfl
  · rename_i current hcurrent
    rw [if_pos (h current hcurrent)]

/-! ## Rows of an interface after a write -/

@[simp] theorem samplesOn_putCheckpoint (db : TrafficDb) (c : CounterCheckpoint)
    (routerId interfaceId : Int) :
    (db.putCheckpoint c).samplesOn routerId interfaceId = db.samplesOn routerId interfaceId :=
  rfl

@[simp] theorem gapsOn_putCheckpoint (db : TrafficDb) (c : CounterCheckpoint)
    (routerId interfaceId : Int) :
    (db.putCheckpoint c).gapsOn routerId interfaceId = db.gapsOn routerId interfaceId :=
  rfl

@[simp] theorem rollupsOn_putCheckpoint (db : TrafficDb) (c : CounterCheckpoint)
    (routerId interfaceId : Int) :
    (db.putCheckpoint c).rollupsOn routerId interfaceId = db.rollupsOn routerId interfaceId :=
  rfl

@[simp] theorem gapsOn_insertSample (db : TrafficDb) (s : TrafficSampleInput)
    (routerId interfaceId : Int) :
    (db.insertSample s).gapsOn routerId interfaceId = db.gapsOn routerId interfaceId :=
  rfl

@[simp] theorem rollupsOn_insertSample (db : TrafficDb) (s : TrafficSampleInput)
    (routerId interfaceId : Int) :
    (db.insertSample s).rollupsOn routerId interfaceId = db.rollupsOn routerId interfaceId :=
  rfl

@[simp] theorem samplesOn_insertGap (db : TrafficDb) (g : TrafficGapInput)
    (routerId interfaceId : Int) :
    (db.insertGap g).samplesOn routerId interfaceId = db.samplesOn routerId interfaceId :=
  rfl

@[simp] theorem rollupsOn_insertGap (db : TrafficDb) (g : TrafficGapInput)
    (routerId interfaceId : Int) :
    (db.insertGap g).rollupsOn routerId interfaceId = db.rollupsOn routerId interfaceId :=
  rfl

theorem samplesOn_insertSample (db : TrafficDb) (s : TrafficSampleInput)
    (routerId interfaceId : Int) :
    (db.insertSample s).samplesOn routerId interfaceId =
      db.samplesOn routerId interfaceId ++
        if s.on routerId interfaceId then
          [{ s with id := db.trafficSamples.sequence + 1 }]
        else [] := by
  simp only [samplesOn, insertSample, Table.insert_rows, List.filter_append]
  congr 1
  cases hon : s.on routerId interfaceId <;> simp [hon]

theorem gapsOn_insertGap (db : TrafficDb) (g : TrafficGapInput)
    (routerId interfaceId : Int) :
    (db.insertGap g).gapsOn routerId interfaceId =
      db.gapsOn routerId interfaceId ++
        if g.on routerId interfaceId then
          [{ g with id := db.trafficGaps.sequence + 1 }]
        else [] := by
  simp only [gapsOn, insertGap, Table.insert_rows, List.filter_append]
  congr 1
  cases hon : g.on routerId interfaceId <;> simp [hon]

end TrafficDb

/-! ## Argument checks -/

/-- What `validate_sample` promises about a sample. -/
structure ValidSample (s : TrafficSampleInput) : Prop where
  increasing : s.startedAtMs < s.endedAtMs
  duration : s.durationMs = satSub s.endedAtMs s.startedAtMs
  downloadBytes : 0 ≤ s.downloadBytes
  uploadBytes : 0 ≤ s.uploadBytes

theorem validateSample_ok {s : TrafficSampleInput} {u : Unit}
    (h : validateSample s = .ok u) : ValidSample s := by
  unfold validateSample at h
  rw [ensure_eq_ok_iff] at h
  simp only [not_or, not_le, not_lt, not_not] at h
  exact ⟨h.1, h.2.1, h.2.2.1, h.2.2.2.1⟩

/-- What `validate_gap` promises about a gap. -/
theorem validateGap_ok {g : TrafficGapInput} {u : Unit}
    (h : validateGap g = .ok u) : g.startedAtMs < g.endedAtMs := by
  unfold validateGap at h
  rw [ensure_eq_ok_iff] at h
  simp only [not_or, not_le] at h
  exact h.1

theorem all_older_iff {o : Option CounterCheckpoint} {c : CounterCheckpoint} :
    o.all (fun current => decide (current.observedAtMs < c.observedAtMs)) = true ↔
      ∀ current, o = some current → current.observedAtMs < c.observedAtMs := by
  cases o <;> simp

theorem checkpointConflicts_eq_false {current candidate : CounterCheckpoint}
    (h : checkpointConflicts current candidate = false) :
    candidate.observedAtMs < current.observedAtMs ∨ current = candidate := by
  simp only [checkpointConflicts, checkpointMatches, decide_eq_false_iff_not, not_or,
    not_and, not_lt] at h
  obtain ⟨hle, heq⟩ := h
  rcases lt_or_eq_of_le hle with hlt | hsame
  · exact Or.inl hlt
  · have := heq hsame.symm
    simp only [not_not] at this
    exact Or.inr this

/-! ## Samples -/

/-- The transaction recorded a new sample and advanced the checkpoint to its end. -/
structure NewSample (db : TrafficDb) (s : TrafficSampleInput) (c : CounterCheckpoint)
    (db' : TrafficDb) : Prop where
  valid : ValidSample s
  routerId : s.routerId = c.routerId
  interfaceId : s.interfaceId = c.interfaceId
  endedAtMs : s.endedAtMs = c.observedAtMs
  fresh : db.existingSample s = none
  advances : ∀ current, db.checkpointFor c.routerId c.interfaceId = some current →
    current.observedAtMs < c.observedAtMs
  result : db' = (db.insertSample s).putCheckpoint c

/-- The transaction found the sample stored, with a checkpoint at least as new. -/
structure RepeatedSample (db : TrafficDb) (s : TrafficSampleInput) (c : CounterCheckpoint) :
    Prop where
  routerId : s.routerId = c.routerId
  interfaceId : s.interfaceId = c.interfaceId
  endedAtMs : s.endedAtMs = c.observedAtMs
  stored : ∃ existing, db.existingSample s = some existing ∧ sampleMatches existing s = true
  checkpoint : ∃ current, db.checkpointFor c.routerId c.interfaceId = some current ∧
    (c.observedAtMs < current.observedAtMs ∨ current = c)

theorem commitSampleAndCheckpoint_cases {s : TrafficSampleInput} {c : CounterCheckpoint}
    {db db' : TrafficDb} {b : Bool}
    (h : commitSampleAndCheckpoint s c db = .ok (b, db')) :
    (b = true ∧ NewSample db s c db') ∨
      (b = false ∧ RepeatedSample db s c ∧ db' = db) := by
  unfold commitSampleAndCheckpoint at h
  obtain ⟨_, hvalid, h⟩ := bind_eq_ok_iff.mp h
  obtain ⟨_, _, h⟩ := bind_eq_ok_iff.mp h
  obtain ⟨⟨hrouter, hinterface, hend⟩, h⟩ := ensure_bind_eq_ok_iff.mp h
  obtain ⟨_, h⟩ := ensure_bind_eq_ok_iff.mp h
  cases hexisting : db.existingSample s with
  | some existing =>
      rw [hexisting] at h
      obtain ⟨hmatches, h⟩ := ensure_bind_eq_ok_iff.mp h
      obtain ⟨current, hcurrent, h⟩ := bind_eq_ok_iff.mp h
      obtain ⟨hconflict, h⟩ := ensure_bind_eq_ok_iff.mp h
      simp only [Except.ok.injEq, Prod.mk.injEq] at h
      exact Or.inr ⟨h.1.symm, ⟨hrouter, hinterface, hend, ⟨existing, hexisting, hmatches⟩,
        ⟨current, okOr_eq_ok_iff.mp hcurrent, checkpointConflicts_eq_false hconflict⟩⟩,
        h.2.symm⟩
  | none =>
      rw [hexisting] at h
      obtain ⟨hall, h⟩ := ensure_bind_eq_ok_iff.mp h
      rw [all_older_iff] at hall
      have hadvance := TrafficDb.advanceCheckpoint_of_older (db.insertSample s) hall
      simp only [hadvance] at h
      obtain ⟨_, h⟩ := ensure_bind_eq_ok_iff.mp h
      simp only [Except.ok.injEq, Prod.mk.injEq] at h
      exact Or.inl ⟨h.1.symm, ⟨validateSample_ok hvalid, hrouter, hinterface, hend,
        hexisting, hall, h.2.symm⟩⟩

/-- A checked record of an interface of the router that is newer than everything stored is
recorded. -/
theorem commitSampleAndCheckpoint_of_newer {s : TrafficSampleInput} {c : CounterCheckpoint}
    {db : TrafficDb} (hsample : validateSample s = .ok ())
    (hcheckpoint : validateCheckpoint c = .ok ())
    (hkeys : s.routerId = c.routerId ∧ s.interfaceId = c.interfaceId ∧
      s.endedAtMs = c.observedAtMs)
    (howned : db.ownsInterface s.routerId s.interfaceId = true)
    (hended : ∀ stored ∈ db.samplesOn s.routerId s.interfaceId, stored.endedAtMs < s.endedAtMs)
    (hadvances : ∀ current, db.checkpointFor c.routerId c.interfaceId = some current →
      current.observedAtMs < c.observedAtMs) :
    commitSampleAndCheckpoint s c db = .ok (true, (db.insertSample s).putCheckpoint c) := by
  have hfresh : db.existingSample s = none := by
    rw [TrafficDb.existingSample, List.find?_eq_none]
    intro stored hstored hkey
    obtain ⟨hon, hsame⟩ := Bool.and_eq_true_iff.mp hkey
    have hbefore := hended stored (List.mem_filter.mpr ⟨hstored, hon⟩)
    exact absurd (of_decide_eq_true hsame).1 (ne_of_lt hbefore)
  have hadvance := TrafficDb.advanceCheckpoint_of_older (db.insertSample s) hadvances
  unfold commitSampleAndCheckpoint
  rw [hsample, ok_bind, hcheckpoint, ok_bind, ensure_of hkeys, ok_bind, ensure_of howned, ok_bind,
    hfresh]
  simp only [ensure_of (all_older_iff.mpr hadvances), ok_bind, hadvance]
  rfl

/-! ## Gaps -/

/-- The transaction recorded a new gap and advanced the checkpoint to its end. -/
structure NewGap (db : TrafficDb) (g : TrafficGapInput) (c : CounterCheckpoint)
    (db' : TrafficDb) : Prop where
  increasing : g.startedAtMs < g.endedAtMs
  routerId : g.routerId = c.routerId
  interfaceId : g.interfaceId = some c.interfaceId
  endedAtMs : g.endedAtMs = c.observedAtMs
  fresh : db.existingGap g = none
  advances : ∀ current, db.checkpointFor c.routerId c.interfaceId = some current →
    current.observedAtMs < c.observedAtMs
  result : db' = (db.insertGap g).putCheckpoint c

/-- The transaction found the gap stored, with a checkpoint at least as new. -/
structure RepeatedGap (db : TrafficDb) (g : TrafficGapInput) (c : CounterCheckpoint) :
    Prop where
  routerId : g.routerId = c.routerId
  interfaceId : g.interfaceId = some c.interfaceId
  endedAtMs : g.endedAtMs = c.observedAtMs
  stored : ∃ existing, db.existingGap g = some existing ∧
    existing.details.getD "" = g.details.getD ""
  checkpoint : ∃ current, db.checkpointFor c.routerId c.interfaceId = some current ∧
    (c.observedAtMs < current.observedAtMs ∨ current = c)

theorem commitGapAndCheckpoint_cases {g : TrafficGapInput} {c : CounterCheckpoint}
    {db db' : TrafficDb} {b : Bool}
    (h : commitGapAndCheckpoint g c db = .ok (b, db')) :
    (b = true ∧ NewGap db g c db') ∨ (b = false ∧ RepeatedGap db g c ∧ db' = db) := by
  unfold commitGapAndCheckpoint at h
  obtain ⟨_, hvalid, h⟩ := bind_eq_ok_iff.mp h
  obtain ⟨_, _, h⟩ := bind_eq_ok_iff.mp h
  obtain ⟨⟨hinterface, hrouter, hend⟩, h⟩ := ensure_bind_eq_ok_iff.mp h
  obtain ⟨_, _, h⟩ := bind_eq_ok_iff.mp h
  cases hexisting : db.existingGap g with
  | some existing =>
      rw [hexisting] at h
      obtain ⟨hdetails, h⟩ := ensure_bind_eq_ok_iff.mp h
      obtain ⟨current, hcurrent, h⟩ := bind_eq_ok_iff.mp h
      obtain ⟨hconflict, h⟩ := ensure_bind_eq_ok_iff.mp h
      simp only [Except.ok.injEq, Prod.mk.injEq] at h
      exact Or.inr ⟨h.1.symm, ⟨hrouter, hinterface, hend, ⟨existing, hexisting, hdetails⟩,
        ⟨current, okOr_eq_ok_iff.mp hcurrent, checkpointConflicts_eq_false hconflict⟩⟩,
        h.2.symm⟩
  | none =>
      rw [hexisting] at h
      obtain ⟨hall, h⟩ := ensure_bind_eq_ok_iff.mp h
      rw [all_older_iff] at hall
      have hadvance := TrafficDb.advanceCheckpoint_of_older (db.insertGap g) hall
      simp only [hadvance] at h
      obtain ⟨_, h⟩ := ensure_bind_eq_ok_iff.mp h
      simp only [Except.ok.injEq, Prod.mk.injEq] at h
      exact Or.inl ⟨h.1.symm, ⟨validateGap_ok hvalid, hrouter, hinterface, hend,
        hexisting, hall, h.2.symm⟩⟩

theorem commitGapAndCheckpoint_of_newer {g : TrafficGapInput} {c : CounterCheckpoint}
    {db : TrafficDb} (hgap : validateGap g = .ok ()) (hcheckpoint : validateCheckpoint c = .ok ())
    (hkeys : g.interfaceId = some c.interfaceId ∧ g.routerId = c.routerId ∧
      g.endedAtMs = c.observedAtMs)
    (howned : db.ownsRouterInterface g.routerId g.interfaceId = true)
    (hended : ∀ stored ∈ db.gapsOn c.routerId c.interfaceId, stored.endedAtMs < g.endedAtMs)
    (hadvances : ∀ current, db.checkpointFor c.routerId c.interfaceId = some current →
      current.observedAtMs < c.observedAtMs) :
    commitGapAndCheckpoint g c db = .ok (true, (db.insertGap g).putCheckpoint c) := by
  have hfresh : db.existingGap g = none := by
    rw [TrafficDb.existingGap, List.find?_eq_none]
    intro stored hstored hkey
    obtain ⟨hrouter, hinterface, _, hend, _⟩ := of_decide_eq_true hkey
    have hon : stored.on c.routerId c.interfaceId = true :=
      decide_eq_true ⟨hrouter.trans hkeys.2.1, hinterface.trans hkeys.1⟩
    exact absurd hend (ne_of_lt (hended stored (List.mem_filter.mpr ⟨hstored, hon⟩)))
  have hadvance := TrafficDb.advanceCheckpoint_of_older (db.insertGap g) hadvances
  unfold commitGapAndCheckpoint TrafficDb.ensureInterfaceOwner
  rw [hgap, ok_bind, hcheckpoint, ok_bind, ensure_of hkeys, ok_bind, ensure_of howned, ok_bind,
    hfresh]
  simp only [ensure_of (all_older_iff.mpr hadvances), ok_bind, hadvance]
  rfl

/-! ## Initial checkpoints -/

theorem initializeCheckpointIfAbsent_cases {c : CounterCheckpoint} {db db' : TrafficDb}
    {b : Bool} (h : initializeCheckpointIfAbsent c db = .ok (b, db')) :
    (b = true ∧ db.checkpointFor c.routerId c.interfaceId = none ∧
        db' = db.putCheckpoint c) ∨
      (b = false ∧ (∃ current, db.checkpointFor c.routerId c.interfaceId = some current) ∧
        db' = db) := by
  unfold initializeCheckpointIfAbsent at h
  obtain ⟨_, _, h⟩ := bind_eq_ok_iff.mp h
  obtain ⟨_, _, h⟩ := bind_eq_ok_iff.mp h
  cases hcurrent : db.checkpointFor c.routerId c.interfaceId with
  | none =>
      rw [hcurrent] at h
      simp only [Except.ok.injEq, Prod.mk.injEq] at h
      exact Or.inl ⟨h.1.symm, rfl, h.2.symm⟩
  | some current =>
      rw [hcurrent] at h
      simp only [Except.ok.injEq, Prod.mk.injEq] at h
      exact Or.inr ⟨h.1.symm, ⟨current, rfl⟩, h.2.symm⟩

theorem initializeCheckpointIfAbsent_of_absent {c : CounterCheckpoint} {db : TrafficDb}
    (hcheckpoint : validateCheckpoint c = .ok ())
    (howned : db.ownsRouterInterface c.routerId (some c.interfaceId) = true)
    (habsent : db.checkpointFor c.routerId c.interfaceId = none) :
    initializeCheckpointIfAbsent c db = .ok (true, db.putCheckpoint c) := by
  unfold initializeCheckpointIfAbsent TrafficDb.ensureInterfaceOwner
  rw [hcheckpoint, ok_bind, ensure_of howned, ok_bind, habsent]

theorem initializeCheckpointIfAbsent_of_stored {c current : CounterCheckpoint} {db : TrafficDb}
    (hcheckpoint : validateCheckpoint c = .ok ())
    (howned : db.ownsRouterInterface c.routerId (some c.interfaceId) = true)
    (hstored : db.checkpointFor c.routerId c.interfaceId = some current) :
    initializeCheckpointIfAbsent c db = .ok (false, db) := by
  unfold initializeCheckpointIfAbsent TrafficDb.ensureInterfaceOwner
  rw [hcheckpoint, ok_bind, ensure_of howned, ok_bind, hstored]

end RouterView.Db
