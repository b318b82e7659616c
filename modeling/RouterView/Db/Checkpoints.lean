/-
  Db/Checkpoints.lean --- retries and checkpoints, over whole runs.

  A sample and a gap are recorded together with the checkpoint of their
  interface, which moves to their end.  So a record that is submitted again is
  found, or stands behind the checkpoint and is refused, and no run of writes
  ever moves a checkpoint back.
-/
import RouterView.Db.RouterIdentity

set_option autoImplicit false

namespace RouterView.Db

open RouterView.Foundation

/-! ## The counters of an interface -/

/-- The second counters are those of a later observation, or the same. -/
def Counters.Leads (k k' : Counters) : Prop := k.observedAtMs < k'.observedAtMs ∨ k' = k

theorem Counters.Leads.refl (k : Counters) : k.Leads k := Or.inr rfl

theorem Counters.Leads.trans {a b c : Counters} (hab : a.Leads b) (hbc : b.Leads c) :
    a.Leads c := by
  rcases hbc with hlt | rfl
  · rcases hab with hlt' | rfl
    · exact Or.inl (hlt'.trans hlt)
    · exact Or.inl hlt
  · exact hab

section

variable {db db' : TrafficDb}

@[simp] theorem CounterCheckpoint.counters_observedAtMs (c : CounterCheckpoint) :
    c.counters.observedAtMs = c.observedAtMs := rfl

/-- An interface has one owner, so its counters are those of the owner's checkpoint. -/
theorem TrafficDb.Intact.checkpointFor_counters (hi : db.Intact) {r i : Int}
    (howns : db.Owns r i) :
    (db.checkpointFor r i).map (fun c => c.counters) = db.countersOn i := by
  unfold TrafficDb.checkpointFor TrafficDb.countersOn
  congr 1
  apply List.find?_congr
  intro c hc
  apply decide_eq_decide.mpr
  constructor
  · exact fun h => h.2
  · intro hid
    refine ⟨?_, hid⟩
    apply hi.registry.owner_eq _ howns
    rw [← hid]
    exact hi.records.checkpoints c hc

theorem TrafficDb.countersOn_putCheckpoint_self (c : CounterCheckpoint) :
    (db.putCheckpoint c).countersOn c.interfaceId = some c.counters := by
  simp [TrafficDb.putCheckpoint, TrafficDb.countersOn]

theorem TrafficDb.countersOn_putCheckpoint_ne {c : CounterCheckpoint} {i : Int}
    (hne : c.interfaceId ≠ i) : (db.putCheckpoint c).countersOn i = db.countersOn i := by
  unfold TrafficDb.countersOn
  congr 1
  simp only [TrafficDb.putCheckpoint, List.find?_cons, hne, decide_false, List.find?_filter]
  congr 1
  funext x
  by_cases hx : x.interfaceId = i
  · have hkey : x.interfaceId ≠ c.interfaceId := fun h => hne (h.symm.trans hx)
    simp [hx, Ne.symm hne]
  · simp [hx]

theorem TrafficDb.countersOn_congr (h : db'.counterCheckpoints = db.counterCheckpoints) (i : Int) :
    db'.countersOn i = db.countersOn i := by
  unfold TrafficDb.countersOn
  rw [h]

end

/-! ## Records -/

/-- What is recorded with a checkpoint. -/
inductive TrafficRecord where
  | sample (sample : TrafficSampleInput)
  | gap (gap : TrafficGapInput)

namespace TrafficRecord

/-- The transaction that records it. -/
def commit : TrafficRecord → CounterCheckpointInput → TrafficDb →
    DatabaseResult (Bool × TrafficDb)
  | .sample s => commitSampleAndCheckpoint s
  | .gap g => commitGapAndCheckpoint g

/-- The same transaction as a write of a run. -/
def write : TrafficRecord → CounterCheckpointInput → TrafficWrite
  | .sample s => .commitSample s
  | .gap g => .commitGap g

/-- A row holds the record as it was submitted. -/
def StoredIn (db : TrafficDb) : TrafficRecord → Prop
  | .sample s => ∃ row ∈ db.trafficSamples.rows, row.toTrafficSampleInput = s
  | .gap g => ∃ row ∈ db.trafficGaps.rows, row.toTrafficGapInput = g

/-- A row has the key of the record. -/
def KnownIn (db : TrafficDb) : TrafficRecord → Prop
  | .sample s => db.existingSample s ≠ none
  | .gap g => db.existingGap g ≠ none

/-- The call records something new. -/
def New (db : TrafficDb) (c : CounterCheckpoint) (db' : TrafficDb) : TrafficRecord → Prop
  | .sample s => NewSample db s c db'
  | .gap g => NewGap db g c db'

/-- The call repeats what is stored. -/
def Repeats (db : TrafficDb) (c : CounterCheckpoint) : TrafficRecord → Prop
  | .sample s => RepeatedSample db s c
  | .gap g => RepeatedGap db g c

section

variable {record : TrafficRecord} {c : CounterCheckpoint} {db db' : TrafficDb} {b : Bool}

theorem commit_cases (h : record.commit c db = .ok (b, db')) :
    (b = true ∧ record.New db c db') ∨ (b = false ∧ record.Repeats db c ∧ db' = db) := by
  cases record with
  | sample s => exact commitSampleAndCheckpoint_cases h
  | gap g => exact commitGapAndCheckpoint_cases h

theorem trafficStep_write (record : TrafficRecord) (c : CounterCheckpoint) (db : TrafficDb) :
    trafficStep db (record.write c) = committed (record.commit c db) db := by
  cases record with
  | sample s => rfl
  | gap g => rfl

theorem commit_owns (h : record.commit c db = .ok (b, db')) :
    db.Owns c.routerId c.interfaceId := by
  cases record with
  | sample s =>
      have howns := commitSampleAndCheckpoint_owns h
      rcases commitSampleAndCheckpoint_cases h with ⟨_, hnew⟩ | ⟨_, hrepeat, _⟩
      · rw [← hnew.routerId, ← hnew.interfaceId]
        exact howns
      · rw [← hrepeat.routerId, ← hrepeat.interfaceId]
        exact howns
  | gap g => exact commitGapAndCheckpoint_owns h

/-- The checkpoint and the tables that a new record leaves. -/
structure Frame (db : TrafficDb) (c : CounterCheckpoint) (db' : TrafficDb) : Prop where
  advances : ∀ current, db.checkpointFor c.routerId c.interfaceId = some current →
    current.observedAtMs < c.observedAtMs
  checkpoints : db'.counterCheckpoints = (db.putCheckpoint c).counterCheckpoints
  interfaces : db'.routerInterfaces = db.routerInterfaces

theorem New.frame (h : record.New db c db') : Frame db c db' := by
  cases record with
  | sample s =>
      refine ⟨NewSample.advances h, ?_, ?_⟩
      · rw [NewSample.result h]
        rfl
      · rw [NewSample.result h]
        rfl
  | gap g =>
      refine ⟨NewGap.advances h, ?_, ?_⟩
      · rw [NewGap.result h]
        rfl
      · rw [NewGap.result h]
        rfl

theorem Frame.advances_counters (h : Frame db c db') (hi : db.Intact)
    (howns : db.Owns c.routerId c.interfaceId) {k : Counters}
    (hk : db.countersOn c.interfaceId = some k) : k.observedAtMs < c.observedAtMs := by
  rw [← hi.checkpointFor_counters howns] at hk
  obtain ⟨current, hcurrent, rfl⟩ := Option.map_eq_some_iff.mp hk
  exact h.advances current hcurrent

theorem Frame.countersOn_self (h : Frame db c db') :
    db'.countersOn c.interfaceId = some c.counters := by
  rw [TrafficDb.countersOn_congr h.checkpoints]
  exact TrafficDb.countersOn_putCheckpoint_self c

theorem Frame.countersOn_ne (h : Frame db c db') {i : Int} (hne : c.interfaceId ≠ i) :
    db'.countersOn i = db.countersOn i := by
  rw [TrafficDb.countersOn_congr h.checkpoints]
  exact TrafficDb.countersOn_putCheckpoint_ne hne

end

end TrafficRecord

/-! ## One write -/

/-- No identifier of an interface is handed out twice. -/
structure InterfacesKept (db db' : TrafficDb) : Prop where
  sequence : db.routerInterfaces.sequence ≤ db'.routerInterfaces.sequence
  old : ∀ j ∈ db'.routerInterfaces.rows, j.id ≤ db.routerInterfaces.sequence →
    ∃ i ∈ db.routerInterfaces.rows, i.id = j.id

/-- What a write does to the counters of an interface: nothing, or their first
value, or the advance that comes with one new record. -/
inductive CounterStep (db : TrafficDb) (write : TrafficWrite) (i : Int) : Prop where
  | kept (hsame : (trafficStep db write).countersOn i = db.countersOn i)
  | initialized (c : CounterCheckpoint) (hwrite : write = .initializeCheckpoint c)
      (hon : c.interfaceId = i) (hnone : db.countersOn i = none)
      (hresult : trafficStep db write = db.putCheckpoint c)
  | recorded (record : TrafficRecord) (c : CounterCheckpoint) (hwrite : write = record.write c)
      (hon : c.interfaceId = i)
      (hadvances : ∀ k, db.countersOn i = some k → k.observedAtMs < c.observedAtMs)
      (hcounters : (trafficStep db write).countersOn i = some c.counters)
      (hnew : record.New db c (trafficStep db write))

section

variable {db db' : TrafficDb}

theorem InterfacesKept.of_eq (h : db'.routerInterfaces = db.routerInterfaces) :
    InterfacesKept db db' where
  sequence := le_of_eq (by rw [h])
  old := fun j hj _ => ⟨j, h ▸ hj, rfl⟩

theorem putInterface_interfacesKept (routerId : Int) (interfaceKey name kind : String)
    (hardwareId : Option String) (observedAtMs : Int) (db : TrafficDb) :
    InterfacesKept db
      (putInterface routerId interfaceKey name kind hardwareId observedAtMs db) := by
  unfold putInterface
  split
  · refine ⟨?_, ?_⟩
    · simp only [Table.insert]
      omega
    · intro j hj hold
      rcases List.mem_append.mp hj with hj | hj
      · exact ⟨j, hj, rfl⟩
      · rw [List.mem_singleton.mp hj] at hold
        dsimp only at hold
        exact absurd hold (by omega)
  · refine ⟨Int.le_add_one (le_refl _), ?_⟩
    intro j hj _
    rcases Table.mem_updateWhere_iff.mp hj with ⟨hj, _⟩ | ⟨i, hi, _, rfl⟩
    · exact ⟨j, hj, rfl⟩
    · exact ⟨i, hi, rfl⟩

/-- A resolution moves interfaces or merges them, with their counters. -/
theorem resolveRouter_counters {call : RouterCall} {record : RouterRecord} (hi : db.Intact)
    (h : resolveRouter call db = .ok (record, db')) :
    InterfacesKept db db' ∧
      ∀ j ∈ db'.routerInterfaces.rows, db'.countersOn j.id = db.countersOn j.id := by
  obtain ⟨mid, hselect, hadopt⟩ := resolveRouter_ok h
  obtain ⟨_, hkeeps, _⟩ := adoptLegacyHistory_ok (hselect.intact hi) hselect.stored hadopt
  have hinterfaces : mid.routerInterfaces = db.routerInterfaces := by rw [hselect.frame]
  have hcheckpoints : mid.counterCheckpoints = db.counterCheckpoints := by rw [hselect.frame]
  refine ⟨⟨?_, ?_⟩, ?_⟩
  · rw [hkeeps.sequence, hinterfaces]
  · intro j hj _
    obtain ⟨i, hi, hid⟩ := hkeeps.interfaces j hj
    exact ⟨i, hinterfaces ▸ hi, hid.symm⟩
  · intro j hj
    rw [hkeeps.counters j hj, TrafficDb.countersOn_congr hcheckpoints]

theorem trafficStep_record (hi : db.Intact) (record : TrafficRecord) (c : CounterCheckpoint) :
    InterfacesKept db (trafficStep db (record.write c)) ∧
      ∀ i, CounterStep db (record.write c) i := by
  cases hcommit : record.commit c db with
  | error e =>
      have hstep : trafficStep db (record.write c) = db := by
        rw [TrafficRecord.trafficStep_write, hcommit]
        rfl
      rw [hstep]
      refine ⟨InterfacesKept.of_eq rfl, ?_⟩
      intro i
      apply CounterStep.kept
      rw [hstep]
  | ok result =>
      obtain ⟨b, db'⟩ := result
      have hstep : trafficStep db (record.write c) = db' := by
        rw [TrafficRecord.trafficStep_write, hcommit]
        rfl
      rcases TrafficRecord.commit_cases hcommit with ⟨_, hnew⟩ | ⟨_, _, hsame⟩
      · have hframe := hnew.frame
        have howns := TrafficRecord.commit_owns hcommit
        rw [hstep]
        refine ⟨InterfacesKept.of_eq hframe.interfaces, ?_⟩
        intro i
        by_cases hon : c.interfaceId = i
        · apply CounterStep.recorded record c rfl hon
          · intro k hk
            rw [← hon] at hk
            exact hframe.advances_counters hi howns hk
          · rw [hstep, ← hon]
            exact hframe.countersOn_self
          · rw [hstep]
            exact hnew
        · apply CounterStep.kept
          rw [hstep]
          exact hframe.countersOn_ne hon
      · rw [hstep, hsame]
        refine ⟨InterfacesKept.of_eq rfl, ?_⟩
        intro i
        apply CounterStep.kept
        rw [hstep, hsame]

theorem trafficStep_initialize (hi : db.Intact) (c : CounterCheckpoint) :
    InterfacesKept db (trafficStep db (.initializeCheckpoint c)) ∧
      ∀ i, CounterStep db (.initializeCheckpoint c) i := by
  cases hinit : initializeCheckpointIfAbsent c db with
  | error e =>
      have hstep : trafficStep db (.initializeCheckpoint c) = db := by
        simp only [trafficStep, hinit, committed]
      rw [hstep]
      refine ⟨InterfacesKept.of_eq rfl, ?_⟩
      intro i
      apply CounterStep.kept
      rw [hstep]
  | ok result =>
      obtain ⟨b, db'⟩ := result
      have hstep : trafficStep db (.initializeCheckpoint c) = db' := by
        simp only [trafficStep, hinit, committed]
      have howns := initializeCheckpointIfAbsent_owns hinit
      rcases initializeCheckpointIfAbsent_cases hinit with ⟨_, habsent, hput⟩ | ⟨_, _, hsame⟩
      · rw [hstep, hput]
        refine ⟨InterfacesKept.of_eq rfl, ?_⟩
        intro i
        by_cases hon : c.interfaceId = i
        · apply CounterStep.initialized c rfl hon
          · rw [← hon, ← hi.checkpointFor_counters howns, habsent]
            rfl
          · rw [hstep, hput]
        · apply CounterStep.kept
          rw [hstep, hput]
          exact TrafficDb.countersOn_putCheckpoint_ne hon
      · rw [hstep, hsame]
        refine ⟨InterfacesKept.of_eq rfl, ?_⟩
        intro i
        apply CounterStep.kept
        rw [hstep, hsame]

/-- The other writes leave the checkpoints alone. -/
theorem CounterStep.of_committed {α : Type} {write : TrafficWrite}
    {result : DatabaseResult (α × TrafficDb)} (hstep : trafficStep db write = committed result db)
    (hok : ∀ a db', result = .ok (a, db') →
      InterfacesKept db db' ∧
        ∀ j ∈ db'.routerInterfaces.rows, db'.countersOn j.id = db.countersOn j.id) :
    InterfacesKept db (trafficStep db write) ∧
      ∀ j ∈ (trafficStep db write).routerInterfaces.rows, CounterStep db write j.id := by
  have hcases : InterfacesKept db (committed result db) ∧
      ∀ j ∈ (committed result db).routerInterfaces.rows,
        (committed result db).countersOn j.id = db.countersOn j.id := by
    refine committed_cases (P := fun x => InterfacesKept db x ∧
      ∀ j ∈ x.routerInterfaces.rows, x.countersOn j.id = db.countersOn j.id) ?_ hok
    exact ⟨InterfacesKept.of_eq rfl, fun _ _ => rfl⟩
  rw [← hstep] at hcases
  exact ⟨hcases.1, fun j hj => CounterStep.kept (hcases.2 j hj)⟩

theorem trafficStep_counters (hi : db.Intact) (write : TrafficWrite) :
    InterfacesKept db (trafficStep db write) ∧
      ∀ j ∈ (trafficStep db write).routerInterfaces.rows, CounterStep db write j.id := by
  cases write with
  | resolveRouter call =>
      apply CounterStep.of_committed rfl
      exact fun _ _ h => resolveRouter_counters hi h
  | upsertInterface routerId interfaceKey name kind hardwareId observedAtMs =>
      apply CounterStep.of_committed rfl
      intro record db' h
      have hcheckpoints := (upsertRouterInterface_ok h).sameTraffic.checkpoints
      refine ⟨?_, fun j _ => TrafficDb.countersOn_congr hcheckpoints j.id⟩
      rw [upsertRouterInterface_eq h]
      apply putInterface_interfacesKept
  | commitSample s c =>
      obtain ⟨hkept, hsteps⟩ := trafficStep_record hi (.sample s) c
      exact ⟨hkept, fun j _ => hsteps j.id⟩
  | commitGap g c =>
      obtain ⟨hkept, hsteps⟩ := trafficStep_record hi (.gap g) c
      exact ⟨hkept, fun j _ => hsteps j.id⟩
  | initializeCheckpoint c =>
      obtain ⟨hkept, hsteps⟩ := trafficStep_initialize hi c
      exact ⟨hkept, fun j _ => hsteps j.id⟩
  | rollup beforeMs bucketSizeMs batchSize =>
      apply CounterStep.of_committed rfl
      intro n db' h
      have hframe := (rollupExactSamplesBatch_wrote hi.records.sampleIds h).frame
      refine ⟨InterfacesKept.of_eq (by rw [hframe]), ?_⟩
      exact fun j _ => TrafficDb.countersOn_congr (by rw [hframe]) j.id
  | prune beforeMs batchSize =>
      apply CounterStep.of_committed rfl
      intro n db' h
      have hframe := (pruneExactHistoryBatch_ok h).frame
      refine ⟨InterfacesKept.of_eq (by rw [hframe]), ?_⟩
      exact fun j _ => TrafficDb.countersOn_congr (by rw [hframe]) j.id

end

/-! ## Runs -/

/-- The interface was handed out, and its counters are these or later ones for as
long as it is there. -/
structure TrafficDb.Reached (db : TrafficDb) (i : Int) (k : Counters) : Prop where
  issued : i ≤ db.routerInterfaces.sequence
  counters : ∀ j ∈ db.routerInterfaces.rows, j.id = i →
    ∃ k', db.countersOn i = some k' ∧ k.Leads k'

section

variable {db db' : TrafficDb} {i : Int} {k : Counters}

theorem TrafficDb.Reached.of_countersOn (hi : db.Intact) {j : RouterInterfaceRecord}
    (hj : j ∈ db.routerInterfaces.rows) (hk : db.countersOn j.id = some k) :
    db.Reached j.id k where
  issued := hi.registry.interfaceIds.issued j hj
  counters := fun _ _ _ => ⟨k, hk, Counters.Leads.refl k⟩

theorem TrafficDb.Reached.step (h : db.Reached i k) (hi : db.Intact) (write : TrafficWrite) :
    (trafficStep db write).Reached i k := by
  obtain ⟨hkept, hsteps⟩ := trafficStep_counters hi write
  refine ⟨h.issued.trans hkept.sequence, ?_⟩
  intro j hj hid
  obtain ⟨old, hold, holdId⟩ := hkept.old j hj (hid ▸ h.issued)
  obtain ⟨k', hk', hleads⟩ := h.counters old hold (holdId.trans hid)
  have hstep := hsteps j hj
  rw [hid] at hstep
  cases hstep with
  | kept hsame => exact ⟨k', hsame.trans hk', hleads⟩
  | initialized c hwrite hon hnone hresult =>
      rw [hnone] at hk'
      cases hk'
  | recorded record c hwrite hon hadvances hcounters hnew =>
      exact ⟨c.counters, hcounters, hleads.trans (Or.inl (hadvances k' hk'))⟩

theorem TrafficDb.Reached.run (h : db.Reached i k) (hi : db.Intact)
    (writes : List TrafficWrite) : (run trafficStep db writes).Reached i k := by
  induction writes generalizing db with
  | nil => exact h
  | cons write rest ih => exact ih (h.step hi write) (trafficStep_intact hi write)

end

/-! ## Retries -/

section

variable {record : TrafficRecord} {c : CounterCheckpoint} {db db' mid : TrafficDb} {b : Bool}

theorem validateSample_rates {s : TrafficSampleInput} {u : Unit}
    (h : validateSample s = .ok u) :
    F64.eq s.downloadBps s.downloadBps = true ∧ F64.eq s.uploadBps s.uploadBps = true := by
  unfold validateSample at h
  rw [ensure_eq_ok_iff] at h
  simp only [not_or] at h
  obtain ⟨_, _, _, _, hdownload, hupload, _⟩ := h
  refine ⟨F64.eq_self_iff.mpr ?_, F64.eq_self_iff.mpr ?_⟩
  · intro hnan
    exact hdownload (by rw [hnan]; rfl)
  · intro hnan
    exact hupload (by rw [hnan]; rfl)

/-- Rows that hold what was submitted match it. -/
theorem sampleMatches_self {row : TrafficSample} {u : Unit}
    (h : validateSample row.toTrafficSampleInput = .ok u) :
    sampleMatches row row.toTrafficSampleInput = true := by
  obtain ⟨hdownload, hupload⟩ := validateSample_rates h
  simp [sampleMatches, hdownload, hupload]

/-- A stored sample is the one that its key finds. -/
theorem TrafficDb.Intact.existingSample (hi : db.Intact) {row : TrafficSample}
    (hrow : row ∈ db.trafficSamples.rows) :
    db.existingSample row.toTrafficSampleInput = some row := by
  cases hfind : db.existingSample row.toTrafficSampleInput with
  | none => exact absurd row.sameKey_refl (TrafficDb.existingSample_eq_none hfind row hrow row.id)
  | some found =>
      have hkey := List.find?_some hfind
      simp only [TrafficSampleInput.on, Bool.and_eq_true, decide_eq_true_eq] at hkey
      congr 1
      apply hi.records.sampleKeys found (List.mem_of_find?_eq_some hfind) row hrow
      exact ⟨hkey.1.1, hkey.1.2, hkey.2⟩

/-- A stored gap is the one that its key finds. -/
theorem TrafficDb.Intact.existingGap (hi : db.Intact) {row : TrafficGap}
    (hrow : row ∈ db.trafficGaps.rows) :
    db.existingGap row.toTrafficGapInput = some row := by
  obtain ⟨i, hinterface, _⟩ := hi.records.gaps row hrow
  have hsome : row.interfaceId ≠ none := by
    rw [hinterface]
    exact Option.some_ne_none i
  cases hfind : db.existingGap row.toTrafficGapInput with
  | none =>
      exact absurd ⟨rfl, ⟨rfl, hsome⟩, rfl, rfl, rfl⟩
        (TrafficDb.existingGap_eq_none hfind row hrow row.id)
  | some found =>
      have hkey := List.find?_some hfind
      rw [decide_eq_true_eq] at hkey
      congr 1
      apply hi.records.gapKeys found (List.mem_of_find?_eq_some hfind) row hrow
      exact ⟨hkey.1, ⟨hkey.2.1, by rw [hkey.2.1]; exact hsome⟩, hkey.2.2⟩

theorem checkpointConflicts_of_newer {current : CounterCheckpoint}
    (h : c.observedAtMs < current.observedAtMs ∨ current = c) :
    checkpointConflicts current c = false := by
  simp only [checkpointConflicts, checkpointMatches, decide_eq_false_iff_not, not_or, not_and,
    not_lt]
  rcases h with hlt | rfl
  · exact ⟨le_of_lt hlt, fun heq => absurd heq (ne_of_gt hlt)⟩
  · exact ⟨le_refl _, fun _ => by simp⟩

/-- A sample that was accepted once is accepted again where it repeats what is stored. -/
theorem commitSampleAndCheckpoint_again {s : TrafficSampleInput} {result : Bool × TrafficDb}
    (hfirst : commitSampleAndCheckpoint s c mid = .ok result)
    (howns : db.Owns s.routerId s.interfaceId) (hrepeats : RepeatedSample db s c) :
    commitSampleAndCheckpoint s c db = .ok (false, db) := by
  unfold commitSampleAndCheckpoint at hfirst ⊢
  obtain ⟨_, hsample, hfirst⟩ := bind_eq_ok_iff.mp hfirst
  obtain ⟨_, hcheckpoint, _⟩ := bind_eq_ok_iff.mp hfirst
  obtain ⟨existing, hexisting, hmatches⟩ := hrepeats.stored
  obtain ⟨current, hcurrent, hnewer⟩ := hrepeats.checkpoint
  rw [hsample, ok_bind, hcheckpoint, ok_bind,
    ensure_of ⟨hrepeats.routerId, hrepeats.interfaceId, hrepeats.endedAtMs⟩, ok_bind,
    ensure_of (TrafficDb.ownsInterface_iff.mpr howns), ok_bind, hexisting]
  dsimp only
  rw [ensure_of hmatches, ok_bind, okOr_eq_ok_iff.mpr hcurrent, ok_bind,
    ensure_of (checkpointConflicts_of_newer hnewer), ok_bind]

/-- The same for a gap. -/
theorem commitGapAndCheckpoint_again {g : TrafficGapInput} {result : Bool × TrafficDb}
    (hfirst : commitGapAndCheckpoint g c mid = .ok result) (hi : db.Intact)
    (howns : db.Owns c.routerId c.interfaceId) (hrepeats : RepeatedGap db g c) :
    commitGapAndCheckpoint g c db = .ok (false, db) := by
  unfold commitGapAndCheckpoint at hfirst ⊢
  obtain ⟨_, hgap, hfirst⟩ := bind_eq_ok_iff.mp hfirst
  obtain ⟨_, hcheckpoint, _⟩ := bind_eq_ok_iff.mp hfirst
  obtain ⟨existing, hexisting, hdetails⟩ := hrepeats.stored
  obtain ⟨current, hcurrent, hnewer⟩ := hrepeats.checkpoint
  have howner : db.ensureInterfaceOwner g.routerId g.interfaceId = .ok () := by
    obtain ⟨i, hinterface, _, hrouter⟩ := id howns
    obtain ⟨r, hr, hid⟩ := hi.registry.parents i hinterface
    rw [hrepeats.routerId, hrepeats.interfaceId, TrafficDb.ensureInterfaceOwner]
    apply ensure_of
    rw [TrafficDb.ownsRouterInterface, Bool.and_eq_true]
    refine ⟨?_, TrafficDb.ownsInterface_iff.mpr howns⟩
    rw [List.any_eq_true]
    exact ⟨r, hr, decide_eq_true (hid.trans hrouter)⟩
  rw [hgap, ok_bind, hcheckpoint, ok_bind,
    ensure_of ⟨hrepeats.interfaceId, hrepeats.routerId, hrepeats.endedAtMs⟩, ok_bind,
    howner, ok_bind, hexisting]
  dsimp only
  rw [ensure_of hdetails, ok_bind, okOr_eq_ok_iff.mpr hcurrent, ok_bind,
    ensure_of (checkpointConflicts_of_newer hnewer), ok_bind]

/-- Where the interface was reached, its checkpoint is this one or a newer one. -/
theorem TrafficDb.Reached.checkpoint (h : db.Reached c.interfaceId c.counters) (hi : db.Intact)
    (howns : db.Owns c.routerId c.interfaceId) :
    ∃ current, db.checkpointFor c.routerId c.interfaceId = some current ∧
      (c.observedAtMs < current.observedAtMs ∨ current = c) := by
  obtain ⟨j, hj, hid, _⟩ := id howns
  obtain ⟨k, hk, hleads⟩ := h.counters j hj hid
  rw [← hi.checkpointFor_counters howns] at hk
  obtain ⟨current, hcurrent, rfl⟩ := Option.map_eq_some_iff.mp hk
  refine ⟨current, hcurrent, ?_⟩
  rcases hleads with hlt | hsame
  · exact Or.inl hlt
  · obtain ⟨hrouter, hinterface⟩ := TrafficDb.checkpointFor_key hcurrent
    simp only [CounterCheckpoint.counters, Counters.mk.injEq] at hsame
    obtain ⟨hrx, htx, hobserved, hreboot⟩ := hsame
    right
    cases current
    cases c
    simp_all

/-- A record that still stands repeats itself, whatever was recorded since. -/
theorem TrafficRecord.commit_again (hfirst : record.commit c mid = .ok (true, db'))
    (hi : db.Intact) (hreached : db.Reached c.interfaceId c.counters)
    (hstored : record.StoredIn db) : record.commit c db = .ok (false, db) := by
  cases record with
  | sample s =>
      obtain ⟨row, hrow, rfl⟩ := hstored
      rcases commitSampleAndCheckpoint_cases hfirst with ⟨_, hnew⟩ | ⟨hfalse, _⟩
      · have howns := hi.records.samples row hrow
        have hcheckpoint := hreached.checkpoint hi (hnew.routerId ▸ hnew.interfaceId ▸ howns)
        obtain ⟨_, hvalid, _⟩ := bind_eq_ok_iff.mp (hfirst :
          commitSampleAndCheckpoint row.toTrafficSampleInput c mid = .ok (true, db'))
        apply commitSampleAndCheckpoint_again hfirst howns
        exact ⟨hnew.routerId, hnew.interfaceId, hnew.endedAtMs,
          ⟨row, hi.existingSample hrow, sampleMatches_self hvalid⟩, hcheckpoint⟩
      · cases hfalse
  | gap g =>
      obtain ⟨row, hrow, rfl⟩ := hstored
      rcases commitGapAndCheckpoint_cases hfirst with ⟨_, hnew⟩ | ⟨hfalse, _⟩
      · obtain ⟨i, hinterface, howns⟩ := hi.records.gaps row hrow
        have hsame := hinterface.symm.trans hnew.interfaceId
        rw [Option.some.injEq] at hsame
        rw [hsame, hnew.routerId] at howns
        have hcheckpoint := hreached.checkpoint hi howns
        apply commitGapAndCheckpoint_again hfirst hi howns
        exact ⟨hnew.routerId, hnew.interfaceId, hnew.endedAtMs,
          ⟨row, hi.existingGap hrow, rfl⟩, hcheckpoint⟩
      · cases hfalse

/-- What is known, or behind the checkpoint, and no repetition is refused. -/
theorem TrafficRecord.commit_refused (hrepeats : ¬ record.Repeats db c)
    (hbehind : record.KnownIn db ∨ ∃ current,
      db.checkpointFor c.routerId c.interfaceId = some current ∧
        c.observedAtMs ≤ current.observedAtMs) :
    ∃ e, record.commit c db = .error e ∧ trafficStep db (record.write c) = db := by
  cases hcommit : record.commit c db with
  | error e =>
      refine ⟨e, rfl, ?_⟩
      rw [TrafficRecord.trafficStep_write, hcommit]
      rfl
  | ok result =>
      obtain ⟨b, db'⟩ := result
      exfalso
      rcases TrafficRecord.commit_cases hcommit with ⟨_, hnew⟩ | ⟨_, hrepeated, _⟩
      · rcases hbehind with hknown | ⟨current, hcurrent, hle⟩
        · cases record with
          | sample s => exact hknown (NewSample.fresh hnew)
          | gap g => exact hknown (NewGap.fresh hnew)
        · have hlt := hnew.frame.advances current hcurrent
          omega
      · exact hrepeats hrepeated

/-- A new record reaches its checkpoint. -/
theorem TrafficRecord.commit_reaches (h : record.commit c db = .ok (true, db')) (hi : db.Intact) :
    db'.Intact ∧ db'.Reached c.interfaceId c.counters := by
  have hdb' : db'.Intact := by
    have hstep := trafficStep_intact hi (record.write c)
    rw [TrafficRecord.trafficStep_write, h] at hstep
    exact hstep
  refine ⟨hdb', ?_⟩
  obtain ⟨j, hj, hid, _⟩ := TrafficRecord.commit_owns h
  rcases TrafficRecord.commit_cases h with ⟨_, hnew⟩ | ⟨hfalse, _⟩
  · have hframe := hnew.frame
    rw [← hframe.interfaces] at hj
    have hcounters := hframe.countersOn_self
    rw [← hid] at hcounters ⊢
    exact TrafficDb.Reached.of_countersOn hdb' hj hcounters
  · cases hfalse

/-- What is recorded later on the same interface ends later. -/
theorem TrafficRecord.commit_later (h : record.commit c db = .ok (true, db')) (hi : db.Intact)
    {i : Int} {k : Counters} (hreached : db.Reached i k) (hid : c.interfaceId = i) :
    k.observedAtMs < c.observedAtMs := by
  have howns := TrafficRecord.commit_owns h
  rcases TrafficRecord.commit_cases h with ⟨_, hnew⟩ | ⟨hfalse, _⟩
  · obtain ⟨j, hj, hjid, _⟩ := id howns
    obtain ⟨k', hk', hleads⟩ := hreached.counters j hj (hjid.trans hid)
    rw [← hid] at hk'
    have hlt := hnew.frame.advances_counters hi howns hk'
    rcases hleads with hlt' | rfl
    · exact hlt'.trans hlt
    · exact hlt
  · cases hfalse

end

/-- In every run of writes from an import: the counters of an interface are those
of its checkpoint; a record that stands as it was committed, submitted again with
its checkpoint after any further writes, is found and nothing changes; whatever
is recorded later on the interface ends later, so that nothing is recorded a
second time; every other call whose key is known, or whose checkpoint does not
advance, fails and changes nothing; a write changes the counters of an interface
only where it initialises them or records one sample or gap that ends at them;
and no run of writes moves them back. -/
theorem records_once (nowMs : Int) (legacy : LegacyTraffic) (start : TrafficDb)
    (himport : importLegacyTraffic nowMs legacy TrafficDb.empty = .ok start)
    (writes : List TrafficWrite) (db : TrafficDb) (hdb : run trafficStep start writes = db) :
    (∀ j ∈ db.routerInterfaces.rows,
      (db.checkpointFor j.routerId j.id).map (fun c => c.counters) = db.countersOn j.id) ∧
    (∀ (record : TrafficRecord) (c : CounterCheckpointInput) (db' : TrafficDb),
      record.commit c db = .ok (true, db') → ∀ later : List TrafficWrite,
        (record.StoredIn (run trafficStep db' later) →
          record.commit c (run trafficStep db' later) =
            .ok (false, run trafficStep db' later)) ∧
        ∀ (record' : TrafficRecord) (c' : CounterCheckpointInput) (db'' : TrafficDb),
          record'.commit c' (run trafficStep db' later) = .ok (true, db'') →
            c'.interfaceId = c.interfaceId → c.observedAtMs < c'.observedAtMs) ∧
    (∀ (record : TrafficRecord) (c : CounterCheckpointInput), ¬ record.Repeats db c →
      (record.KnownIn db ∨ ∃ current,
        db.checkpointFor c.routerId c.interfaceId = some current ∧
          c.observedAtMs ≤ current.observedAtMs) →
      ∃ e, record.commit c db = .error e ∧ trafficStep db (record.write c) = db) ∧
    (∀ write : TrafficWrite, ∀ j ∈ (trafficStep db write).routerInterfaces.rows,
      CounterStep db write j.id) ∧
    ∀ j ∈ db.routerInterfaces.rows, ∀ k, db.countersOn j.id = some k →
      ∀ later : List TrafficWrite, ∀ i ∈ (run trafficStep db later).routerInterfaces.rows,
        i.id = j.id →
          ∃ k', (run trafficStep db later).countersOn i.id = some k' ∧ k.Leads k' := by
  have hi : db.Intact := by
    rw [← hdb]
    exact trafficRun_intact (importLegacyTraffic_intact TrafficDb.Intact.empty himport) writes
  refine ⟨?_, ?_, ?_, ?_, ?_⟩
  · intro j hj
    apply hi.checkpointFor_counters
    exact ⟨j, hj, rfl, rfl⟩
  · intro record c db' h later
    obtain ⟨hdb', hreached⟩ := TrafficRecord.commit_reaches h hi
    have hlater := trafficRun_intact hdb' later
    have hreachedLater := hreached.run hdb' later
    refine ⟨?_, ?_⟩
    · exact fun hstored => TrafficRecord.commit_again h hlater hreachedLater hstored
    · exact fun record' c' db'' h' hid =>
        TrafficRecord.commit_later h' hlater hreachedLater hid
  · exact fun record c hrepeats hbehind => TrafficRecord.commit_refused hrepeats hbehind
  · exact fun write j hj => (trafficStep_counters hi write).2 j hj
  · intro j hj k hk later i hi' hid
    have hreached := (TrafficDb.Reached.of_countersOn hi hj hk).run hi later
    obtain ⟨k', hk', hleads⟩ := hreached.counters i hi' hid
    rw [← hid] at hk'
    exact ⟨k', hk', hleads⟩

/-- The registration of the interface that plain samples are recorded on. -/
def registerWrites : List TrafficWrite :=
  [.resolveRouter firstCall, .upsertInterface 1 "routeros:*1" "ether1" "wan" none 7]

/-- The first record and its checkpoint. -/
def firstRecord : TrafficRecord := .sample (plainSample 100 200 7 7)

/-- The record after it. -/
def secondWrite : TrafficWrite :=
  .commitSample (plainSample 200 300 5 5) ⟨1, 1, "30", "40", 300, none⟩

/-- The database after the two records. -/
def twoRecords : TrafficDb :=
  run trafficStep TrafficDb.empty
    (registerWrites ++ [firstRecord.write ⟨1, 1, "10", "20", 200, none⟩, secondWrite])

theorem records_once_twoRecords :
    firstRecord.commit ⟨1, 1, "10", "20", 200, none⟩ twoRecords = .ok (false, twoRecords) ∧
      twoRecords.trafficSamples.rows.length = 2 := by
  have hok : (firstRecord.commit ⟨1, 1, "10", "20", 200, none⟩
      (run trafficStep TrafficDb.empty registerWrites)).toOption.isSome = true := by
    decide +kernel
  obtain ⟨⟨b, db'⟩, hfirst⟩ := exists_ok_of_isSome hok
  have hrows : ∃ row ∈ twoRecords.trafficSamples.rows,
      row.toTrafficSampleInput = plainSample 100 200 7 7 := by decide +kernel
  have hnew : (firstRecord.commit ⟨1, 1, "10", "20", 200, none⟩
      (run trafficStep TrafficDb.empty registerWrites)).toOption.map Prod.fst = some true := by
    decide +kernel
  have hstep : trafficStep (run trafficStep TrafficDb.empty registerWrites)
      (firstRecord.write ⟨1, 1, "10", "20", 200, none⟩) = db' := by
    rw [TrafficRecord.trafficStep_write, hfirst]
    rfl
  have htwo : run trafficStep db' [secondWrite] = twoRecords := by
    rw [twoRecords, run_append, ← hstep]
    rfl
  rw [hfirst] at hnew
  obtain rfl : b = true := Option.some.inj hnew
  obtain ⟨_, hretry, _⟩ := records_once 5 ⟨[], []⟩ TrafficDb.empty rfl registerWrites _ rfl
  have hagain := (hretry firstRecord _ db' hfirst [secondWrite]).1
  rw [htwo] at hagain
  exact ⟨hagain hrows, by decide +kernel⟩

/-- A call with a checkpoint that was never committed, and that does not advance,
can succeed: the counters of a checkpoint that was superseded are not compared. -/
theorem records_once_fails :
    ¬ ∀ (record : TrafficRecord) (c : CounterCheckpointInput),
        record.write c ∉ registerWrites ++
          [firstRecord.write ⟨1, 1, "10", "20", 200, none⟩, secondWrite] →
        (∃ current, twoRecords.checkpointFor c.routerId c.interfaceId = some current ∧
          c.observedAtMs ≤ current.observedAtMs) →
        ∃ e, record.commit c twoRecords = .error e := by
  intro h
  obtain ⟨e, he⟩ := h firstRecord ⟨1, 1, "999", "20", 200, none⟩
    (by simp [registerWrites, firstRecord, secondWrite, TrafficRecord.write]) (by decide +kernel)
  have hok : (firstRecord.commit ⟨1, 1, "999", "20", 200, none⟩
      twoRecords).toOption.isSome = true := by decide +kernel
  rw [he] at hok
  cases hok

end RouterView.Db
