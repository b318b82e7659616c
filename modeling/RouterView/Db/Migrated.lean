/-
  Db/Migrated.lean --- the life of a migrated database.

  From the import on, through the adoption by a router and any later writes, the
  contributions of every interface stay valid and disjoint.  The invariant bounds
  them by the interface's checkpoint or, before there is one, by the time of the
  first checkpoint.  A router adopts the imported history when it is first
  resolved, before it has anything of its own.
-/
import RouterView.Db.ImportSpec
import RouterView.Db.RollupReach
import RouterView.Db.RouterIdentity

set_option autoImplicit false

namespace RouterView.Db

open RouterView.Foundation

/-! ## Writes after an import -/

/-- The router of the identifier is not that of the imported history. -/
def TrafficDb.RealRouter (db : TrafficDb) (routerId : Int) : Prop :=
  ∀ r ∈ db.routers.rows, r.id = routerId → r.fallbackTarget ≠ legacyTarget

instance (db : TrafficDb) (routerId : Int) : Decidable (db.RealRouter routerId) :=
  inferInstanceAs (Decidable (∀ r ∈ _, _ → _))

/-- A new sample has 64-bit fields and starts at the checkpoint of its interface or
later. -/
def NewInterval (db : TrafficDb) (sample : TrafficSampleInput) : Prop :=
  IsTimestamp sample.startedAtMs ∧ IsTimestamp sample.endedAtMs ∧
    sample.downloadBytes ≤ i64Max ∧ sample.uploadBytes ≤ i64Max ∧
    (db.checkpointFor sample.routerId sample.interfaceId).any
      (fun c => decide (c.observedAtMs ≤ sample.startedAtMs)) = true

instance (db : TrafficDb) (sample : TrafficSampleInput) : Decidable (NewInterval db sample) :=
  inferInstanceAs (Decidable (_ ∧ _))

/-- A write after the migration: no checkpoint is older than the first one, new samples
belong to real routers, and the rollups have one bucket size. -/
def TrafficWrite.AfterImport (firstCheckpointMs : Int) (db : TrafficDb) : TrafficWrite → Prop
  | .resolveRouter call => call.target ≠ legacyTarget
  | .upsertInterface _ _ _ _ _ _ => True
  | .commitSample sample _ => NewInterval db sample
  | .commitGap _ checkpoint =>
      firstCheckpointMs ≤ checkpoint.observedAtMs ∧ db.RealRouter checkpoint.routerId
  | .initializeCheckpoint checkpoint =>
      firstCheckpointMs ≤ checkpoint.observedAtMs ∧ db.RealRouter checkpoint.routerId
  | .rollup _ bucketSizeMs _ => bucketSizeMs = 60000
  | .prune _ _ => True

instance (firstCheckpointMs : Int) (db : TrafficDb) (write : TrafficWrite) :
    Decidable (write.AfterImport firstCheckpointMs db) := by
  cases write <;> unfold TrafficWrite.AfterImport <;> infer_instance

/-! ## The invariant -/

/-- Up to where the contributions of an interface reach. -/
def TrafficDb.frontier (db : TrafficDb) (firstCheckpointMs routerId interfaceId : Int) : Int :=
  ((db.checkpointFor routerId interfaceId).map (fun c => c.observedAtMs)).getD firstCheckpointMs

/-- The state of a migrated database. -/
structure Migrated (firstCheckpointMs : Int) (db : TrafficDb) : Prop where
  intact : db.Intact
  tidy : db.Tidy 60000
  bytes : db.BytesFit
  spans : ∀ r ∈ db.trafficRollups.rows, r.bucketEndMs - r.bucketStartMs ≤ i64Max
  legacyApart : db.LegacyApart
  alone : ∀ l ∈ db.routers.rows, l.fallbackTarget = legacyTarget →
    (∀ r ∈ db.routers.rows, r = l) ∧ db.counterCheckpoints = []
  apart : ∀ routerId interfaceId, db.RowsApart routerId interfaceId
  ended : ∀ routerId interfaceId, ∀ c ∈ db.contributionsOn routerId interfaceId,
    c.endedAtMs ≤ db.frontier firstCheckpointMs routerId interfaceId
  checkpoints : ∀ c ∈ db.counterCheckpoints, firstCheckpointMs ≤ c.observedAtMs

section

variable {firstCheckpointMs : Int} {db db' : TrafficDb}

theorem contributionsOn_congr (hsamples : db'.trafficSamples = db.trafficSamples)
    (hrollups : db'.trafficRollups = db.trafficRollups) (routerId interfaceId : Int) :
    db'.contributionsOn routerId interfaceId = db.contributionsOn routerId interfaceId := by
  simp only [TrafficDb.contributionsOn, TrafficDb.samplesOn, TrafficDb.rollupsOn, hsamples,
    hrollups]

theorem TrafficDb.RowsApart.congr {routerId interfaceId : Int}
    (h : db.RowsApart routerId interfaceId) (hsamples : db'.trafficSamples = db.trafficSamples)
    (hrollups : db'.trafficRollups = db.trafficRollups) : db'.RowsApart routerId interfaceId :=
  ⟨hsamples ▸ h.samples, hrollups ▸ h.rollups, hsamples ▸ hrollups ▸ h.across⟩

theorem TrafficDb.frontier_congr (h : db'.counterCheckpoints = db.counterCheckpoints)
    (routerId interfaceId : Int) :
    db'.frontier firstCheckpointMs routerId interfaceId =
      db.frontier firstCheckpointMs routerId interfaceId := by
  rw [TrafficDb.frontier, TrafficDb.checkpointFor, h]
  rfl

/-- A database with the same samples, rollups and checkpoints, and routers that still
have the imported history to themselves. -/
theorem Migrated.congr (h : Migrated firstCheckpointMs db) (hintact : db'.Intact)
    (hapart : db'.LegacyApart)
    (halone : ∀ l ∈ db'.routers.rows, l.fallbackTarget = legacyTarget →
      (∀ r ∈ db'.routers.rows, r = l) ∧ db'.counterCheckpoints = [])
    (hsamples : db'.trafficSamples = db.trafficSamples)
    (hrollups : db'.trafficRollups = db.trafficRollups)
    (hcheckpoints : db'.counterCheckpoints = db.counterCheckpoints) :
    Migrated firstCheckpointMs db' where
  intact := hintact
  tidy := h.tidy.congr hsamples hrollups
  bytes := h.bytes.congr hsamples hrollups
  spans := hrollups ▸ h.spans
  legacyApart := hapart
  alone := halone
  apart := fun r i => (h.apart r i).congr hsamples hrollups
  ended := by
    intro r i c hc
    rw [contributionsOn_congr hsamples hrollups] at hc
    rw [TrafficDb.frontier_congr hcheckpoints]
    exact h.ended r i c hc
  checkpoints := hcheckpoints ▸ h.checkpoints

/-! ## Checkpoints -/

/-- A new checkpoint moves the frontier of its interface forward. -/
theorem TrafficDb.frontier_putCheckpoint {c : CounterCheckpoint}
    (hfirst : firstCheckpointMs ≤ c.observedAtMs)
    (hadvances : ∀ current, db.checkpointFor c.routerId c.interfaceId = some current →
      current.observedAtMs ≤ c.observedAtMs) (routerId interfaceId : Int) :
    db.frontier firstCheckpointMs routerId interfaceId ≤
      (db.putCheckpoint c).frontier firstCheckpointMs routerId interfaceId := by
  by_cases hkey : c.routerId = routerId ∧ c.interfaceId = interfaceId
  · obtain ⟨rfl, rfl⟩ := hkey
    simp only [TrafficDb.frontier, TrafficDb.checkpointFor_putCheckpoint_self, Option.map_some,
      Option.getD_some]
    cases hcurrent : db.checkpointFor c.routerId c.interfaceId with
    | none => exact hfirst
    | some current => exact hadvances current hcurrent
  · rw [TrafficDb.frontier, TrafficDb.frontier, TrafficDb.checkpointFor_putCheckpoint_ne db c hkey]

/-- While the imported history has its own router, no checkpoint of another one can be
stored. -/
theorem Migrated.realRouter (h : Migrated firstCheckpointMs db) (hi : db'.Intact)
    (hrouters : db'.routers = db.routers) {c : CounterCheckpoint}
    (hc : c ∈ db'.counterCheckpoints) (hreal : db.RealRouter c.routerId) :
    ∀ l ∈ db.routers.rows, l.fallbackTarget ≠ legacyTarget := by
  intro l hl hlegacy
  obtain ⟨i, hi', _, hrouter⟩ := hi.records.checkpoints c hc
  obtain ⟨r, hr, hid⟩ := hi.registry.parents i hi'
  rw [hrouters] at hr
  have hrl := (h.alone l hl hlegacy).1 r hr
  exact hreal r hr (hid.trans hrouter) (hrl ▸ hlegacy)

theorem TrafficDb.mem_putCheckpoint {c x : CounterCheckpoint}
    (hx : x ∈ (db.putCheckpoint c).counterCheckpoints) : x = c ∨ x ∈ db.counterCheckpoints := by
  rcases List.mem_cons.mp hx with rfl | hx
  · exact Or.inl rfl
  · exact Or.inr (List.mem_of_mem_filter hx)

theorem TrafficDb.self_mem_putCheckpoint (db : TrafficDb) (c : CounterCheckpoint) :
    c ∈ (db.putCheckpoint c).counterCheckpoints := List.mem_cons_self

/-- A write that stores a later checkpoint and no sample. -/
theorem Migrated.checkpointed (h : Migrated firstCheckpointMs db) (hi : db'.Intact)
    (hrouters : db'.routers = db.routers) (hsamples : db'.trafficSamples = db.trafficSamples)
    (hrollups : db'.trafficRollups = db.trafficRollups) {c : CounterCheckpoint}
    (hcheckpoints : db'.counterCheckpoints = (db.putCheckpoint c).counterCheckpoints)
    (hadvances : ∀ current, db.checkpointFor c.routerId c.interfaceId = some current →
      current.observedAtMs ≤ c.observedAtMs)
    (hfirst : firstCheckpointMs ≤ c.observedAtMs) (hreal : db.RealRouter c.routerId) :
    Migrated firstCheckpointMs db' where
  intact := hi
  tidy := h.tidy.congr hsamples hrollups
  bytes := h.bytes.congr hsamples hrollups
  spans := hrollups ▸ h.spans
  legacyApart := h.legacyApart.congr hrouters
  alone := by
    intro l hl hlegacy
    rw [hrouters] at hl
    have hc : c ∈ db'.counterCheckpoints := hcheckpoints ▸ db.self_mem_putCheckpoint c
    exact absurd hlegacy (h.realRouter hi hrouters hc hreal l hl)
  apart := fun r i => (h.apart r i).congr hsamples hrollups
  ended := by
    intro r i x hx
    rw [contributionsOn_congr hsamples hrollups] at hx
    rw [TrafficDb.frontier_congr hcheckpoints]
    exact le_trans (h.ended r i x hx) (db.frontier_putCheckpoint hfirst hadvances r i)
  checkpoints := by
    intro x hx
    rw [hcheckpoints] at hx
    rcases TrafficDb.mem_putCheckpoint hx with rfl | hx
    · exact hfirst
    · exact h.checkpoints x hx

/-! ## Samples -/

/-- Everything that an interface has ends before a new interval of it. -/
theorem Migrated.before_interval (h : Migrated firstCheckpointMs db) {s : TrafficSampleInput}
    (hnew : NewInterval db s) {c : TrafficContribution}
    (hc : c ∈ db.contributionsOn s.routerId s.interfaceId) : c.endedAtMs ≤ s.startedAtMs := by
  obtain ⟨_, _, _, _, hcheckpoint⟩ := hnew
  have hended := h.ended s.routerId s.interfaceId c hc
  cases hcurrent : db.checkpointFor s.routerId s.interfaceId with
  | none =>
      rw [hcurrent] at hcheckpoint
      cases hcheckpoint
  | some current =>
      rw [hcurrent, Option.any_some, decide_eq_true_eq] at hcheckpoint
      simp only [TrafficDb.frontier, hcurrent, Option.map_some, Option.getD_some] at hended
      omega

/-- Rows of an interface are apart from a new sample that starts after all of them. -/
theorem TrafficDb.RowsApart.insertSample {routerId interfaceId : Int}
    (h : db.RowsApart routerId interfaceId) {s : TrafficSampleInput}
    (hbefore : s.on routerId interfaceId = true →
      ∀ c ∈ db.contributionsOn routerId interfaceId, c.endedAtMs ≤ s.startedAtMs) :
    (db.insertSample s).RowsApart routerId interfaceId := by
  have hsample : ∀ x ∈ db.trafficSamples.rows, x.on routerId interfaceId = true →
      s.on routerId interfaceId = true → x.span.Before s.span := by
    intro x hx hon hson
    exact hbefore hson (.ofSample x) (mem_contributionsOn.mpr (Or.inl ⟨x, hx, hon, rfl⟩))
  have hrollup : ∀ x ∈ db.trafficRollups.rows, x.on routerId interfaceId = true →
      s.on routerId interfaceId = true → x.span.Before s.span := by
    intro x hx hon hson
    exact hbefore hson (.ofRollup x) (mem_contributionsOn.mpr (Or.inr ⟨x, hx, hon, rfl⟩))
  constructor
  · intro a ha b hb haon hbon hne
    rcases List.mem_append.mp ha with ha | ha <;> rcases List.mem_append.mp hb with hb | hb
    · exact h.samples a ha b hb haon hbon hne
    · rw [List.mem_singleton.mp hb] at hbon ⊢
      exact Or.inl (hsample a ha haon hbon)
    · rw [List.mem_singleton.mp ha] at haon ⊢
      exact Or.inr (hsample b hb hbon haon)
    · rw [List.mem_singleton.mp ha, List.mem_singleton.mp hb] at hne
      exact absurd rfl hne
  · exact h.rollups
  · intro a ha x hx haon hxon
    rcases List.mem_append.mp ha with ha | ha
    · exact h.across a ha x hx haon hxon
    · rw [List.mem_singleton.mp ha] at haon ⊢
      exact Or.inr (hrollup x hx hxon haon)

theorem Migrated.commitSample (h : Migrated firstCheckpointMs db) (hi : db'.Intact)
    {s : TrafficSampleInput} {c : CounterCheckpoint} (hcommit : NewSample db s c db')
    (hnew : NewInterval db s) : Migrated firstCheckpointMs db' := by
  obtain ⟨hstarted, hended, hdownload, hupload, hcheckpoint⟩ := hnew
  have hvalid := hcommit.valid
  have hsound : ∀ id, TrafficSample.Sound { s with id := id } :=
    fun id => ⟨hvalid.increasing, hvalid.duration, hvalid.downloadBytes, hvalid.uploadBytes⟩
  have hresult := hcommit.result
  have hadvances : ∀ current, db.checkpointFor c.routerId c.interfaceId = some current →
      current.observedAtMs ≤ c.observedAtMs :=
    fun current hcurrent => le_of_lt (hcommit.advances current hcurrent)
  -- the checkpoint that the sample continues is at or after the first one
  have hfirst : firstCheckpointMs ≤ c.observedAtMs := by
    cases hcurrent : db.checkpointFor s.routerId s.interfaceId with
    | none =>
        rw [hcurrent] at hcheckpoint
        cases hcheckpoint
    | some current =>
        have hle := h.checkpoints current (List.mem_of_find?_eq_some hcurrent)
        rw [hcommit.routerId, hcommit.interfaceId] at hcurrent
        exact le_trans hle (hadvances current hcurrent)
  have hstored : db.counterCheckpoints ≠ [] := by
    intro hnone
    rw [TrafficDb.checkpointFor, hnone] at hcheckpoint
    cases hcheckpoint
  constructor
  · exact hi
  · rw [hresult]
    exact (h.tidy.insertSample hsound hstarted hended).congr rfl rfl
  · rw [hresult]
    refine ⟨?_, h.bytes.rollups⟩
    intro x hx
    rcases List.mem_append.mp hx with hx | hx
    · exact h.bytes.samples x hx
    · rw [List.mem_singleton.mp hx]
      exact ⟨hdownload, hupload⟩
  · rw [hresult]
    exact h.spans
  · rw [hresult]
    exact h.legacyApart.congr rfl
  · intro l hl hlegacy
    rw [hresult] at hl
    exact absurd (h.alone l hl hlegacy).2 hstored
  · intro r i
    rw [hresult]
    refine ((h.apart r i).insertSample ?_).congr rfl rfl
    intro hon x hx
    rw [TrafficSampleInput.on, decide_eq_true_eq] at hon
    obtain ⟨rfl, rfl⟩ := hon
    exact h.before_interval ⟨hstarted, hended, hdownload, hupload, hcheckpoint⟩ hx
  · intro r i x hx
    have hmono := db.frontier_putCheckpoint hfirst hadvances r i
    have hfrontier : db'.frontier firstCheckpointMs r i =
        (db.putCheckpoint c).frontier firstCheckpointMs r i := by
      rw [hresult]
      rfl
    rw [hfrontier]
    rw [hresult] at hx
    rcases mem_contributionsOn.mp hx with ⟨a, ha, hon, rfl⟩ | ⟨a, ha, hon, rfl⟩
    · rcases List.mem_append.mp ha with ha | ha
      · exact le_trans (h.ended r i _ (mem_contributionsOn.mpr (Or.inl ⟨a, ha, hon, rfl⟩))) hmono
      · rw [List.mem_singleton.mp ha] at hon ⊢
        rw [TrafficSampleInput.on, decide_eq_true_eq] at hon
        have hkey : c.routerId = r ∧ c.interfaceId = i :=
          ⟨hcommit.routerId.symm.trans hon.1, hcommit.interfaceId.symm.trans hon.2⟩
        rw [← hkey.1, ← hkey.2]
        simp only [TrafficDb.frontier, TrafficDb.checkpointFor_putCheckpoint_self,
          Option.map_some, Option.getD_some, TrafficContribution.ofSample]
        exact le_of_eq hcommit.endedAtMs
    · exact le_trans (h.ended r i _ (mem_contributionsOn.mpr (Or.inr ⟨a, ha, hon, rfl⟩))) hmono
  · intro x hx
    rw [hresult] at hx
    rcases TrafficDb.mem_putCheckpoint hx with rfl | hx
    · exact hfirst
    · exact h.checkpoints x hx

/-! ## Rollups and prunings -/

theorem Migrated.rollup (h : Migrated firstCheckpointMs db) (hi : db'.Intact) {beforeMs : Int}
    {batchSize n : Nat}
    (hok : rollupExactSamplesBatch beforeMs 60000 batchSize db = .ok (n, db')) :
    Migrated firstCheckpointMs db' := by
  have hsize : IsI64 60000 := by decide
  obtain ⟨consumed, buckets, hrolled⟩ := rollupExactSamplesBatch_ok h.tidy hsize hok
  obtain ⟨hrouters, _, hcheckpoints⟩ := hrolled.others
  constructor
  · exact hi
  · exact hrolled.tidy h.tidy
  · exact hrolled.bytesFit h.bytes
  · exact hrolled.span_le h.tidy hsize h.spans
  · exact h.legacyApart.congr hrouters
  · rw [hrouters, hcheckpoints]
    exact h.alone
  · exact fun r i => hrolled.rowsApart h.tidy (h.apart r i)
  · intro r i
    rw [TrafficDb.frontier_congr hcheckpoints]
    exact hrolled.ended_le (h.ended r i)
  · rw [hcheckpoints]
    exact h.checkpoints

/-- Fewer rows are as tidy. -/
theorem Pruned.tidy {bucketSizeMs : Int} (h : Pruned db db') (htidy : db.Tidy bucketSizeMs) :
    db'.Tidy bucketSizeMs := by
  obtain ⟨_, hsamples⟩ := h.samples
  obtain ⟨_, hrollups⟩ := h.rollups
  constructor
  · refine ⟨?_, ?_⟩
    · rw [hsamples]
      exact htidy.keyed.samples.deleteWhere _
    · rw [hrollups]
      exact htidy.keyed.rollups.deleteWhere _
  · exact fun a ha b hb => htidy.unique a (h.rollup_mem ha) b (h.rollup_mem hb)
  · exact fun s hs => htidy.samples s (h.sample_mem hs)
  · exact fun s hs => htidy.started s (h.sample_mem hs)
  · exact fun s hs => htidy.ended s (h.sample_mem hs)
  · exact fun r hr => htidy.rollups r (h.rollup_mem hr)
  · exact fun r hr => htidy.shaped r (h.rollup_mem hr)

theorem Pruned.bytesFit (h : Pruned db db') (hbytes : db.BytesFit) : db'.BytesFit where
  samples := fun s hs => hbytes.samples s (h.sample_mem hs)
  rollups := fun r hr => hbytes.rollups r (h.rollup_mem hr)

/-- Fewer rows are as sound and as disjoint. -/
theorem Migrated.prune (h : Migrated firstCheckpointMs db) (hi : db'.Intact)
    (hpruned : Pruned db db') : Migrated firstCheckpointMs db' := by
  have hsample : ∀ s ∈ db'.trafficSamples.rows, s ∈ db.trafficSamples.rows :=
    fun _ hs => hpruned.sample_mem hs
  have hrollup : ∀ r ∈ db'.trafficRollups.rows, r ∈ db.trafficRollups.rows :=
    fun _ hr => hpruned.rollup_mem hr
  have hrouters : db'.routers = db.routers := by rw [hpruned.frame]
  have hcheckpoints : db'.counterCheckpoints = db.counterCheckpoints := by rw [hpruned.frame]
  constructor
  · exact hi
  · exact hpruned.tidy h.tidy
  · exact hpruned.bytesFit h.bytes
  · exact fun r hr => h.spans r (hrollup r hr)
  · exact h.legacyApart.congr hrouters
  · rw [hrouters, hcheckpoints]
    exact h.alone
  · intro r i
    exact ⟨fun a ha b hb => (h.apart r i).samples a (hsample a ha) b (hsample b hb),
      fun a ha b hb => (h.apart r i).rollups a (hrollup a ha) b (hrollup b hb),
      fun a ha b hb => (h.apart r i).across a (hsample a ha) b (hrollup b hb)⟩
  · intro r i c hc
    rw [TrafficDb.frontier_congr hcheckpoints]
    apply h.ended r i c
    rcases mem_contributionsOn.mp hc with ⟨a, ha, hon, rfl⟩ | ⟨a, ha, hon, rfl⟩
    · exact mem_contributionsOn.mpr (Or.inl ⟨a, hsample a ha, hon, rfl⟩)
    · exact mem_contributionsOn.mpr (Or.inr ⟨a, hrollup a ha, hon, rfl⟩)
  · rw [hcheckpoints]
    exact h.checkpoints

/-! ## The adoption -/

/-- All rows go to one router, and the interfaces to different ones of it. -/
structure Relabelled (routerId : Int) (place : Int → Int) (db db' : TrafficDb) : Prop where
  samples : db'.trafficSamples.rows = db.trafficSamples.rows.map
    (fun s => { s with routerId := routerId, interfaceId := place s.interfaceId })
  rollups : db'.trafficRollups.rows = db.trafficRollups.rows.map
    (fun r => { r with routerId := routerId, interfaceId := place r.interfaceId })
  rollupSequence : db'.trafficRollups.sequence = db.trafficRollups.sequence
  one : ∀ {r i r' i'}, db.Owns r i → db.Owns r' i' → place i = place i' → r = r' ∧ i = i'

namespace Relabelled

variable {routerId : Int} {place : Int → Int}

theorem sample_origin (h : Relabelled routerId place db db') {s : TrafficSample}
    (hs : s ∈ db'.trafficSamples.rows) : ∃ x ∈ db.trafficSamples.rows,
      s = { x with routerId := routerId, interfaceId := place x.interfaceId } := by
  rw [h.samples] at hs
  obtain ⟨x, hx, heq⟩ := List.mem_map.mp hs
  exact ⟨x, hx, heq.symm⟩

theorem rollup_origin (h : Relabelled routerId place db db') {r : TrafficRollup}
    (hr : r ∈ db'.trafficRollups.rows) : ∃ x ∈ db.trafficRollups.rows,
      r = { x with routerId := routerId, interfaceId := place x.interfaceId } := by
  rw [h.rollups] at hr
  obtain ⟨x, hx, heq⟩ := List.mem_map.mp hr
  exact ⟨x, hx, heq.symm⟩

/-- Two rows that meet on an interface met on one before. -/
theorem together (h : Relabelled routerId place db db') {r i r' i' q j : Int}
    (howns : db.Owns r i) (howns' : db.Owns r' i')
    (hon : routerId = q ∧ place i = j) (hon' : routerId = q ∧ place i' = j) : r = r' ∧ i = i' :=
  h.one howns howns' (hon.2.trans hon'.2.symm)

theorem rowsApart (h : Relabelled routerId place db db') (hrecords : db.Records)
    (hapart : ∀ r i, db.RowsApart r i) (q j : Int) : db'.RowsApart q j := by
  constructor
  · intro a ha b hb haon hbon hne
    obtain ⟨x, hx, rfl⟩ := h.sample_origin ha
    obtain ⟨y, hy, rfl⟩ := h.sample_origin hb
    rw [TrafficSampleInput.on, decide_eq_true_eq] at haon hbon
    obtain ⟨hr, hi⟩ := h.together (hrecords.samples x hx) (hrecords.samples y hy) haon hbon
    exact (hapart x.routerId x.interfaceId).samples x hx y hy
      (by simp [TrafficSampleInput.on]) (by simp [TrafficSampleInput.on, hr, hi]) hne
  · intro a ha b hb haon hbon hne
    obtain ⟨x, hx, rfl⟩ := h.rollup_origin ha
    obtain ⟨y, hy, rfl⟩ := h.rollup_origin hb
    rw [TrafficRollup.on, decide_eq_true_eq] at haon hbon
    obtain ⟨hr, hi⟩ := h.together (hrecords.rollups x hx) (hrecords.rollups y hy) haon hbon
    exact (hapart x.routerId x.interfaceId).rollups x hx y hy
      (by simp [TrafficRollup.on]) (by simp [TrafficRollup.on, hr, hi]) hne
  · intro a ha b hb haon hbon
    obtain ⟨x, hx, rfl⟩ := h.sample_origin ha
    obtain ⟨y, hy, rfl⟩ := h.rollup_origin hb
    rw [TrafficSampleInput.on, decide_eq_true_eq] at haon
    rw [TrafficRollup.on, decide_eq_true_eq] at hbon
    obtain ⟨hr, hi⟩ := h.together (hrecords.samples x hx) (hrecords.rollups y hy) haon hbon
    exact (hapart x.routerId x.interfaceId).across x hx y hy
      (by simp [TrafficSampleInput.on]) (by simp [TrafficRollup.on, hr, hi])

theorem tidy (h : Relabelled routerId place db db') (hrecords : db.Records)
    (hsampleIds : db'.trafficSamples.Keyed (fun s => s.id)) (htidy : db.Tidy 60000) :
    db'.Tidy 60000 := by
  have hids : db'.trafficRollups.rows.map (fun r => r.id) =
      db.trafficRollups.rows.map (fun r => r.id) := by
    rw [h.rollups, List.map_map]
    rfl
  constructor
  · refine ⟨hsampleIds, ⟨?_, ?_⟩⟩
    · rw [hids]
      exact htidy.keyed.rollups.nodup
    · intro r hr
      obtain ⟨x, hx, rfl⟩ := h.rollup_origin hr
      rw [h.rollupSequence]
      exact htidy.keyed.rollups.issued x hx
  · intro a ha b hb hconflict
    obtain ⟨x, hx, rfl⟩ := h.rollup_origin ha
    obtain ⟨y, hy, rfl⟩ := h.rollup_origin hb
    rw [TrafficRollup.conflicts, decide_eq_true_eq] at hconflict
    obtain ⟨_, hplace, hsize, hstart, hsource⟩ := hconflict
    obtain ⟨hr, hi⟩ := h.one (hrecords.rollups y hy) (hrecords.rollups x hx) hplace
    apply htidy.unique x hx y hy
    rw [TrafficRollup.conflicts, decide_eq_true_eq]
    exact ⟨hr, hi, hsize, hstart, hsource⟩
  · intro s hs
    obtain ⟨x, hx, rfl⟩ := h.sample_origin hs
    have hsound := htidy.samples x hx
    exact ⟨hsound.increasing, hsound.duration, hsound.downloadBytes, hsound.uploadBytes⟩
  · intro s hs
    obtain ⟨x, hx, rfl⟩ := h.sample_origin hs
    exact htidy.started x hx
  · intro s hs
    obtain ⟨x, hx, rfl⟩ := h.sample_origin hs
    exact htidy.ended x hx
  · intro r hr
    obtain ⟨x, hx, rfl⟩ := h.rollup_origin hr
    have hsound := htidy.rollups x hx
    exact { hsound with }
  · intro r hr
    obtain ⟨x, hx, rfl⟩ := h.rollup_origin hr
    exact htidy.shaped x hx

theorem bytesFit (h : Relabelled routerId place db db') (hbytes : db.BytesFit) : db'.BytesFit := by
  constructor
  · intro s hs
    obtain ⟨x, hx, rfl⟩ := h.sample_origin hs
    exact hbytes.samples x hx
  · intro r hr
    obtain ⟨x, hx, rfl⟩ := h.rollup_origin hr
    exact hbytes.rollups x hx

theorem contribution_origin (h : Relabelled routerId place db db') {q j : Int}
    {c : TrafficContribution} (hc : c ∈ db'.contributionsOn q j) :
    ∃ r i, c ∈ db.contributionsOn r i := by
  rcases mem_contributionsOn.mp hc with ⟨a, ha, _, rfl⟩ | ⟨a, ha, _, rfl⟩
  · obtain ⟨x, hx, rfl⟩ := h.sample_origin ha
    exact ⟨x.routerId, x.interfaceId, mem_contributionsOn.mpr
      (Or.inl ⟨x, hx, by simp [TrafficSampleInput.on], rfl⟩)⟩
  · obtain ⟨x, hx, rfl⟩ := h.rollup_origin ha
    exact ⟨x.routerId, x.interfaceId, mem_contributionsOn.mpr
      (Or.inr ⟨x, hx, by simp [TrafficRollup.on], rfl⟩)⟩

end Relabelled

/-- The adoption of an import that has the database to itself. -/
theorem Migrated.relabelled (h : Migrated firstCheckpointMs db) (hi : db'.Intact)
    {l : RouterRecord} (hl : l ∈ db.routers.rows) (hlegacy : l.fallbackTarget = legacyTarget)
    {routerId : Int} {place : Int → Int}
    (hadopted : HistoryAdopted ⟨routerId, l.id, fun _ => true, place⟩ db db')
    (hsequence : db'.trafficRollups.sequence = db.trafficRollups.sequence) :
    Relabelled routerId place db db' := by
  have hall : ∀ {r i}, db.Owns r i → r = l.id := by
    rintro r i ⟨x, hx, _, rfl⟩
    obtain ⟨y, hy, hid⟩ := h.intact.registry.parents x hx
    rw [← hid, (h.alone l hl hlegacy).1 y hy]
  constructor
  · rw [hadopted.samples]
    apply List.map_congr_left
    intro s hs
    simp [Relocation.sample, hall (h.intact.records.samples s hs)]
  · rw [hadopted.rollups]
    apply List.map_congr_left
    intro r hr
    simp [Relocation.rollup, hall (h.intact.records.rollups r hr)]
  · exact hsequence
  · intro r i r' i' howns howns' hplace
    have hr := hall howns
    have hr' := hall howns'
    obtain ⟨x, hx, rfl, hxr⟩ := howns
    obtain ⟨y, hy, rfl, hyr⟩ := howns'
    obtain ⟨j, hj, hjid, _, hjkey⟩ := hadopted.placed x hx (hxr.trans hr)
    obtain ⟨k, hk, hkid, _, hkkey⟩ := hadopted.placed y hy (hyr.trans hr')
    -- the interfaces that they become have different keys unless they are one
    have hjk := hi.registry.interfaces.identifiers j hj k hk
      (hjid.trans (hplace.trans hkid.symm))
    have hkeys : x.interfaceKey = y.interfaceKey := by
      rw [← hjkey, ← hkkey, hjk]
    have hxy := h.intact.registry.interfaces.keys x hx y hy
      (hxr.trans (hr.trans (hr'.symm.trans hyr.symm))) hkeys
    exact ⟨hr.trans hr'.symm, by rw [hxy]⟩

/-- A resolution leaves no router of the imported history. -/
theorem resolveRouter_noLegacy (h : Migrated firstCheckpointMs db) {call : RouterCall}
    {record : RouterRecord} (hcall : call.target ≠ legacyTarget)
    (hresolve : resolveRouter call db = .ok (record, db')) :
    ∀ r ∈ db'.routers.rows, r.fallbackTarget ≠ legacyTarget := by
  intro x hx hlegacy
  obtain ⟨mid, hselect, hadopt⟩ := resolveRouter_ok hresolve
  obtain ⟨_, hkeeps, _⟩ :=
    adoptLegacyHistory_ok (hselect.intact h.intact) hselect.stored hadopt
  obtain ⟨y, hy, hid, _, htarget⟩ := hkeeps.routers x hx
  obtain ⟨hydb, _⟩ := hselect.legacy h.intact hcall hy (htarget.symm.trans hlegacy)
  obtain ⟨place, hadopted⟩ := resolveRouter_adopts h.intact h.legacyApart hcall hresolve hydb
    (htarget.symm.trans hlegacy)
  exact hadopted.routerGone x hx hid

theorem Migrated.resolve (h : Migrated firstCheckpointMs db) (hi : db'.Intact)
    {call : RouterCall} {record : RouterRecord} (hcall : call.target ≠ legacyTarget)
    (hresolve : resolveRouter call db = .ok (record, db')) : Migrated firstCheckpointMs db' := by
  have hapart := (resolveRouter_keeps h.intact h.legacyApart hcall hresolve).1
  have hgone := resolveRouter_noLegacy h hcall hresolve
  have halone : ∀ l ∈ db'.routers.rows, l.fallbackTarget = legacyTarget →
      (∀ r ∈ db'.routers.rows, r = l) ∧ db'.counterCheckpoints = [] :=
    fun l hl hlegacy => absurd hlegacy (hgone l hl)
  obtain ⟨mid, hselect, hadopt⟩ := resolveRouter_ok hresolve
  obtain ⟨_, hkeeps, _⟩ :=
    adoptLegacyHistory_ok (hselect.intact h.intact) hselect.stored hadopt
  have hframe := hselect.frame
  by_cases hlegacy : ∃ l ∈ db.routers.rows, l.fallbackTarget = legacyTarget
  · obtain ⟨l, hl, hlegacy⟩ := hlegacy
    obtain ⟨place, hadopted⟩ :=
      resolveRouter_adopts h.intact h.legacyApart hcall hresolve hl hlegacy
    have hsequence : db'.trafficRollups.sequence = db.trafficRollups.sequence := by
      rw [hkeeps.rollupSequence, hframe]
    have hrelabelled := h.relabelled hi hl hlegacy hadopted hsequence
    have hnone : db.counterCheckpoints = [] := (h.alone l hl hlegacy).2
    -- a checkpoint afterwards would be one of an interface that had none
    have hnone' : db'.counterCheckpoints = [] := by
      rw [List.eq_nil_iff_forall_not_mem]
      intro c hc
      obtain ⟨j, hj, hid, _⟩ := hi.records.checkpoints c hc
      have hcounters := hkeeps.counters j hj
      rw [hframe, TrafficDb.countersOn, TrafficDb.countersOn, hnone, List.find?_nil,
        Option.map_none, Option.map_eq_none_iff] at hcounters
      have hmiss := List.find?_eq_none.mp hcounters c hc
      rw [decide_eq_true_eq] at hmiss
      exact hmiss hid.symm
    have hfrontier : ∀ (d : TrafficDb), d.counterCheckpoints = [] → ∀ r i,
        d.frontier firstCheckpointMs r i = firstCheckpointMs := by
      intro d hd r i
      rw [TrafficDb.frontier, TrafficDb.checkpointFor, hd]
      rfl
    refine ⟨hi, hrelabelled.tidy h.intact.records hi.records.sampleIds h.tidy,
      hrelabelled.bytesFit h.bytes, ?_, hapart, halone,
      hrelabelled.rowsApart h.intact.records h.apart, ?_, ?_⟩
    · intro r hr
      obtain ⟨x, hx, rfl⟩ := hrelabelled.rollup_origin hr
      exact h.spans x hx
    · intro q j c hc
      obtain ⟨r, i, hc⟩ := hrelabelled.contribution_origin hc
      have hended := h.ended r i c hc
      rw [hfrontier db hnone] at hended
      rw [hfrontier db' hnone']
      exact hended
    · rw [hnone']
      exact fun c hc => absurd hc List.not_mem_nil
  · have hplain : db.Plain := fun r hr htarget => hlegacy ⟨r, hr, htarget⟩
    have hframe := (resolveRouter_plain hcall hplain hresolve).1.frame
    exact h.congr hi hapart halone (by rw [hframe]) (by rw [hframe]) (by rw [hframe])

/-! ## Runs -/

theorem Migrated.step (h : Migrated firstCheckpointMs db) {write : TrafficWrite}
    (hafter : write.AfterImport firstCheckpointMs db) :
    Migrated firstCheckpointMs (trafficStep db write) := by
  have hi := trafficStep_intact h.intact write
  have hcommitted : ∀ {α : Type} {result : DatabaseResult (α × TrafficDb)},
      (committed result db).Intact →
      (∀ a db', result = .ok (a, db') → db'.Intact → Migrated firstCheckpointMs db') →
      Migrated firstCheckpointMs (committed result db) := by
    intro α result hintact hok
    cases hresult : result with
    | error e => exact h
    | ok r =>
        rw [hresult] at hintact
        exact hok r.1 r.2 hresult hintact
  cases write with
  | resolveRouter call =>
      exact hcommitted hi (fun record db' hok hintact => h.resolve hintact hafter hok)
  | upsertInterface routerId interfaceKey name kind hardwareId observedAtMs =>
      refine hcommitted hi ?_
      intro record db' hok hintact
      have hsame := (upsertRouterInterface_ok hok).sameTraffic
      refine h.congr hintact (h.legacyApart.congr hsame.routers) ?_ hsame.samples hsame.rollups
        hsame.checkpoints
      rw [hsame.routers, hsame.checkpoints]
      exact h.alone
  | commitSample sample checkpoint =>
      refine hcommitted hi ?_
      intro b db' hok hintact
      rcases commitSampleAndCheckpoint_cases hok with ⟨_, hnew⟩ | ⟨_, _, hsame⟩
      · exact h.commitSample hintact hnew hafter
      · exact hsame ▸ h
  | commitGap gap checkpoint =>
      refine hcommitted hi ?_
      intro b db' hok hintact
      rcases commitGapAndCheckpoint_cases hok with ⟨_, hnew⟩ | ⟨_, _, hsame⟩
      · have hresult := hnew.result
        subst hresult
        exact h.checkpointed hintact rfl rfl rfl rfl
          (fun current hcurrent => le_of_lt (hnew.advances current hcurrent)) hafter.1 hafter.2
      · exact hsame ▸ h
  | initializeCheckpoint checkpoint =>
      refine hcommitted hi ?_
      intro b db' hok hintact
      rcases initializeCheckpointIfAbsent_cases hok with ⟨_, hnone, hput⟩ | ⟨_, _, hsame⟩
      · subst hput
        refine h.checkpointed hintact rfl rfl rfl rfl ?_ hafter.1 hafter.2
        intro current hcurrent
        rw [hnone] at hcurrent
        cases hcurrent
      · exact hsame ▸ h
  | rollup beforeMs bucketSizeMs batchSize =>
      obtain rfl : bucketSizeMs = 60000 := hafter
      exact hcommitted hi (fun n db' hok hintact => h.rollup hintact hok)
  | prune beforeMs batchSize =>
      exact hcommitted hi
        (fun n db' hok hintact => h.prune hintact (pruneExactHistoryBatch_ok hok))

end

end RouterView.Db
