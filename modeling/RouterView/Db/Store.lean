/-
  Db/Store.lean --- the store over whole runs.

  A run of the store starts from an import of the legacy tables and takes any
  sequence of registrations, commits and rollups.  Every state of a run is
  tidy, and rollups conserve what an interface has, whatever their cutoffs and
  batch sizes.

  Scope: registrations, commits and rollups with any arguments.  Retention, the adoption by
  a router and the resolution of routers are steps of `Db/PruneSpec.lean`,
  `Db/Migrated.lean` and `Db/TrafficRun.lean`.
-/
import RouterView.Foundation.Run
import RouterView.Db.Interfaces
import RouterView.Db.LegacyImport
import RouterView.Db.RollupDisjoint

set_option autoImplicit false

namespace RouterView.Db

open RouterView.Foundation

/-! ## Runs -/

/-- A call that writes to the store. -/
inductive StoreEvent where
  | insertRouter (internalUuid : String) (hardwareIdentity : Option String)
      (fallbackTarget identitySource : String) (observedAtMs : Int)
  | upsertInterface (routerId : Int) (interfaceKey name kind : String)
      (hardwareId : Option String) (observedAtMs : Int)
  | commitSample (sample : TrafficSampleInput) (checkpoint : CounterCheckpointInput)
  | commitGap (gap : TrafficGapInput) (checkpoint : CounterCheckpointInput)
  | initializeCheckpoint (checkpoint : CounterCheckpointInput)
  | rollup (beforeMs : Int) (batchSize : Nat)

/-- The database that a transaction leaves: unchanged when it failed. -/
def committed {α : Type} (result : DatabaseResult (α × TrafficDb)) (db : TrafficDb) : TrafficDb :=
  match result with
  | .ok (_, db') => db'
  | .error _ => db

/-- One call; the rollups share one bucket size. -/
def storeStep (bucketSizeMs : Int) (db : TrafficDb) : StoreEvent → TrafficDb
  | .insertRouter internalUuid hardwareIdentity fallbackTarget identitySource observedAtMs =>
      insertRouter internalUuid hardwareIdentity fallbackTarget identitySource observedAtMs db
  | .upsertInterface routerId interfaceKey name kind hardwareId observedAtMs =>
      committed (upsertRouterInterface routerId interfaceKey name kind hardwareId observedAtMs db)
        db
  | .commitSample sample checkpoint =>
      committed (commitSampleAndCheckpoint sample checkpoint db) db
  | .commitGap gap checkpoint => committed (commitGapAndCheckpoint gap checkpoint db) db
  | .initializeCheckpoint checkpoint =>
      committed (initializeCheckpointIfAbsent checkpoint db) db
  | .rollup beforeMs batchSize =>
      committed (rollupExactSamplesBatch beforeMs bucketSizeMs batchSize db) db

/-- The samples carry timestamps. -/
def StoreEvent.Timely : StoreEvent → Prop
  | .commitSample sample _ => IsTimestamp sample.startedAtMs ∧ IsTimestamp sample.endedAtMs
  | _ => True

/-- The legacy points carry timestamps, and the legacy minutes start and end at
bucket boundaries. -/
structure LegacyTraffic.Aligned (bucketSizeMs : Int) (legacy : LegacyTraffic) : Prop where
  points : ∀ p ∈ legacy.points, IsTimestamp (p.ts - 60000) ∧ IsTimestamp p.ts
  minutes : ∀ m ∈ legacy.minutes, bucketSizeMs ∣ m.bucket ∧ bucketSizeMs ∣ m.bucket + 60000

/-! ## Tidy states -/

section Tidy

variable {bucketSizeMs : Int} {db : TrafficDb}

/-- A database with the same samples and rollups is as tidy. -/
theorem TrafficDb.Tidy.congr (h : db.Tidy bucketSizeMs) {db' : TrafficDb}
    (hsamples : db'.trafficSamples = db.trafficSamples)
    (hrollups : db'.trafficRollups = db.trafficRollups) : db'.Tidy bucketSizeMs where
  keyed := ⟨hsamples ▸ h.keyed.samples, hrollups ▸ h.keyed.rollups⟩
  unique := hrollups ▸ h.unique
  samples := hsamples ▸ h.samples
  started := hsamples ▸ h.started
  ended := hsamples ▸ h.ended
  rollups := hrollups ▸ h.rollups
  shaped := hrollups ▸ h.shaped

theorem TrafficDb.Tidy.empty (bucketSizeMs : Int) : TrafficDb.empty.Tidy bucketSizeMs :=
  ⟨⟨Table.Keyed.empty _, Table.Keyed.empty _⟩, by simp [UniqueRollups, TrafficDb.empty],
    by simp [TrafficDb.empty], by simp [TrafficDb.empty], by simp [TrafficDb.empty],
    by simp [TrafficDb.empty], by simp [TrafficDb.empty]⟩

/-- Inserting a sound sample with timestamps. -/
theorem TrafficDb.Tidy.insertSample (h : db.Tidy bucketSizeMs) {s : TrafficSampleInput}
    (hsound : ∀ id, TrafficSample.Sound { s with id := id })
    (hstarted : IsTimestamp s.startedAtMs) (hended : IsTimestamp s.endedAtMs) :
    (db.insertSample s).Tidy bucketSizeMs := by
  have hrow : ∀ {P : TrafficSample → Prop}, (∀ x ∈ db.trafficSamples.rows, P x) →
      (∀ id, P { s with id := id }) → ∀ x ∈ (db.insertSample s).trafficSamples.rows, P x := by
    intro P hold hnew x hx
    rcases List.mem_append.mp hx with hx | hx
    · exact hold x hx
    · rw [List.mem_singleton.mp hx]
      exact hnew _
  exact {
    keyed := ⟨h.keyed.samples.insert (fun _ => rfl), h.keyed.rollups⟩
    unique := h.unique
    samples := hrow h.samples hsound
    started := hrow h.started (fun _ => hstarted)
    ended := hrow h.ended (fun _ => hended)
    rollups := h.rollups
    shaped := h.shaped }

/-- Inserting a sound rollup with a new key. -/
theorem TrafficDb.Tidy.insertRollup (h : db.Tidy bucketSizeMs) {row : Int → TrafficRollup}
    (hid : ∀ id, (row id).id = id) (hsound : ∀ id, (row id).Sound)
    (hshaped : ∀ id, (row id).Shaped bucketSizeMs)
    (hnew : ∀ r ∈ db.trafficRollups.rows, ∀ id,
      (row id).conflicts r = false ∧ r.conflicts (row id) = false) :
    TrafficDb.Tidy bucketSizeMs { db with trafficRollups := db.trafficRollups.insert row } := by
  have hrow : ∀ {P : TrafficRollup → Prop}, (∀ x ∈ db.trafficRollups.rows, P x) →
      (∀ id, P (row id)) → ∀ x ∈ (db.trafficRollups.insert row).rows, P x := by
    intro P hold hrow x hx
    rcases List.mem_append.mp hx with hx | hx
    · exact hold x hx
    · rw [List.mem_singleton.mp hx]
      exact hrow _
  refine ⟨⟨h.keyed.samples, h.keyed.rollups.insert hid⟩, ?_, h.samples, h.started, h.ended,
    hrow h.rollups hsound, hrow h.shaped hshaped⟩
  intro a ha b hb hconflict
  simp only [Table.insert_rows, List.mem_append, List.mem_singleton] at ha hb
  rcases ha with ha | rfl <;> rcases hb with hb | rfl
  · exact h.unique a ha b hb hconflict
  · rw [(hnew a ha _).2] at hconflict
    cases hconflict
  · rw [(hnew b hb _).1] at hconflict
    cases hconflict
  · rfl

end Tidy

/-! ## The import -/

theorem measuredMs_bounds (ts : Int) (previousTs : Option Int) :
    1 ≤ measuredMs ts previousTs ∧ measuredMs ts previousTs ≤ 60000 := by
  simp only [measuredMs]
  omega

theorem legacySample_sound (routerId interfaceId : Int) {point : LegacyPoint}
    (previousTs : Option Int) (id : Int) :
    TrafficSample.Sound { legacySample routerId interfaceId point previousTs with id := id } := by
  obtain ⟨hmin, hmax⟩ := measuredMs_bounds point.ts previousTs
  refine ⟨?_, ?_, castNonnegative_nonneg _, castNonnegative_nonneg _⟩
  · simp only [legacySample]
    omega
  · have hsub : satSub point.ts (point.ts - measuredMs point.ts previousTs) =
        point.ts - (point.ts - measuredMs point.ts previousTs) :=
      satSub_eq (by simp only [IsI64, i64Min, i64Max]; omega)
    simp only [legacySample, hsub]
    omega

theorem TrafficDb.Tidy.importPoint {bucketSizeMs : Int} {db : TrafficDb}
    (h : db.Tidy bucketSizeMs) (routerId : Int) {point : LegacyPoint × Option Int}
    (hlo : IsTimestamp (point.1.ts - 60000)) (hhi : IsTimestamp point.1.ts) :
    (importPoint routerId db point).Tidy bucketSizeMs := by
  unfold Db.importPoint
  split
  · exact h
  · rename_i i _
    simp only
    split
    · exact { h with keyed := ⟨h.keyed.samples.useKey, h.keyed.rollups⟩ }
    · obtain ⟨hmin, hmax⟩ := measuredMs_bounds point.1.ts point.2
      refine h.insertSample (s := legacySample routerId i.id point.1 point.2)
        (legacySample_sound routerId i.id point.2) ?_ hhi
      simp only [IsTimestamp, legacySample] at hlo hhi ⊢
      omega

theorem legacyRollup_sound (routerId interfaceId : Int) (minute : LegacyMinute) (id : Int) :
    (legacyRollup routerId interfaceId minute id).Sound where
  increasing := by
    simp only [legacyRollup]
    omega
  exactDownloadBytes := le_refl _
  exactUploadBytes := le_refl _
  estimatedDownloadBytes := castNonnegative_nonneg _
  estimatedUploadBytes := castNonnegative_nonneg _
  exactDurationMs := le_refl _
  estimatedDurationMs := by simp [legacyRollup]
  covered := by simp [legacyRollup]
  coverage := by simp [legacyRollup]
  sampleCount := by simp [legacyRollup]

theorem TrafficDb.Tidy.importMinute {bucketSizeMs : Int} {db : TrafficDb}
    (h : db.Tidy bucketSizeMs) (routerId : Int) {minute : LegacyMinute}
    (hstart : bucketSizeMs ∣ minute.bucket) (hstop : bucketSizeMs ∣ minute.bucket + 60000) :
    (importMinute routerId db minute).Tidy bucketSizeMs := by
  unfold Db.importMinute
  split
  · exact h
  · rename_i i _
    split
    · split
      · exact { h with keyed := ⟨h.keyed.samples, h.keyed.rollups.useKey⟩ }
      · rename_i hfresh
        refine h.insertRollup (fun _ => rfl) (legacyRollup_sound _ _ _) ?_ ?_
        · intro id
          exact ⟨hstart, Or.inr ⟨by simp [legacyRollup], hstop⟩⟩
        · intro r hr id
          have hno : (legacyRollup routerId i.id minute 0).conflicts r = false := by
            cases hconflict : (legacyRollup routerId i.id minute 0).conflicts r with
            | false => rfl
            | true => exact absurd (List.any_eq_true.mpr ⟨r, hr, hconflict⟩) hfresh
          refine ⟨hno, ?_⟩
          simp only [TrafficRollup.conflicts, decide_eq_false_iff_not] at hno ⊢
          rintro ⟨h1, h2, h3, h4, h5⟩
          exact hno ⟨h1.symm, h2.symm, h3.symm, h4.symm, h5.symm⟩
    · exact h

theorem mem_withPreviousTs {previous : Option LegacyPoint} {points : List LegacyPoint}
    {x : LegacyPoint × Option Int} (h : x ∈ withPreviousTs previous points) : x.1 ∈ points := by
  induction points generalizing previous with
  | nil => simp [withPreviousTs] at h
  | cons point rest ih =>
      simp only [withPreviousTs, List.mem_cons] at h
      rcases h with rfl | h
      · exact List.mem_cons_self
      · exact List.mem_cons_of_mem _ (ih h)

/-- An import into empty tables leaves a tidy store. -/
theorem importLegacyTraffic_tidy {bucketSizeMs nowMs : Int} {legacy : LegacyTraffic}
    {imported : TrafficDb} (haligned : legacy.Aligned bucketSizeMs)
    (h : importLegacyTraffic nowMs legacy TrafficDb.empty = .ok imported) :
    imported.Tidy bucketSizeMs := by
  have hempty := TrafficDb.Tidy.empty bucketSizeMs
  unfold importLegacyTraffic at h
  split at h
  · simp only [pure_eq_ok, Except.ok.injEq] at h
    exact h ▸ hempty
  · obtain ⟨router, _, h⟩ := bind_eq_ok_iff.mp h
    obtain ⟨_, h⟩ := ensure_bind_eq_ok_iff.mp h
    simp only [pure_eq_ok, Except.ok.injEq] at h
    subst h
    have hregistered : (registerLegacyRouter nowMs TrafficDb.empty).Tidy bucketSizeMs := by
      unfold registerLegacyRouter
      split <;> exact hempty.congr rfl rfl
    have hprepared := List.foldlRecOn
      (legacy.points.map (fun p => wanOrEmpty p.wanName) ++
        legacy.minutes.map (fun m => wanOrEmpty m.wanName)).dedup
      (registerLegacyInterface nowMs router.id)
      (motive := fun db => db.Tidy bucketSizeMs) hregistered (by
        intro db hdb wanName _
        unfold registerLegacyInterface
        split <;> exact hdb.congr rfl rfl)
    have hpointed := List.foldlRecOn
      (withPreviousTs none (legacy.points.insertionSort LegacyPoint.windowLe))
      (importPoint router.id) (motive := fun db => db.Tidy bucketSizeMs) hprepared (by
        intro db hdb point hpoint
        have hmem := mem_withPreviousTs hpoint
        rw [List.mem_insertionSort] at hmem
        exact hdb.importPoint router.id (haligned.points _ hmem).1 (haligned.points _ hmem).2)
    exact List.foldlRecOn legacy.minutes (importMinute router.id)
      (motive := fun db => db.Tidy bucketSizeMs) hpointed (by
        intro db hdb minute hminute
        exact hdb.importMinute router.id (haligned.minutes _ hminute).1
          (haligned.minutes _ hminute).2)

/-! ## One call -/

theorem committed_cases {α : Type} {P : TrafficDb → Prop}
    {result : DatabaseResult (α × TrafficDb)} {db : TrafficDb} (hdb : P db)
    (hok : ∀ a db', result = .ok (a, db') → P db') : P (committed result db) := by
  unfold committed
  split
  · rename_i a db'
    exact hok a db' rfl
  · exact hdb

theorem TrafficDb.Tidy.storeStep {bucketSizeMs : Int} {db : TrafficDb}
    (hsize : IsI64 bucketSizeMs) (h : db.Tidy bucketSizeMs) {event : StoreEvent}
    (htimely : event.Timely) : (storeStep bucketSizeMs db event).Tidy bucketSizeMs := by
  cases event with
  | insertRouter internalUuid hardwareIdentity fallbackTarget identitySource observedAtMs =>
      exact h.congr rfl rfl
  | upsertInterface routerId interfaceKey name kind hardwareId observedAtMs =>
      refine committed_cases h ?_
      intro record db' hok
      have hsame := (upsertRouterInterface_ok hok).sameTraffic
      exact h.congr hsame.samples hsame.rollups
  | commitSample sample checkpoint =>
      refine committed_cases h ?_
      intro b db' hok
      rcases commitSampleAndCheckpoint_cases hok with ⟨_, hnew⟩ | ⟨_, _, hsame⟩
      · rw [hnew.result]
        have hvalid := hnew.valid
        have hsound : ∀ id, TrafficSample.Sound { sample with id := id } :=
          fun id => ⟨hvalid.increasing, hvalid.duration, hvalid.downloadBytes, hvalid.uploadBytes⟩
        exact (h.insertSample hsound htimely.1 htimely.2).congr rfl rfl
      · exact hsame ▸ h
  | commitGap gap checkpoint =>
      refine committed_cases h ?_
      intro b db' hok
      rcases commitGapAndCheckpoint_cases hok with ⟨_, hnew⟩ | ⟨_, _, hsame⟩
      · rw [hnew.result]
        exact h.congr rfl rfl
      · exact hsame ▸ h
  | initializeCheckpoint checkpoint =>
      refine committed_cases h ?_
      intro b db' hok
      rcases initializeCheckpointIfAbsent_cases hok with ⟨_, _, hnew⟩ | ⟨_, _, hsame⟩
      · rw [hnew]
        exact h.congr rfl rfl
      · exact hsame ▸ h
  | rollup beforeMs batchSize =>
      refine committed_cases h ?_
      intro n db' hok
      obtain ⟨consumed, buckets, hrolled⟩ := rollupExactSamplesBatch_ok h hsize hok
      exact hrolled.tidy h

/-- Every state of a run is tidy. -/
theorem TrafficDb.Tidy.run {bucketSizeMs : Int} {db : TrafficDb} (hsize : IsI64 bucketSizeMs)
    (h : db.Tidy bucketSizeMs) {events : List StoreEvent} (hevents : ∀ e ∈ events, e.Timely) :
    (run (Db.storeStep bucketSizeMs) db events).Tidy bucketSizeMs := by
  have hguard : Along (Db.storeStep bucketSizeMs) (fun _ e => e.Timely) db events :=
    Along.of_forall (fun e he _ => hevents e he) db
  exact run_invariant (fun _ _ hdb he => hdb.storeStep hsize he) h hguard

/-! ## Sequences of rollups -/

/-- A sequence of rollups, given by their cutoffs and batch sizes, all of which
succeed. -/
def rollupCalls (bucketSizeMs : Int) :
    List (Int × Nat) → TrafficDb → DatabaseResult TrafficDb
  | [], db => .ok db
  | call :: rest, db => do
      let (_, db') ← rollupExactSamplesBatch call.1 bucketSizeMs call.2 db
      rollupCalls bucketSizeMs rest db'

/-- What rollups must keep between two states of the store. -/
structure RollupKeeps (db db' : TrafficDb) : Prop where
  totals : ∀ q routerId interfaceId, db'.quantityIn q routerId interfaceId (fun _ => true) =
    db.quantityIn q routerId interfaceId (fun _ => true)
  exact : ∀ q routerId interfaceId, db'.exactQuantity q routerId interfaceId ≤
    db.exactQuantity q routerId interfaceId
  valid : ∀ routerId interfaceId, ∀ c ∈ db'.contributionsOn routerId interfaceId, c.Valid
  disjoint : ∀ routerId interfaceId, db.DisjointOn routerId interfaceId →
    db'.DisjointOn routerId interfaceId

theorem TrafficDb.Tidy.valid {bucketSizeMs : Int} {db : TrafficDb} (h : db.Tidy bucketSizeMs)
    (routerId interfaceId : Int) : ∀ c ∈ db.contributionsOn routerId interfaceId, c.Valid := by
  intro c hc
  rcases List.mem_append.mp hc with hc | hc
  · obtain ⟨s, hs, rfl⟩ := List.mem_map.mp hc
    exact (h.samples s (List.mem_of_mem_filter hs)).valid
  · obtain ⟨r, hr, rfl⟩ := List.mem_map.mp hc
    exact (h.rollups r (List.mem_of_mem_filter hr)).valid

theorem coarse_everywhere (bucketSizeMs : Int) : Coarse bucketSizeMs (fun _ => true) :=
  fun _ => rfl

theorem TrafficDb.wholeIn_everywhere (db : TrafficDb) (routerId interfaceId : Int) :
    db.WholeIn routerId interfaceId (fun _ => true) :=
  fun _ _ _ _ _ _ => rfl

theorem RolledUp.keeps {beforeMs bucketSizeMs : Int} {db db' : TrafficDb}
    {consumed : List Consumed} {buckets : OrdMap BucketKey RollupBucket}
    (h : RolledUp beforeMs bucketSizeMs db consumed buckets db') (htidy : db.Tidy bucketSizeMs) :
    RollupKeeps db db' where
  totals := fun q routerId interfaceId =>
    h.quantityIn_eq q (coarse_everywhere bucketSizeMs) (db.wholeIn_everywhere routerId interfaceId)
  exact := h.exactQuantity_le
  valid := (h.tidy htidy).valid
  disjoint := by
    intro routerId interfaceId hdisjoint
    rw [TrafficDb.disjointOn_iff_rowsApart (h.tidy htidy).keyed]
    rw [TrafficDb.disjointOn_iff_rowsApart htidy.keyed] at hdisjoint
    exact h.rowsApart htidy hdisjoint

theorem RollupKeeps.trans {a b c : TrafficDb} (hab : RollupKeeps a b) (hbc : RollupKeeps b c) :
    RollupKeeps a c where
  totals := fun q r i => (hbc.totals q r i).trans (hab.totals q r i)
  exact := fun q r i => le_trans (hbc.exact q r i) (hab.exact q r i)
  valid := hbc.valid
  disjoint := fun r i h => hbc.disjoint r i (hab.disjoint r i h)

theorem rollupCalls_keeps {bucketSizeMs : Int} (hsize : IsI64 bucketSizeMs)
    {calls : List (Int × Nat)} {db db' : TrafficDb} (htidy : db.Tidy bucketSizeMs)
    (h : rollupCalls bucketSizeMs calls db = .ok db') : RollupKeeps db db' := by
  induction calls generalizing db with
  | nil =>
      simp only [rollupCalls, Except.ok.injEq] at h
      subst h
      exact ⟨fun _ _ _ => rfl, fun _ _ _ => le_refl _, htidy.valid, fun _ _ h => h⟩
  | cons call rest ih =>
      obtain ⟨⟨n, next⟩, hroll, h⟩ := bind_eq_ok_iff.mp h
      obtain ⟨consumed, buckets, hrolled⟩ := rollupExactSamplesBatch_ok htidy hsize hroll
      exact (hrolled.keeps htidy).trans (ih (hrolled.tidy htidy) h)

/-- From every store that an import, timely commits and rollups can reach, any
sequence of successful rollups keeps the totals of every interface, makes
nothing exact, leaves valid contributions, and keeps them disjoint. -/
theorem rollups_conserve (bucketSizeMs nowMs : Int) (legacy : LegacyTraffic)
    (imported db' : TrafficDb) (events : List StoreEvent) (calls : List (Int × Nat))
    (hsize : IsI64 bucketSizeMs) (haligned : legacy.Aligned bucketSizeMs)
    (himport : importLegacyTraffic nowMs legacy TrafficDb.empty = .ok imported)
    (hevents : ∀ e ∈ events, e.Timely)
    (hcalls : rollupCalls bucketSizeMs calls (run (storeStep bucketSizeMs) imported events) =
      .ok db') :
    RollupKeeps (run (storeStep bucketSizeMs) imported events) db' :=
  rollupCalls_keeps hsize ((importLegacyTraffic_tidy haligned himport).run hsize hevents) hcalls

/-- A sample of interface `1` of router `1`, with consistent columns. -/
def plainSample (startedAtMs endedAtMs downloadBytes uploadBytes : Int) : TrafficSampleInput where
  routerId := 1
  interfaceId := 1
  startedAtMs := startedAtMs
  endedAtMs := endedAtMs
  durationMs := satSub endedAtMs startedAtMs
  downloadBytes := downloadBytes
  uploadBytes := uploadBytes
  downloadBps := .finite 80
  uploadBps := .finite 8
  quality := .exact
  source := "routeros-counter"

/-- The commit of a plain sample with its checkpoint. -/
def plainCommit (startedAtMs endedAtMs downloadBytes uploadBytes : Int) : StoreEvent :=
  .commitSample (plainSample startedAtMs endedAtMs downloadBytes uploadBytes)
    ⟨1, 1, "10", "20", endedAtMs, none⟩

/-- One legacy minute of the aggregate. -/
def legacyMinuteAt (bucket : Int) : LegacyTraffic :=
  ⟨[], [⟨bucket, .finite 8000, .finite 800, none⟩]⟩

/-- The database of a successful call. -/
def stored (result : DatabaseResult TrafficDb) : TrafficDb :=
  match result with
  | .ok db => db
  | .error _ => TrafficDb.empty

theorem eq_ok_stored {result : DatabaseResult TrafficDb} (h : result.toOption.isSome = true) :
    result = .ok (stored result) := by
  cases result with
  | error e => cases h
  | ok db => rfl

/-- A legacy point and a legacy minute of the aggregate. -/
def mixedLegacy : LegacyTraffic :=
  ⟨[⟨130000, .finite 9, .finite 7, none⟩], [⟨60000, .finite 8000, .finite 800, none⟩]⟩

/-- The store after the import, two commits and a rollup between them. -/
def mixedStore : TrafficDb :=
  run (storeStep 60000) (stored (importLegacyTraffic 5 mixedLegacy TrafficDb.empty))
    [plainCommit 150000 190000 701 99, .rollup 185000 1, plainCommit 190000 260000 1000 3]

theorem rollups_conserve_mixedStore :
    RollupKeeps mixedStore (stored (rollupCalls 60000 [(200000, 2), (500000, 7)] mixedStore)) := by
  refine rollups_conserve 60000 5 mixedLegacy
    (stored (importLegacyTraffic 5 mixedLegacy TrafficDb.empty)) _ _ _
    (by decide) ⟨?_, ?_⟩ (eq_ok_stored (by decide +kernel)) ?_ (eq_ok_stored (by decide +kernel))
  · simp [mixedLegacy, IsTimestamp]
  · simp [mixedLegacy]
  · simp [plainCommit, plainSample, StoreEvent.Timely, IsTimestamp]

/-- Without the conditions of `rollups_conserve` its conclusion fails: samples
that overlap when they are committed overlap after a rollup, a span that does
not fit the integers loses duration, and a legacy minute across a bucket
boundary meets the rollup row of the bucket. -/
theorem rollups_conserve_fails :
    (∃ db', rollupCalls 60000 [(90000, 9)] (run (storeStep 60000)
          (stored (importLegacyTraffic 5 (legacyMinuteAt (-60000)) TrafficDb.empty))
          [plainCommit 60000 150000 7 7, plainCommit 100000 200000 7 7]) = .ok db' ∧
        ¬ db'.DisjointOn 1 1) ∧
      (∃ db', rollupCalls 60000 [(-4611686018427360000, 9)] (run (storeStep 60000)
          (stored (importLegacyTraffic 5 (legacyMinuteAt 0) TrafficDb.empty))
          [plainCommit (-4611686018427390000) 4611686018427390000 7 7]) = .ok db' ∧
        db'.quantityIn .durationMs 1 1 (fun _ => true) ≠
          (run (storeStep 60000)
            (stored (importLegacyTraffic 5 (legacyMinuteAt 0) TrafficDb.empty))
            [plainCommit (-4611686018427390000) 4611686018427390000 7 7]).quantityIn
              .durationMs 1 1 (fun _ => true)) ∧
      (∃ db', rollupCalls 60000 [(200000, 9)] (run (storeStep 60000)
          (stored (importLegacyTraffic 5 (legacyMinuteAt 30000) TrafficDb.empty))
          [plainCommit 90000 100000 7 7]) = .ok db' ∧
        (run (storeStep 60000)
          (stored (importLegacyTraffic 5 (legacyMinuteAt 30000) TrafficDb.empty))
          [plainCommit 90000 100000 7 7]).DisjointOn 1 1 ∧
        ¬ db'.DisjointOn 1 1) := by
  refine ⟨⟨_, eq_ok_stored (by decide +kernel), by decide +kernel⟩,
    ⟨_, eq_ok_stored (by decide +kernel), by decide +kernel⟩,
    ⟨_, eq_ok_stored (by decide +kernel), by decide +kernel, by decide +kernel⟩⟩

end RouterView.Db
