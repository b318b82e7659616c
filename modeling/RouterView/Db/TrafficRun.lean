/-
  Db/TrafficRun.lean --- runs of all writes to the traffic tables.

  The calls that change the traffic tables after the migration: the resolution
  of routers with the adoption of legacy history, the registration of
  interfaces, the commits, the rollups and the deletion of old history.  Every
  state of a run keeps the constraints of the tables.

  Left out: writes by another process, which the lock of the database keeps out.
-/
import RouterView.Foundation.Run
import RouterView.Db.Adoption
import RouterView.Db.Store

set_option autoImplicit false

namespace RouterView.Db

open RouterView.Foundation

/-- A call that writes to the traffic tables. -/
inductive TrafficWrite where
  | resolveRouter (call : RouterCall)
  | upsertInterface (routerId : Int) (interfaceKey name kind : String)
      (hardwareId : Option String) (observedAtMs : Int)
  | commitSample (sample : TrafficSampleInput) (checkpoint : CounterCheckpointInput)
  | commitGap (gap : TrafficGapInput) (checkpoint : CounterCheckpointInput)
  | initializeCheckpoint (checkpoint : CounterCheckpointInput)
  | rollup (beforeMs bucketSizeMs : Int) (batchSize : Nat)
  | prune (beforeMs : Int) (batchSize : Nat)

/-- One call; a failed transaction rolls back. -/
def trafficStep (db : TrafficDb) : TrafficWrite → TrafficDb
  | .resolveRouter call => committed (resolveRouter call db) db
  | .upsertInterface routerId interfaceKey name kind hardwareId observedAtMs =>
      committed (upsertRouterInterface routerId interfaceKey name kind hardwareId observedAtMs db)
        db
  | .commitSample sample checkpoint =>
      committed (commitSampleAndCheckpoint sample checkpoint db) db
  | .commitGap gap checkpoint => committed (commitGapAndCheckpoint gap checkpoint db) db
  | .initializeCheckpoint checkpoint =>
      committed (initializeCheckpointIfAbsent checkpoint db) db
  | .rollup beforeMs bucketSizeMs batchSize =>
      committed (rollupExactSamplesBatch beforeMs bucketSizeMs batchSize db) db
  | .prune beforeMs batchSize => committed (pruneExactHistoryBatch beforeMs batchSize db) db

/-! ## Resolution -/

section

variable {call : RouterCall} {db mid db' : TrafficDb} {id : Int}

/-- How a call selects its router. -/
inductive Selection (call : RouterCall) (db : TrafficDb) : Int → TrafficDb → Prop where
  | found (r : RouterRecord) (hr : r ∈ db.routers.rows)
      (hmatches : match call.identity with
        | some identity => r.hardwareIdentity = some identity
        | none => r.fallbackTarget = call.target) :
      Selection call db r.id (db.updateRouter r.id (fun r =>
        { r with fallbackTarget := call.target, lastSeenAtMs := call.observedAtMs }))
  | upgraded (identity : String) (hidentity : call.identity = some identity)
      (hnew : ∀ r ∈ db.routers.rows, r.hardwareIdentity ≠ some identity) (r : RouterRecord)
      (hr : r ∈ db.routers.rows) (htarget : r.fallbackTarget = call.target)
      (hnone : r.hardwareIdentity = none) :
      Selection call db r.id (db.updateRouter r.id (fun r =>
        { r with
          hardwareIdentity := some identity
          identitySource := "hardware"
          lastSeenAtMs := call.observedAtMs }))
  | inserted (identitySource : String)
      (hnew : match call.identity with
        | some identity => ∀ r ∈ db.routers.rows, r.hardwareIdentity ≠ some identity
        | none => ∀ r ∈ db.routers.rows, r.fallbackTarget ≠ call.target) :
      Selection call db (db.routers.sequence + 1) (insertRouter call.internalUuid call.identity
        call.target identitySource call.observedAtMs db)

theorem TrafficDb.routerByHardwareIdentity_eq_none {identity : String}
    (h : db.routerByHardwareIdentity identity = none) :
    ∀ r ∈ db.routers.rows, r.hardwareIdentity ≠ some identity := by
  intro r hr
  simpa using List.find?_eq_none.mp h r hr

theorem foldl_laterRouter_mem (first : RouterRecord) (rest : List RouterRecord) :
    rest.foldl TrafficDb.laterRouter first ∈ first :: rest := by
  induction rest generalizing first with
  | nil => exact List.mem_singleton.mpr rfl
  | cons r rest ih =>
      rw [List.foldl_cons]
      rcases List.mem_cons.mp (ih (TrafficDb.laterRouter first r)) with heq | hmem
      · rw [heq]
        unfold TrafficDb.laterRouter
        split
        · exact List.mem_cons_of_mem _ List.mem_cons_self
        · exact List.mem_cons_self
      · exact List.mem_cons_of_mem _ (List.mem_cons_of_mem _ hmem)

theorem TrafficDb.routerByFallbackTarget_eq_some {target : String} {r : RouterRecord}
    (h : db.routerByFallbackTarget target = some r) :
    r ∈ db.routers.rows ∧ r.fallbackTarget = target := by
  unfold TrafficDb.routerByFallbackTarget at h
  split at h
  · cases h
  · rename_i first rest hrows
    rw [Option.some.injEq] at h
    have hmem := foldl_laterRouter_mem first rest
    rw [h, ← hrows, List.mem_filter, decide_eq_true_eq] at hmem
    exact hmem

theorem TrafficDb.routerByFallbackTarget_eq_none {target : String}
    (h : db.routerByFallbackTarget target = none) :
    ∀ r ∈ db.routers.rows, r.fallbackTarget ≠ target := by
  unfold TrafficDb.routerByFallbackTarget at h
  split at h
  · rename_i hrows
    intro r hr
    simpa using List.filter_eq_nil_iff.mp hrows r hr
  · cases h

theorem insertNewRouter_ok {identitySource : String}
    (h : insertNewRouter call identitySource db = .ok (id, mid)) :
    id = db.routers.sequence + 1 ∧ mid = insertRouter call.internalUuid call.identity call.target
      identitySource call.observedAtMs db := by
  unfold insertNewRouter at h
  obtain ⟨_, h⟩ := ensure_bind_eq_ok_iff.mp h
  simp only [pure_eq_ok, Except.ok.injEq, Prod.mk.injEq] at h
  exact ⟨h.1.symm, h.2.symm⟩

theorem selectRouter_ok (h : selectRouter call db = .ok (id, mid)) :
    Selection call db id mid := by
  unfold selectRouter at h
  cases hidentity : call.identity with
  | some identity =>
      simp only [hidentity] at h
      cases hfind : db.routerByHardwareIdentity identity with
      | some r =>
          simp only [hfind, Except.ok.injEq, Prod.mk.injEq] at h
          rw [← h.1, ← h.2]
          have hmatches := List.find?_some hfind
          rw [decide_eq_true_eq] at hmatches
          exact .found r (List.mem_of_find?_eq_some hfind) (by rw [hidentity]; exact hmatches)
      | none =>
          have hnew := TrafficDb.routerByHardwareIdentity_eq_none hfind
          simp only [hfind] at h
          cases hfallback : db.routerByFallbackOnly call.target with
          | some r =>
              simp only [hfallback, Except.ok.injEq, Prod.mk.injEq] at h
              rw [← h.1, ← h.2]
              have hmatches := List.find?_some hfallback
              rw [decide_eq_true_eq] at hmatches
              exact .upgraded identity hidentity hnew r (List.mem_of_find?_eq_some hfallback)
                hmatches.1 hmatches.2
          | none =>
              simp only [hfallback] at h
              obtain ⟨rfl, rfl⟩ := insertNewRouter_ok h
              exact .inserted _ (by rw [hidentity]; exact hnew)
  | none =>
      simp only [hidentity] at h
      cases hfind : db.routerByFallbackTarget call.target with
      | some r =>
          simp only [hfind, Except.ok.injEq, Prod.mk.injEq] at h
          rw [← h.1, ← h.2]
          obtain ⟨hr, htarget⟩ := TrafficDb.routerByFallbackTarget_eq_some hfind
          exact .found r hr (by rw [hidentity]; exact htarget)
      | none =>
          simp only [hfind] at h
          obtain ⟨rfl, rfl⟩ := insertNewRouter_ok h
          exact .inserted _ (by
            rw [hidentity]
            exact TrafficDb.routerByFallbackTarget_eq_none hfind)

/-- The selected router is stored. -/
theorem Selection.stored (h : Selection call db id mid) : ∃ r ∈ mid.routers.rows, r.id = id := by
  cases h with
  | found r hr hmatches =>
      refine ⟨_, TrafficDb.updateRouter_keeps hr, ?_⟩
      rw [if_pos rfl]
  | upgraded identity hidentity hnew r hr htarget hnone =>
      refine ⟨_, TrafficDb.updateRouter_keeps hr, ?_⟩
      rw [if_pos rfl]
  | inserted identitySource hnew =>
      exact ⟨_, List.mem_append_right _ (List.mem_singleton.mpr rfl), rfl⟩

theorem Selection.intact (h : Selection call db id mid) (hi : db.Intact) : mid.Intact := by
  cases h with
  | found r hr hmatches =>
      apply hi.updateRouter
      · exact fun _ => rfl
      · intro x hx hid y hy hother hsome hsame
        have hxy := hi.registry.identities x hx y hy hsome hsame
        exact hother (hxy ▸ hid)
  | upgraded identity hidentity hnew r hr htarget hnone =>
      apply hi.updateRouter
      · exact fun _ => rfl
      · intro x hx hid y hy hother hsome hsame
        exact hnew y hy hsame.symm
  | inserted identitySource hnew =>
      apply hi.insertRouter
      intro r hr hsome
      cases hidentity : call.identity with
      | none => exact absurd hidentity hsome
      | some identity =>
          rw [hidentity] at hnew
          exact hnew r hr

/-- A selection touches the routers only. -/
theorem Selection.frame (h : Selection call db id mid) :
    mid = { db with routers := mid.routers } := by
  cases h with
  | found r hr hmatches => rfl
  | upgraded identity hidentity hnew r hr htarget hnone => rfl
  | inserted identitySource hnew => rfl

/-- A resolution: a selection, and the adoption of legacy history. -/
theorem resolveRouter_ok {record : RouterRecord}
    (h : resolveRouter call db = .ok (record, db')) :
    ∃ mid, Selection call db record.id mid ∧
      adoptLegacyHistory record.id call.observedAtMs mid = .ok db' := by
  unfold resolveRouter at h
  obtain ⟨_, h⟩ := ensure_bind_eq_ok_iff.mp h
  obtain ⟨⟨id, mid⟩, hselect, h⟩ := bind_eq_ok_iff.mp h
  obtain ⟨adopted, hadopt, h⟩ := bind_eq_ok_iff.mp h
  obtain ⟨router, hrouter, h⟩ := bind_eq_ok_iff.mp h
  simp only [pure_eq_ok, Except.ok.injEq, Prod.mk.injEq] at h
  obtain ⟨rfl, rfl⟩ := h
  have hid := List.find?_some (okOr_eq_ok_iff.mp hrouter)
  rw [decide_eq_true_eq] at hid
  rw [hid]
  exact ⟨mid, selectRouter_ok hselect, hadopt⟩

end

/-! ## Runs -/

theorem trafficStep_intact {db : TrafficDb} (hi : db.Intact) (write : TrafficWrite) :
    (trafficStep db write).Intact := by
  have hcommitted : ∀ {α : Type} (result : DatabaseResult (α × TrafficDb)),
      (∀ a db', result = .ok (a, db') → db'.Intact) → (committed result db).Intact := by
    intro α result h
    cases hresult : result with
    | error e => exact hi
    | ok r => exact h r.1 r.2 hresult
  cases write with
  | resolveRouter call =>
      apply hcommitted
      intro record db' h
      obtain ⟨mid, hselect, hadopt⟩ := resolveRouter_ok h
      exact (adoptLegacyHistory_ok (hselect.intact hi) hselect.stored hadopt).1
  | upsertInterface routerId interfaceKey name kind hardwareId observedAtMs =>
      exact hcommitted _ (fun _ _ h => hi.upsertInterface h)
  | commitSample sample checkpoint => exact hcommitted _ (fun _ _ h => hi.commitSample h)
  | commitGap gap checkpoint => exact hcommitted _ (fun _ _ h => hi.commitGap h)
  | initializeCheckpoint checkpoint => exact hcommitted _ (fun _ _ h => hi.initialize h)
  | rollup beforeMs bucketSizeMs batchSize =>
      exact hcommitted _ (fun _ _ h =>
        hi.rollup (rollupExactSamplesBatch_wrote hi.records.sampleIds h))
  | prune beforeMs batchSize => exact hcommitted _ (fun _ _ h => hi.prune (pruneExactHistoryBatch_ok h))

/-- Every run from an import keeps the constraints. -/
theorem trafficRun_intact {db : TrafficDb} (hi : db.Intact) (writes : List TrafficWrite) :
    (run trafficStep db writes).Intact := by
  induction writes generalizing db with
  | nil => exact hi
  | cons write rest ih => exact ih (trafficStep_intact hi write)

end RouterView.Db
