/-
  Db/RouterIdentity.lean --- one router for each identity, over whole runs.

  A router that has an identity keeps it, and no other router ever gets it: the
  rules of `resolve_router` look for the identity first and give it only to a
  router without one.  Only the router of the imported history is ever removed,
  and its history goes to the router that adopts it.
-/
import RouterView.Db.TrafficRun

set_option autoImplicit false

namespace RouterView.Db

open RouterView.Foundation

/-! ## The router of the imported history -/

/-- The call does not name the router of the imported history. -/
def TrafficWrite.SparesLegacy : TrafficWrite → Prop
  | .resolveRouter call => call.target ≠ legacyTarget
  | _ => True

/-- The router of the imported history is one at most, and has no identity. -/
structure TrafficDb.LegacyApart (db : TrafficDb) : Prop where
  plain : ∀ r ∈ db.routers.rows, r.fallbackTarget = legacyTarget → r.hardwareIdentity = none
  single : ∀ r ∈ db.routers.rows, ∀ r' ∈ db.routers.rows,
    r.fallbackTarget = legacyTarget → r'.fallbackTarget = legacyTarget → r = r'

/-- The router has the identity. -/
def TrafficDb.HasIdentity (db : TrafficDb) (id : Int) (identity : String) : Prop :=
  ∃ r ∈ db.routers.rows, r.id = id ∧ r.hardwareIdentity = some identity

section

variable {call : RouterCall} {db mid db' : TrafficDb} {id : Int} {record : RouterRecord}

theorem TrafficDb.LegacyApart.congr (h : db.LegacyApart) (hrouters : db'.routers = db.routers) :
    db'.LegacyApart :=
  ⟨hrouters ▸ h.plain, hrouters ▸ h.single⟩

/-- Only a resolution changes the routers. -/
theorem trafficStep_routers (write : TrafficWrite) (hi : db.Intact) :
    (∃ call, write = .resolveRouter call) ∨ (trafficStep db write).routers = db.routers := by
  have hcommitted : ∀ {α : Type} (result : DatabaseResult (α × TrafficDb)),
      (∀ a db', result = .ok (a, db') → db'.routers = db.routers) →
        (committed result db).routers = db.routers := by
    intro α result h
    cases hresult : result with
    | error e => rfl
    | ok r => exact h r.1 r.2 hresult
  cases write with
  | resolveRouter call => exact Or.inl ⟨call, rfl⟩
  | upsertInterface routerId interfaceKey name kind hardwareId observedAtMs =>
      exact Or.inr (hcommitted _ (fun _ _ h => (upsertRouterInterface_ok h).sameTraffic.routers))
  | commitSample sample checkpoint =>
      refine Or.inr (hcommitted _ ?_)
      intro b db' h
      rcases commitSampleAndCheckpoint_cases h with ⟨_, hnew⟩ | ⟨_, _, hsame⟩
      · rw [hnew.result]
        rfl
      · rw [hsame]
  | commitGap gap checkpoint =>
      refine Or.inr (hcommitted _ ?_)
      intro b db' h
      rcases commitGapAndCheckpoint_cases h with ⟨_, hnew⟩ | ⟨_, _, hsame⟩
      · rw [hnew.result]
        rfl
      · rw [hsame]
  | initializeCheckpoint checkpoint =>
      refine Or.inr (hcommitted _ ?_)
      intro b db' h
      rcases initializeCheckpointIfAbsent_cases h with ⟨_, _, hput⟩ | ⟨_, _, hsame⟩
      · rw [hput]
        rfl
      · rw [hsame]
  | rollup beforeMs bucketSizeMs batchSize =>
      refine Or.inr (hcommitted _ ?_)
      intro n db' h
      rw [(rollupExactSamplesBatch_wrote hi.records.sampleIds h).frame]
  | prune beforeMs batchSize =>
      refine Or.inr (hcommitted _ ?_)
      intro n db' h
      rw [(pruneExactHistoryBatch_ok h).frame]

/-! ## Selections -/

/-- A router of the imported history is none that a call selects. -/
theorem Selection.legacy (h : Selection call db id mid) (hi : db.Intact)
    (hcall : call.target ≠ legacyTarget) {x : RouterRecord} (hx : x ∈ mid.routers.rows)
    (hlegacy : x.fallbackTarget = legacyTarget) : x ∈ db.routers.rows ∧ x.id ≠ id := by
  cases h with
  | found r hr hmatches =>
      obtain ⟨y, hy, ⟨hne, rfl⟩ | ⟨_, rfl⟩⟩ := TrafficDb.mem_updateRouter hx
      · exact ⟨hy, hne⟩
      · exact absurd hlegacy hcall
  | upgraded identity hidentity hnew r hr htarget hnone =>
      obtain ⟨y, hy, ⟨hne, rfl⟩ | ⟨heq, rfl⟩⟩ := TrafficDb.mem_updateRouter hx
      · exact ⟨hy, hne⟩
      · rw [hi.registry.routers.eq_of_key_eq hy hr heq] at hlegacy
        exact absurd (htarget.symm.trans hlegacy) hcall
  | inserted identitySource hnew =>
      rcases List.mem_append.mp hx with hx | hx
      · have hissued := hi.registry.routers.issued x hx
        exact ⟨hx, by omega⟩
      · rw [List.mem_singleton.mp hx] at hlegacy
        exact absurd hlegacy hcall

/-- No router is one of an imported history. -/
def TrafficDb.Plain (db : TrafficDb) : Prop :=
  ∀ r ∈ db.routers.rows, r.fallbackTarget ≠ legacyTarget

theorem Selection.plain (h : Selection call db id mid) (hcall : call.target ≠ legacyTarget)
    (hplain : db.Plain) : mid.Plain := by
  intro x hx
  cases h with
  | found r hr hmatches =>
      obtain ⟨y, hy, ⟨_, rfl⟩ | ⟨_, rfl⟩⟩ := TrafficDb.mem_updateRouter hx
      · exact hplain x hy
      · exact hcall
  | upgraded identity hidentity hnew r hr htarget hnone =>
      obtain ⟨y, hy, ⟨_, rfl⟩ | ⟨_, rfl⟩⟩ := TrafficDb.mem_updateRouter hx
      · exact hplain x hy
      · exact hplain y hy
  | inserted identitySource hnew =>
      rcases List.mem_append.mp hx with hx | hx
      · exact hplain x hx
      · rw [List.mem_singleton.mp hx]
        exact hcall

/-- Without an imported history there is nothing to adopt. -/
theorem resolveRouter_plain {record : RouterRecord} (hcall : call.target ≠ legacyTarget)
    (hplain : db.Plain) (h : resolveRouter call db = .ok (record, db')) :
    Selection call db record.id db' ∧ db'.Plain := by
  obtain ⟨mid, hselect, hadopt⟩ := resolveRouter_ok h
  have hmid := hselect.plain hcall hplain
  have hids : legacyRouterIds record.id mid = [] := by
    rw [List.eq_nil_iff_forall_not_mem]
    intro id hid
    obtain ⟨r, hr, htarget, _⟩ := mem_legacyRouterIds.mp hid
    exact hmid r hr htarget
  unfold adoptLegacyHistory at hadopt
  unfold legacyRouterIds at hids
  rw [hids] at hadopt
  simp only [adoptRouters, Except.ok.injEq] at hadopt
  subst hadopt
  exact ⟨hselect, hmid⟩

/-- A router of the imported history stays as it is until it is adopted. -/
theorem Selection.keepsLegacy (h : Selection call db id mid) (hi : db.Intact)
    (hapart : db.LegacyApart) (hcall : call.target ≠ legacyTarget) {l : RouterRecord}
    (hl : l ∈ db.routers.rows) (hlegacy : l.fallbackTarget = legacyTarget) :
    l ∈ mid.routers.rows ∧ l.id ≠ id := by
  cases h with
  | found r hr hmatches =>
      have hne : l.id ≠ r.id := by
        intro hsame
        have hlr := hi.registry.routers.eq_of_key_eq hl hr hsame
        cases hidentity : call.identity with
        | some identity =>
            rw [hidentity] at hmatches
            rw [← hlr, hapart.plain l hl hlegacy] at hmatches
            cases hmatches
        | none =>
            rw [hidentity] at hmatches
            exact hcall (hmatches.symm.trans (hlr ▸ hlegacy))
      exact ⟨TrafficDb.updateRouter_other hl hne, hne⟩
  | upgraded identity hidentity hnew r hr htarget hnone =>
      have hne : l.id ≠ r.id := by
        intro hsame
        have hlr := hi.registry.routers.eq_of_key_eq hl hr hsame
        exact hcall (htarget.symm.trans (hlr ▸ hlegacy))
      exact ⟨TrafficDb.updateRouter_other hl hne, hne⟩
  | inserted identitySource hnew =>
      have hissued := hi.registry.routers.issued l hl
      exact ⟨List.mem_append_left _ hl, by omega⟩

theorem Selection.legacyApart (h : Selection call db id mid) (hi : db.Intact)
    (hapart : db.LegacyApart) (hcall : call.target ≠ legacyTarget) : mid.LegacyApart where
  plain := fun r hr hlegacy => hapart.plain r (h.legacy hi hcall hr hlegacy).1 hlegacy
  single := fun r hr r' hr' hlegacy hlegacy' =>
    hapart.single r (h.legacy hi hcall hr hlegacy).1 r' (h.legacy hi hcall hr' hlegacy').1
      hlegacy hlegacy'

/-- An identity stays with its router. -/
theorem Selection.hasIdentity (h : Selection call db id mid) (hi : db.Intact) {k : Int}
    {identity : String} (hidentity : db.HasIdentity k identity) : mid.HasIdentity k identity := by
  obtain ⟨y, hy, hid, hsome⟩ := hidentity
  cases h with
  | found r hr hmatches =>
      refine ⟨_, TrafficDb.updateRouter_keeps hy, ?_⟩
      split
      · exact ⟨hid, hsome⟩
      · exact ⟨hid, hsome⟩
  | upgraded identity' hidentity' hnew r hr htarget hnone =>
      refine ⟨_, TrafficDb.updateRouter_keeps hy, ?_⟩
      split
      · rename_i hsame
        rw [hi.registry.routers.eq_of_key_eq hy hr hsame, hnone] at hsome
        cases hsome
      · exact ⟨hid, hsome⟩
  | inserted identitySource hnew => exact ⟨y, List.mem_append_left _ hy, hid, hsome⟩

/-- The selected router has the identity of the call. -/
theorem Selection.own (h : Selection call db id mid) {identity : String}
    (hcall : call.identity = some identity) : mid.HasIdentity id identity := by
  cases h with
  | found r hr hmatches =>
      rw [hcall] at hmatches
      refine ⟨_, TrafficDb.updateRouter_keeps hr, ?_⟩
      rw [if_pos rfl]
      exact ⟨rfl, hmatches⟩
  | upgraded identity' hidentity' hnew r hr htarget hnone =>
      refine ⟨_, TrafficDb.updateRouter_keeps hr, ?_⟩
      rw [if_pos rfl]
      exact ⟨rfl, hidentity'.symm.trans hcall⟩
  | inserted identitySource hnew =>
      exact ⟨_, List.mem_append_right _ (List.mem_singleton.mpr rfl), rfl, hcall⟩

/-- One identity, one router. -/
theorem TrafficDb.HasIdentity.iff (hi : db.Intact) {k k' : Int} {identity identity' : String}
    (h : db.HasIdentity k identity) (h' : db.HasIdentity k' identity') :
    k = k' ↔ identity = identity' := by
  obtain ⟨r, hr, hid, hsome⟩ := h
  obtain ⟨r', hr', hid', hsome'⟩ := h'
  constructor
  · intro hk
    have hsame := hi.registry.routers.eq_of_key_eq hr hr' (hid.trans (hk.trans hid'.symm))
    rw [← hsame, hsome, Option.some.injEq] at hsome'
    exact hsome'
  · intro hidentity
    have hsame := hi.registry.identities r hr r' hr' (by simp [hsome])
      (by rw [hsome, hsome', hidentity])
    rw [← hid, ← hid', hsame]

/-! ## Resolutions -/

/-- What a successful resolution keeps, when it spares the imported history. -/
theorem resolveRouter_keeps (hi : db.Intact) (hapart : db.LegacyApart)
    (hcall : call.target ≠ legacyTarget) (h : resolveRouter call db = .ok (record, db')) :
    db'.LegacyApart ∧
      (∀ k identity, db.HasIdentity k identity → db'.HasIdentity k identity) ∧
      (∀ identity, call.identity = some identity → db'.HasIdentity record.id identity) := by
  obtain ⟨mid, hselect, hadopt⟩ := resolveRouter_ok h
  have hmid := hselect.intact hi
  have hmidApart := hselect.legacyApart hi hapart hcall
  obtain ⟨hdb', hkeeps, hstays⟩ := adoptLegacyHistory_ok hmid hselect.stored hadopt
  have hadopted : ∀ k identity, mid.HasIdentity k identity → db'.HasIdentity k identity := by
    rintro k identity ⟨y, hy, hid, hsome⟩
    obtain ⟨x, hx, hxid, hxidentity, _⟩ := hstays y hy (by
      rintro hmem
      obtain ⟨l, hl, hlegacy, _, hsame⟩ := mem_legacyRouterIds.mp hmem
      rw [← hmid.registry.routers.eq_of_key_eq hl hy hsame,
        hmidApart.plain l hl hlegacy] at hsome
      cases hsome)
    exact ⟨x, hx, hxid.trans hid, hxidentity.trans hsome⟩
  refine ⟨⟨?_, ?_⟩, ?_, ?_⟩
  · intro x hx hlegacy
    obtain ⟨y, hy, _, hidentity, htarget⟩ := hkeeps.routers x hx
    rw [hidentity]
    exact hmidApart.plain y hy (htarget.symm.trans hlegacy)
  · intro x hx x' hx' hlegacy hlegacy'
    obtain ⟨y, hy, hid, _, htarget⟩ := hkeeps.routers x hx
    obtain ⟨y', hy', hid', _, htarget'⟩ := hkeeps.routers x' hx'
    have hsame := hmidApart.single y hy y' hy' (htarget.symm.trans hlegacy)
      (htarget'.symm.trans hlegacy')
    apply hdb'.registry.routers.eq_of_key_eq hx hx'
    rw [hid, hid', hsame]
  · exact fun k identity hk => hadopted k identity (hselect.hasIdentity hi hk)
  · exact fun identity hidentity => hadopted _ _ (hselect.own hidentity)

/-- A call without an identity, on the target of some router, finds a router. -/
theorem resolveRouter_known (hi : db.Intact) (hnone : call.identity = none)
    (hknown : ∃ r ∈ db.routers.rows, r.fallbackTarget = call.target)
    (h : resolveRouter call db = .ok (record, db')) :
    (∃ r ∈ db.routers.rows, r.id = record.id ∧ r.fallbackTarget = call.target) ∧
      ∀ x ∈ db'.routers.rows, ∃ r ∈ db.routers.rows, r.id = x.id := by
  obtain ⟨mid, hselect, hadopt⟩ := resolveRouter_ok h
  obtain ⟨_, hkeeps, _⟩ := adoptLegacyHistory_ok (hselect.intact hi) hselect.stored hadopt
  generalize record.id = id at hselect hadopt
  cases hselect with
  | found r hr hmatches =>
      rw [hnone] at hmatches
      refine ⟨⟨r, hr, rfl, hmatches⟩, ?_⟩
      intro x hx
      obtain ⟨y, hy, hid, _⟩ := hkeeps.routers x hx
      obtain ⟨z, hz, ⟨_, rfl⟩ | ⟨_, rfl⟩⟩ := TrafficDb.mem_updateRouter hy
      · exact ⟨y, hz, hid.symm⟩
      · exact ⟨z, hz, hid.symm⟩
  | upgraded identity hidentity hnew r hr htarget hnone' =>
      rw [hnone] at hidentity
      cases hidentity
  | inserted identitySource hnew =>
      rw [hnone] at hnew
      obtain ⟨r, hr, htarget⟩ := hknown
      exact absurd htarget (hnew r hr)

/-- Without a hardware identity the only router is found by its target, and the first one
is inserted. -/
theorem resolveRouter_only (call : RouterCall) {db : TrafficDb}
    (hidentity : call.identity = none) (hnamed : call.target.isEmpty = false)
    (honly : db.routers.rows = [] ∨
      ∃ old, db.routers.rows = [old] ∧ old.fallbackTarget = call.target) :
    ∃ router t, resolveRouter call db = .ok (router, { db with routers := t }) ∧
      t.rows = [router] ∧ router.fallbackTarget = call.target ∧
      ∀ old, db.routers.rows = [old] → router.id = old.id := by
  have hadopt : ∀ (router : RouterRecord) (t : Table RouterRecord), t.rows = [router] →
      adoptLegacyHistory router.id call.observedAtMs { db with routers := t } =
        .ok { db with routers := t } := by
    intro router t hrows
    have hnone : ¬ (router.fallbackTarget = legacyTarget ∧ router.id ≠ router.id) :=
      fun h => h.2 rfl
    unfold adoptLegacyHistory
    simp only [hrows, List.filter_cons, hnone, decide_false, List.filter_nil]
    rfl
  have hresolve : ∀ (router : RouterRecord) (t : Table RouterRecord), t.rows = [router] →
      selectRouter call db = .ok (router.id, { db with routers := t }) →
      resolveRouter call db = .ok (router, { db with routers := t }) := by
    intro router t hrows hselect
    have hfound : TrafficDb.routerById { db with routers := t } router.id = some router := by
      simp [TrafficDb.routerById, hrows]
    unfold resolveRouter
    rw [ensure_of hnamed, ok_bind, hselect, ok_bind]
    simp only [hadopt router t hrows, ok_bind, hfound]
    rfl
  rcases honly with hnone | ⟨old, hold, hsame⟩
  · have habsent : db.routerByFallbackTarget call.target = none := by
      simp [TrafficDb.routerByFallbackTarget, hnone]
    let router : RouterRecord :=
      ⟨db.routers.sequence + 1, call.internalUuid, call.identity, call.target, "fallback",
        call.observedAtMs, call.observedAtMs⟩
    refine ⟨router, ⟨[router], db.routers.sequence + 1⟩, hresolve router _ rfl ?_, rfl, rfl, ?_⟩
    · unfold selectRouter
      simp only [hidentity, habsent, insertNewRouter, hnone, List.not_mem_nil, false_implies,
        implies_true, ensure_of, ok_bind]
      simp [insertRouter, Table.insert, hnone, hidentity, router]
      rfl
    · intro old hold
      rw [hnone] at hold
      cases hold
  · have hfound : db.routerByFallbackTarget call.target = some old := by
      simp [TrafficDb.routerByFallbackTarget, hold, hsame]
    refine ⟨{ old with fallbackTarget := call.target, lastSeenAtMs := call.observedAtMs },
      ⟨[{ old with fallbackTarget := call.target, lastSeenAtMs := call.observedAtMs }],
        db.routers.sequence⟩, hresolve _ _ rfl ?_, rfl, rfl, ?_⟩
    · unfold selectRouter
      simp only [hidentity, hfound]
      simp [TrafficDb.updateRouter, Table.updateWhere, hold]
    · intro other hother
      rw [hold, List.cons.injEq] at hother
      rw [← hother.1]

/-! ## The adopted history -/

/-- The adoption of a legacy router, seen from before the call: its records are
where the relocation puts them and otherwise as they were, nothing refers to it
any more, every record belongs to an interface of its router, and the router has
the checkpoints that it had. -/
structure HistoryAdopted (r : Relocation) (db db' : TrafficDb) : Prop where
  moved : ∀ i, r.moved i = true
  samples : db'.trafficSamples.rows = db.trafficSamples.rows.map r.sample
  rollups : db'.trafficRollups.rows = db.trafficRollups.rows.map r.rollup
  gaps : db'.trafficGaps.rows = db.trafficGaps.rows.map r.gap
  placed : ∀ x ∈ db.routerInterfaces.rows, x.routerId = r.legacyRouterId →
    ∃ j ∈ db'.routerInterfaces.rows, j.id = r.place x.id ∧ j.routerId = r.routerId ∧
      j.interfaceKey = x.interfaceKey
  merged : ∀ x ∈ db.routerInterfaces.rows, x.routerId = r.legacyRouterId →
    ∀ t ∈ db.routerInterfaces.rows, t.routerId = r.routerId →
      t.interfaceKey = x.interfaceKey → r.place x.id = t.id
  routerGone : ∀ x ∈ db'.routers.rows, x.id ≠ r.legacyRouterId
  interfacesGone : ∀ i ∈ db'.routerInterfaces.rows, i.routerId ≠ r.legacyRouterId
  samplesGone : ∀ s ∈ db'.trafficSamples.rows, s.routerId ≠ r.legacyRouterId
  rollupsGone : ∀ x ∈ db'.trafficRollups.rows, x.routerId ≠ r.legacyRouterId
  gapsGone : ∀ g ∈ db'.trafficGaps.rows, g.routerId ≠ r.legacyRouterId
  checkpointsGone : ∀ c ∈ db'.counterCheckpoints, c.routerId ≠ r.legacyRouterId
  records : db'.Records
  checkpoints : ∀ k c, db.checkpointFor r.routerId k = some c →
    db'.checkpointFor r.routerId k = some c

theorem legacyRouterIds_eq (hi : db.Intact) (hapart : db.LegacyApart) {l : RouterRecord}
    (hl : l ∈ db.routers.rows) (hlegacy : l.fallbackTarget = legacyTarget) (hne : l.id ≠ id) :
    legacyRouterIds id db = [l.id] := by
  have hnodup : (legacyRouterIds id db).Nodup :=
    hi.registry.routers.nodup.sublist (List.filter_sublist.map _)
  have hall : ∀ k ∈ legacyRouterIds id db, k = l.id := by
    intro k hk
    obtain ⟨r, hr, htarget, _, hid⟩ := mem_legacyRouterIds.mp hk
    rw [← hid, hapart.single r hr l hl htarget hlegacy]
  have hmem : l.id ∈ legacyRouterIds id db := mem_legacyRouterIds.mpr ⟨l, hl, hlegacy, hne, rfl⟩
  cases hids : legacyRouterIds id db with
  | nil =>
      rw [hids] at hmem
      cases hmem
  | cons k rest =>
      rw [hids] at hall hnodup
      rw [hall k List.mem_cons_self]
      cases rest with
      | nil => rfl
      | cons k' rest' =>
          have hsame : k = k' := (hall k List.mem_cons_self).trans
            (hall k' (List.mem_cons_of_mem _ List.mem_cons_self)).symm
          rw [hsame] at hnodup
          exact absurd List.mem_cons_self (List.nodup_cons.mp hnodup).1

theorem resolveRouter_adopts (hi : db.Intact) (hapart : db.LegacyApart)
    (hcall : call.target ≠ legacyTarget) (h : resolveRouter call db = .ok (record, db'))
    {l : RouterRecord} (hl : l ∈ db.routers.rows) (hlegacy : l.fallbackTarget = legacyTarget) :
    ∃ place, HistoryAdopted ⟨record.id, l.id, fun _ => true, place⟩ db db' := by
  obtain ⟨mid, hselect, hadopt⟩ := resolveRouter_ok h
  have hmid := hselect.intact hi
  obtain ⟨hlmid, hne⟩ := hselect.keepsLegacy hi hapart hcall hl hlegacy
  have hids := legacyRouterIds_eq hmid (hselect.legacyApart hi hapart hcall) hlmid hlegacy hne
  unfold adoptLegacyHistory at hadopt
  rw [legacyRouterIds] at hids
  rw [hids] at hadopt
  obtain ⟨adopted, hrouter, hadopt⟩ := bind_eq_ok_iff.mp hadopt
  simp only [adoptRouters, Except.ok.injEq] at hadopt
  rw [hadopt] at hrouter
  obtain ⟨hdb', place, hadopted⟩ := adoptRouter_ok hmid (Ne.symm hne) hselect.stored hrouter
  have hframe := hselect.frame
  have hnone : ∀ i ∈ db'.routerInterfaces.rows, i.routerId ≠ l.id := by
    intro j hj hlegacyId
    obtain ⟨i, _, _, ⟨rfl, hother⟩ | hrouterId⟩ := hadopted.origin j hj
    · exact hother hlegacyId
    · exact hne (hlegacyId.symm.trans hrouterId)
  refine ⟨place, ?_⟩
  constructor
  · exact hadopted.moved
  · rw [hadopted.samples, hframe]
  · rw [hadopted.rollups, hframe]
  · rw [hadopted.gaps, hframe]
  · intro x hx
    rw [hframe] at hadopted
    exact hadopted.placed x hx
  · intro x hx
    rw [hframe] at hadopted
    exact hadopted.merged x hx
  · exact fun x hx => (hadopted.routers x hx).1
  · exact hnone
  · exact fun s hs => TrafficDb.Owns.ne_of_none hnone (hdb'.records.samples s hs)
  · exact fun x hx => TrafficDb.Owns.ne_of_none hnone (hdb'.records.rollups x hx)
  · intro g hg
    obtain ⟨i, _, howns⟩ := hdb'.records.gaps g hg
    exact TrafficDb.Owns.ne_of_none hnone howns
  · exact fun c hc => TrafficDb.Owns.ne_of_none hnone (hdb'.records.checkpoints c hc)
  · exact hdb'.records
  · intro k c hc
    apply hadopted.checkpoints
    rw [hframe]
    exact hc

/-! ## Runs -/

/-- The import registers at most the router of the imported history. -/
theorem importLegacyTraffic_routers {nowMs : Int} {legacy : LegacyTraffic}
    (himport : importLegacyTraffic nowMs legacy TrafficDb.empty = .ok db) :
    db.routers = TrafficDb.empty.routers ∨
      db.routers = (registerLegacyRouter nowMs TrafficDb.empty).routers := by
  unfold importLegacyTraffic at himport
  split at himport
  · simp only [pure_eq_ok, Except.ok.injEq] at himport
    rw [← himport]
    exact Or.inl rfl
  · obtain ⟨router, _, himport⟩ := bind_eq_ok_iff.mp himport
    obtain ⟨_, himport⟩ := ensure_bind_eq_ok_iff.mp himport
    simp only [pure_eq_ok, Except.ok.injEq] at himport
    right
    rw [← himport]
    let registered := fun db : TrafficDb =>
      db.routers = (registerLegacyRouter nowMs TrafficDb.empty).routers
    have hminute : ∀ db minute, registered db → registered (importMinute router.id db minute) := by
      intro db minute hdb
      unfold importMinute
      split
      · exact hdb
      · split <;> try split
        all_goals exact hdb
    have hpoint : ∀ db point, registered db → registered (importPoint router.id db point) := by
      intro db point hdb
      unfold importPoint
      split
      · exact hdb
      · dsimp only
        split <;> exact hdb
    have hinterface : ∀ db wanName, registered db →
        registered (registerLegacyInterface nowMs router.id db wanName) := by
      intro db wanName hdb
      unfold registerLegacyInterface
      split <;> exact hdb
    exact foldl_keeps registered hminute (foldl_keeps registered hpoint
      (foldl_keeps registered hinterface rfl _) _) _

/-- The routers of an import: that of the imported history, if any. -/
theorem importLegacyTraffic_mem {nowMs : Int} {legacy : LegacyTraffic}
    (himport : importLegacyTraffic nowMs legacy TrafficDb.empty = .ok db) {r : RouterRecord}
    (hr : r ∈ db.routers.rows) :
    r = ⟨1, "routerview-legacy-unidentified", none, legacyTarget, "legacy", nowMs, nowMs⟩ := by
  rcases importLegacyTraffic_routers himport with hrouters | hrouters
  · rw [hrouters] at hr
    cases hr
  · rw [hrouters] at hr
    exact List.mem_singleton.mp hr

theorem importLegacyTraffic_apart {nowMs : Int} {legacy : LegacyTraffic}
    (himport : importLegacyTraffic nowMs legacy TrafficDb.empty = .ok db) : db.LegacyApart := by
  constructor
  · intro r hr _
    rw [importLegacyTraffic_mem himport hr]
  · intro r hr r' hr' _ _
    rw [importLegacyTraffic_mem himport hr, importLegacyTraffic_mem himport hr']

/-- One write that spares the imported history. -/
theorem trafficStep_keeps {write : TrafficWrite} (hi : db.Intact) (hapart : db.LegacyApart)
    (hspares : write.SparesLegacy) :
    (trafficStep db write).LegacyApart ∧
      ∀ k identity, db.HasIdentity k identity → (trafficStep db write).HasIdentity k identity := by
  rcases trafficStep_routers write hi with ⟨call, rfl⟩ | hsame
  · cases hresolve : resolveRouter call db with
    | error e =>
        simp only [trafficStep, hresolve, committed]
        exact ⟨hapart, fun _ _ h => h⟩
    | ok result =>
        obtain ⟨record, db'⟩ := result
        simp only [trafficStep, hresolve, committed]
        obtain ⟨hapart', hidentities, _⟩ := resolveRouter_keeps hi hapart hspares hresolve
        exact ⟨hapart', hidentities⟩
  · refine ⟨hapart.congr hsame, ?_⟩
    rintro k identity ⟨r, hr, hid⟩
    exact ⟨r, hsame ▸ hr, hid⟩

theorem trafficRun_keeps {writes : List TrafficWrite} (hi : db.Intact) (hapart : db.LegacyApart)
    (hspares : ∀ write ∈ writes, write.SparesLegacy) :
    (run trafficStep db writes).LegacyApart ∧
      ∀ k identity, db.HasIdentity k identity →
        (run trafficStep db writes).HasIdentity k identity := by
  induction writes generalizing db with
  | nil => exact ⟨hapart, fun _ _ h => h⟩
  | cons write rest ih =>
      obtain ⟨hapart', hidentities⟩ :=
        trafficStep_keeps hi hapart (hspares write List.mem_cons_self)
      obtain ⟨hrest, hidentities'⟩ := ih (trafficStep_intact hi write) hapart'
        (fun w hw => hspares w (List.mem_cons_of_mem _ hw))
      exact ⟨hrest, fun k identity h => hidentities' k identity (hidentities k identity h)⟩

end

/-- In every run of writes from an import, with no call that names the router of
the imported history: a call that fails changes nothing; two calls with an
identity return the same router exactly when the identities are the same,
whatever is written between them; a call without an identity finds a router
whose target it names and creates none; and a call adopts the history of the
imported router. -/
theorem router_identity (nowMs : Int) (legacy : LegacyTraffic) (start : TrafficDb)
    (himport : importLegacyTraffic nowMs legacy TrafficDb.empty = .ok start)
    (before : List TrafficWrite) (hbefore : ∀ write ∈ before, write.SparesLegacy)
    (call : RouterCall) (hcall : call.target ≠ legacyTarget) :
    (∀ e, resolveRouter call (run trafficStep start before) = .error e →
      trafficStep (run trafficStep start before) (.resolveRouter call) =
        run trafficStep start before) ∧
    ∀ record db, resolveRouter call (run trafficStep start before) = .ok (record, db) →
      (∀ between : List TrafficWrite, (∀ write ∈ between, write.SparesLegacy) →
        ∀ (later : RouterCall) (laterRecord : RouterRecord) (laterDb : TrafficDb),
          later.target ≠ legacyTarget →
          resolveRouter later (run trafficStep db between) = .ok (laterRecord, laterDb) →
          ∀ identity laterIdentity, call.identity = some identity →
            later.identity = some laterIdentity →
              (record.id = laterRecord.id ↔ identity = laterIdentity)) ∧
      (call.identity = none →
        (∃ r ∈ (run trafficStep start before).routers.rows, r.fallbackTarget = call.target) →
          (∃ r ∈ (run trafficStep start before).routers.rows,
            r.id = record.id ∧ r.fallbackTarget = call.target) ∧
          ∀ x ∈ db.routers.rows, ∃ r ∈ (run trafficStep start before).routers.rows,
            r.id = x.id) ∧
      ∀ l ∈ (run trafficStep start before).routers.rows, l.fallbackTarget = legacyTarget →
        ∃ place, HistoryAdopted ⟨record.id, l.id, fun _ => true, place⟩
          (run trafficStep start before) db := by
  have hstart : start.Intact := importLegacyTraffic_intact TrafficDb.Intact.empty himport
  have hi := trafficRun_intact hstart before
  obtain ⟨hapart, _⟩ := trafficRun_keeps hstart (importLegacyTraffic_apart himport) hbefore
  refine ⟨?_, ?_⟩
  · intro e he
    simp only [trafficStep, he, committed]
  · intro record db h
    obtain ⟨hdbApart, _, hown⟩ := resolveRouter_keeps hi hapart hcall h
    have hdb : db.Intact := by
      have hstep := trafficStep_intact hi (.resolveRouter call)
      simp only [trafficStep, h, committed] at hstep
      exact hstep
    refine ⟨?_, ?_, ?_⟩
    · intro between hbetween later laterRecord laterDb hlater h' identity laterIdentity hidentity
        hlaterIdentity
      have hdb' := trafficRun_intact hdb between
      obtain ⟨hapart', hidentities⟩ := trafficRun_keeps hdb hdbApart hbetween
      obtain ⟨_, hkept, hown'⟩ := resolveRouter_keeps hdb' hapart' hlater h'
      have hlaterDb : laterDb.Intact := by
        have hstep := trafficStep_intact hdb' (.resolveRouter later)
        simp only [trafficStep, h', committed] at hstep
        exact hstep
      exact TrafficDb.HasIdentity.iff hlaterDb
        (hkept _ _ (hidentities _ _ (hown identity hidentity)))
        (hown' laterIdentity hlaterIdentity)
    · exact fun hnone hknown => resolveRouter_known hi hnone hknown h
    · exact fun l hl hlegacy => resolveRouter_adopts hi hapart hcall h hl hlegacy

/-- The store after the import of one legacy minute. -/
def importedMinute : TrafficDb :=
  stored (importLegacyTraffic 5 (legacyMinuteAt 0) TrafficDb.empty)

/-- The first call of a router. -/
def firstCall : RouterCall := ⟨"9c5f", some " HEX0815 ", "192.168.88.1", 7⟩

/-- The second call of the same router, under another address. -/
def secondCall : RouterCall := ⟨"77aa", some "HEX0815", "192.168.88.2", 9⟩

theorem router_identity_importedMinute :
    ∃ record db, resolveRouter firstCall importedMinute = .ok (record, db) ∧
      (∃ place, HistoryAdopted ⟨record.id, 1, fun _ => true, place⟩ importedMinute db) ∧
      ∃ laterRecord laterDb, resolveRouter secondCall db = .ok (laterRecord, laterDb) ∧
        (record.id = laterRecord.id ↔ "HEX0815" = "HEX0815") := by
  obtain ⟨⟨record, db⟩, hfirst⟩ : ∃ a, resolveRouter firstCall importedMinute = .ok a :=
    exists_ok_of_isSome (by decide +kernel)
  have hsome : ((resolveRouter firstCall importedMinute).bind
      (fun a => resolveRouter secondCall a.2)).toOption.isSome = true := by decide +kernel
  rw [hfirst] at hsome
  obtain ⟨⟨laterRecord, laterDb⟩, hsecond⟩ := exists_ok_of_isSome hsome
  obtain ⟨_, hlaws⟩ := router_identity 5 (legacyMinuteAt 0) importedMinute
    (eq_ok_stored (by decide +kernel)) [] (fun _ h => absurd h List.not_mem_nil) firstCall
    (by decide +kernel)
  obtain ⟨hidentity, _, hadopts⟩ := hlaws record db hfirst
  obtain ⟨l, hl, hid, hlegacy⟩ : ∃ l ∈ importedMinute.routers.rows,
      l.id = 1 ∧ l.fallbackTarget = legacyTarget := by decide +kernel
  have hadopted := hadopts l hl hlegacy
  rw [hid] at hadopted
  exact ⟨record, db, hfirst, hadopted, laterRecord, laterDb, hsecond,
    hidentity [] (fun _ h => absurd h List.not_mem_nil) secondCall laterRecord laterDb
      (by decide +kernel) hsecond "HEX0815" "HEX0815" (by decide +kernel) (by decide +kernel)⟩

end RouterView.Db
