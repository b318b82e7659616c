/-
  Db/Adoption.lean --- what the adoption of legacy history does to the tables.

  One interface of the legacy router moves at a time: its records go to the
  interface of the new router with the same key, or the interface itself goes.
  The loop is the composition of these moves, and when it is through nothing
  refers to the legacy router any more, so that its deletion takes nothing along.
-/
import RouterView.Db.Integrity

set_option autoImplicit false

namespace RouterView.Db

open RouterView.Foundation

/-! ## Moves of rows -/

/-- A sample after a move. -/
def Move.sample (move : Move) (s : TrafficSample) : TrafficSample :=
  if s.on move.legacyRouterId move.legacyInterfaceId then
    { s with routerId := move.routerId, interfaceId := move.interfaceId }
  else s

/-- A rollup after a move. -/
def Move.rollup (move : Move) (r : TrafficRollup) : TrafficRollup :=
  if r.on move.legacyRouterId move.legacyInterfaceId then
    { r with routerId := move.routerId, interfaceId := move.interfaceId }
  else r

/-- A gap after a move. -/
def Move.gap (move : Move) (g : TrafficGap) : TrafficGap :=
  if g.on move.legacyRouterId move.legacyInterfaceId then
    { g with routerId := move.routerId, interfaceId := some move.interfaceId }
  else g

/-- The move keeps the interface, which changes its router. -/
def Move.keepsInterface (move : Move) : Bool :=
  decide (move.interfaceId = move.legacyInterfaceId)

/-- A checkpoint after a move; that of a merged interface goes. -/
def Move.checkpoint (move : Move) (c : CounterCheckpoint) : Option CounterCheckpoint :=
  if c.on move.legacyRouterId move.legacyInterfaceId then
    if move.keepsInterface then some { c with routerId := move.routerId } else none
  else some c

/-- An interface after a move; a merged one goes. -/
def Move.interface (move : Move) (observedAtMs : Int) (i : RouterInterfaceRecord) :
    Option RouterInterfaceRecord :=
  if i.id = move.legacyInterfaceId then
    if move.keepsInterface then
      some { i with
        routerId := move.routerId
        lastSeenAtMs := max i.lastSeenAtMs observedAtMs }
    else none
  else some i

/-- The move of one interface with all its records. -/
structure AdoptedInterface (move : Move) (observedAtMs : Int) (db db' : TrafficDb) : Prop where
  routers : db'.routers = db.routers
  interfaces : db'.routerInterfaces =
    ⟨db.routerInterfaces.rows.filterMap (move.interface observedAtMs),
      db.routerInterfaces.sequence⟩
  samples : db'.trafficSamples =
    ⟨db.trafficSamples.rows.map move.sample, db.trafficSamples.sequence⟩
  rollups : db'.trafficRollups =
    ⟨db.trafficRollups.rows.map move.rollup, db.trafficRollups.sequence⟩
  checkpoints : db'.counterCheckpoints = db.counterCheckpoints.filterMap move.checkpoint
  gaps : db'.trafficGaps = ⟨db.trafficGaps.rows.map move.gap, db.trafficGaps.sequence⟩
  sampleKeys : db'.trafficSamples.rows.Pairwise (fun a b => ¬ a.sameKey b)
  gapKeys : db'.trafficGaps.rows.Pairwise (fun a b => ¬ a.sameKey b)

theorem updateUnique_ok {α : Type} {sameKey : α → α → Prop} [DecidableRel sameKey]
    {p : α → Bool} {f : α → α} {t t' : Table α} (h : updateUnique sameKey p f t = .ok t') :
    t' = ⟨t.rows.map (fun r => if p r then f r else r), t.sequence⟩ ∧
      t'.rows.Pairwise (fun a b => ¬ sameKey a b) := by
  unfold updateUnique at h
  obtain ⟨hunique, h⟩ := ensure_bind_eq_ok_iff.mp h
  simp only [pure_eq_ok, Except.ok.injEq] at h
  rw [← h]
  exact ⟨rfl, hunique⟩

/-- The three updates of the history tables. -/
structure MovedHistory (move : Move) (db db' : TrafficDb) : Prop where
  result : db' = { db with
    trafficSamples := ⟨db.trafficSamples.rows.map move.sample, db.trafficSamples.sequence⟩
    trafficRollups := ⟨db.trafficRollups.rows.map move.rollup, db.trafficRollups.sequence⟩
    trafficGaps := ⟨db.trafficGaps.rows.map move.gap, db.trafficGaps.sequence⟩ }
  sampleKeys : (db.trafficSamples.rows.map move.sample).Pairwise (fun a b => ¬ a.sameKey b)
  gapKeys : (db.trafficGaps.rows.map move.gap).Pairwise (fun a b => ¬ a.sameKey b)

theorem moveHistory_ok {move : Move} {db db' : TrafficDb} (h : moveHistory move db = .ok db') :
    MovedHistory move db db' := by
  unfold moveHistory at h
  obtain ⟨samples, hsamples, h⟩ := bind_eq_ok_iff.mp h
  obtain ⟨rollups, hrollups, h⟩ := bind_eq_ok_iff.mp h
  obtain ⟨gaps, hgaps, h⟩ := bind_eq_ok_iff.mp h
  simp only [pure_eq_ok, Except.ok.injEq] at h
  obtain ⟨rfl, hsampleKeys⟩ := updateUnique_ok hsamples
  obtain ⟨rfl, _⟩ := updateUnique_ok hrollups
  obtain ⟨rfl, hgapKeys⟩ := updateUnique_ok hgaps
  rw [← h]
  exact ⟨rfl, hsampleKeys, hgapKeys⟩

/-! ## One interface -/

section

variable {db db' : TrafficDb} {targetRouterId observedAtMs legacyRouterId : Int}
  {interface : RouterInterfaceRecord}

/-- A record of the moved interface belongs to the legacy router. -/
theorem TrafficDb.Intact.legacy_of_interface (h : db.Intact)
    (hinterface : interface ∈ db.routerInterfaces.rows)
    (hlegacy : interface.routerId = legacyRouterId) {routerId : Int}
    (howns : db.Owns routerId interface.id) : routerId = legacyRouterId :=
  h.registry.owner_eq howns ⟨interface, hinterface, rfl, hlegacy⟩

/-- When the interface is merged, its deletion finds no record of it any more. -/
theorem adoptInterface_merged (h : db.Intact) (hinterface : interface ∈ db.routerInterfaces.rows)
    (hlegacy : interface.routerId = legacyRouterId) {move : Move}
    (hmove : move.legacyRouterId = legacyRouterId ∧ move.legacyInterfaceId = interface.id)
    (hmerged : move.interfaceId ≠ interface.id) {moved : TrafficDb}
    (hmoved : MovedHistory move db moved) :
    AdoptedInterface move observedAtMs db
      (deleteInterface interface.id (dropCheckpoint legacyRouterId interface.id moved)) := by
  obtain ⟨hmoveRouter, hmoveInterface⟩ := hmove
  have hkeeps : move.keepsInterface = false := by
    simp only [Move.keepsInterface, hmoveInterface, decide_eq_false_iff_not]
    exact hmerged
  have hsamples : (db.trafficSamples.rows.map move.sample).filter
      (fun s => !decide (s.interfaceId = interface.id)) = db.trafficSamples.rows.map move.sample := by
    rw [List.filter_eq_self]
    intro x hx
    obtain ⟨s, hs, rfl⟩ := List.mem_map.mp hx
    unfold Move.sample
    split
    · simpa using hmerged
    · rename_i hother
      have hne : s.interfaceId ≠ interface.id := by
        intro hid
        have howner := h.legacy_of_interface hinterface hlegacy (hid ▸ h.records.samples s hs)
        apply hother
        simp [TrafficSampleInput.on, howner, hid, hmoveRouter, hmoveInterface]
      simpa using hne
  have hrollups : (db.trafficRollups.rows.map move.rollup).filter
      (fun r => !decide (r.interfaceId = interface.id)) =
      db.trafficRollups.rows.map move.rollup := by
    rw [List.filter_eq_self]
    intro x hx
    obtain ⟨r, hr, rfl⟩ := List.mem_map.mp hx
    unfold Move.rollup
    split
    · simpa using hmerged
    · rename_i hother
      have hne : r.interfaceId ≠ interface.id := by
        intro hid
        have howner := h.legacy_of_interface hinterface hlegacy (hid ▸ h.records.rollups r hr)
        apply hother
        simp [TrafficRollup.on, howner, hid, hmoveRouter, hmoveInterface]
      simpa using hne
  have hgaps : (db.trafficGaps.rows.map move.gap).filter
      (fun g => !decide (g.interfaceId = some interface.id)) = db.trafficGaps.rows.map move.gap := by
    rw [List.filter_eq_self]
    intro x hx
    obtain ⟨g, hg, rfl⟩ := List.mem_map.mp hx
    unfold Move.gap
    split
    · simpa using hmerged
    · rename_i hother
      have hne : g.interfaceId ≠ some interface.id := by
        intro hid
        obtain ⟨i, hi, howns⟩ := h.records.gaps g hg
        rw [hid, Option.some.injEq] at hi
        have howner := h.legacy_of_interface hinterface hlegacy (hi ▸ howns)
        apply hother
        simp [TrafficGapInput.on, howner, hid, hmoveRouter, hmoveInterface]
      simpa using hne
  have hinterfaces : db.routerInterfaces.rows.filter (fun i => !decide (i.id = interface.id)) =
      db.routerInterfaces.rows.filterMap (move.interface observedAtMs) := by
    rw [← List.filterMap_eq_filter]
    congr 1
    funext i
    by_cases hid : i.id = interface.id <;>
      simp [Option.guard, Move.interface, hid, hmoveInterface, hkeeps]
  have hcheckpoints : (db.counterCheckpoints.filter
      (fun c => !c.on legacyRouterId interface.id)).filter
        (fun c => !decide (c.interfaceId = interface.id)) =
      db.counterCheckpoints.filterMap move.checkpoint := by
    rw [List.filter_filter, ← List.filterMap_eq_filter]
    apply List.filterMap_congr
    intro c hc
    by_cases hid : c.interfaceId = interface.id
    · have howner := h.legacy_of_interface hinterface hlegacy (hid ▸ h.records.checkpoints c hc)
      simp [Option.guard, Move.checkpoint, CounterCheckpoint.on, hid, howner, hmoveRouter,
        hmoveInterface, hkeeps]
    · simp [Option.guard, Move.checkpoint, CounterCheckpoint.on, hid, hmoveInterface]
  rw [hmoved.result]
  simp only [deleteInterface, dropCheckpoint, Table.deleteWhere]
  rw [hsamples, hrollups, hgaps, hinterfaces, hcheckpoints]
  exact ⟨rfl, rfl, rfl, rfl, rfl, rfl, hmoved.sampleKeys, hmoved.gapKeys⟩

/-- When the interface itself goes, its checkpoint goes with it. -/
theorem moveCheckpoint_ok {move : Move} (hkeeps : move.keepsInterface = true)
    (h : moveCheckpoint move db = .ok db') :
    db' = { db with
      counterCheckpoints := db.counterCheckpoints.filterMap move.checkpoint } := by
  unfold moveCheckpoint at h
  obtain ⟨_, h⟩ := ensure_bind_eq_ok_iff.mp h
  simp only [pure_eq_ok, Except.ok.injEq] at h
  rw [← h, ← List.filterMap_eq_map]
  congr 2
  funext c
  simp only [Function.comp_apply, Move.checkpoint, hkeeps, if_true]
  split <;> rfl

/-- Where the records of an interface go: to the interface of the router with
the same key, if there is one. -/
def adoptionMove (db : TrafficDb) (targetRouterId legacyRouterId : Int)
    (interface : RouterInterfaceRecord) : Move :=
  ⟨targetRouterId,
    ((db.interfaceByKey targetRouterId interface.interfaceKey).map (fun t => t.id)).getD
      interface.id,
    legacyRouterId, interface.id⟩

theorem adoptInterface_ok (h : db.Intact) (hinterface : interface ∈ db.routerInterfaces.rows)
    (hlegacy : interface.routerId = legacyRouterId) (hne : targetRouterId ≠ legacyRouterId)
    (hadopt : adoptInterface targetRouterId observedAtMs legacyRouterId interface db = .ok db') :
    AdoptedInterface (adoptionMove db targetRouterId legacyRouterId interface) observedAtMs
      db db' := by
  unfold adoptInterface at hadopt
  cases hfind : db.interfaceByKey targetRouterId interface.interfaceKey with
  | some target =>
      rw [hfind] at hadopt
      obtain ⟨moved, hmoved, hadopt⟩ := bind_eq_ok_iff.mp hadopt
      simp only [pure_eq_ok, Except.ok.injEq] at hadopt
      have hkeyed := List.find?_some hfind
      simp only [RouterInterfaceRecord.keyed, decide_eq_true_eq] at hkeyed
      have hother : target.id ≠ interface.id := by
        intro hid
        have hsame := h.registry.interfaces.identifiers target (List.mem_of_find?_eq_some hfind)
          interface hinterface hid
        rw [hsame] at hkeyed
        exact hne (hkeyed.1.symm.trans hlegacy)
      rw [← hadopt]
      have hmove : adoptionMove db targetRouterId legacyRouterId interface =
          ⟨targetRouterId, target.id, legacyRouterId, interface.id⟩ := by
        simp [adoptionMove, hfind]
      rw [hmove]
      exact adoptInterface_merged h hinterface hlegacy ⟨rfl, rfl⟩ hother (moveHistory_ok hmoved)
  | none =>
      rw [hfind] at hadopt
      obtain ⟨moved, hmoved, hadopt⟩ := bind_eq_ok_iff.mp hadopt
      have hmove : adoptionMove db targetRouterId legacyRouterId interface =
          ⟨targetRouterId, interface.id, legacyRouterId, interface.id⟩ := by
        simp [adoptionMove, hfind]
      rw [hmove]
      have hkeeps : Move.keepsInterface
          ⟨targetRouterId, interface.id, legacyRouterId, interface.id⟩ = true := by
        simp [Move.keepsInterface]
      have hmoved := moveHistory_ok hmoved
      have hresult := moveCheckpoint_ok hkeeps hadopt
      rw [hmoved.result] at hresult
      rw [hresult]
      refine ⟨rfl, ?_, rfl, rfl, rfl, rfl, hmoved.sampleKeys, hmoved.gapKeys⟩
      simp only [Table.updateWhere]
      rw [← List.filterMap_eq_map]
      congr 2
      funext i
      simp only [Function.comp_apply, Move.interface, hkeeps, if_true, decide_eq_true_eq]
      split <;> rfl

/-! ## The constraints after a move -/

/-- A unique key, from the check of the statement. -/
theorem unique_of_pairwise {α : Type} {sameKey : α → α → Prop}
    (hsymm : ∀ {a b}, sameKey a b → sameKey b a) {l : List α}
    (h : l.Pairwise (fun a b => ¬ sameKey a b)) :
    ∀ a ∈ l, ∀ b ∈ l, sameKey a b → a = b := by
  intro a ha b hb hsame
  by_contra hne
  rcases Table.pairwise_either h ha hb hne with hnot | hnot
  · exact hnot hsame
  · exact hnot (hsymm hsame)

/-- Rows that keep their identifiers. -/
theorem keyed_map {α : Type} {key : α → Int} {t : Table α} (h : t.Keyed key) {f : α → α}
    (hf : ∀ r, key (f r) = key r) : Table.Keyed key ⟨t.rows.map f, t.sequence⟩ where
  nodup := by
    rw [List.map_map]
    have hsame : key ∘ f = key := funext hf
    rw [hsame]
    exact h.nodup
  issued := by
    intro r hr
    obtain ⟨old, hold, rfl⟩ := List.mem_map.mp hr
    rw [hf]
    exact h.issued old hold

/-- Rows that keep their identifiers, when they are kept. -/
theorem keyed_filterMap {α : Type} {key : α → Int} {t : Table α} (h : t.Keyed key)
    {f : α → Option α} (hf : ∀ r r', f r = some r' → key r' = key r) :
    Table.Keyed key ⟨t.rows.filterMap f, t.sequence⟩ where
  nodup := by
    have hmap : ∀ l : List α, ((l.filterMap f).map key).Sublist (l.map key) := by
      intro l
      induction l with
      | nil => exact List.Sublist.slnil
      | cons r rest ih =>
          cases hr : f r with
          | none =>
              rw [List.filterMap_cons_none hr]
              exact ih.cons _
          | some r' =>
              rw [List.filterMap_cons_some hr, List.map_cons, List.map_cons, hf r r' hr]
              exact ih.cons_cons _
    exact h.nodup.sublist (hmap t.rows)
  issued := by
    intro r' hr'
    obtain ⟨r, hr, hrr'⟩ := List.mem_filterMap.mp hr'
    rw [hf r r' hrr']
    exact h.issued r hr

theorem Move.sample_id (move : Move) (s : TrafficSample) : (move.sample s).id = s.id := by
  unfold Move.sample
  split <;> rfl

theorem Move.gap_id (move : Move) (g : TrafficGap) : (move.gap g).id = g.id := by
  unfold Move.gap
  split <;> rfl

theorem Move.interface_eq_some {move : Move} {i j : RouterInterfaceRecord}
    (h : move.interface observedAtMs i = some j) :
    j.id = i.id ∧ j.interfaceKey = i.interfaceKey ∧
      ((i.id ≠ move.legacyInterfaceId ∧ j = i) ∨
        (i.id = move.legacyInterfaceId ∧ move.interfaceId = move.legacyInterfaceId ∧
          j.routerId = move.routerId)) := by
  unfold Move.interface at h
  split at h
  · rename_i hid
    split at h
    · rename_i hkeeps
      simp only [Move.keepsInterface, decide_eq_true_eq] at hkeeps
      rw [Option.some.injEq] at h
      rw [← h]
      exact ⟨rfl, rfl, Or.inr ⟨hid, hkeeps, rfl⟩⟩
    · cases h
  · rename_i hid
    rw [Option.some.injEq] at h
    rw [← h]
    exact ⟨rfl, rfl, Or.inl ⟨hid, rfl⟩⟩

/-- What a move is made of: an interface of the legacy router, and the interface
of the other router with its key, unless there is none. -/
structure ProperMove (move : Move) (db : TrafficDb) (interface : RouterInterfaceRecord) :
    Prop where
  stored : interface ∈ db.routerInterfaces.rows
  legacyInterface : move.legacyInterfaceId = interface.id
  legacyRouter : interface.routerId = move.legacyRouterId
  routers : move.routerId ≠ move.legacyRouterId
  target : (∃ t ∈ db.routerInterfaces.rows, t.routerId = move.routerId ∧
      t.interfaceKey = interface.interfaceKey ∧ move.interfaceId = t.id) ∨
    ((∀ t ∈ db.routerInterfaces.rows,
      ¬ (t.routerId = move.routerId ∧ t.interfaceKey = interface.interfaceKey)) ∧
      move.interfaceId = interface.id)

theorem adoptionMove_proper (hinterface : interface ∈ db.routerInterfaces.rows)
    (hlegacy : interface.routerId = legacyRouterId) (hne : targetRouterId ≠ legacyRouterId) :
    ProperMove (adoptionMove db targetRouterId legacyRouterId interface) db interface := by
  refine ⟨hinterface, rfl, hlegacy, hne, ?_⟩
  cases hfind : db.interfaceByKey targetRouterId interface.interfaceKey with
  | some target =>
      have hkeyed := List.find?_some hfind
      simp only [RouterInterfaceRecord.keyed, decide_eq_true_eq] at hkeyed
      exact Or.inl ⟨target, List.mem_of_find?_eq_some hfind, hkeyed.1, hkeyed.2,
        by simp [adoptionMove, hfind]⟩
  | none =>
      exact Or.inr ⟨TrafficDb.interfaceByKey_eq_none hfind, by simp [adoptionMove, hfind]⟩

/-- The interfaces of the new table: the old ones, but for the moved one. -/
theorem AdoptedInterface.mem_interfaces {move : Move}
    (h : AdoptedInterface move observedAtMs db db') {j : RouterInterfaceRecord}
    (hj : j ∈ db'.routerInterfaces.rows) :
    ∃ i ∈ db.routerInterfaces.rows, j.id = i.id ∧ j.interfaceKey = i.interfaceKey ∧
      ((i.id ≠ move.legacyInterfaceId ∧ j = i) ∨
        (i.id = move.legacyInterfaceId ∧ move.interfaceId = move.legacyInterfaceId ∧
          j.routerId = move.routerId)) := by
  rw [h.interfaces] at hj
  obtain ⟨i, hi, hij⟩ := List.mem_filterMap.mp hj
  exact ⟨i, hi, Move.interface_eq_some hij⟩

/-- Another interface stays. -/
theorem AdoptedInterface.keeps {move : Move} (h : AdoptedInterface move observedAtMs db db')
    {i : RouterInterfaceRecord} (hi : i ∈ db.routerInterfaces.rows)
    (hne : i.id ≠ move.legacyInterfaceId) : i ∈ db'.routerInterfaces.rows := by
  rw [h.interfaces]
  refine List.mem_filterMap.mpr ⟨i, hi, ?_⟩
  rw [Move.interface, if_neg hne]

/-- The place that the records went to is an interface of the router. -/
theorem AdoptedInterface.placed {move : Move} (h : AdoptedInterface move observedAtMs db db')
    (hregistry : db.Registry) (hproper : ProperMove move db interface) :
    ∃ j ∈ db'.routerInterfaces.rows, j.id = move.interfaceId ∧ j.routerId = move.routerId ∧
      j.interfaceKey = interface.interfaceKey := by
  rcases hproper.target with ⟨t, ht, hrouter, hkey, hid⟩ | ⟨_, hid⟩
  · have hother : t.id ≠ move.legacyInterfaceId := by
      intro hsame
      have hinterface := hregistry.interfaces.identifiers t ht interface hproper.stored
        (hsame.trans hproper.legacyInterface)
      rw [hinterface, hproper.legacyRouter] at hrouter
      exact hproper.routers hrouter.symm
    exact ⟨t, h.keeps ht hother, hid.symm, hrouter, hkey⟩
  · refine ⟨{ interface with
      routerId := move.routerId
      lastSeenAtMs := max interface.lastSeenAtMs observedAtMs }, ?_, hid.symm, rfl, rfl⟩
    rw [h.interfaces]
    refine List.mem_filterMap.mpr ⟨interface, hproper.stored, ?_⟩
    rw [Move.interface, if_pos hproper.legacyInterface.symm, Move.keepsInterface, if_pos]
    rw [decide_eq_true_eq, hid, hproper.legacyInterface]

/-- The owner of a record after a move. -/
theorem AdoptedInterface.owns {move : Move} (h : AdoptedInterface move observedAtMs db db')
    (hregistry : db.Registry) (hproper : ProperMove move db interface) {r i : Int}
    (howns : db.Owns r i) :
    if r = move.legacyRouterId ∧ i = move.legacyInterfaceId
    then db'.Owns move.routerId move.interfaceId else db'.Owns r i := by
  obtain ⟨x, hx, hid, hr⟩ := howns
  split
  · obtain ⟨j, hj, hjid, hjr, _⟩ := h.placed hregistry hproper
    exact ⟨j, hj, hjid, hjr⟩
  · rename_i hother
    have hne : x.id ≠ move.legacyInterfaceId := by
      intro hsame
      have hinterface := hregistry.interfaces.identifiers x hx interface hproper.stored
        (hsame.trans hproper.legacyInterface)
      apply hother
      refine ⟨?_, hid.symm.trans hsame⟩
      rw [← hr, hinterface, hproper.legacyRouter]
    exact ⟨x, h.keeps hx hne, hid, hr⟩

/-- The interfaces after a move are as their keys make them. -/
theorem AdoptedInterface.registry {move : Move} (h : AdoptedInterface move observedAtMs db db')
    (hregistry : db.Registry) (hproper : ProperMove move db interface)
    (htarget : ∃ r ∈ db.routers.rows, r.id = move.routerId) : db'.Registry where
  routers := h.routers ▸ hregistry.routers
  identities := h.routers ▸ hregistry.identities
  interfaceIds := by
    rw [h.interfaces]
    exact keyed_filterMap hregistry.interfaceIds (fun _ _ h => (Move.interface_eq_some h).1)
  interfaces := by
    refine ⟨?_, ?_, ?_⟩
    · intro j hj
      obtain ⟨i, hi, hid, _⟩ := h.mem_interfaces hj
      rw [hid, h.interfaces]
      exact hregistry.interfaces.issued i hi
    · intro j hj k hk hjk
      rw [h.interfaces] at hj hk
      obtain ⟨x, hx, hxj⟩ := List.mem_filterMap.mp hj
      obtain ⟨y, hy, hyk⟩ := List.mem_filterMap.mp hk
      have hxy : x = y := hregistry.interfaces.identifiers x hx y hy
        ((Move.interface_eq_some hxj).1.symm.trans (hjk.trans (Move.interface_eq_some hyk).1))
      rw [hxy, hyk, Option.some.injEq] at hxj
      exact hxj.symm
    · intro j hj k hk hrouter hkey
      rw [h.interfaces] at hj hk
      obtain ⟨x, hx, hxj⟩ := List.mem_filterMap.mp hj
      obtain ⟨y, hy, hyk⟩ := List.mem_filterMap.mp hk
      obtain ⟨_, hxkey, hxcase⟩ := Move.interface_eq_some hxj
      obtain ⟨_, hykey, hycase⟩ := Move.interface_eq_some hyk
      have hxy : x = y := by
        have hkeys : x.interfaceKey = y.interfaceKey := hxkey.symm.trans (hkey.trans hykey)
        have hmoved : ∀ z : RouterInterfaceRecord, z ∈ db.routerInterfaces.rows →
            z.id = move.legacyInterfaceId → z = interface := fun z hz hid =>
          hregistry.interfaces.identifiers z hz interface hproper.stored
            (hid.trans hproper.legacyInterface)
        -- an interface moves only where no other one has its key
        have hfresh : move.interfaceId = move.legacyInterfaceId →
            ∀ z ∈ db.routerInterfaces.rows, z.id ≠ move.legacyInterfaceId →
              z.routerId = move.routerId → z.interfaceKey ≠ interface.interfaceKey := by
          intro hkept z hz hne hzr hzk
          rcases hproper.target with ⟨t, ht, htr, htk, hid⟩ | ⟨hnone, _⟩
          · have hzt := hregistry.interfaces.keys z hz t ht (hzr.trans htr.symm)
              (hzk.trans htk.symm)
            exact hne (by rw [hzt, ← hid, hkept])
          · exact hnone z hz ⟨hzr, hzk⟩
        rcases hxcase with ⟨hxne, rfl⟩ | ⟨hxid, hkept, hjr⟩ <;>
          rcases hycase with ⟨hyne, rfl⟩ | ⟨hyid, hkept', hkr⟩
        · exact hregistry.interfaces.keys j hx k hy hrouter hkeys
        · exact absurd (hkeys.trans (by rw [hmoved y hy hyid]))
            (hfresh hkept' j hx hxne (hrouter.trans hkr))
        · exact absurd (hkeys.symm.trans (by rw [hmoved x hx hxid]))
            (hfresh hkept k hy hyne (hrouter.symm.trans hjr))
        · rw [hmoved x hx hxid, hmoved y hy hyid]
      rw [hxy, hyk, Option.some.injEq] at hxj
      exact hxj.symm
  parents := by
    intro j hj
    rw [h.routers]
    obtain ⟨i, hi, _, _, ⟨_, rfl⟩ | ⟨_, _, hr⟩⟩ := h.mem_interfaces hj
    · exact hregistry.parents j hi
    · rw [hr]
      exact htarget

theorem AdoptedInterface.intact {move : Move} (h : AdoptedInterface move observedAtMs db db')
    (hi : db.Intact) (hproper : ProperMove move db interface)
    (htarget : ∃ r ∈ db.routers.rows, r.id = move.routerId) : db'.Intact where
  registry := h.registry hi.registry hproper htarget
  records := {
    sampleIds := by
      rw [h.samples]
      exact keyed_map hi.records.sampleIds move.sample_id
    sampleKeys := unique_of_pairwise TrafficSample.sameKey_symm h.sampleKeys
    samples := by
      intro x hx
      rw [h.samples] at hx
      obtain ⟨s, hs, rfl⟩ := List.mem_map.mp hx
      have howns := h.owns hi.registry hproper (hi.records.samples s hs)
      simp only [Move.sample, TrafficSampleInput.on, decide_eq_true_eq]
      split
      · rename_i hmoved
        rwa [if_pos hmoved] at howns
      · rename_i hstays
        rwa [if_neg hstays] at howns
    rollups := by
      intro x hx
      rw [h.rollups] at hx
      obtain ⟨r, hr, rfl⟩ := List.mem_map.mp hx
      have howns := h.owns hi.registry hproper (hi.records.rollups r hr)
      simp only [Move.rollup, TrafficRollup.on, decide_eq_true_eq]
      split
      · rename_i hmoved
        rwa [if_pos hmoved] at howns
      · rename_i hstays
        rwa [if_neg hstays] at howns
    checkpoints := by
      intro x hx
      rw [h.checkpoints] at hx
      obtain ⟨c, hc, hcx⟩ := List.mem_filterMap.mp hx
      have howns := h.owns hi.registry hproper (hi.records.checkpoints c hc)
      simp only [Move.checkpoint, CounterCheckpoint.on, decide_eq_true_eq] at hcx
      split at hcx
      · rename_i hmoved
        rw [if_pos hmoved] at howns
        split at hcx
        · rename_i hkeeps
          simp only [Move.keepsInterface, decide_eq_true_eq] at hkeeps
          rw [Option.some.injEq] at hcx
          rw [← hcx, hmoved.2, ← hkeeps]
          exact howns
        · cases hcx
      · rename_i hstays
        rw [if_neg hstays] at howns
        rw [Option.some.injEq] at hcx
        rwa [← hcx]
    gapIds := by
      rw [h.gaps]
      exact keyed_map hi.records.gapIds move.gap_id
    gapKeys := unique_of_pairwise TrafficGap.sameKey_symm h.gapKeys
    gaps := by
      intro x hx
      rw [h.gaps] at hx
      obtain ⟨g, hg, rfl⟩ := List.mem_map.mp hx
      obtain ⟨i, hinterface, hg⟩ := hi.records.gaps g hg
      have howns := h.owns hi.registry hproper hg
      simp only [Move.gap, TrafficGapInput.on, decide_eq_true_eq]
      split
      · rename_i hmoved
        rw [hinterface, Option.some.injEq] at hmoved
        rw [if_pos hmoved] at howns
        exact ⟨move.interfaceId, rfl, howns⟩
      · rename_i hstays
        rw [hinterface, Option.some.injEq] at hstays
        rw [if_neg hstays] at howns
        exact ⟨i, hinterface, howns⟩ }

/-! ## Checkpoints after a move -/

/-- A search after an update that neither hides nor invents what is searched. -/
theorem find?_filterMap {α β : Type} {f : α → Option α} {p : α → Bool} (g : α → β)
    (hkeeps : ∀ a, p a = true → ∃ b, f a = some b ∧ p b = true ∧ g b = g a)
    (hother : ∀ a b, p a = false → f a = some b → p b = false) (l : List α) :
    ((l.filterMap f).find? p).map g = (l.find? p).map g := by
  induction l with
  | nil => rfl
  | cons a rest ih =>
      cases hp : p a with
      | true =>
          obtain ⟨b, hb, hpb, hg⟩ := hkeeps a hp
          rw [List.filterMap_cons_some hb, List.find?_cons_of_pos hpb, List.find?_cons_of_pos hp,
            Option.map_some, Option.map_some, hg]
      | false =>
          rw [List.find?_cons_of_neg (by simp [hp])]
          cases hf : f a with
          | none => rw [List.filterMap_cons_none hf, ih]
          | some b =>
              rw [List.filterMap_cons_some hf,
                List.find?_cons_of_neg (by simp [hother a b hp hf]), ih]

/-- What a checkpoint says about its interface. -/
structure Counters where
  rxCounter : String
  txCounter : String
  observedAtMs : Int
  rebootMarker : Option String
  deriving DecidableEq, Repr

/-- The counters of a checkpoint. -/
def CounterCheckpoint.counters (c : CounterCheckpoint) : Counters :=
  ⟨c.rxCounter, c.txCounter, c.observedAtMs, c.rebootMarker⟩

/-- The counters of the interface, whatever router it belongs to. -/
def TrafficDb.countersOn (db : TrafficDb) (interfaceId : Int) : Option Counters :=
  (db.counterCheckpoints.find? (fun c => decide (c.interfaceId = interfaceId))).map
    (fun c => c.counters)

theorem Move.checkpoint_eq_some {move : Move} {c d : CounterCheckpoint}
    (h : move.checkpoint c = some d) :
    d.interfaceId = c.interfaceId ∧ (d = c ∨ c.interfaceId = move.legacyInterfaceId) := by
  simp only [Move.checkpoint, CounterCheckpoint.on, decide_eq_true_eq] at h
  split at h
  · rename_i hmoved
    split at h
    · rw [Option.some.injEq] at h
      rw [← h]
      exact ⟨rfl, Or.inr hmoved.2⟩
    · cases h
  · rw [Option.some.injEq] at h
    exact ⟨by rw [h], Or.inl h.symm⟩

/-- An interface that is left keeps the counters of its checkpoint. -/
theorem AdoptedInterface.counters {move : Move} (h : AdoptedInterface move observedAtMs db db')
    {j : RouterInterfaceRecord} (hj : j ∈ db'.routerInterfaces.rows) :
    db'.countersOn j.id = db.countersOn j.id := by
  unfold TrafficDb.countersOn
  rw [h.checkpoints]
  apply find?_filterMap
  · intro c hc
    rw [decide_eq_true_eq] at hc
    have hkept : c.interfaceId = move.legacyInterfaceId → move.keepsInterface = true := by
      intro hlegacy
      obtain ⟨i, _, hid, _, ⟨hne, _⟩ | ⟨_, hkeeps, _⟩⟩ := h.mem_interfaces hj
      · exact absurd (by rw [← hid, ← hc, hlegacy]) hne
      · rw [Move.keepsInterface, decide_eq_true_eq]
        exact hkeeps
    simp only [Move.checkpoint, CounterCheckpoint.on, decide_eq_true_eq]
    split
    · rename_i hmoved
      rw [if_pos (hkept hmoved.2)]
      exact ⟨_, rfl, hc, rfl⟩
    · exact ⟨c, rfl, hc, rfl⟩
  · intro c d hc hd
    rw [decide_eq_false_iff_not] at hc ⊢
    rw [(Move.checkpoint_eq_some hd).1]
    exact hc

/-- The checkpoints of the router itself stay. -/
theorem AdoptedInterface.checkpointFor {move : Move}
    (h : AdoptedInterface move observedAtMs db db') (hi : db.Intact)
    (hproper : ProperMove move db interface) {k : Int} {c : CounterCheckpoint}
    (hc : db.checkpointFor move.routerId k = some c) :
    db'.checkpointFor move.routerId k = some c := by
  have hkey := TrafficDb.checkpointFor_key hc
  have hne : k ≠ move.legacyInterfaceId := by
    intro hk
    have howns := hi.records.checkpoints c (List.mem_of_find?_eq_some hc)
    rw [hkey.1, hkey.2, hk] at howns
    exact hproper.routers (hi.registry.owner_eq howns
      ⟨interface, hproper.stored, hproper.legacyInterface.symm, hproper.legacyRouter⟩)
  have hsame : (db'.checkpointFor move.routerId k).map id =
      (db.checkpointFor move.routerId k).map id := by
    unfold TrafficDb.checkpointFor
    rw [h.checkpoints]
    apply find?_filterMap
    · intro d hd
      rw [decide_eq_true_eq] at hd
      refine ⟨d, ?_, by rw [decide_eq_true_eq]; exact hd, rfl⟩
      simp only [Move.checkpoint, CounterCheckpoint.on, decide_eq_true_eq]
      rw [if_neg]
      exact fun hmoved => hne (hd.2.symm.trans hmoved.2)
    · intro d e hd he
      rw [decide_eq_false_iff_not] at hd ⊢
      obtain ⟨hid, hcase | hlegacy⟩ := Move.checkpoint_eq_some he
      · rw [hcase]
        exact hd
      · exact fun hkeyed => hne (hkeyed.2.symm.trans (hid.trans hlegacy))
  simp only [Option.map_id_fun, id_eq] at hsame
  rw [hsame, hc]

end

/-! ## All interfaces of a router -/

/-- Where the records of a legacy router go: which of its interfaces have moved,
and to which interface of the other router. -/
structure Relocation where
  routerId : Int
  legacyRouterId : Int
  moved : Int → Bool
  place : Int → Int

/-- A sample after a relocation. -/
def Relocation.sample (r : Relocation) (s : TrafficSample) : TrafficSample :=
  if s.routerId = r.legacyRouterId ∧ r.moved s.interfaceId = true then
    { s with routerId := r.routerId, interfaceId := r.place s.interfaceId }
  else s

/-- A rollup after a relocation. -/
def Relocation.rollup (r : Relocation) (x : TrafficRollup) : TrafficRollup :=
  if x.routerId = r.legacyRouterId ∧ r.moved x.interfaceId = true then
    { x with routerId := r.routerId, interfaceId := r.place x.interfaceId }
  else x

/-- A gap after a relocation. -/
def Relocation.gap (r : Relocation) (g : TrafficGap) : TrafficGap :=
  if g.routerId = r.legacyRouterId ∧ g.interfaceId.any r.moved = true then
    { g with routerId := r.routerId, interfaceId := g.interfaceId.map r.place }
  else g

/-- One more move before a relocation. -/
def Relocation.after (r : Relocation) (move : Move) : Relocation where
  routerId := r.routerId
  legacyRouterId := r.legacyRouterId
  moved := fun i => decide (i = move.legacyInterfaceId) || r.moved i
  place := fun i => if i = move.legacyInterfaceId then move.interfaceId else r.place i

/-- A relocation of the interfaces of a list. -/
structure Relocated (r : Relocation) (xs : List RouterInterfaceRecord) (db db' : TrafficDb) :
    Prop where
  moved : ∀ i, r.moved i = true ↔ ∃ x ∈ xs, x.id = i
  routers : db'.routers = db.routers
  sequence : db'.routerInterfaces.sequence = db.routerInterfaces.sequence
  samples : db'.trafficSamples.rows = db.trafficSamples.rows.map r.sample
  rollups : db'.trafficRollups.rows = db.trafficRollups.rows.map r.rollup
  rollupSequence : db'.trafficRollups.sequence = db.trafficRollups.sequence
  gaps : db'.trafficGaps.rows = db.trafficGaps.rows.map r.gap
  origin : ∀ j ∈ db'.routerInterfaces.rows, ∃ i ∈ db.routerInterfaces.rows, j.id = i.id ∧
    (j = i ∧ r.moved i.id = false ∨ j.routerId = r.routerId)
  keeps : ∀ i ∈ db.routerInterfaces.rows, r.moved i.id = false → i ∈ db'.routerInterfaces.rows
  placed : ∀ x ∈ xs, ∃ j ∈ db'.routerInterfaces.rows, j.id = r.place x.id ∧
    j.routerId = r.routerId ∧ j.interfaceKey = x.interfaceKey
  merged : ∀ x ∈ xs, ∀ t ∈ db.routerInterfaces.rows, t.routerId = r.routerId →
    t.interfaceKey = x.interfaceKey → r.place x.id = t.id
  counters : ∀ j ∈ db'.routerInterfaces.rows, db'.countersOn j.id = db.countersOn j.id
  checkpoints : ∀ k c, db.checkpointFor r.routerId k = some c →
    db'.checkpointFor r.routerId k = some c

section

variable {db mid db' : TrafficDb} {observedAtMs : Int} {interface : RouterInterfaceRecord}
  {r : Relocation} {move : Move}

theorem Relocated.none (db : TrafficDb) (hmoved : ∀ i, r.moved i = false) :
    Relocated r [] db db where
  moved := fun i => by simp [hmoved]
  routers := rfl
  sequence := rfl
  samples := by
    have hid : r.sample = id := by
      funext s
      simp [Relocation.sample, hmoved]
    rw [hid, List.map_id]
  rollups := by
    have hid : r.rollup = id := by
      funext x
      simp [Relocation.rollup, hmoved]
    rw [hid, List.map_id]
  rollupSequence := rfl
  gaps := by
    have hid : r.gap = id := by
      funext g
      cases hinterface : g.interfaceId <;> simp [Relocation.gap, hinterface, hmoved]
    rw [hid, List.map_id]
  origin := fun j hj => ⟨j, hj, rfl, Or.inl ⟨rfl, hmoved j.id⟩⟩
  keeps := fun i hi _ => hi
  placed := fun x hx => absurd hx List.not_mem_nil
  merged := fun x hx => absurd hx List.not_mem_nil
  counters := fun _ _ => rfl
  checkpoints := fun _ _ h => h

/-- A move and a relocation of other interfaces are one relocation. -/
theorem Relocation.after_records (hrouter : move.routerId = r.routerId)
    (hlegacy : move.legacyRouterId = r.legacyRouterId) (hne : r.routerId ≠ r.legacyRouterId) :
    r.sample ∘ move.sample = (r.after move).sample ∧
      r.rollup ∘ move.rollup = (r.after move).rollup ∧
      r.gap ∘ move.gap = (r.after move).gap := by
  refine ⟨?_, ?_, ?_⟩
  · funext s
    by_cases hon : s.routerId = r.legacyRouterId ∧ s.interfaceId = move.legacyInterfaceId
    · simp [Relocation.sample, Move.sample, TrafficSampleInput.on, Relocation.after, hlegacy,
        hon.1, hon.2, hrouter, hne]
    · by_cases hr : s.routerId = r.legacyRouterId
      · have hi : s.interfaceId ≠ move.legacyInterfaceId := fun hi => hon ⟨hr, hi⟩
        simp [Relocation.sample, Move.sample, TrafficSampleInput.on, Relocation.after, hlegacy,
          hr, hi]
      · simp [Relocation.sample, Move.sample, TrafficSampleInput.on, Relocation.after, hlegacy,
          hr]
  · funext x
    by_cases hon : x.routerId = r.legacyRouterId ∧ x.interfaceId = move.legacyInterfaceId
    · simp [Relocation.rollup, Move.rollup, TrafficRollup.on, Relocation.after, hlegacy,
        hon.1, hon.2, hrouter, hne]
    · by_cases hr : x.routerId = r.legacyRouterId
      · have hi : x.interfaceId ≠ move.legacyInterfaceId := fun hi => hon ⟨hr, hi⟩
        simp [Relocation.rollup, Move.rollup, TrafficRollup.on, Relocation.after, hlegacy,
          hr, hi]
      · simp [Relocation.rollup, Move.rollup, TrafficRollup.on, Relocation.after, hlegacy, hr]
  · funext g
    by_cases hon : g.routerId = r.legacyRouterId ∧ g.interfaceId = some move.legacyInterfaceId
    · simp [Relocation.gap, Move.gap, TrafficGapInput.on, Relocation.after, hlegacy, hon.1,
        hon.2, hrouter, hne]
    · by_cases hr : g.routerId = r.legacyRouterId
      · have hi : g.interfaceId ≠ some move.legacyInterfaceId := fun hi => hon ⟨hr, hi⟩
        cases hinterface : g.interfaceId with
        | none =>
            simp [Relocation.gap, Move.gap, TrafficGapInput.on, Relocation.after, hinterface]
        | some i =>
            have hne' : i ≠ move.legacyInterfaceId := by
              intro hsame
              exact hi (by rw [hinterface, hsame])
            simp [Relocation.gap, Move.gap, TrafficGapInput.on, Relocation.after, hlegacy, hr,
              hinterface, hne']
      · simp [Relocation.gap, Move.gap, TrafficGapInput.on, Relocation.after, hlegacy, hr]

/-- One more interface before the others. -/
theorem Relocated.cons {xs : List RouterInterfaceRecord} (hi : db.Intact) (hmid : mid.Registry)
    (hproper : ProperMove move db interface) (hstep : AdoptedInterface move observedAtMs db mid)
    (hrest : Relocated r xs mid db')
    (hrouter : move.routerId = r.routerId) (hlegacy : move.legacyRouterId = r.legacyRouterId)
    (hstored : ∀ x ∈ xs, x ∈ db.routerInterfaces.rows ∧ x.routerId = r.legacyRouterId)
    (hother : ∀ x ∈ xs, x.id ≠ interface.id) :
    Relocated (r.after move) (interface :: xs) db db' := by
  have hne : r.routerId ≠ r.legacyRouterId := hrouter ▸ hlegacy ▸ hproper.routers
  have hrecords := Relocation.after_records hrouter hlegacy hne
  have hunmoved : ∀ i, (r.after move).moved i = false ↔
      i ≠ move.legacyInterfaceId ∧ r.moved i = false := by
    intro i
    simp [Relocation.after]
  -- an interface of the router is none of those that move
  have htarget : ∀ t ∈ db.routerInterfaces.rows, t.routerId = r.routerId →
      t ∈ mid.routerInterfaces.rows := by
    intro t ht htr
    apply hstep.keeps ht
    intro hid
    have hsame := hi.registry.interfaces.identifiers t ht interface hproper.stored
      (hid.trans hproper.legacyInterface)
    rw [hsame, hproper.legacyRouter, hlegacy] at htr
    exact hne htr.symm
  have hplace : ∀ x ∈ xs, (r.after move).place x.id = r.place x.id := by
    intro x hx
    have hxne := hother x hx
    rw [← hproper.legacyInterface] at hxne
    simp [Relocation.after, hxne]
  have hfirst : (r.after move).place interface.id = move.interfaceId := by
    simp [Relocation.after, hproper.legacyInterface]
  constructor
  · intro i
    simp only [Relocation.after, Bool.or_eq_true, decide_eq_true_eq, hrest.moved, List.mem_cons,
      exists_eq_or_imp, hproper.legacyInterface]
    exact or_congr_left eq_comm
  · exact hrest.routers.trans hstep.routers
  · rw [hrest.sequence, hstep.interfaces]
  · rw [hrest.samples, hstep.samples, List.map_map, hrecords.1]
  · rw [hrest.rollups, hstep.rollups, List.map_map, hrecords.2.1]
  · rw [hrest.rollupSequence, hstep.rollups]
  · rw [hrest.gaps, hstep.gaps, List.map_map, hrecords.2.2]
  · intro j hj
    obtain ⟨k, hk, hjk, hcase⟩ := hrest.origin j hj
    obtain ⟨i, hi, hki, _, hmove⟩ := hstep.mem_interfaces hk
    refine ⟨i, hi, hjk.trans hki, ?_⟩
    rcases hcase with ⟨rfl, hstays⟩ | hjr
    · rcases hmove with ⟨hne', rfl⟩ | ⟨_, _, hkr⟩
      · exact Or.inl ⟨rfl, (hunmoved _).mpr ⟨hne', hstays⟩⟩
      · exact Or.inr (hkr.trans hrouter)
    · exact Or.inr hjr
  · intro i hi hstays
    obtain ⟨hne', hstays⟩ := (hunmoved _).mp hstays
    exact hrest.keeps i (hstep.keeps hi hne') hstays
  · intro x hx
    rcases List.mem_cons.mp hx with rfl | hx
    · obtain ⟨j, hj, hid, hjr, hkey⟩ := hstep.placed hi.registry hproper
      refine ⟨j, hrest.keeps j hj ?_, by rw [hfirst, hid], hjr.trans hrouter, hkey⟩
      rw [← Bool.not_eq_true, hrest.moved]
      rintro ⟨y, hy, hyid⟩
      have hyne := hother y hy
      rw [← hproper.legacyInterface] at hyne
      have hsame := hmid.interfaces.identifiers y (hstep.keeps (hstored y hy).1 hyne) j hj hyid
      rw [← hsame, (hstored y hy).2, hrouter] at hjr
      exact hne hjr.symm
    · rw [hplace x hx]
      exact hrest.placed x hx
  · intro x hx t ht htr hkey
    rcases List.mem_cons.mp hx with rfl | hx
    · rw [hfirst]
      rcases hproper.target with ⟨t', ht', htr', hkey', hid⟩ | ⟨hnone, _⟩
      · have hsame := hi.registry.interfaces.keys t ht t' ht'
          (htr.trans (hrouter.symm.trans htr'.symm)) (hkey.trans hkey'.symm)
        rw [hid, hsame]
      · exact absurd ⟨htr.trans hrouter.symm, hkey⟩ (hnone t ht)
    · rw [hplace x hx]
      exact hrest.merged x hx t (htarget t ht htr) htr hkey
  · intro j hj
    rw [hrest.counters j hj]
    obtain ⟨k, hk, hjk, _⟩ := hrest.origin j hj
    rw [hjk]
    exact hstep.counters hk
  · intro k c hc
    apply hrest.checkpoints
    rw [← hrouter]
    apply hstep.checkpointFor hi hproper
    rw [hrouter]
    exact hc

/-- The loop over the interfaces relocates all of them. -/
theorem adoptInterfaces_ok {xs : List RouterInterfaceRecord} {targetRouterId legacyRouterId : Int}
    (hi : db.Intact) (hne : targetRouterId ≠ legacyRouterId)
    (htarget : ∃ r ∈ db.routers.rows, r.id = targetRouterId)
    (hstored : ∀ x ∈ xs, x ∈ db.routerInterfaces.rows ∧ x.routerId = legacyRouterId)
    (hnodup : (xs.map (fun x => x.id)).Nodup)
    (hadopt : adoptInterfaces targetRouterId observedAtMs legacyRouterId xs db = .ok db') :
    db'.Intact ∧ ∃ moved place,
      Relocated ⟨targetRouterId, legacyRouterId, moved, place⟩ xs db db' := by
  induction xs generalizing db with
  | nil =>
      simp only [adoptInterfaces, Except.ok.injEq] at hadopt
      rw [← hadopt]
      exact ⟨hi, fun _ => false, id, Relocated.none db (fun _ => rfl)⟩
  | cons x rest ih =>
      obtain ⟨mid, hstep, hadopt⟩ := bind_eq_ok_iff.mp hadopt
      obtain ⟨hx, hlegacy⟩ := hstored x List.mem_cons_self
      have hproper := adoptionMove_proper hx hlegacy hne
      have hstep := adoptInterface_ok hi hx hlegacy hne hstep
      have hmid := hstep.intact hi hproper htarget
      rw [List.map_cons, List.nodup_cons] at hnodup
      have hother : ∀ y ∈ rest, y.id ≠ x.id := by
        intro y hy hsame
        exact hnodup.1 (hsame ▸ List.mem_map_of_mem hy)
      have hrest : ∀ y ∈ rest, y ∈ db.routerInterfaces.rows ∧ y.routerId = legacyRouterId :=
        fun y hy => hstored y (List.mem_cons_of_mem _ hy)
      obtain ⟨hintact, moved, place, hrelocated⟩ := ih hmid (hstep.routers ▸ htarget)
        (fun y hy => ⟨hstep.keeps (hrest y hy).1 (hother y hy), (hrest y hy).2⟩) hnodup.2 hadopt
      exact ⟨hintact, _, _, Relocated.cons hi hmid.registry hproper hstep hrelocated rfl rfl hrest
        hother⟩

end

/-! ## A router -/

/-- The adoption of one legacy router: all its interfaces are relocated, and the
router is gone. -/
structure AdoptedRouter (r : Relocation) (db db' : TrafficDb) : Prop where
  moved : ∀ i, r.moved i = true
  sequence : db'.routerInterfaces.sequence = db.routerInterfaces.sequence
  routerSequence : db'.routers.sequence = db.routers.sequence
  samples : db'.trafficSamples.rows = db.trafficSamples.rows.map r.sample
  rollups : db'.trafficRollups.rows = db.trafficRollups.rows.map r.rollup
  rollupSequence : db'.trafficRollups.sequence = db.trafficRollups.sequence
  gaps : db'.trafficGaps.rows = db.trafficGaps.rows.map r.gap
  origin : ∀ j ∈ db'.routerInterfaces.rows, ∃ i ∈ db.routerInterfaces.rows, j.id = i.id ∧
    (j = i ∧ i.routerId ≠ r.legacyRouterId ∨ j.routerId = r.routerId)
  keeps : ∀ i ∈ db.routerInterfaces.rows, i.routerId ≠ r.legacyRouterId →
    i ∈ db'.routerInterfaces.rows
  placed : ∀ x ∈ db.routerInterfaces.rows, x.routerId = r.legacyRouterId →
    ∃ j ∈ db'.routerInterfaces.rows, j.id = r.place x.id ∧ j.routerId = r.routerId ∧
      j.interfaceKey = x.interfaceKey
  merged : ∀ x ∈ db.routerInterfaces.rows, x.routerId = r.legacyRouterId →
    ∀ t ∈ db.routerInterfaces.rows, t.routerId = r.routerId →
      t.interfaceKey = x.interfaceKey → r.place x.id = t.id
  counters : ∀ j ∈ db'.routerInterfaces.rows, db'.countersOn j.id = db.countersOn j.id
  checkpoints : ∀ k c, db.checkpointFor r.routerId k = some c →
    db'.checkpointFor r.routerId k = some c
  routers : ∀ x ∈ db'.routers.rows, x.id ≠ r.legacyRouterId ∧ ∃ y ∈ db.routers.rows,
    x.id = y.id ∧ x.hardwareIdentity = y.hardwareIdentity ∧ x.fallbackTarget = y.fallbackTarget
  routersKept : ∀ y ∈ db.routers.rows, y.id ≠ r.legacyRouterId → ∃ x ∈ db'.routers.rows,
    x.id = y.id ∧ x.hardwareIdentity = y.hardwareIdentity ∧ x.fallbackTarget = y.fallbackTarget

section

variable {db mid db' : TrafficDb} {observedAtMs targetRouterId legacyRouterId : Int}

/-- Nothing refers to a router that has no interface. -/
theorem TrafficDb.Owns.ne_of_none
    (hnone : ∀ i ∈ db.routerInterfaces.rows, i.routerId ≠ legacyRouterId) {routerId interfaceId : Int}
    (howns : db.Owns routerId interfaceId) : routerId ≠ legacyRouterId := by
  obtain ⟨i, hi, _, hr⟩ := howns
  rw [← hr]
  exact hnone i hi

/-- The deletion of a router without interfaces touches the routers only. -/
theorem deleteRouter_eq (h : db.Intact)
    (hnone : ∀ i ∈ db.routerInterfaces.rows, i.routerId ≠ legacyRouterId) :
    deleteRouter legacyRouterId db = { db with
      routers := (db.routers.deleteWhere (fun r => decide (r.id = legacyRouterId))).2 } := by
  have howned : db.routerInterfaces.rows.filter (fun i => decide (i.routerId = legacyRouterId)) =
      [] := by
    rw [List.filter_eq_nil_iff]
    intro i hi
    simpa using hnone i hi
  have hkeep : ∀ {α : Type} (routerId : α → Int) (t : Table α),
      (∀ x ∈ t.rows, routerId x ≠ legacyRouterId) →
      (t.deleteWhere (fun x => decide (routerId x = legacyRouterId))).2 = t := by
    intro α routerId t hall
    have hrows : t.rows.filter (fun x => !decide (routerId x = legacyRouterId)) = t.rows := by
      rw [List.filter_eq_self]
      intro x hx
      simpa using hall x hx
    simp only [Table.deleteWhere, hrows]
  have hcheckpoints : db.counterCheckpoints.filter
      (fun c => !decide (c.routerId = legacyRouterId)) = db.counterCheckpoints := by
    rw [List.filter_eq_self]
    intro c hc
    simpa using TrafficDb.Owns.ne_of_none hnone (h.records.checkpoints c hc)
  simp only [deleteRouter, howned, List.foldl_nil, deleteRouterRows]
  rw [hkeep (fun i : RouterInterfaceRecord => i.routerId) db.routerInterfaces hnone,
    hkeep (fun s : TrafficSample => s.routerId) db.trafficSamples
      (fun s hs => TrafficDb.Owns.ne_of_none hnone (h.records.samples s hs)),
    hkeep (fun r : TrafficRollup => r.routerId) db.trafficRollups
      (fun r hr => TrafficDb.Owns.ne_of_none hnone (h.records.rollups r hr)),
    hkeep (fun g : TrafficGap => g.routerId) db.trafficGaps ?_, hcheckpoints]
  intro g hg
  obtain ⟨i, _, howns⟩ := h.records.gaps g hg
  exact TrafficDb.Owns.ne_of_none hnone howns

/-- Every gap has an interface, so there is none to move without one. -/
theorem moveRouterGaps_eq (h : db.Intact) :
    moveRouterGaps targetRouterId legacyRouterId db = db := by
  have hrows : db.trafficGaps.rows.map (fun g =>
      if decide (g.routerId = legacyRouterId ∧ g.interfaceId = none) then
        { g with routerId := targetRouterId } else g) = db.trafficGaps.rows := by
    rw [List.map_congr_left (g := id)]
    · exact List.map_id _
    · intro g hg
      obtain ⟨i, hi, _⟩ := h.records.gaps g hg
      simp [hi]
  simp only [moveRouterGaps, Table.updateWhere, hrows]

/-- A router without interfaces is gone, and the others have at most seen more. -/
structure Retired (legacyRouterId : Int) (mid db' : TrafficDb) : Prop where
  intact : db'.Intact
  rest : db' = { mid with routers := db'.routers }
  sequence : db'.routers.sequence = mid.routers.sequence
  routers : ∀ x ∈ db'.routers.rows, x.id ≠ legacyRouterId ∧ ∃ y ∈ mid.routers.rows,
    x.id = y.id ∧ x.hardwareIdentity = y.hardwareIdentity ∧ x.fallbackTarget = y.fallbackTarget
  kept : ∀ y ∈ mid.routers.rows, y.id ≠ legacyRouterId → ∃ x ∈ db'.routers.rows,
    x.id = y.id ∧ x.hardwareIdentity = y.hardwareIdentity ∧ x.fallbackTarget = y.fallbackTarget

/-- The statements after the loop. -/
theorem retired (hmid : mid.Intact)
    (hnone : ∀ j ∈ mid.routerInterfaces.rows, j.routerId ≠ legacyRouterId)
    (h : deleteRouter legacyRouterId (mid.updateRouter targetRouterId
      (adoptTimes (mid.routerById legacyRouterId) observedAtMs)) = db') :
    Retired legacyRouterId mid db' := by
  have hseen : (mid.updateRouter targetRouterId
      (adoptTimes (mid.routerById legacyRouterId) observedAtMs)).Intact := by
    refine hmid.updateRouter (f := adoptTimes _ _) ?_ ?_
    · exact fun _ => rfl
    intro r hr hid r' hr' hother hsome hsame
    have hrr' : r = r' := hmid.registry.identities r hr r' hr' hsome hsame
    exact hother (hrr' ▸ hid)
  rw [deleteRouter_eq hseen hnone] at h
  subst h
  refine ⟨?_, rfl, rfl, ?_, ?_⟩
  · apply hseen.setRouters
    · exact hseen.registry.routers.deleteWhere _
    · intro x hx y hy
      exact hseen.registry.identities x (List.mem_of_mem_filter hx) y (List.mem_of_mem_filter hy)
    · intro i hi'
      obtain ⟨r, hr, hid⟩ := hseen.registry.parents i hi'
      refine ⟨r, List.mem_filter.mpr ⟨hr, ?_⟩, hid⟩
      simpa [hid] using hnone i hi'
  · intro x hx
    obtain ⟨hx, hkept⟩ := List.mem_filter.mp hx
    obtain ⟨y, hy, hcase⟩ := TrafficDb.mem_updateRouter hx
    refine ⟨by simpa using hkept, y, hy, ?_⟩
    rcases hcase with ⟨_, rfl⟩ | ⟨_, rfl⟩
    · exact ⟨rfl, rfl, rfl⟩
    · exact ⟨rfl, rfl, rfl⟩
  · intro y hy hother
    refine ⟨_, List.mem_filter.mpr ⟨TrafficDb.updateRouter_keeps hy, ?_⟩, ?_⟩
    · split
      · simpa [adoptTimes] using hother
      · simpa using hother
    · split
      · exact ⟨rfl, rfl, rfl⟩
      · exact ⟨rfl, rfl, rfl⟩

/-- A relocation of all interfaces of the legacy router takes all its records along. -/
theorem Relocated.whole (hi : db.Intact) {moved : Int → Bool} {place : Int → Int}
    (hall : ∀ i ∈ db.routerInterfaces.rows, i.routerId = legacyRouterId → moved i.id = true)
    {xs : List RouterInterfaceRecord}
    (h : Relocated ⟨targetRouterId, legacyRouterId, moved, place⟩ xs db mid) :
    let r : Relocation := ⟨targetRouterId, legacyRouterId, fun _ => true, place⟩
    mid.trafficSamples.rows = db.trafficSamples.rows.map r.sample ∧
      mid.trafficRollups.rows = db.trafficRollups.rows.map r.rollup ∧
      mid.trafficGaps.rows = db.trafficGaps.rows.map r.gap := by
  have howned : ∀ {r i}, db.Owns r i → r = legacyRouterId → moved i = true := by
    rintro r i ⟨x, hx, hid, hxr⟩ hr
    rw [← hid]
    exact hall x hx (hxr.trans hr)
  refine ⟨?_, ?_, ?_⟩
  · rw [h.samples]
    apply List.map_congr_left
    intro s hs
    by_cases hr : s.routerId = legacyRouterId
    · simp [Relocation.sample, hr, howned (hi.records.samples s hs) hr]
    · simp [Relocation.sample, hr]
  · rw [h.rollups]
    apply List.map_congr_left
    intro x hx
    by_cases hr : x.routerId = legacyRouterId
    · simp [Relocation.rollup, hr, howned (hi.records.rollups x hx) hr]
    · simp [Relocation.rollup, hr]
  · rw [h.gaps]
    apply List.map_congr_left
    intro g hg
    obtain ⟨i, hinterface, howns⟩ := hi.records.gaps g hg
    by_cases hr : g.routerId = legacyRouterId
    · simp [Relocation.gap, hr, hinterface, howned howns hr]
    · simp [Relocation.gap, hr]

/-- The interfaces that the loop adopts. -/
def TrafficDb.interfacesOf (db : TrafficDb) (routerId : Int) : List RouterInterfaceRecord :=
  db.routerInterfaces.rows.filter (fun i => decide (i.routerId = routerId))

theorem TrafficDb.mem_interfacesOf {routerId : Int} {x : RouterInterfaceRecord} :
    x ∈ db.interfacesOf routerId ↔ x ∈ db.routerInterfaces.rows ∧ x.routerId = routerId := by
  rw [TrafficDb.interfacesOf, List.mem_filter, decide_eq_true_eq]

/-- The loop and the statements after it adopt the router. -/
theorem Relocated.adopted (hi : db.Intact) {moved : Int → Bool} {place : Int → Int}
    (h : Relocated ⟨targetRouterId, legacyRouterId, moved, place⟩
      (db.interfacesOf legacyRouterId) db mid)
    (hnone : ∀ j ∈ mid.routerInterfaces.rows, j.routerId ≠ legacyRouterId)
    (hretired : Retired legacyRouterId mid db') :
    AdoptedRouter ⟨targetRouterId, legacyRouterId, fun _ => true, place⟩ db db' := by
  have hall : ∀ i ∈ db.routerInterfaces.rows, i.routerId = legacyRouterId → moved i.id = true :=
    fun i hi' hlegacy => (h.moved i.id).mpr ⟨i, TrafficDb.mem_interfacesOf.mpr ⟨hi', hlegacy⟩, rfl⟩
  obtain ⟨hsamples, hrollups, hgaps⟩ := h.whole hi hall
  have hinterfaces : db'.routerInterfaces = mid.routerInterfaces := by rw [hretired.rest]
  have hcheckpoints : db'.counterCheckpoints = mid.counterCheckpoints := by rw [hretired.rest]
  exact {
    moved := fun _ => rfl
    sequence := by rw [hinterfaces, h.sequence]
    routerSequence := by rw [hretired.sequence, h.routers]
    samples := by rw [hretired.rest, hsamples]
    rollups := by rw [hretired.rest, hrollups]
    rollupSequence := by
      rw [hretired.rest]
      exact h.rollupSequence
    gaps := by rw [hretired.rest, hgaps]
    origin := by
      intro j hj
      rw [hinterfaces] at hj
      obtain ⟨i, hi', hid, ⟨rfl, hstays⟩ | hjr⟩ := h.origin j hj
      · exact ⟨j, hi', rfl, Or.inl ⟨rfl, hnone j hj⟩⟩
      · exact ⟨i, hi', hid, Or.inr hjr⟩
    keeps := by
      intro i hi' hother
      rw [hinterfaces]
      apply h.keeps i hi'
      rw [← Bool.not_eq_true, h.moved]
      rintro ⟨x, hx, hid⟩
      obtain ⟨hx, hlegacy⟩ := TrafficDb.mem_interfacesOf.mp hx
      have hsame := hi.registry.interfaces.identifiers x hx i hi' hid
      exact hother (hsame ▸ hlegacy)
    placed := by
      intro x hx hlegacy
      rw [hinterfaces]
      exact h.placed x (TrafficDb.mem_interfacesOf.mpr ⟨hx, hlegacy⟩)
    merged := fun x hx hlegacy => h.merged x (TrafficDb.mem_interfacesOf.mpr ⟨hx, hlegacy⟩)
    counters := by
      intro j hj
      rw [hinterfaces] at hj
      rw [TrafficDb.countersOn, hcheckpoints]
      exact h.counters j hj
    checkpoints := by
      intro k c hc
      rw [TrafficDb.checkpointFor, hcheckpoints]
      exact h.checkpoints k c hc
    routers := by
      rw [← h.routers]
      exact hretired.routers
    routersKept := by
      rw [← h.routers]
      exact hretired.kept }

theorem adoptRouter_ok (hi : db.Intact) (hne : targetRouterId ≠ legacyRouterId)
    (htarget : ∃ r ∈ db.routers.rows, r.id = targetRouterId)
    (hadopt : adoptRouter targetRouterId observedAtMs legacyRouterId db = .ok db') :
    db'.Intact ∧ ∃ place,
      AdoptedRouter ⟨targetRouterId, legacyRouterId, fun _ => true, place⟩ db db' := by
  obtain ⟨mid, hloop, hadopt⟩ := bind_eq_ok_iff.mp hadopt
  simp only [pure_eq_ok, Except.ok.injEq] at hadopt
  have hnodup : ((db.interfacesOf legacyRouterId).map (fun x => x.id)).Nodup :=
    hi.registry.interfaceIds.nodup.sublist (List.filter_sublist.map _)
  obtain ⟨hmid, moved, place, hrelocated⟩ := adoptInterfaces_ok hi hne htarget
    (fun x hx => TrafficDb.mem_interfacesOf.mp hx) hnodup hloop
  -- what was the legacy router's has moved to the target
  have hnone : ∀ j ∈ mid.routerInterfaces.rows, j.routerId ≠ legacyRouterId := by
    intro j hj hlegacy
    obtain ⟨i, hi', _, ⟨rfl, hstays⟩ | hjr⟩ := hrelocated.origin j hj
    · have hmoved := (hrelocated.moved j.id).mpr
        ⟨j, TrafficDb.mem_interfacesOf.mpr ⟨hi', hlegacy⟩, rfl⟩
      rw [hstays] at hmoved
      cases hmoved
    · exact hne (hjr.symm.trans hlegacy)
  rw [moveRouterGaps_eq hmid] at hadopt
  have hretired := retired hmid hnone hadopt
  exact ⟨hretired.intact, place, hrelocated.adopted hi hnone hretired⟩

end

/-! ## The whole adoption -/

/-- What adoptions keep of the routers and interfaces that are left. -/
structure AdoptionKeeps (db db' : TrafficDb) : Prop where
  sequence : db'.routerInterfaces.sequence = db.routerInterfaces.sequence
  routerSequence : db'.routers.sequence = db.routers.sequence
  rollupSequence : db'.trafficRollups.sequence = db.trafficRollups.sequence
  interfaces : ∀ j ∈ db'.routerInterfaces.rows, ∃ i ∈ db.routerInterfaces.rows, j.id = i.id
  counters : ∀ j ∈ db'.routerInterfaces.rows, db'.countersOn j.id = db.countersOn j.id
  routers : ∀ x ∈ db'.routers.rows, ∃ y ∈ db.routers.rows,
    x.id = y.id ∧ x.hardwareIdentity = y.hardwareIdentity ∧ x.fallbackTarget = y.fallbackTarget

section

variable {db mid db' : TrafficDb} {observedAtMs targetRouterId : Int}

theorem AdoptionKeeps.refl (db : TrafficDb) : AdoptionKeeps db db :=
  ⟨rfl, rfl, rfl, fun j hj => ⟨j, hj, rfl⟩, fun _ _ => rfl, fun x hx => ⟨x, hx, rfl, rfl, rfl⟩⟩

theorem AdoptedRouter.keepsRest {r : Relocation} (h : AdoptedRouter r db db') :
    AdoptionKeeps db db' where
  sequence := h.sequence
  routerSequence := h.routerSequence
  rollupSequence := h.rollupSequence
  interfaces := by
    intro j hj
    obtain ⟨i, hi, hid, _⟩ := h.origin j hj
    exact ⟨i, hi, hid⟩
  counters := h.counters
  routers := fun x hx => (h.routers x hx).2

theorem AdoptionKeeps.trans (h : AdoptionKeeps db mid) (h' : AdoptionKeeps mid db') :
    AdoptionKeeps db db' where
  sequence := h'.sequence.trans h.sequence
  routerSequence := h'.routerSequence.trans h.routerSequence
  rollupSequence := h'.rollupSequence.trans h.rollupSequence
  interfaces := by
    intro k hk
    obtain ⟨j, hj, hkj⟩ := h'.interfaces k hk
    obtain ⟨i, hi, hji⟩ := h.interfaces j hj
    exact ⟨i, hi, hkj.trans hji⟩
  counters := by
    intro k hk
    obtain ⟨j, hj, hkj⟩ := h'.interfaces k hk
    rw [h'.counters k hk, hkj, h.counters j hj]
  routers := by
    intro z hz
    obtain ⟨y, hy, hzy⟩ := h'.routers z hz
    obtain ⟨x, hx, hyx⟩ := h.routers y hy
    exact ⟨x, hx, hzy.1.trans hyx.1, hzy.2.1.trans hyx.2.1, hzy.2.2.trans hyx.2.2⟩

/-- A router that is not among the adopted ones stays. -/
def StaysRouter (targetRouterIds : List Int) (db db' : TrafficDb) : Prop :=
  ∀ y ∈ db.routers.rows, y.id ∉ targetRouterIds → ∃ x ∈ db'.routers.rows,
    x.id = y.id ∧ x.hardwareIdentity = y.hardwareIdentity ∧ x.fallbackTarget = y.fallbackTarget

theorem adoptRouters_ok {ids : List Int} (hi : db.Intact) (hids : targetRouterId ∉ ids)
    (htarget : ∃ r ∈ db.routers.rows, r.id = targetRouterId)
    (hadopt : adoptRouters targetRouterId observedAtMs ids db = .ok db') :
    db'.Intact ∧ AdoptionKeeps db db' ∧ StaysRouter ids db db' := by
  induction ids generalizing db with
  | nil =>
      simp only [adoptRouters, Except.ok.injEq] at hadopt
      rw [← hadopt]
      exact ⟨hi, AdoptionKeeps.refl db, fun y hy _ => ⟨y, hy, rfl, rfl, rfl⟩⟩
  | cons legacyRouterId rest ih =>
      obtain ⟨mid, hstep, hadopt⟩ := bind_eq_ok_iff.mp hadopt
      rw [List.mem_cons, not_or] at hids
      obtain ⟨hmid, place, hrouter⟩ := adoptRouter_ok hi hids.1 htarget hstep
      have hmidTarget : ∃ r ∈ mid.routers.rows, r.id = targetRouterId := by
        obtain ⟨r, hr, hid⟩ := htarget
        obtain ⟨x, hx, hxid, _⟩ := hrouter.routersKept r hr (by
          simp only [hid]
          exact hids.1)
        exact ⟨x, hx, hxid.trans hid⟩
      obtain ⟨hdb', hkeeps, hstays⟩ := ih hmid hids.2 hmidTarget hadopt
      refine ⟨hdb', hrouter.keepsRest.trans hkeeps, ?_⟩
      intro y hy hnot
      rw [List.mem_cons, not_or] at hnot
      obtain ⟨x, hx, hxy⟩ := hrouter.routersKept y hy hnot.1
      obtain ⟨z, hz, hzx⟩ := hstays x hx (by
        rw [hxy.1]
        exact hnot.2)
      exact ⟨z, hz, hzx.1.trans hxy.1, hzx.2.1.trans hxy.2.1, hzx.2.2.trans hxy.2.2⟩

/-- The legacy routers of an adoption. -/
def legacyRouterIds (targetRouterId : Int) (db : TrafficDb) : List Int :=
  (db.routers.rows.filter (fun r =>
    decide (r.fallbackTarget = legacyTarget ∧ r.id ≠ targetRouterId))).map (fun r => r.id)

theorem mem_legacyRouterIds {id : Int} :
    id ∈ legacyRouterIds targetRouterId db ↔
      ∃ r ∈ db.routers.rows, r.fallbackTarget = legacyTarget ∧ r.id ≠ targetRouterId ∧ r.id = id := by
  simp [legacyRouterIds, and_assoc]

theorem adoptLegacyHistory_ok (hi : db.Intact)
    (htarget : ∃ r ∈ db.routers.rows, r.id = targetRouterId)
    (hadopt : adoptLegacyHistory targetRouterId observedAtMs db = .ok db') :
    db'.Intact ∧ AdoptionKeeps db db' ∧ StaysRouter (legacyRouterIds targetRouterId db) db db' := by
  refine adoptRouters_ok hi ?_ htarget hadopt
  intro hmem
  obtain ⟨r, _, _, hne, hid⟩ := mem_legacyRouterIds.mp hmem
  exact hne hid

end

end RouterView.Db
