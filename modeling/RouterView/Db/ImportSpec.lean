/-
  Db/ImportSpec.lean --- what the import of the legacy tables stores.

  Every point becomes one sample that reaches back to the latest earlier point of
  its interface, at most a minute, and exactly the minutes that meet no such
  sample become rollups.  The three kinds of pairs of rows are apart: points by
  their predecessors, minutes by their multiples, and one from the other by the
  condition of the import.
-/
import Mathlib.Data.String.Basic
import RouterView.Db.Integrity
import RouterView.Db.Store

set_option autoImplicit false

namespace RouterView.Db

open RouterView.Foundation

/-! ## Predecessors -/

/-- The old primary keys, with an absent name read as the empty one. -/
structure LegacyTraffic.Keyed (legacy : LegacyTraffic) : Prop where
  points : (legacy.points.map (fun p => (wanOrEmpty p.wanName, p.ts))).Nodup
  minutes : (legacy.minutes.map (fun m => (wanOrEmpty m.wanName, m.bucket))).Nodup

/-- The latest earlier timestamp of the point's interface. -/
def latestEarlier (points : List LegacyPoint) (point : LegacyPoint) : Option Int :=
  ((points.filter (fun q => decide (wanOrEmpty q.wanName = wanOrEmpty point.wanName ∧
    q.ts < point.ts))).map (fun q => q.ts)).max?

theorem latestEarlier_eq_none {points : List LegacyPoint} {point : LegacyPoint} :
    latestEarlier points point = none ↔
      ∀ q ∈ points, wanOrEmpty q.wanName = wanOrEmpty point.wanName → point.ts ≤ q.ts := by
  simp [latestEarlier, List.filter_eq_nil_iff]

theorem latestEarlier_eq_some {points : List LegacyPoint} {point : LegacyPoint} {ts : Int} :
    latestEarlier points point = some ts ↔
      (∃ q ∈ points, wanOrEmpty q.wanName = wanOrEmpty point.wanName ∧ q.ts < point.ts ∧
        q.ts = ts) ∧
      ∀ q ∈ points, wanOrEmpty q.wanName = wanOrEmpty point.wanName → q.ts < point.ts →
        q.ts ≤ ts := by
  rw [latestEarlier, List.max?_eq_some_iff]
  simp only [List.mem_map, List.mem_filter, decide_eq_true_eq]
  constructor
  · rintro ⟨⟨q, ⟨hq, hwan, hlt⟩, hts⟩, hmax⟩
    exact ⟨⟨q, hq, hwan, hlt, hts⟩, fun r hr hw hl => hmax r.ts ⟨r, ⟨hr, hw, hl⟩, rfl⟩⟩
  · rintro ⟨⟨q, hq, hwan, hlt, hts⟩, hmax⟩
    refine ⟨⟨q, ⟨hq, hwan, hlt⟩, hts⟩, ?_⟩
    rintro _ ⟨r, ⟨hr, hw, hl⟩, rfl⟩
    exact hmax r hr hw hl

/-- The predecessor depends on the set of points only. -/
theorem latestEarlier_congr {l m : List LegacyPoint} (h : ∀ q, q ∈ l ↔ q ∈ m)
    (point : LegacyPoint) : latestEarlier l point = latestEarlier m point := by
  cases hm : latestEarlier m point with
  | none =>
      rw [latestEarlier_eq_none] at hm ⊢
      exact fun q hq => hm q ((h q).mp hq)
  | some ts =>
      rw [latestEarlier_eq_some] at hm ⊢
      obtain ⟨⟨q, hq, hcase⟩, hmax⟩ := hm
      exact ⟨⟨q, (h q).mpr hq, hcase⟩, fun r hr => hmax r ((h r).mp hr)⟩

theorem LegacyPoint.windowLe_total (p r : LegacyPoint) : p.windowLe r ∨ r.windowLe p := by
  simp only [LegacyPoint.windowLe]
  rcases lt_trichotomy (wanOrEmpty p.wanName) (wanOrEmpty r.wanName) with hlt | heq | hgt
  · exact Or.inl (Or.inl hlt)
  · rcases le_total p.ts r.ts with hle | hle
    · exact Or.inl (Or.inr ⟨heq, hle⟩)
    · exact Or.inr (Or.inr ⟨heq.symm, hle⟩)
  · exact Or.inr (Or.inl hgt)

theorem LegacyPoint.windowLe_trans {p q r : LegacyPoint} (hpq : p.windowLe q)
    (hqr : q.windowLe r) : p.windowLe r := by
  simp only [LegacyPoint.windowLe] at *
  rcases hpq with hpq | ⟨hpq, hle⟩ <;> rcases hqr with hqr | ⟨hqr, hle'⟩
  · exact Or.inl (lt_trans hpq hqr)
  · exact Or.inl (hqr ▸ hpq)
  · exact Or.inl (hpq ▸ hqr)
  · exact Or.inr ⟨hpq.trans hqr, le_trans hle hle'⟩

instance : Std.Total LegacyPoint.windowLe := ⟨LegacyPoint.windowLe_total⟩

instance : IsTrans LegacyPoint LegacyPoint.windowLe := ⟨fun _ _ _ => LegacyPoint.windowLe_trans⟩

/-- Among points of one interface the order of the window is that of time. -/
theorem LegacyPoint.windowLe.ts_le {p r : LegacyPoint} (h : p.windowLe r)
    (hwan : wanOrEmpty p.wanName = wanOrEmpty r.wanName) : p.ts ≤ r.ts := by
  rcases h with hlt | ⟨_, hle⟩
  · exact absurd hlt (hwan ▸ lt_irrefl _)
  · exact hle

/-- No point of the window before the last one is later than it. -/
theorem getLast_latest {before rest : List LegacyPoint} {last : LegacyPoint}
    (hlast : before.getLast? = some last)
    (hsorted : (before ++ rest).Pairwise LegacyPoint.windowLe) {q : LegacyPoint}
    (hq : q ∈ before) : q.windowLe last := by
  obtain ⟨front, rfl⟩ := List.getLast?_eq_some_iff.mp hlast
  rcases List.mem_append.mp hq with hq | hq
  · exact (List.pairwise_append.mp (List.pairwise_append.mp hsorted).1).2.2 q hq last
      (List.mem_singleton.mpr rfl)
  · rw [List.mem_singleton.mp hq]
    exact Or.inr ⟨rfl, le_refl _⟩

/-- The window looks at the previous point only, which is the latest earlier one. -/
theorem withPreviousTs_cons {before rest : List LegacyPoint} {point : LegacyPoint}
    (hsorted : (before ++ point :: rest).Pairwise LegacyPoint.windowLe)
    (hkeys : ((before ++ point :: rest).map (fun p => (wanOrEmpty p.wanName, p.ts))).Nodup) :
    withPreviousTs before.getLast? (point :: rest) =
      (point, latestEarlier (before ++ point :: rest) point) ::
        withPreviousTs (some point) rest := by
  obtain ⟨_, htail, hcross⟩ := List.pairwise_append.mp hsorted
  -- a point of the interface that is not before this one is no earlier
  have hlater : ∀ q ∈ point :: rest, wanOrEmpty q.wanName = wanOrEmpty point.wanName →
      point.ts ≤ q.ts := by
    intro q hq hwan
    rcases List.mem_cons.mp hq with rfl | hq
    · exact le_refl _
    · exact ((List.pairwise_cons.mp htail).1 q hq).ts_le hwan.symm
  cases hlast : before.getLast? with
  | none =>
      rw [List.getLast?_eq_none_iff] at hlast
      subst hlast
      have hlag : none = latestEarlier ([] ++ point :: rest) point :=
        (latestEarlier_eq_none.mpr hlater).symm
      exact congrArg (fun lag => (point, lag) :: withPreviousTs (some point) rest) hlag
  | some last =>
      have hmem : last ∈ before := List.mem_of_getLast? hlast
      have hle : last.windowLe point := hcross last hmem point List.mem_cons_self
      suffices hlag : (if wanOrEmpty last.wanName = wanOrEmpty point.wanName then some last.ts
          else none) = latestEarlier (before ++ point :: rest) point from
        congrArg (fun lag => (point, lag) :: withPreviousTs (some point) rest) hlag
      split
      · rename_i hwan
        have hne : last.ts ≠ point.ts := by
          intro hts
          rw [List.map_append, List.nodup_append] at hkeys
          exact hkeys.2.2 _ (List.mem_map_of_mem hmem) _
            (List.mem_map_of_mem List.mem_cons_self) (by rw [hwan, hts])
        have hlt : last.ts < point.ts := lt_of_le_of_ne (hle.ts_le hwan) hne
        symm
        rw [latestEarlier_eq_some]
        refine ⟨⟨last, List.mem_append_left _ hmem, hwan, hlt, rfl⟩, ?_⟩
        intro q hq hw hearlier
        rcases List.mem_append.mp hq with hq | hq
        · exact (getLast_latest hlast hsorted hq).ts_le (hw.trans hwan.symm)
        · have hge := hlater q hq hw
          omega
      · rename_i hwan
        symm
        rw [latestEarlier_eq_none]
        intro q hq hw
        rcases List.mem_append.mp hq with hq | hq
        · -- the interface of the last point lies between that of `q` and this one
          exfalso
          have hbetween : wanOrEmpty last.wanName < wanOrEmpty point.wanName := by
            rcases hle with hlt | ⟨heq, _⟩
            · exact hlt
            · exact absurd heq hwan
          rcases getLast_latest hlast hsorted hq with hlt | ⟨heq, _⟩
          · exact absurd (hw ▸ lt_trans hlt hbetween) (lt_irrefl _)
          · exact hwan (heq.symm.trans hw)
        · exact hlater q hq hw

theorem withPreviousTs_append {before rest : List LegacyPoint}
    (hsorted : (before ++ rest).Pairwise LegacyPoint.windowLe)
    (hkeys : ((before ++ rest).map (fun p => (wanOrEmpty p.wanName, p.ts))).Nodup) :
    withPreviousTs before.getLast? rest =
      rest.map (fun p => (p, latestEarlier (before ++ rest) p)) := by
  induction rest generalizing before with
  | nil => rfl
  | cons point rest ih =>
      have hmove : before ++ point :: rest = (before ++ [point]) ++ rest := by
        rw [List.append_assoc, List.singleton_append]
      have hlast : (before ++ [point]).getLast? = some point := List.getLast?_concat
      have hrest : withPreviousTs (before ++ [point]).getLast? rest =
          rest.map (fun p => (p, latestEarlier ((before ++ [point]) ++ rest) p)) :=
        ih (hmove ▸ hsorted) (hmove ▸ hkeys)
      rw [hlast, ← hmove] at hrest
      rw [withPreviousTs_cons hsorted hkeys, hrest, List.map_cons]

/-- The window gives every point the latest earlier timestamp of its interface. -/
theorem withPreviousTs_sorted {points : List LegacyPoint}
    (hkeys : (points.map (fun p => (wanOrEmpty p.wanName, p.ts))).Nodup) :
    withPreviousTs none (points.insertionSort LegacyPoint.windowLe) =
      (points.insertionSort LegacyPoint.windowLe).map
        (fun p => (p, latestEarlier points p)) := by
  have hperm := List.perm_insertionSort LegacyPoint.windowLe points
  have hsorted := List.pairwise_insertionSort LegacyPoint.windowLe points
  have hlag : withPreviousTs ([] : List LegacyPoint).getLast?
      (points.insertionSort LegacyPoint.windowLe) = _ :=
    withPreviousTs_append hsorted ((hperm.map _).nodup_iff.mpr hkeys)
  refine hlag.trans (List.map_congr_left ?_)
  intro p _
  rw [List.nil_append, latestEarlier_congr (fun q => hperm.mem_iff) p]

/-! ## Interfaces -/

/-- The identifier of the interface of a wan name. -/
def TrafficDb.legacyInterfaceId (db : TrafficDb) (routerId : Int) (wanName : Option String) : Int :=
  ((db.legacyInterface routerId wanName).map (fun i => i.id)).getD 0

theorem legacyInterfaceKey_injective {v w : String}
    (h : legacyInterfaceKey v = legacyInterfaceKey w) : v = w := by
  have hmark : ∀ name : String, "__aggregate__" ≠ "legacy:" ++ name := by
    intro name heq
    have hhead := congrArg (fun text : String => text.toList.head?) heq
    rw [head_append (s := "legacy:") (t := name) (c := 'l') (by decide)] at hhead
    revert hhead
    decide
  unfold legacyInterfaceKey at h
  split at h <;> split at h
  · rename_i hv hw
    rw [hv, hw]
  · exact absurd h (hmark w)
  · exact absurd h.symm (hmark v)
  · have htail := congrArg String.toList h
    rw [String.toList_append, String.toList_append, List.append_cancel_left_eq] at htail
    exact String.toList_inj.mp htail

section

variable {db : TrafficDb} {routerId nowMs : Int}

theorem legacyInterface_of_mem {wanName : Option String} {i : RouterInterfaceRecord}
    (hi : i ∈ db.routerInterfaces.rows) (hrouter : i.routerId = routerId)
    (hkey : i.interfaceKey = legacyInterfaceKey (wanOrEmpty wanName)) :
    ∃ j, db.legacyInterface routerId wanName = some j := by
  cases hfind : db.legacyInterface routerId wanName with
  | some j => exact ⟨j, rfl⟩
  | none =>
      have hnone := List.find?_eq_none.mp hfind i hi
      rw [decide_eq_true_eq] at hnone
      exact absurd ⟨hrouter, hkey⟩ hnone

/-- Two wan names with the same interface are one. -/
theorem legacyInterfaceId_injective (hi : db.Registry) {v w : Option String}
    {i j : RouterInterfaceRecord} (hv : db.legacyInterface routerId v = some i)
    (hw : db.legacyInterface routerId w = some j) (hid : i.id = j.id) :
    wanOrEmpty v = wanOrEmpty w := by
  have hkey := List.find?_some hv
  have hkey' := List.find?_some hw
  rw [decide_eq_true_eq] at hkey hkey'
  have hsame := hi.interfaces.identifiers i (List.mem_of_find?_eq_some hv) j
    (List.mem_of_find?_eq_some hw) hid
  rw [← hsame, hkey.2] at hkey'
  exact legacyInterfaceKey_injective hkey'.2

theorem registerLegacyInterface_keeps {wanName : String} {i : RouterInterfaceRecord}
    (hi : i ∈ db.routerInterfaces.rows) :
    i ∈ (registerLegacyInterface nowMs routerId db wanName).routerInterfaces.rows := by
  unfold registerLegacyInterface
  split
  · exact hi
  · exact List.mem_append_left _ hi

theorem registerLegacyInterface_has (nowMs routerId : Int) (db : TrafficDb) (wanName : String) :
    ∃ i ∈ (registerLegacyInterface nowMs routerId db wanName).routerInterfaces.rows,
      i.routerId = routerId ∧ i.interfaceKey = legacyInterfaceKey wanName := by
  unfold registerLegacyInterface
  split
  · rename_i hany
    obtain ⟨i, hi, hkey⟩ := List.any_eq_true.mp hany
    exact ⟨i, hi, of_decide_eq_true hkey⟩
  · exact ⟨_, List.mem_append_right _ (List.mem_singleton.mpr rfl), rfl, rfl⟩

/-- Every wan name of the list has an interface after the registration. -/
theorem registerAll_has {wanNames : List String} {wanName : String} (h : wanName ∈ wanNames) :
    ∃ i ∈ (wanNames.foldl (registerLegacyInterface nowMs routerId) db).routerInterfaces.rows,
      i.routerId = routerId ∧ i.interfaceKey = legacyInterfaceKey wanName := by
  induction wanNames generalizing db with
  | nil => cases h
  | cons name rest ih =>
      rcases List.mem_cons.mp h with rfl | h
      · obtain ⟨i, hi, hkey⟩ := registerLegacyInterface_has nowMs routerId db wanName
        exact ⟨i, foldl_keeps (fun db : TrafficDb => i ∈ db.routerInterfaces.rows)
          (fun _ _ hdb => registerLegacyInterface_keeps hdb) hi rest, hkey⟩
      · exact ih h

/-- The registration touches the interfaces only. -/
theorem registerAll_frame (nowMs routerId : Int) (wanNames : List String) (db : TrafficDb) :
    wanNames.foldl (registerLegacyInterface nowMs routerId) db =
      { db with
        routerInterfaces :=
          (wanNames.foldl (registerLegacyInterface nowMs routerId) db).routerInterfaces } := by
  induction wanNames generalizing db with
  | nil => rfl
  | cons name rest ih =>
      rw [List.foldl_cons, ih]
      unfold registerLegacyInterface
      split <;> rfl

end

/-! ## Points -/

/-- The sample that an import makes of a point. -/
def importedSample (legacy : LegacyTraffic) (routerId : Int) (interfaceOf : Option String → Int)
    (point : LegacyPoint) : TrafficSampleInput :=
  legacySample routerId (interfaceOf point.wanName) point (latestEarlier legacy.points point)

/-- The points of a list have been imported. -/
structure PointsImported (legacy : LegacyTraffic) (routerId : Int) (start db : TrafficDb)
    (done : List LegacyPoint) : Prop where
  frame : db = { start with trafficSamples := db.trafficSamples }
  rows : db.trafficSamples.rows.map (fun s => s.toTrafficSampleInput) =
    done.map (importedSample legacy routerId (start.legacyInterfaceId routerId))

section

variable {legacy : LegacyTraffic} {routerId : Int} {start db : TrafficDb}

/-- One point with a new key. -/
theorem PointsImported.next {done : List LegacyPoint} {point : LegacyPoint}
    (h : PointsImported legacy routerId start db done) (hi : start.Registry)
    (hknown : ∀ p ∈ done ++ [point], ∃ i, start.legacyInterface routerId p.wanName = some i)
    (hkeys : ((done ++ [point]).map (fun p => (wanOrEmpty p.wanName, p.ts))).Nodup) :
    PointsImported legacy routerId start
      (importPoint routerId db (point, latestEarlier legacy.points point)) (done ++ [point]) := by
  obtain ⟨i, hfind⟩ := hknown point (List.mem_append_right _ (List.mem_singleton.mpr rfl))
  have hsame : db.legacyInterface routerId point.wanName = some i := by
    rw [h.frame]
    exact hfind
  have hid : start.legacyInterfaceId routerId point.wanName = i.id := by
    simp [TrafficDb.legacyInterfaceId, hfind]
  have hfresh : db.trafficSamples.rows.any (fun s => s.on routerId i.id &&
      decide (s.endedAtMs = point.ts ∧ s.source = "legacy-traffic_points")) = false := by
    rw [List.any_eq_false]
    intro s hs hany
    rw [Bool.and_eq_true, TrafficSampleInput.on, decide_eq_true_eq, decide_eq_true_eq] at hany
    have hmem : s.toTrafficSampleInput ∈
        db.trafficSamples.rows.map (fun s => s.toTrafficSampleInput) := List.mem_map_of_mem hs
    rw [h.rows] at hmem
    obtain ⟨p, hp, hsample⟩ := List.mem_map.mp hmem
    obtain ⟨j, hj⟩ := hknown p (List.mem_append_left _ hp)
    have hinterface : s.interfaceId = start.legacyInterfaceId routerId p.wanName := by
      rw [← hsample]
      rfl
    have hended : s.endedAtMs = p.ts := by
      rw [← hsample]
      rfl
    have hjd : start.legacyInterfaceId routerId p.wanName = j.id := by
      simp [TrafficDb.legacyInterfaceId, hj]
    have hwan := legacyInterfaceId_injective hi hj hfind
      (hjd.symm.trans (hinterface.symm.trans hany.1.2))
    rw [List.map_append, List.nodup_append] at hkeys
    refine hkeys.2.2 _ (List.mem_map_of_mem hp) _ (List.mem_singleton.mpr rfl) ?_
    rw [hwan, ← hended, hany.2.1]
  have hstep : importPoint routerId db (point, latestEarlier legacy.points point) =
      { db with
        trafficSamples := db.trafficSamples.insert (fun id =>
          { importedSample legacy routerId (start.legacyInterfaceId routerId) point with
            id := id }) } := by
    simp only [importPoint, hsame]
    rw [if_neg]
    · simp only [importedSample, hid]
    · rw [Bool.not_eq_true]
      exact hfresh
  rw [hstep]
  refine ⟨?_, ?_⟩
  · rw [h.frame]
  · simp [h.rows]

theorem pointsImported {done rest : List LegacyPoint}
    (h : PointsImported legacy routerId start db done) (hi : start.Registry)
    (hknown : ∀ p ∈ done ++ rest, ∃ i, start.legacyInterface routerId p.wanName = some i)
    (hkeys : ((done ++ rest).map (fun p => (wanOrEmpty p.wanName, p.ts))).Nodup) :
    PointsImported legacy routerId start
      ((rest.map (fun p => (p, latestEarlier legacy.points p))).foldl (importPoint routerId) db)
      (done ++ rest) := by
  induction rest generalizing done db with
  | nil =>
      rw [List.append_nil]
      exact h
  | cons point rest ih =>
      have hmove : done ++ point :: rest = (done ++ [point]) ++ rest := by
        rw [List.append_assoc, List.singleton_append]
      rw [hmove] at hknown hkeys ⊢
      have hnext := h.next hi (fun p hp => hknown p (List.mem_append_left _ hp))
        (hkeys.sublist ((List.sublist_append_left _ _).map _))
      exact ih hnext hknown hkeys

end

/-! ## Minutes -/

/-- The interval of an imported point. -/
def LegacyTraffic.pointSpan (legacy : LegacyTraffic) (point : LegacyPoint) : Span Int :=
  ⟨point.ts - measuredMs point.ts (latestEarlier legacy.points point), point.ts⟩

/-- The interval of a minute. -/
def LegacyMinute.span (minute : LegacyMinute) : Span Int := ⟨minute.bucket, minute.bucket + 60000⟩

/-- No point of the minute's interface has an interval that meets the minute. -/
def LegacyTraffic.MeetsNoPoint (legacy : LegacyTraffic) (minute : LegacyMinute) : Prop :=
  ∀ p ∈ legacy.points, wanOrEmpty p.wanName = wanOrEmpty minute.wanName →
    (legacy.pointSpan p).Apart minute.span

instance (legacy : LegacyTraffic) (minute : LegacyMinute) :
    Decidable (legacy.MeetsNoPoint minute) :=
  inferInstanceAs (Decidable (∀ p ∈ legacy.points, _ → _))

/-- The minutes of a list have been imported, those that meet no point. -/
structure MinutesImported (legacy : LegacyTraffic) (routerId : Int) (start db : TrafficDb)
    (done : List LegacyMinute) : Prop where
  frame : db = { start with trafficRollups := db.trafficRollups }
  rows : db.trafficRollups.rows.map (fun r => { r with id := 0 }) =
    (done.filter (fun m => decide (legacy.MeetsNoPoint m))).map
      (fun m => legacyRollup routerId (start.legacyInterfaceId routerId m.wanName) m 0)

section

variable {legacy : LegacyTraffic} {routerId : Int} {start db : TrafficDb}

/-- The condition of the import, in terms of the legacy rows. -/
theorem eligibleMinute_iff (hi : start.Registry)
    (hrows : (start.trafficSamples.rows.map (fun s => s.toTrafficSampleInput)).Perm
      (legacy.points.map (importedSample legacy routerId (start.legacyInterfaceId routerId))))
    (hknown : ∀ p ∈ legacy.points, ∃ i, start.legacyInterface routerId p.wanName = some i)
    {minute : LegacyMinute} {i : RouterInterfaceRecord}
    (hfind : start.legacyInterface routerId minute.wanName = some i) :
    eligibleMinute start routerId i.id minute = true ↔ legacy.MeetsNoPoint minute := by
  have hid : ∀ {p : LegacyPoint} {j : RouterInterfaceRecord},
      start.legacyInterface routerId p.wanName = some j →
        start.legacyInterfaceId routerId p.wanName = j.id := by
    intro p j hj
    simp [TrafficDb.legacyInterfaceId, hj]
  simp only [eligibleMinute, Bool.not_eq_true', List.any_eq_false, Bool.and_eq_true,
    TrafficSampleInput.on, decide_eq_true_eq, not_and]
  constructor
  · intro h p hp hwan
    have hmem : importedSample legacy routerId (start.legacyInterfaceId routerId) p ∈
        start.trafficSamples.rows.map (fun s => s.toTrafficSampleInput) :=
      hrows.mem_iff.mpr (List.mem_map_of_mem hp)
    obtain ⟨s, hs, hsample⟩ := List.mem_map.mp hmem
    have hinterface : start.legacyInterfaceId routerId p.wanName = i.id := by
      have hsame : start.legacyInterface routerId p.wanName =
          start.legacyInterface routerId minute.wanName := by
        simp only [TrafficDb.legacyInterface, hwan]
      exact hid (hsame.trans hfind)
    have hspan := h s hs (by rw [hsample]; exact ⟨rfl, hinterface⟩) (by rw [hsample]; rfl)
    rw [hsample] at hspan
    simp only [importedSample, legacySample] at hspan
    simp only [LegacyTraffic.pointSpan, LegacyMinute.span, Span.Apart, Span.Before]
    omega
  · rintro h s hs ⟨_, hinterface⟩ _ hended hstarted
    have hmem : s.toTrafficSampleInput ∈
        start.trafficSamples.rows.map (fun s => s.toTrafficSampleInput) := List.mem_map_of_mem hs
    obtain ⟨p, hp, hsample⟩ := List.mem_map.mp (hrows.mem_iff.mp hmem)
    obtain ⟨j, hj⟩ := hknown p hp
    have hjd : s.interfaceId = j.id := by
      rw [← hsample]
      exact hid hj
    have hwan := legacyInterfaceId_injective hi hj hfind (hjd.symm.trans hinterface)
    have hapart := h p hp hwan
    rw [← hsample] at hended hstarted
    simp only [importedSample, legacySample] at hended hstarted
    simp only [LegacyTraffic.pointSpan, LegacyMinute.span, Span.Apart, Span.Before] at hapart
    omega

/-- One minute with a new key. -/
theorem MinutesImported.next {done : List LegacyMinute} {minute : LegacyMinute}
    (h : MinutesImported legacy routerId start db done) (hi : start.Registry)
    (hrows : (start.trafficSamples.rows.map (fun s => s.toTrafficSampleInput)).Perm
      (legacy.points.map (importedSample legacy routerId (start.legacyInterfaceId routerId))))
    (hpoints : ∀ p ∈ legacy.points, ∃ i, start.legacyInterface routerId p.wanName = some i)
    (hknown : ∀ m ∈ done ++ [minute], ∃ i, start.legacyInterface routerId m.wanName = some i)
    (hkeys : ((done ++ [minute]).map (fun m => (wanOrEmpty m.wanName, m.bucket))).Nodup) :
    MinutesImported legacy routerId start (importMinute routerId db minute) (done ++ [minute]) := by
  obtain ⟨i, hfind⟩ := hknown minute (List.mem_append_right _ (List.mem_singleton.mpr rfl))
  have hsame : db.legacyInterface routerId minute.wanName = some i := by
    rw [h.frame]
    exact hfind
  have hid : start.legacyInterfaceId routerId minute.wanName = i.id := by
    simp [TrafficDb.legacyInterfaceId, hfind]
  have heligible : eligibleMinute db routerId i.id minute = true ↔ legacy.MeetsNoPoint minute := by
    have hsamples : db.trafficSamples = start.trafficSamples := by rw [h.frame]
    rw [← eligibleMinute_iff hi hrows hpoints hfind, eligibleMinute, eligibleMinute, hsamples]
  by_cases hmeets : legacy.MeetsNoPoint minute
  · have hfresh : db.trafficRollups.rows.any
        (fun r => (legacyRollup routerId i.id minute 0).conflicts r) = false := by
      rw [List.any_eq_false]
      intro r hr hconflict
      rw [TrafficRollup.conflicts, decide_eq_true_eq] at hconflict
      obtain ⟨_, hinterface, _, hstart, _⟩ := hconflict
      have hmem : { r with id := 0 } ∈ db.trafficRollups.rows.map (fun r => { r with id := 0 }) :=
        List.mem_map_of_mem hr
      rw [h.rows] at hmem
      obtain ⟨m, hm, hrollup⟩ := List.mem_map.mp hmem
      have hm' := List.mem_of_mem_filter hm
      obtain ⟨j, hj⟩ := hknown m (List.mem_append_left _ hm')
      have hjd : start.legacyInterfaceId routerId m.wanName = j.id := by
        simp [TrafficDb.legacyInterfaceId, hj]
      have hri : start.legacyInterfaceId routerId m.wanName = r.interfaceId :=
        congrArg TrafficRollup.interfaceId hrollup
      have hrs : m.bucket = r.bucketStartMs := congrArg TrafficRollup.bucketStartMs hrollup
      simp only [legacyRollup] at hinterface hstart
      have hwan := legacyInterfaceId_injective hi hj hfind (by omega)
      rw [List.map_append, List.nodup_append] at hkeys
      refine hkeys.2.2 _ (List.mem_map_of_mem hm') _ (List.mem_singleton.mpr rfl) ?_
      rw [hwan, hrs, hstart]
    have hstep : importMinute routerId db minute =
        { db with
          trafficRollups := db.trafficRollups.insert (legacyRollup routerId i.id minute) } := by
      simp only [importMinute, hsame]
      rw [if_pos (heligible.mpr hmeets), if_neg (by rw [hfresh]; exact Bool.false_ne_true)]
    rw [hstep]
    refine ⟨by rw [h.frame], ?_⟩
    simp [h.rows, List.filter_append, hmeets, hid, legacyRollup]
  · have hstep : importMinute routerId db minute = db := by
      simp only [importMinute, hsame]
      rw [if_neg (fun htrue => hmeets (heligible.mp htrue))]
    rw [hstep]
    refine ⟨h.frame, ?_⟩
    rw [h.rows, List.filter_append]
    simp [hmeets]

theorem minutesImported {done rest : List LegacyMinute}
    (h : MinutesImported legacy routerId start db done) (hi : start.Registry)
    (hrows : (start.trafficSamples.rows.map (fun s => s.toTrafficSampleInput)).Perm
      (legacy.points.map (importedSample legacy routerId (start.legacyInterfaceId routerId))))
    (hpoints : ∀ p ∈ legacy.points, ∃ i, start.legacyInterface routerId p.wanName = some i)
    (hknown : ∀ m ∈ done ++ rest, ∃ i, start.legacyInterface routerId m.wanName = some i)
    (hkeys : ((done ++ rest).map (fun m => (wanOrEmpty m.wanName, m.bucket))).Nodup) :
    MinutesImported legacy routerId start (rest.foldl (importMinute routerId) db)
      (done ++ rest) := by
  induction rest generalizing done db with
  | nil =>
      rw [List.append_nil]
      exact h
  | cons minute rest ih =>
      have hmove : done ++ minute :: rest = (done ++ [minute]) ++ rest := by
        rw [List.append_assoc, List.singleton_append]
      rw [hmove] at hknown hkeys ⊢
      have hnext := h.next hi hrows hpoints (fun m hm => hknown m (List.mem_append_left _ hm))
        (hkeys.sublist ((List.sublist_append_left _ _).map _))
      exact ih hnext hknown hkeys

end

/-! ## The import -/

/-- The tables after an import: a sample for every point, a rollup for every minute that
meets no point, nothing else, and one interface for every wan name. -/
structure ImportsExactly (legacy : LegacyTraffic) (routerId : Int)
    (interfaceOf : Option String → Int) (db : TrafficDb) : Prop where
  points : (db.trafficSamples.rows.map (fun s => s.toTrafficSampleInput)).Perm
    (legacy.points.map (importedSample legacy routerId interfaceOf))
  minutes : db.trafficRollups.rows.map (fun r => { r with id := 0 }) =
    (legacy.minutes.filter (fun m => decide (legacy.MeetsNoPoint m))).map
      (fun m => legacyRollup routerId (interfaceOf m.wanName) m 0)
  pointNames : ∀ p ∈ legacy.points, ∃ i ∈ db.routerInterfaces.rows,
    i.id = interfaceOf p.wanName ∧ i.routerId = routerId ∧
      i.interfaceKey = legacyInterfaceKey (wanOrEmpty p.wanName)
  minuteNames : ∀ m ∈ legacy.minutes, ∃ i ∈ db.routerInterfaces.rows,
    i.id = interfaceOf m.wanName ∧ i.routerId = routerId ∧
      i.interfaceKey = legacyInterfaceKey (wanOrEmpty m.wanName)
  checkpoints : db.counterCheckpoints = []

/-- The tables before the rows are imported: the legacy router and its interfaces. -/
structure Registered (legacy : LegacyTraffic) (routerId : Int) (db : TrafficDb) : Prop where
  intact : db.Intact
  pointNames : ∀ p ∈ legacy.points, ∃ i, db.legacyInterface routerId p.wanName = some i
  minuteNames : ∀ m ∈ legacy.minutes, ∃ i, db.legacyInterface routerId m.wanName = some i
  samples : db.trafficSamples.rows = []
  rollups : db.trafficRollups.rows = []
  checkpoints : db.counterCheckpoints = []

/-- The names that an import registers. -/
def LegacyTraffic.wanNames (legacy : LegacyTraffic) : List String :=
  (legacy.points.map (fun p => wanOrEmpty p.wanName) ++
    legacy.minutes.map (fun m => wanOrEmpty m.wanName)).dedup

theorem registered_of_empty (nowMs : Int) (legacy : LegacyTraffic) {router : RouterRecord}
    (hrouter : router ∈ (registerLegacyRouter nowMs TrafficDb.empty).routers.rows) :
    Registered legacy router.id (legacy.wanNames.foldl (registerLegacyInterface nowMs router.id)
      (registerLegacyRouter nowMs TrafficDb.empty)) := by
  have hframe := registerAll_frame nowMs router.id legacy.wanNames
    (registerLegacyRouter nowMs TrafficDb.empty)
  have hintact : (legacy.wanNames.foldl (registerLegacyInterface nowMs router.id)
      (registerLegacyRouter nowMs TrafficDb.empty)).Intact :=
    (TrafficDb.Intact.empty.registerLegacyRouter nowMs).registerAll ⟨router, hrouter, rfl⟩ _
  have hname : ∀ {wanName : Option String}, wanOrEmpty wanName ∈ legacy.wanNames →
      ∃ i, TrafficDb.legacyInterface (legacy.wanNames.foldl
        (registerLegacyInterface nowMs router.id) (registerLegacyRouter nowMs TrafficDb.empty))
        router.id wanName = some i := by
    intro wanName hmem
    obtain ⟨i, hi, hid, hkey⟩ : ∃ i ∈ (legacy.wanNames.foldl
        (registerLegacyInterface nowMs router.id)
        (registerLegacyRouter nowMs TrafficDb.empty)).routerInterfaces.rows,
        i.routerId = router.id ∧ i.interfaceKey = legacyInterfaceKey (wanOrEmpty wanName) :=
      registerAll_has hmem
    exact legacyInterface_of_mem hi hid hkey
  refine ⟨hintact, ?_, ?_, ?_, ?_, ?_⟩
  · intro p hp
    exact hname (List.mem_dedup.mpr (List.mem_append_left _ (List.mem_map_of_mem hp)))
  · intro m hm
    exact hname (List.mem_dedup.mpr (List.mem_append_right _ (List.mem_map_of_mem hm)))
  · rw [hframe]
    rfl
  · rw [hframe]
    rfl
  · rw [hframe]
    rfl

/-- The tables after the points and the minutes. -/
def importRows (legacy : LegacyTraffic) (routerId : Int) (db : TrafficDb) : TrafficDb :=
  legacy.minutes.foldl (importMinute routerId)
    ((withPreviousTs none (legacy.points.insertionSort LegacyPoint.windowLe)).foldl
      (importPoint routerId) db)

section

variable {legacy : LegacyTraffic} {routerId : Int} {db : TrafficDb}

theorem Registered.pointed (h : Registered legacy routerId db) (hkeyed : legacy.Keyed) :
    PointsImported legacy routerId db
      ((withPreviousTs none (legacy.points.insertionSort LegacyPoint.windowLe)).foldl
        (importPoint routerId) db) (legacy.points.insertionSort LegacyPoint.windowLe) := by
  have hperm := List.perm_insertionSort LegacyPoint.windowLe legacy.points
  have hstart : PointsImported legacy routerId db db [] := ⟨rfl, by rw [h.samples]; rfl⟩
  rw [withPreviousTs_sorted hkeyed.points]
  refine pointsImported hstart h.intact.registry ?_ ?_
  · intro p hp
    exact h.pointNames p (hperm.mem_iff.mp hp)
  · exact (hperm.map _).nodup_iff.mpr hkeyed.points

/-- The rows of both tables, with the interfaces of the registration. -/
theorem Registered.imported (h : Registered legacy routerId db) (hkeyed : legacy.Keyed) :
    ∃ pointed, PointsImported legacy routerId db pointed
        (legacy.points.insertionSort LegacyPoint.windowLe) ∧
      MinutesImported legacy routerId pointed (importRows legacy routerId db) legacy.minutes ∧
      (∀ m ∈ legacy.minutes, ∃ i, db.legacyInterface routerId m.wanName = some i ∧
        (eligibleMinute pointed routerId i.id m = true ↔ legacy.MeetsNoPoint m)) := by
  have hpointed := h.pointed hkeyed
  refine ⟨_, hpointed, ?_⟩
  have hperm := List.perm_insertionSort LegacyPoint.windowLe legacy.points
  unfold importRows
  generalize (withPreviousTs none (legacy.points.insertionSort LegacyPoint.windowLe)).foldl
    (importPoint routerId) db = pointed at hpointed
  have hsame : ∀ wanName, pointed.legacyInterface routerId wanName =
      db.legacyInterface routerId wanName := by
    intro wanName
    rw [hpointed.frame]
    rfl
  have hid : pointed.legacyInterfaceId routerId = db.legacyInterfaceId routerId := by
    funext wanName
    rw [TrafficDb.legacyInterfaceId, hsame, TrafficDb.legacyInterfaceId]
  have hregistry : pointed.Registry := by
    rw [hpointed.frame]
    exact h.intact.registry.congr rfl rfl
  have hrows : (pointed.trafficSamples.rows.map (fun s => s.toTrafficSampleInput)).Perm
      (legacy.points.map
        (importedSample legacy routerId (pointed.legacyInterfaceId routerId))) := by
    rw [hpointed.rows, hid]
    exact hperm.map _
  have hpoints : ∀ p ∈ legacy.points, ∃ i, pointed.legacyInterface routerId p.wanName = some i :=
    fun p hp => hsame p.wanName ▸ h.pointNames p hp
  have hminutes : ∀ m ∈ legacy.minutes, ∃ i, pointed.legacyInterface routerId m.wanName = some i :=
    fun m hm => hsame m.wanName ▸ h.minuteNames m hm
  refine ⟨?_, ?_⟩
  · have hstart : MinutesImported legacy routerId pointed pointed [] := by
      refine ⟨rfl, ?_⟩
      rw [hpointed.frame, h.rollups]
      rfl
    exact minutesImported hstart hregistry hrows hpoints hminutes hkeyed.minutes
  · intro m hm
    obtain ⟨i, hi⟩ := hminutes m hm
    exact ⟨i, (hsame m.wanName).symm.trans hi, eligibleMinute_iff hregistry hrows hpoints hi⟩

theorem Registered.importsExactly (h : Registered legacy routerId db) (hkeyed : legacy.Keyed) :
    ImportsExactly legacy routerId (db.legacyInterfaceId routerId)
      (importRows legacy routerId db) := by
  obtain ⟨pointed, hpointed, hminutes, _⟩ := h.imported hkeyed
  have hframe := hminutes.frame
  have hid : pointed.legacyInterfaceId routerId = db.legacyInterfaceId routerId := by
    rw [hpointed.frame]
    rfl
  have hnamed : ∀ {wanName i}, db.legacyInterface routerId wanName = some i →
      ∃ i ∈ (importRows legacy routerId db).routerInterfaces.rows,
        i.id = db.legacyInterfaceId routerId wanName ∧ i.routerId = routerId ∧
          i.interfaceKey = legacyInterfaceKey (wanOrEmpty wanName) := by
    intro wanName i hi
    have hkey := List.find?_some hi
    rw [decide_eq_true_eq] at hkey
    refine ⟨i, ?_, by simp [TrafficDb.legacyInterfaceId, hi], hkey⟩
    rw [hframe, hpointed.frame]
    exact List.mem_of_find?_eq_some hi
  refine ⟨?_, ?_, ?_, ?_, ?_⟩
  · rw [hframe, hpointed.rows]
    exact (List.perm_insertionSort LegacyPoint.windowLe legacy.points).map _
  · rw [hminutes.rows, hid]
  · intro p hp
    obtain ⟨i, hi⟩ := h.pointNames p hp
    exact hnamed hi
  · intro m hm
    obtain ⟨i, hi⟩ := h.minuteNames m hm
    exact hnamed hi
  · rw [hframe, hpointed.frame]
    exact h.checkpoints

/-- Every imported point and every eligible minute is counted. -/
theorem Registered.counts (h : Registered legacy routerId db) (hkeyed : legacy.Keyed) :
    (importRows legacy routerId db).trafficSamples.rows.countP
        (fun s => decide (s.source = "legacy-traffic_points")) = legacy.points.length ∧
      (importRows legacy routerId db).trafficRollups.rows.countP
        (fun r => decide (r.source = "legacy-traffic_1m")) =
        expectedRollups (importRows legacy routerId db) routerId legacy.minutes := by
  obtain ⟨pointed, hpointed, hminutes, heligible⟩ := h.imported hkeyed
  have hexact := h.importsExactly hkeyed
  refine ⟨?_, ?_⟩
  · have hall : ∀ s ∈ (importRows legacy routerId db).trafficSamples.rows,
        decide (s.source = "legacy-traffic_points") = true := by
      intro s hs
      obtain ⟨p, _, hsample⟩ := List.mem_map.mp (hexact.points.mem_iff.mp (List.mem_map_of_mem hs))
      rw [decide_eq_true_eq, ← hsample]
      rfl
    rw [List.countP_eq_length.mpr hall, ← List.length_map, hexact.points.length_eq,
      List.length_map]
  · have hall : ∀ r ∈ (importRows legacy routerId db).trafficRollups.rows,
        decide (r.source = "legacy-traffic_1m") = true := by
      intro r hr
      have hmem : { r with id := 0 } ∈ (importRows legacy routerId db).trafficRollups.rows.map
          (fun r => { r with id := 0 }) := List.mem_map_of_mem hr
      rw [hexact.minutes] at hmem
      obtain ⟨m, _, hrollup⟩ := List.mem_map.mp hmem
      rw [decide_eq_true_eq]
      exact (congrArg TrafficRollup.source hrollup).symm
    have hlength := congrArg List.length hexact.minutes
    rw [List.length_map, List.length_map] at hlength
    rw [List.countP_eq_length.mpr hall, hlength, ← List.countP_eq_length_filter, expectedRollups]
    apply List.countP_congr
    intro m hm
    obtain ⟨i, hi, hmeets⟩ := heligible m hm
    have hsame : (importRows legacy routerId db).legacyInterface routerId m.wanName = some i := by
      rw [hminutes.frame, hpointed.frame]
      exact hi
    have hsamples : eligibleMinute (importRows legacy routerId db) routerId i.id m =
        eligibleMinute pointed routerId i.id m := by
      rw [hminutes.frame]
      rfl
    rw [hsame]
    simp only [hsamples, decide_eq_true_eq]
    exact hmeets.symm

end

/-- The import of a legacy database succeeds and stores exactly its rows. -/
theorem importLegacyTraffic_exact (nowMs : Int) {legacy : LegacyTraffic} (hkeyed : legacy.Keyed) :
    ∃ db routerId interfaceOf, importLegacyTraffic nowMs legacy TrafficDb.empty = .ok db ∧
      ImportsExactly legacy routerId interfaceOf db := by
  by_cases hempty : legacy.points = [] ∧ legacy.minutes = []
  · refine ⟨TrafficDb.empty, 0, fun _ => 0, ?_, ?_⟩
    · simp only [importLegacyTraffic, hempty, and_self, if_true]
      rfl
    · constructor <;> simp [hempty.1, hempty.2, TrafficDb.empty]
  · have hrouters : (registerLegacyRouter nowMs TrafficDb.empty).routers.rows =
        [⟨1, "routerview-legacy-unidentified", none, legacyTarget, "legacy", nowMs, nowMs⟩] := rfl
    obtain ⟨router, hrouter⟩ : ∃ router, router ∈
        (registerLegacyRouter nowMs TrafficDb.empty).routers.rows := by
      rw [hrouters]
      exact ⟨_, List.mem_singleton.mpr rfl⟩
    have hfound : (registerLegacyRouter nowMs TrafficDb.empty).routers.rows.find? (fun r =>
        decide (r.internalUuid = "routerview-legacy-unidentified")) = some router := by
      rw [hrouters] at hrouter ⊢
      rw [List.mem_singleton.mp hrouter]
      rfl
    have hregistered := registered_of_empty nowMs legacy hrouter
    obtain ⟨hpoints, hrollups⟩ := hregistered.counts hkeyed
    refine ⟨_, _, _, ?_, hregistered.importsExactly hkeyed⟩
    simp only [importLegacyTraffic, if_neg hempty, hfound, okOr]
    rw [ok_bind]
    exact ensure_bind_eq_ok_iff.mpr ⟨⟨hpoints, hrollups⟩, rfl⟩

/-! ## Rows apart -/

namespace ImportsExactly

variable {legacy : LegacyTraffic} {routerId r i : Int} {interfaceOf : Option String → Int}
  {db : TrafficDb}

/-- The point of a sample row. -/
theorem sample_origin (h : ImportsExactly legacy routerId interfaceOf db) {s : TrafficSample}
    (hs : s ∈ db.trafficSamples.rows) :
    ∃ p ∈ legacy.points, s.span = legacy.pointSpan p ∧ s.interfaceId = interfaceOf p.wanName ∧
      s.toTrafficSampleInput = importedSample legacy routerId interfaceOf p := by
  obtain ⟨p, hp, hsample⟩ := List.mem_map.mp (h.points.mem_iff.mp (List.mem_map_of_mem hs))
  refine ⟨p, hp, ?_, ?_, hsample.symm⟩
  · rw [← hsample]
    rfl
  · rw [← hsample]
    rfl

/-- The minute of a rollup row. -/
theorem rollup_origin (h : ImportsExactly legacy routerId interfaceOf db) {a : TrafficRollup}
    (ha : a ∈ db.trafficRollups.rows) :
    ∃ m ∈ legacy.minutes, legacy.MeetsNoPoint m ∧
      a = legacyRollup routerId (interfaceOf m.wanName) m a.id := by
  have hmem : { a with id := 0 } ∈ db.trafficRollups.rows.map (fun r => { r with id := 0 }) :=
    List.mem_map_of_mem ha
  rw [h.minutes] at hmem
  obtain ⟨m, hm, hrollup⟩ := List.mem_map.mp hmem
  obtain ⟨hm, hmeets⟩ := List.mem_filter.mp hm
  refine ⟨m, hm, of_decide_eq_true hmeets, ?_⟩
  have hback := congrArg (fun r : TrafficRollup => { r with id := a.id }) hrollup
  exact hback.symm

/-- Rows of one interface come from one wan name. -/
theorem wan_eq (hi : db.Intact) {v w : Option String}
    (hv : ∃ i ∈ db.routerInterfaces.rows, i.id = interfaceOf v ∧ i.routerId = routerId ∧
      i.interfaceKey = legacyInterfaceKey (wanOrEmpty v))
    (hw : ∃ i ∈ db.routerInterfaces.rows, i.id = interfaceOf w ∧ i.routerId = routerId ∧
      i.interfaceKey = legacyInterfaceKey (wanOrEmpty w))
    (hsame : interfaceOf v = interfaceOf w) : wanOrEmpty v = wanOrEmpty w := by
  obtain ⟨a, ha, haid, _, hakey⟩ := hv
  obtain ⟨b, hb, hbid, _, hbkey⟩ := hw
  have hab := hi.registry.interfaces.identifiers a ha b hb (haid.trans (hsame.trans hbid.symm))
  rw [hab, hbkey] at hakey
  exact (legacyInterfaceKey_injective hakey).symm

/-- A point reaches back to the one before it at most. -/
theorem pointSpan_before {p q : LegacyPoint} (hp : p ∈ legacy.points)
    (hwan : wanOrEmpty p.wanName = wanOrEmpty q.wanName) (hlt : p.ts < q.ts) :
    (legacy.pointSpan p).Before (legacy.pointSpan q) := by
  have hbounds := measuredMs_bounds q.ts (latestEarlier legacy.points q)
  cases hlag : latestEarlier legacy.points q with
  | none =>
      have hle := latestEarlier_eq_none.mp hlag p hp hwan
      omega
  | some ts =>
      obtain ⟨⟨_, _, _, hearlier, hts⟩, hlatest⟩ := latestEarlier_eq_some.mp hlag
      have hle := hlatest p hp hwan hlt
      simp only [LegacyTraffic.pointSpan, Span.Before, hlag, measuredMs, Option.getD_some]
      omega

/-- The samples of an interface are pairwise disjoint. -/
theorem samples_apart (h : ImportsExactly legacy routerId interfaceOf db) (hi : db.Intact)
    {s t : TrafficSample} (hs : s ∈ db.trafficSamples.rows) (ht : t ∈ db.trafficSamples.rows)
    (hson : s.on r i = true) (hton : t.on r i = true) (hne : s.id ≠ t.id) :
    s.span.Apart t.span := by
  obtain ⟨p, hp, hspan, hinterface, hsample⟩ := h.sample_origin hs
  obtain ⟨q, hq, hspan', hinterface', hsample'⟩ := h.sample_origin ht
  rw [TrafficSampleInput.on, decide_eq_true_eq] at hson hton
  have hwan := wan_eq hi (h.pointNames p hp) (h.pointNames q hq)
    (hinterface.symm.trans (hson.2.trans (hton.2.symm.trans hinterface')))
  rw [hspan, hspan']
  rcases lt_trichotomy p.ts q.ts with hlt | heq | hgt
  · exact Or.inl (pointSpan_before hp hwan hlt)
  · -- two rows of one interface and one end are one row
    exfalso
    have hended : s.endedAtMs = t.endedAtMs := by
      rw [hsample, hsample']
      exact heq
    have hsource : s.source = t.source := by
      rw [hsample, hsample']
      rfl
    have hst := hi.records.sampleKeys s hs t ht
      ⟨hson.1.trans hton.1.symm, hson.2.trans hton.2.symm, hended, hsource⟩
    exact hne (congrArg TrafficSample.id hst)
  · exact Or.inr (pointSpan_before hq hwan.symm hgt)

/-- The contributions of an import are pairwise disjoint. -/
theorem rowsApart (h : ImportsExactly legacy routerId interfaceOf db) (hi : db.Intact)
    (hunique : UniqueRollups db.trafficRollups)
    (hminutes : ∀ m ∈ legacy.minutes, (60000 : Int) ∣ m.bucket) : db.RowsApart r i := by
  constructor
  · exact fun s hs t ht hson hton hne => h.samples_apart hi hs ht hson hton hne
  · intro a ha b hb haon hbon hne
    obtain ⟨m, hm, _, hrollup⟩ := h.rollup_origin ha
    obtain ⟨m', hm', _, hrollup'⟩ := h.rollup_origin hb
    rw [TrafficRollup.on, decide_eq_true_eq] at haon hbon
    have hdvd := hminutes m hm
    have hdvd' := hminutes m' hm'
    have hbuckets : m.bucket ≠ m'.bucket := by
      intro heq
      apply hne
      apply hunique a ha b hb
      rw [TrafficRollup.conflicts, decide_eq_true_eq]
      refine ⟨hbon.1.trans haon.1.symm, hbon.2.trans haon.2.symm, ?_, ?_, ?_⟩ <;>
        rw [hrollup, hrollup']
      · rfl
      · exact heq.symm
      · rfl
    have hspans : a.span = m.span ∧ b.span = m'.span := by
      rw [hrollup, hrollup']
      exact ⟨rfl, rfl⟩
    rw [hspans.1, hspans.2]
    simp only [LegacyMinute.span, Span.Apart, Span.Before]
    omega
  · intro s hs a ha hson haon
    obtain ⟨p, hp, hspan, hinterface, _⟩ := h.sample_origin hs
    obtain ⟨m, hm, hmeets, hrollup⟩ := h.rollup_origin ha
    rw [TrafficSampleInput.on, decide_eq_true_eq] at hson
    rw [TrafficRollup.on, decide_eq_true_eq] at haon
    have hainterface : a.interfaceId = interfaceOf m.wanName := by
      rw [hrollup]
      rfl
    have hwan := wan_eq hi (h.pointNames p hp) (h.minuteNames m hm)
      (hinterface.symm.trans (hson.2.trans (haon.2.symm.trans hainterface)))
    have haspan : a.span = m.span := by
      rw [hrollup]
      rfl
    rw [hspan, haspan]
    exact hmeets p hp hwan

end ImportsExactly

end RouterView.Db
