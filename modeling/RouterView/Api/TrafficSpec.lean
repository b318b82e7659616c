/-
  Api/TrafficSpec.lean --- what the traffic endpoint answers.

  The answer to a request is decided by the request, the target of the configuration and
  the tables: which router and which interface are meant, whether the rows of the range are
  too many or do not fit together, and otherwise a response whose numbers agree with the
  rows and with each other.  What a response lists can be asked for.

  Scope: tables whose instants stay below `2 ^ 62` milliseconds (`TrafficDb.Timed`), so that
  no difference of two of them leaves the 64-bit range.  What is said of the endpoint holds
  for every way in which a query may be interrupted.
-/
import RouterView.Api.Traffic
import RouterView.Db.Integrity
import RouterView.Db.QueryPrinted
import RouterView.Foundation.Span

set_option autoImplicit false

namespace RouterView.Db

open RouterView.Foundation

/-! ## Selections -/

theorem seenKey_lt_iff {seen seen' id id' : Int} :
    seenKey seen id < seenKey seen' id' ↔ seen' < seen ∨ (seen = seen' ∧ id' < id) := by
  rw [seenKey, seenKey, Prod.Lex.toLex_lt_toLex]
  rfl

theorem laterRouter_eq (best r : RouterRecord) :
    TrafficDb.laterRouter best r = if r.seenKey < best.seenKey then r else best := by
  unfold TrafficDb.laterRouter RouterRecord.seenKey
  simp only [seenKey_lt_iff]
  refine if_congr ?_ rfl rfl
  constructor <;> rintro (h | ⟨h, h'⟩)
  · exact Or.inl h
  · exact Or.inr ⟨h.symm, h'⟩
  · exact Or.inl h
  · exact Or.inr ⟨h.symm, h'⟩

theorem foldl_laterRouter_eq (best : RouterRecord) (l : List RouterRecord) :
    l.foldl TrafficDb.laterRouter best = minFrom RouterRecord.seenKey best l := by
  induction l generalizing best with
  | nil => rfl
  | cons r l ih => rw [List.foldl_cons, ih, laterRouter_eq, minFrom]

/-- Of the elements of a list, the one seen last; of several, the one of the largest
identifier. -/
structure LastSeen {α : Type} (seen id : α → Int) (l : List α) (m : α) : Prop where
  mem : m ∈ l
  latest : ∀ a ∈ l, seen a < seen m ∨ (seen a = seen m ∧ id a ≤ id m)

theorem lastSeen_of_minByKey {α : Type} {seen id : α → Int} {l : List α} {m : α}
    (h : minByKey (fun a => seenKey (seen a) (id a)) l = some m) : LastSeen seen id l m where
  mem := minByKey_mem h
  latest := by
    intro a ha
    have hle := not_lt.mpr (minByKey_le h ha)
    rw [seenKey_lt_iff, not_or, not_lt] at hle
    rcases lt_or_eq_of_le hle.1 with hlt | heq
    · exact Or.inl hlt
    · exact Or.inr ⟨heq, not_lt.mp fun hid => hle.2 ⟨heq, hid⟩⟩

theorem exists_lastSeen {α : Type} (seen id : α → Int) {l : List α} (h : l ≠ []) :
    ∃ m, LastSeen seen id l m := by
  cases hmin : minByKey (fun a => seenKey (seen a) (id a)) l with
  | none => exact absurd (minByKey_eq_none.mp hmin) h
  | some m => exact ⟨m, lastSeen_of_minByKey hmin⟩

theorem LastSeen.unique {α : Type} {seen id : α → Int} {l : List α} {m m' : α}
    (h : LastSeen seen id l m) (h' : LastSeen seen id l m')
    (hid : ∀ a ∈ l, ∀ b ∈ l, id a = id b → a = b) : m = m' := by
  have hle := h.latest m' h'.mem
  have hge := h'.latest m h.mem
  exact hid m h.mem m' h'.mem (by omega)

/-- The router seen last. -/
abbrev RouterRecord.IsLastSeen (l : List RouterRecord) (router : RouterRecord) : Prop :=
  LastSeen (fun r : RouterRecord => r.lastSeenAtMs) (fun r => r.id) l router

/-- The interface seen last. -/
abbrev RouterInterfaceRecord.IsLastSeen (l : List RouterInterfaceRecord)
    (interface : RouterInterfaceRecord) : Prop :=
  LastSeen (fun i : RouterInterfaceRecord => i.lastSeenAtMs) (fun i => i.id) l interface

namespace TrafficDb

variable (db : TrafficDb)

/-- The routers of a target. -/
def routersOf (target : String) : List RouterRecord :=
  db.routers.rows.filter (fun r => decide (r.fallbackTarget = target))

theorem routerByFallbackTarget_eq (target : String) :
    db.routerByFallbackTarget target = minByKey RouterRecord.seenKey (db.routersOf target) := by
  unfold routerByFallbackTarget routersOf
  cases db.routers.rows.filter (fun r => decide (r.fallbackTarget = target)) with
  | nil => rfl
  | cons first rest => exact congrArg some (foldl_laterRouter_eq first rest)

/-- The router that a target stands for: of its routers the one last seen, or where it has
none the one last seen of those with traffic. -/
def Current (host : String) (router : RouterRecord) : Prop :=
  RouterRecord.IsLastSeen (db.routersOf (trim host)) router ∨
    (db.routersOf (trim host) = [] ∧
      RouterRecord.IsLastSeen (db.routers.rows.filter db.hasTraffic) router)

theorem current_mem {host : String} {router : RouterRecord} (h : db.Current host router) :
    router ∈ db.routers.rows := by
  rcases h with h | ⟨_, h⟩ <;> exact List.mem_of_mem_filter h.mem

theorem currentRouterForTarget_cases (host : String) :
    (trim host = "" ∧ ∃ message,
      db.currentRouterForTarget host = .error (.invalidCommand message)) ∨
    (trim host ≠ "" ∧ db.currentRouterForTarget host = .ok none ∧
      ∀ router, ¬ db.Current host router) ∨
    (trim host ≠ "" ∧ ∃ router, db.currentRouterForTarget host = .ok (some router) ∧
      db.Current host router) := by
  unfold currentRouterForTarget
  dsimp only
  by_cases hempty : trim host = ""
  · exact Or.inl ⟨hempty, _, by rw [hempty]; rfl⟩
  · rw [ensure_of (by simpa [String.isEmpty_iff] using hempty), ok_bind, routerByFallbackTarget_eq,
      pure_eq_ok]
    refine Or.inr ?_
    cases hown : minByKey RouterRecord.seenKey (db.routersOf (trim host)) with
    | some router => exact Or.inr ⟨hempty, router, rfl, Or.inl (lastSeen_of_minByKey hown)⟩
    | none =>
        have hnil := minByKey_eq_none.mp hown
        rw [Option.none_or]
        cases hany : minByKey RouterRecord.seenKey (db.routers.rows.filter db.hasTraffic) with
        | some router =>
            exact Or.inr ⟨hempty, router, rfl, Or.inr ⟨hnil, lastSeen_of_minByKey hany⟩⟩
        | none =>
            refine Or.inl ⟨hempty, rfl, ?_⟩
            rintro router (h | ⟨_, h⟩)
            · exact absurd (hnil ▸ h.mem) List.not_mem_nil
            · exact absurd (minByKey_eq_none.mp hany ▸ h.mem) List.not_mem_nil

/-- The aggregates of a router. -/
def aggregatesOf (routerId : Int) : List RouterInterfaceRecord :=
  db.routerInterfaces.rows.filter (fun i => decide (i.routerId = routerId) && i.isAggregate)

/-- The interface that a selector means: the one of the key; of the interfaces of a name
that are no aggregates the one last seen; the aggregate of its key, or else the one last
seen. -/
def Selects (routerId : Int) (interface : RouterInterfaceRecord) :
    TrafficInterfaceSelector → Prop
  | .interfaceKey key =>
      interface ∈ db.routerInterfaces.rows ∧ interface.routerId = routerId ∧
        interface.interfaceKey = key
  | .wanName name =>
      RouterInterfaceRecord.IsLastSeen
        ((db.wanInterfacesOf routerId).filter (fun i => decide (i.name = name))) interface
  | .aggregate =>
      RouterInterfaceRecord.IsLastSeen
          ((db.aggregatesOf routerId).filter (fun i => decide (i.interfaceKey = aggregateKey)))
          interface ∨
        ((∀ i ∈ db.aggregatesOf routerId, i.interfaceKey ≠ aggregateKey) ∧
          RouterInterfaceRecord.IsLastSeen (db.aggregatesOf routerId) interface)

theorem mem_wanInterfacesOf {routerId : Int} {i : RouterInterfaceRecord} :
    i ∈ db.wanInterfacesOf routerId ↔
      i ∈ db.routerInterfaces.rows ∧ i.routerId = routerId ∧ i.isAggregate = false := by
  simp [wanInterfacesOf]

theorem mem_aggregatesOf {routerId : Int} {i : RouterInterfaceRecord} :
    i ∈ db.aggregatesOf routerId ↔
      i ∈ db.routerInterfaces.rows ∧ i.routerId = routerId ∧ i.isAggregate = true := by
  simp [aggregatesOf]

variable {db}

theorem Selects.mem {routerId : Int} {interface : RouterInterfaceRecord}
    {selector : TrafficInterfaceSelector} (h : db.Selects routerId interface selector) :
    interface ∈ db.routerInterfaces.rows ∧ interface.routerId = routerId := by
  cases selector with
  | interfaceKey key => exact ⟨h.1, h.2.1⟩
  | wanName name =>
      have hmem := (db.mem_wanInterfacesOf).mp (List.mem_of_mem_filter (LastSeen.mem h))
      exact ⟨hmem.1, hmem.2.1⟩
  | aggregate =>
      rcases h with h | ⟨_, h⟩
      · have hmem := (db.mem_aggregatesOf).mp (List.mem_of_mem_filter h.mem)
        exact ⟨hmem.1, hmem.2.1⟩
      · have hmem := (db.mem_aggregatesOf).mp h.mem
        exact ⟨hmem.1, hmem.2.1⟩

/-- The aggregate that the statement takes. -/
theorem selects_of_aggregateOrder {routerId : Int} {interface : RouterInterfaceRecord}
    (h : minByKey RouterInterfaceRecord.aggregateOrder (db.aggregatesOf routerId) =
      some interface) : db.Selects routerId interface .aggregate := by
  have hmem := minByKey_mem h
  have hle : ∀ i ∈ db.aggregatesOf routerId,
      interface.aggregateOrder ≤ i.aggregateOrder := fun i hi => minByKey_le h hi
  have hseen : ∀ i ∈ db.aggregatesOf routerId,
      (i.interfaceKey = aggregateKey ↔ interface.interfaceKey = aggregateKey) →
      i.lastSeenAtMs < interface.lastSeenAtMs ∨
        (i.lastSeenAtMs = interface.lastSeenAtMs ∧ i.id ≤ interface.id) := by
    intro i hi hsame
    have hnot := not_lt.mpr (hle i hi)
    simp only [RouterInterfaceRecord.aggregateOrder, Prod.Lex.toLex_lt_toLex, hsame, true_and,
      not_or, RouterInterfaceRecord.seenKey, seenKey_lt_iff, not_lt] at hnot
    rcases lt_or_eq_of_le hnot.2.1 with hlt | heq
    · exact Or.inl hlt
    · exact Or.inr ⟨heq, not_lt.mp fun hid => hnot.2.2 ⟨heq, hid⟩⟩
  by_cases hkey : interface.interfaceKey = aggregateKey
  · refine Or.inl ⟨List.mem_filter.mpr ⟨hmem, decide_eq_true hkey⟩, ?_⟩
    intro i hi
    obtain ⟨hi, hikey⟩ := List.mem_filter.mp hi
    exact hseen i hi (iff_of_true (of_decide_eq_true hikey) hkey)
  · have hnone : ∀ i ∈ db.aggregatesOf routerId, i.interfaceKey ≠ aggregateKey := by
      intro i hi hikey
      have hnot := hle i hi
      rw [← not_lt] at hnot
      refine hnot ?_
      rw [RouterInterfaceRecord.aggregateOrder, RouterInterfaceRecord.aggregateOrder,
        if_pos hikey, if_neg hkey, Prod.Lex.toLex_lt_toLex]
      exact Or.inl Nat.zero_lt_one
    exact Or.inr ⟨hnone, hmem, fun i hi => hseen i hi (iff_of_false (hnone i hi) hkey)⟩

/-- The interface that is read for a selector, if any is meant. -/
theorem selectInterface_cases (db : TrafficDb) (routerId : Int)
    (selector : TrafficInterfaceSelector) :
    (db.selectInterface routerId selector = none ∧
      ∀ interface, ¬ db.Selects routerId interface selector) ∨
    ∃ interface, db.selectInterface routerId selector = some interface ∧
      db.Selects routerId interface selector := by
  cases selector with
  | interfaceKey key =>
      cases h : db.interfaceByKey routerId key with
      | none =>
          refine Or.inl ⟨h, ?_⟩
          rintro interface ⟨hmem, hrouter, hkey⟩
          have := List.find?_eq_none.mp h interface hmem
          simp [RouterInterfaceRecord.keyed, hrouter, hkey] at this
      | some interface =>
          have hkeyed : interface.routerId = routerId ∧ interface.interfaceKey = key := by
            simpa [RouterInterfaceRecord.keyed] using List.find?_some h
          exact Or.inr ⟨interface, h, List.mem_of_find?_eq_some h, hkeyed.1, hkeyed.2⟩
  | wanName name =>
      cases h : minByKey RouterInterfaceRecord.seenKey
          ((db.wanInterfacesOf routerId).filter (fun i => decide (i.name = name))) with
      | none =>
          exact Or.inl ⟨h, fun interface hselects =>
            absurd (minByKey_eq_none.mp h ▸ LastSeen.mem hselects) List.not_mem_nil⟩
      | some interface => exact Or.inr ⟨interface, h, lastSeen_of_minByKey h⟩
  | aggregate =>
      cases h : minByKey RouterInterfaceRecord.aggregateOrder (db.aggregatesOf routerId) with
      | none =>
          refine Or.inl ⟨h, fun interface hselects => ?_⟩
          have hnil := minByKey_eq_none.mp h
          rcases hselects with hselects | ⟨_, hselects⟩
          · exact absurd (hnil ▸ List.mem_of_mem_filter hselects.mem) List.not_mem_nil
          · exact absurd (hnil ▸ hselects.mem) List.not_mem_nil
      | some interface => exact Or.inr ⟨interface, h, selects_of_aggregateOrder h⟩

end TrafficDb

end RouterView.Db

namespace RouterView.Api

open RouterView.Db
open RouterView.Foundation

/-! ## Requests -/

/-- What the endpoint asks of a request. -/
structure TrafficQueryParams.Acceptable (params : TrafficQueryParams) : Prop where
  increasing : params.start < params.stop
  range_le : params.stop - params.start ≤ maxRangeMs
  points_pos : 1 ≤ params.maxPoints
  points_le : params.maxPoints ≤ Api.maxPoints
  one_name : params.wanName = none ∨ params.interfaceId = none
  wanName : ∀ name, params.wanName = some name → badName (trim name) = false
  interfaceId : ∀ name, params.interfaceId = some name → badName (trim name) = false

theorem any_map_eq_false {α β : Type} {f : α → β} {p : β → Bool} {o : Option α} :
    (o.map f).any p = false ↔ ∀ a, o = some a → p (f a) = false := by
  cases o <;> simp

theorem checkTrafficParams_cases (params : TrafficQueryParams) :
    (params.Acceptable ∧ checkTrafficParams params = .ok ()) ∨
      (¬ params.Acceptable ∧ ∃ message, checkTrafficParams params = .error (.invalidData message))
    := by
  have hfails : FailsOnly (fun e => ∃ message, e = AppError.invalidData message)
      (checkTrafficParams params) := by
    unfold checkTrafficParams
    refine .bind (.okOr fun _ => ⟨_, rfl⟩) fun rangeMs _ => ?_
    refine .bind (.ensure fun _ => ⟨_, rfl⟩) fun _ _ => ?_
    refine .bind (.ensure fun _ => ⟨_, rfl⟩) fun _ _ => ?_
    refine .bind (.ensure fun _ => ⟨_, rfl⟩) fun _ _ => ?_
    refine .bind (.ensure fun _ => ⟨_, rfl⟩) fun _ _ => ?_
    refine .bind (.ensure fun _ => ⟨_, rfl⟩) fun _ _ => ?_
    exact .ensure fun _ => ⟨_, rfl⟩
  have hok : checkTrafficParams params = .ok () ↔ params.Acceptable := by
    unfold checkTrafficParams
    constructor
    · intro h
      obtain ⟨rangeMs, hrange, h⟩ := bind_eq_ok_iff.mp h
      obtain ⟨_, rfl⟩ := toI64?_eq_some_iff.mp (okOr_eq_ok_iff.mp hrange)
      obtain ⟨hpositive, h⟩ := ensure_bind_eq_ok_iff.mp h
      obtain ⟨hshort, h⟩ := ensure_bind_eq_ok_iff.mp h
      obtain ⟨hpoints, h⟩ := ensure_bind_eq_ok_iff.mp h
      obtain ⟨hone, h⟩ := ensure_bind_eq_ok_iff.mp h
      obtain ⟨hwan, h⟩ := ensure_bind_eq_ok_iff.mp h
      have hinterface := ensure_eq_ok_iff.mp h
      refine ⟨by omega, by omega, hpoints.1, hpoints.2, ?_, any_map_eq_false.mp hwan,
        any_map_eq_false.mp hinterface⟩
      cases hname : params.wanName with
      | none => exact Or.inl rfl
      | some name =>
          refine Or.inr ?_
          cases hid : params.interfaceId with
          | none => rfl
          | some id =>
              rw [hname, hid] at hone
              exact absurd ⟨rfl, rfl⟩ hone
    · intro h
      have hrange := h.range_le
      have hincreasing := h.increasing
      have hfits : toI64? (params.stop - params.start) = some (params.stop - params.start) := by
        refine toI64?_eq_some_iff.mpr ⟨⟨?_, ?_⟩, rfl⟩
        · simp only [i64Min]
          omega
        · simp only [maxRangeMs] at hrange
          simp only [i64Max]
          omega
      refine bind_eq_ok_iff.mpr ⟨_, okOr_eq_ok_iff.mpr hfits, ?_⟩
      refine ensure_bind_eq_ok_iff.mpr ⟨by omega, ensure_bind_eq_ok_iff.mpr ⟨by omega, ?_⟩⟩
      refine ensure_bind_eq_ok_iff.mpr ⟨⟨h.points_pos, h.points_le⟩, ?_⟩
      refine ensure_bind_eq_ok_iff.mpr ⟨?_, ensure_bind_eq_ok_iff.mpr ⟨?_, ?_⟩⟩
      · rintro ⟨hname, hid⟩
        rcases h.one_name with hnone | hnone
        · rw [hnone] at hname
          cases hname
        · rw [hnone] at hid
          cases hid
      · exact any_map_eq_false.mpr h.wanName
      · exact ensure_eq_ok_iff.mpr (any_map_eq_false.mpr h.interfaceId)
  by_cases hacceptable : params.Acceptable
  · exact Or.inl ⟨hacceptable, hok.mpr hacceptable⟩
  · refine Or.inr ⟨hacceptable, ?_⟩
    cases hcheck : checkTrafficParams params with
    | ok _ => exact absurd (hok.mp hcheck) hacceptable
    | error e =>
        obtain ⟨message, rfl⟩ := hfails e hcheck
        exact ⟨message, rfl⟩

/-- The query of an accepted request over an interface. -/
abbrev TrafficQueryParams.query (params : TrafficQueryParams) (routerId interfaceId : Int) :
    TrafficQuery :=
  ⟨routerId, interfaceId, params.start, params.stop, params.maxPoints⟩

section

variable {params : TrafficQueryParams}

theorem TrafficQueryParams.Acceptable.ranged (h : params.Acceptable) (routerId interfaceId : Int) :
    (params.query routerId interfaceId).Ranged := by
  have hrange := h.range_le
  simp only [maxRangeMs] at hrange
  exact ⟨params.start_isI64, params.stop_isI64, h.increasing, by simp only [i64Max]; omega⟩

theorem TrafficQueryParams.Acceptable.limited (h : params.Acceptable)
    (routerId interfaceId : Int) : (params.query routerId interfaceId).Limited := by
  have hle := h.points_le
  have hpos := h.points_pos
  simp only [Api.maxPoints] at hle
  exact ⟨by simp only; omega, by simp only; omega⟩

end

/-! ## Points -/

/-- The point of a response, where no number overflows. -/
def pointOf (wanName : Option String) (p : TrafficBucket) : TrafficPointResponse where
  timestampMs := p.startedAtMs
  startedAtMs := p.startedAtMs
  endedAtMs := p.endedAtMs
  durationMs := Quantity.durationMs.ofPoint p
  downloadBps := p.downloadBps
  uploadBps := p.uploadBps
  downloadBytes := toString (Quantity.downloadBytes.ofPoint p)
  uploadBytes := toString (Quantity.uploadBytes.ofPoint p)
  exactDownloadBytes := p.exactDownloadBytes
  exactUploadBytes := p.exactUploadBytes
  estimatedDownloadBytes := p.estimatedDownloadBytes
  estimatedUploadBytes := p.estimatedUploadBytes
  exactDurationMs := p.exactDurationMs
  estimatedDurationMs := p.estimatedDurationMs
  sampleCount := p.sampleCount
  estimated := decide (p.estimatedDurationMs > 0 ∨ p.estimatedDownloadBytes ≠ "0"
    ∨ p.estimatedUploadBytes ≠ "0")
  complete := decide (Quantity.durationMs.ofPoint p = p.endedAtMs - p.startedAtMs)
  wanName := wanName

theorem addDecimalBytes_eq {left right : String} (hleft : Printed left) (hright : Printed right)
    (hfit : decimalValue left + decimalValue right < 2 ^ 128) :
    addDecimalBytes left right = .ok (toString (decimalValue left + decimalValue right)) := by
  obtain ⟨n, rfl⟩ := hleft
  obtain ⟨m, rfl⟩ := hright
  rw [decimalValue_natToString, decimalValue_natToString] at *
  have hsum : n + m < 2 ^ 128 := by exact_mod_cast hfit
  unfold addDecimalBytes
  rw [parseU128_toString (by omega), parseU128_toString (by omega)]
  simp only [okOr, ok_bind]
  rw [ensure_of hsum, ok_bind]
  rfl

theorem trafficPointResponse_eq {query : TrafficQuery} {p : TrafficBucket}
    (hprinted : p.BytesPrinted) (hinside : PointInside query p) (hranged : query.Ranged)
    (hdurations : 0 ≤ p.exactDurationMs ∧ 0 ≤ p.estimatedDurationMs)
    (hdownload : Quantity.downloadBytes.ofPoint p < 2 ^ 128)
    (hupload : Quantity.uploadBytes.ofPoint p < 2 ^ 128) (wanName : Option String) :
    trafficPointResponse p wanName = .ok (pointOf wanName p) := by
  have hfrom := hinside.from_le
  have hto := hinside.le_to
  have hincreasing := hinside.increasing
  have hcovered := hinside.covered_le
  have hlength := hranged.length_lt
  have hadd : satAdd p.exactDurationMs p.estimatedDurationMs =
      p.exactDurationMs + p.estimatedDurationMs :=
    satAdd_eq ⟨by simp only [i64Min]; omega, by omega⟩
  have hsub : satSub p.endedAtMs p.startedAtMs = p.endedAtMs - p.startedAtMs :=
    satSub_eq ⟨by simp only [i64Min]; omega, by omega⟩
  unfold trafficPointResponse
  rw [addDecimalBytes_eq hprinted.exactDownload hprinted.estimatedDownload hdownload,
    addDecimalBytes_eq hprinted.exactUpload hprinted.estimatedUpload hupload]
  simp only [ok_bind, hadd, hsub, pure_eq_ok]
  rfl

theorem mapM_eq_ok {α β ε : Type} {f : α → Except ε β} {g : α → β} {l : List α}
    (h : ∀ a ∈ l, f a = .ok (g a)) : l.mapM f = .ok (l.map g) := by
  induction l with
  | nil => rfl
  | cons a rest ih =>
      rw [List.mapM_cons, h a List.mem_cons_self, ok_bind,
        ih fun b hb => h b (List.mem_cons_of_mem _ hb)]
      rfl

/-! ## Responses -/

/-- The largest bucket that a response can describe. -/
def maxBucketSizeMs : Int := 4294967295000

/-- The span of a point. -/
def TrafficPointResponse.span (p : TrafficPointResponse) : Span Int := ⟨p.startedAtMs, p.endedAtMs⟩

/-- How a point is made up: its byte counts are digits, its rates are numbers, and its
durations add up and fit its span. -/
structure TrafficPointResponse.Formed (p : TrafficPointResponse) : Prop where
  download : Printed p.downloadBytes
  upload : Printed p.uploadBytes
  exactDownload : Printed p.exactDownloadBytes
  exactUpload : Printed p.exactUploadBytes
  estimatedDownload : Printed p.estimatedDownloadBytes
  estimatedUpload : Printed p.estimatedUploadBytes
  downloadBps : p.downloadBps.isFinite = true
  uploadBps : p.uploadBps.isFinite = true
  timestamp : p.timestampMs = p.startedAtMs
  exact_nonneg : 0 ≤ p.exactDurationMs
  estimated_nonneg : 0 ≤ p.estimatedDurationMs
  duration : p.durationMs = p.exactDurationMs + p.estimatedDurationMs
  covered_le : p.durationMs ≤ p.endedAtMs - p.startedAtMs

/-- How a response is made up: its points, its byte counts, which are digits and add up,
its durations, and what its ratio and its flags are computed from. -/
structure TrafficResponse.Formed (r : TrafficResponse) : Prop where
  schema : r.schemaVersion = 4
  points : ∀ p ∈ r.points, p.Formed
  download : Printed r.totals.downloadBytes
  upload : Printed r.totals.uploadBytes
  exactDownload : Printed r.totals.exactDownloadBytes
  exactUpload : Printed r.totals.exactUploadBytes
  estimatedDownload : Printed r.totals.estimatedDownloadBytes
  estimatedUpload : Printed r.totals.estimatedUploadBytes
  downloadParts : decimalValue r.totals.downloadBytes =
    decimalValue r.totals.exactDownloadBytes + decimalValue r.totals.estimatedDownloadBytes
  uploadParts : decimalValue r.totals.uploadBytes =
    decimalValue r.totals.exactUploadBytes + decimalValue r.totals.estimatedUploadBytes
  exact_nonneg : 0 ≤ r.coverage.exactDurationMs
  estimated_nonneg : 0 ≤ r.coverage.estimatedDurationMs
  covered : r.coverage.coveredDurationMs =
    r.coverage.exactDurationMs + r.coverage.estimatedDurationMs
  covered_le : r.coverage.coveredDurationMs ≤ r.coverage.requestedDurationMs
  requested_pos : 0 < r.coverage.requestedDurationMs
  completeness : r.coverage.completeness =
    completenessOf r.coverage.coveredDurationMs r.coverage.requestedDurationMs
  ratio : r.totals.coverageRatio = r.coverage.completeness
  complete : r.totals.complete = true ↔
    r.coverage.coveredDurationMs = r.coverage.requestedDurationMs
  estimated : r.totals.estimated = true ↔ 0 < r.coverage.estimatedDurationMs ∨
    decimalValue r.totals.estimatedDownloadBytes ≠ 0 ∨
      decimalValue r.totals.estimatedUploadBytes ≠ 0

/-- What a response says of a range of an interface: whose it is, that its totals are those
of the stored rows and its points add up to them, and what its flags and its interval
mean. -/
structure Reports (db : TrafficDb) (query : TrafficQuery) (router : RouterRecord)
    (interface : RouterInterfaceRecord) (r : TrafficResponse) : Prop where
  ofRouter : r.router = routerMetadataResponse router
  ofInterface : r.interface = interfaceMetadataResponse interface
  listed : r.wanInterfaces = (db.routerWanInterfaces router.id).map interfaceMetadataResponse
  names : r.wanNames = wanNamesOf (db.routerWanInterfaces router.id)
  downloaded : decimalValue r.totals.downloadBytes =
    ((db.sources query).map (fun c => c.within query .downloadBytes)).sum
  uploaded : decimalValue r.totals.uploadBytes =
    ((db.sources query).map (fun c => c.within query .uploadBytes)).sum
  covered : r.coverage.coveredDurationMs =
    ((db.sources query).map (fun c => c.within query .durationMs)).sum
  pointsDownloaded : (r.points.map (fun p => decimalValue p.downloadBytes)).sum =
    decimalValue r.totals.downloadBytes
  pointsUploaded : (r.points.map (fun p => decimalValue p.uploadBytes)).sum =
    decimalValue r.totals.uploadBytes
  pointsCovered : (r.points.map (fun p => p.durationMs)).sum = r.coverage.coveredDurationMs
  inside : Span.Inside query.fromMs (r.points.map TrafficPointResponse.span) query.toMs
  limited : r.points.length ≤ query.maxPoints
  complete : r.totals.complete = true ↔ (∀ p ∈ r.points, p.complete = true) ∧
    Span.Tiles query.fromMs (r.points.map TrafficPointResponse.span) query.toMs
  wanName : ∀ p ∈ r.points,
    p.wanName = if interface.isAggregate then none else some interface.name
  interval : (r.intervalSecs - 1) * 1000 < r.bucketSizeMs ∧
    r.bucketSizeMs ≤ r.intervalSecs * 1000
  sized : 0 < r.bucketSizeMs ∧ r.bucketSizeMs ≤ maxBucketSizeMs
  requested : r.coverage.requestedDurationMs = query.toMs - query.fromMs
  gaps : r.coverage.gapCount = db.gapCount query
  formed : r.Formed

section

variable {db : TrafficDb} {query : TrafficQuery} {result : TrafficQueryResult}
  {bucketSizeMs : Int} {state state' : FoldState}

/-- The points of an answer lie in the range, in order. -/
theorem inside_points (h : Answer db query result bucketSizeMs state) (hranged : query.Ranged) :
    Span.Inside query.fromMs
      (result.points.map (fun p => (⟨p.startedAtMs, p.endedAtMs⟩ : Span Int))) query.toMs where
  le := le_of_lt hranged.increasing
  proper := by
    intro s hs
    obtain ⟨p, hp, rfl⟩ := List.mem_map.mp hs
    exact (h.point_inside hranged hp).increasing
  start_le := by
    intro s hs
    obtain ⟨p, hp, rfl⟩ := List.mem_map.mp hs
    exact (h.point_inside hranged hp).from_le
  stop_le := by
    intro s hs
    obtain ⟨p, hp, rfl⟩ := List.mem_map.mp hs
    exact (h.point_inside hranged hp).le_to
  ordered := by
    rw [List.pairwise_map]
    exact h.points_ordered hranged

/-- The durations of a point are not negative. -/
theorem durations_nonneg (h : Answer db query result bucketSizeMs state) {p : TrafficBucket}
    (hp : p ∈ result.points) : 0 ≤ p.exactDurationMs ∧ 0 ≤ p.estimatedDurationMs := by
  rw [h.points_eq] at hp
  obtain ⟨e, he, rfl⟩ := List.mem_map.mp hp
  have hcovers := h.folded.gathered.covered e he
  exact ⟨hcovers.exact_nonneg, hcovers.estimated_nonneg⟩

/-- The points of an answer are converted without an error. -/
theorem points_converted (h : Answer db query result bucketSizeMs state)
    (hbuilt : Built db query result state') (hranged : query.Ranged)
    (hbounded : ∀ c ∈ db.sources query, c.Bounded) (wanName : Option String) :
    result.points.mapM (fun p => trafficPointResponse p wanName) =
      .ok (result.points.map (pointOf wanName)) := by
  refine mapM_eq_ok fun p hp => ?_
  refine trafficPointResponse_eq (hbuilt.point_printed hp) (h.point_inside hranged hp) hranged
    (durations_nonneg h hp) ?_ ?_ wanName
  · refine h.ofPoint_lt hranged hbounded _ (fun p' hp' => ?_) hp
    have hprinted := hbuilt.point_printed hp'
    exact add_nonneg hprinted.exactDownload.nonneg hprinted.estimatedDownload.nonneg
  · refine h.ofPoint_lt hranged hbounded _ (fun p' hp' => ?_) hp
    have hprinted := hbuilt.point_printed hp'
    exact add_nonneg hprinted.exactUpload.nonneg hprinted.estimatedUpload.nonneg

theorem pointOf_formed (h : Answer db query result bucketSizeMs state)
    (hbuilt : Built db query result state') (hranged : query.Ranged) (wanName : Option String)
    {p : TrafficBucket} (hp : p ∈ result.points) : (pointOf wanName p).Formed := by
  have hprinted := hbuilt.point_printed hp
  have hdurations := durations_nonneg h hp
  have hrates : p.downloadBps.isFinite = true ∧ p.uploadBps.isFinite = true := by
    rw [hbuilt.points] at hp
    obtain ⟨e, _, rfl⟩ := List.mem_map.mp hp
    exact ⟨rfl, rfl⟩
  exact {
    download := printed_of_nonneg
      (add_nonneg hprinted.exactDownload.nonneg hprinted.estimatedDownload.nonneg)
    upload := printed_of_nonneg
      (add_nonneg hprinted.exactUpload.nonneg hprinted.estimatedUpload.nonneg)
    exactDownload := hprinted.exactDownload
    exactUpload := hprinted.exactUpload
    estimatedDownload := hprinted.estimatedDownload
    estimatedUpload := hprinted.estimatedUpload
    downloadBps := hrates.1
    uploadBps := hrates.2
    timestamp := rfl
    exact_nonneg := hdurations.1
    estimated_nonneg := hdurations.2
    duration := rfl
    covered_le := (h.point_inside hranged hp).covered_le }

theorem estimated_iff {t : TrafficTotals} (hprinted : t.BytesPrinted) (c : TrafficCoverage) :
    (trafficTotalsResponse t c).estimated = true ↔ 0 < c.estimatedDurationMs ∨
      decimalValue t.estimatedDownloadBytes ≠ 0 ∨ decimalValue t.estimatedUploadBytes ≠ 0 := by
  simp only [trafficTotalsResponse, decide_eq_true_eq, gt_iff_lt, ne_eq,
    hprinted.estimatedDownload.eq_zero_iff, hprinted.estimatedUpload.eq_zero_iff]

/-- A response with the totals and the coverage of an answer, and with points of it. -/
theorem response_formed (h : Answer db query result bucketSizeMs state)
    (hbuilt : Built db query result state') (hranged : query.Ranged) {r : TrafficResponse}
    (hschema : r.schemaVersion = 4) (hpoints : ∀ p ∈ r.points, p.Formed)
    (htotals : r.totals = trafficTotalsResponse result.totals result.coverage)
    (hcoverage : r.coverage = result.coverage) : r.Formed := by
  have hprinted := hbuilt.totals_printed
  have hcovers := h.folded.covered
  have hreached := h.reached_le
  have hincreasing := hranged.increasing
  have hlength := hranged.length_lt
  have hrequested : result.coverage.requestedDurationMs = query.toMs - query.fromMs := by
    rw [hbuilt.requested]
    exact satSub_eq ⟨by simp only [i64Min]; omega, by omega⟩
  have hcovered : result.coverage.coveredDurationMs =
      result.coverage.exactDurationMs + result.coverage.estimatedDurationMs := by
    rw [h.coveredDuration_eq, h.exactDuration_eq, h.estimatedDuration_eq]
    rfl
  have hparts : decimalValue result.totals.downloadBytes =
        decimalValue result.totals.exactDownloadBytes +
          decimalValue result.totals.estimatedDownloadBytes ∧
      decimalValue result.totals.uploadBytes =
        decimalValue result.totals.exactUploadBytes +
          decimalValue result.totals.estimatedUploadBytes := by
    rw [hbuilt.totals]
    simp only [trafficTotals, decimalValue_toString, and_self]
  have hestimated := estimated_iff hprinted result.coverage
  rw [← hcoverage] at hestimated hcovered hrequested
  have hexact_nonneg : 0 ≤ r.coverage.exactDurationMs := by
    rw [hcoverage, h.exactDuration_eq]
    exact hcovers.exact_nonneg
  have hestimated_nonneg : 0 ≤ r.coverage.estimatedDurationMs := by
    rw [hcoverage, h.estimatedDuration_eq]
    exact hcovers.estimated_nonneg
  have hcovered_le : r.coverage.coveredDurationMs ≤ r.coverage.requestedDurationMs := by
    rw [hrequested, hcovered, hcoverage, h.exactDuration_eq, h.estimatedDuration_eq]
    have hle := hcovers.covered_le
    omega
  exact {
    schema := hschema
    points := hpoints
    download := by rw [htotals]; exact hprinted.download
    upload := by rw [htotals]; exact hprinted.upload
    exactDownload := by rw [htotals]; exact hprinted.exactDownload
    exactUpload := by rw [htotals]; exact hprinted.exactUpload
    estimatedDownload := by rw [htotals]; exact hprinted.estimatedDownload
    estimatedUpload := by rw [htotals]; exact hprinted.estimatedUpload
    downloadParts := by rw [htotals]; exact hparts.1
    uploadParts := by rw [htotals]; exact hparts.2
    exact_nonneg := hexact_nonneg
    estimated_nonneg := hestimated_nonneg
    covered := hcovered
    covered_le := hcovered_le
    requested_pos := by rw [hrequested]; omega
    completeness := by rw [hcoverage]; exact hbuilt.completeness
    ratio := by rw [htotals, hcoverage]; rfl
    complete := by rw [htotals, hcoverage]; exact decide_eq_true_iff
    estimated := by rw [htotals, ← hcoverage]; exact hestimated }

/-- The seconds of a bucket, rounded up. -/
theorem seconds_eq {size : Int} (hpos : 0 < size) (hle : size ≤ i64Max) :
    (size ≤ maxBucketSizeMs ∧ (satAdd size 999).tdiv 1000 = (size + 999) / 1000) ∨
      (maxBucketSizeMs < size ∧ 2 ^ 32 ≤ (satAdd size 999).tdiv 1000) := by
  have hsat : satAdd size 999 = min (size + 999) i64Max := by
    simp only [satAdd, clampI64, i64Min, i64Max] at *
    omega
  rw [hsat]
  simp only [i64Max, maxBucketSizeMs] at *
  rw [Int.tdiv_eq_ediv_of_nonneg (by omega)]
  omega

/-- What becomes of an answer: a response that reports it, unless its buckets are too
wide. -/
theorem buildTrafficResponse_cases (h : Answer db query result bucketSizeMs state)
    (hbuilt : Built db query result state') (hranged : query.Ranged) (hlimited : query.Limited)
    (hbounded : ∀ c ∈ db.sources query, c.Bounded) (router : RouterRecord)
    (interface : RouterInterfaceRecord) :
    (maxBucketSizeMs < result.bucketSizeMs ∧ ∃ message, buildTrafficResponse
      ⟨router, interface, db.routerWanInterfaces router.id, result⟩ =
        .error (.internal message)) ∨
    (result.bucketSizeMs ≤ maxBucketSizeMs ∧ ∃ r, buildTrafficResponse
      ⟨router, interface, db.routerWanInterfaces router.id, result⟩ = .ok r ∧
        Reports db query router interface r) := by
  obtain ⟨hpos, hle⟩ := hbuilt.size_bounds hranged hlimited
  have hpoints := points_converted h hbuilt hranged hbounded
    (if interface.isAggregate then none else some interface.name)
  unfold buildTrafficResponse
  dsimp only
  rw [hpoints, ok_bind]
  rcases seconds_eq hpos hle with ⟨hnarrow, hseconds⟩ | ⟨hwide, hseconds⟩
  swap
  · refine Or.inl ⟨hwide, "traffic bucket size exceeds API limits", ?_⟩
    rw [ensure, if_neg (by omega), error_bind]
  · refine Or.inr ⟨hnarrow, ?_⟩
    rw [hseconds, ensure_of (by simp only [maxBucketSizeMs] at hnarrow; omega), ok_bind]
    refine ⟨_, rfl, ?_⟩
    have hinside := inside_points h hranged
    have hspans : (result.points.map (pointOf
        (if interface.isAggregate then none else some interface.name))).map
          TrafficPointResponse.span =
        result.points.map (fun p => (⟨p.startedAtMs, p.endedAtMs⟩ : Span Int)) := by
      rw [List.map_map]
      rfl
    have hrequested : result.coverage.requestedDurationMs = query.toMs - query.fromMs := by
      have hincreasing := hranged.increasing
      have hlength := hranged.length_lt
      rw [hbuilt.requested]
      exact satSub_eq ⟨by simp only [i64Min]; omega, by omega⟩
    have hsums : ∀ q : Quantity, (result.points.map q.ofPoint).sum = q.ofResult result :=
      h.points_sum
    refine {
      ofRouter := rfl
      ofInterface := rfl
      listed := rfl
      names := rfl
      downloaded := h.ofResult_sum .downloadBytes
      uploaded := h.ofResult_sum .uploadBytes
      covered := h.ofResult_sum .durationMs
      pointsDownloaded := ?_
      pointsUploaded := ?_
      pointsCovered := ?_
      inside := by rw [hspans]; exact hinside
      limited := by rw [List.length_map]; exact hbuilt.length
      complete := ?_
      wanName := ?_
      interval := ?_
      sized := ⟨hpos, hnarrow⟩
      requested := hrequested
      gaps := hbuilt.gaps
      formed := response_formed h hbuilt hranged rfl ?_ rfl rfl }
    · rw [List.map_map]
      exact (congrArg List.sum (List.map_congr_left fun p _ => decimalValue_toString _)).trans
        (hsums .downloadBytes)
    · rw [List.map_map]
      exact (congrArg List.sum (List.map_congr_left fun p _ => decimalValue_toString _)).trans
        (hsums .uploadBytes)
    · rw [List.map_map]
      exact hsums .durationMs
    · rw [hspans]
      have hparts := Span.Inside.sum_part_eq_iff Quantity.durationMs.ofPoint hinside
        (fun p hp => (h.point_inside hranged hp).covered_le)
      rw [hsums .durationMs] at hparts
      simp only [trafficTotalsResponse, decide_eq_true_eq, hrequested]
      rw [show result.coverage.coveredDurationMs = Quantity.durationMs.ofResult result from rfl,
        hparts]
      refine and_congr_left fun _ => ?_
      simp only [List.mem_map, forall_exists_index, and_imp, forall_apply_eq_imp_iff₂, pointOf,
        decide_eq_true_eq]
      rfl
    · intro p hp
      obtain ⟨p', _, rfl⟩ := List.mem_map.mp hp
      rfl
    · dsimp only
      omega
    · intro p hp
      obtain ⟨p', hp', rfl⟩ := List.mem_map.mp hp
      exact pointOf_formed h hbuilt hranged _ hp'

end

/-! ## Answers -/

/-- The request can be asked, and it means the interface of the router. -/
structure Means (db : TrafficDb) (host : String) (params : TrafficQueryParams)
    (router : RouterRecord) (interface : RouterInterfaceRecord) : Prop where
  acceptable : params.Acceptable
  named : trim host ≠ ""
  current : db.Current host router
  selects : db.Selects router.id interface params.selector

/-- The rows of a range are valid and no two of them overlap, and none of them is longer
than a bucket may be. -/
structure Readable (db : TrafficDb) (query : TrafficQuery) : Prop where
  valid : ∀ c ∈ db.sources query, c.Valid
  apart : (db.sources query).Pairwise (fun c d => c.span.Apart d.span)
  short : db.sourceResolution query ≤ maxBucketSizeMs

/-- The answers to a request that is not interrupted, each with the condition under which it
is given. -/
inductive Answered (db : TrafficDb) (host : String) (params : TrafficQueryParams) :
    Except AppError TrafficResponse → Prop where
  | refused (message : String) (h : ¬ (params.Acceptable ∧ trim host ≠ "")) :
      Answered db host params (.error (.invalidData message))
  | noRouter (h : params.Acceptable) (hnamed : trim host ≠ "")
      (hnone : ∀ router, ¬ db.Current host router) :
      Answered db host params (.error (trafficNotFound "traffic history has not been initialized"))
  | noInterface (router : RouterRecord) (h : params.Acceptable) (hnamed : trim host ≠ "")
      (hcurrent : db.Current host router)
      (hnone : ∀ interface, ¬ db.Selects router.id interface params.selector) :
      Answered db host params
        (.error (trafficNotFound (interfaceNotFoundMessage params.selector)))
  | tooLarge (router : RouterRecord) (interface : RouterInterfaceRecord)
      (h : Means db host params router interface)
      (hrows : maxTrafficSourceRows < (db.sources (params.query router.id interface.id)).length) :
      Answered db host params
        (.error (mapDatabaseError (.trafficQueryTooLarge maxTrafficSourceRows)))
  | failed (router : RouterRecord) (interface : RouterInterfaceRecord) (message : String)
      (h : Means db host params router interface)
      (hrows : (db.sources (params.query router.id interface.id)).length ≤ maxTrafficSourceRows)
      (hbad : ¬ Readable db (params.query router.id interface.id)) :
      Answered db host params (.error (.internal message))
  | reported (router : RouterRecord) (interface : RouterInterfaceRecord) (r : TrafficResponse)
      (h : Means db host params router interface)
      (hrows : (db.sources (params.query router.id interface.id)).length ≤ maxTrafficSourceRows)
      (hread : Readable db (params.query router.id interface.id))
      (hreports : Reports db (params.query router.id interface.id) router interface r) :
      Answered db host params (.ok r)

/-- The answers of the endpoint: what cannot be asked is refused before anything can
interrupt it. -/
inductive Served (db : TrafficDb) (host : String) (params : TrafficQueryParams) :
    Option QueryInterruption → Except AppError TrafficResponse → Prop where
  | answered {answer : Except AppError TrafficResponse} (h : Answered db host params answer) :
      Served db host params none answer
  | refused {interruption : QueryInterruption} (message : String) (h : ¬ params.Acceptable) :
      Served db host params (some interruption) (.error (.invalidData message))
  | interrupted {interruption : QueryInterruption} (h : params.Acceptable) :
      Served db host params (some interruption) (.error interruption.error)

theorem owns_selected {db : TrafficDb} {host : String} {params : TrafficQueryParams}
    {router : RouterRecord} {interface : RouterInterfaceRecord}
    (h : Means db host params router interface) :
    db.ownsRouterInterface router.id (some interface.id) = true := by
  have hrouter := TrafficDb.current_mem db h.current
  obtain ⟨hinterface, hid⟩ := h.selects.mem
  simp only [TrafficDb.ownsRouterInterface, TrafficDb.ownsInterface, Bool.and_eq_true,
    List.any_eq_true, decide_eq_true_eq]
  exact ⟨⟨router, hrouter, rfl⟩, ⟨interface, hinterface, rfl, hid⟩⟩

theorem minimumBucketSizeMs_le {params : TrafficQueryParams} (h : params.Acceptable)
    (routerId interfaceId : Int) :
    minimumBucketSizeMs (params.query routerId interfaceId) ≤ maxBucketSizeMs := by
  have hincreasing := h.increasing
  have hrange := h.range_le
  have hpos := h.points_pos
  have hle := h.points_le
  simp only [maxRangeMs] at hrange
  simp only [Api.maxPoints] at hle
  have hsub : satSub params.stop params.start = params.stop - params.start :=
    satSub_eq ⟨by simp only [i64Min]; omega, by simp only [i64Max]; omega⟩
  have hadd : satAdd (params.stop - params.start) ((params.maxPoints : Int) - 1) =
      params.stop - params.start + ((params.maxPoints : Int) - 1) :=
    satAdd_eq ⟨by simp only [i64Min]; omega, by simp only [i64Max]; omega⟩
  simp only [minimumBucketSizeMs, hsub, hadd, maxBucketSizeMs]
  rw [Int.tdiv_eq_ediv_of_nonneg (by omega)]
  have hdiv := Int.ediv_le_self (a := params.stop - params.start + ((params.maxPoints : Int) - 1))
    (b := (params.maxPoints : Int)) (by omega)
  omega

/-- What the endpoint makes of the history of the interface that is meant. -/
theorem history_answered {db : TrafficDb} {host : String} {params : TrafficQueryParams}
    {router : RouterRecord} {interface : RouterInterfaceRecord} (htyped : db.WellTyped)
    (htimed : db.Timed) (h : Means db host params router interface) :
    Answered db host params
      ((queryTrafficV4OnConnection db (params.query router.id interface.id)
          maxTrafficSourceRows).mapError mapDatabaseError >>= fun result =>
        buildTrafficResponse ⟨router, interface, db.routerWanInterfaces router.id, result⟩) := by
  have hranged := h.acceptable.ranged router.id interface.id
  have hlimited := h.acceptable.limited router.id interface.id
  have hrange := h.acceptable.range_le
  have hminimum := minimumBucketSizeMs_le h.acceptable router.id interface.id
  have hle := hlimited.le_limit
  have hpos := h.acceptable.points_pos
  have hincreasing := h.acceptable.increasing
  have hread : ∀ size, size = max (minimumBucketSizeMs (params.query router.id interface.id))
      (db.sourceResolution (params.query router.id interface.id)) →
      (size ≤ maxBucketSizeMs ↔
        db.sourceResolution (params.query router.id interface.id) ≤ maxBucketSizeMs) := by
    rintro size rfl
    rw [max_le_iff]
    exact and_iff_right hminimum
  generalize hquery : params.query router.id interface.id = query at *
  have hbounded : ∀ c ∈ db.sources query, c.Bounded := fun c hc =>
    ⟨htimed.span_le hc, (htyped.bytesFit hc).1, (htyped.bytesFit hc).2⟩
  have hlength : query.toMs - query.fromMs + query.maxPoints ≤ i64Max := by
    subst hquery
    simp only [maxRangeMs] at hrange
    simp only [i64Max] at *
    omega
  have howned : db.ownsRouterInterface query.routerId (some query.interfaceId) = true := by
    subst hquery
    exact owns_selected h
  have hvalidated : queryTrafficV4 db query =
      queryTrafficV4OnConnection db query maxTrafficSourceRows := by
    unfold queryTrafficV4 queryTrafficV4WithOptions validateTrafficQuery
    have hquery' := hranged.increasing
    have hpoints : 1 ≤ query.maxPoints := by
      subst hquery
      exact hpos
    rw [ensure_of (by simp only [not_or, not_le, maxTrafficSourceRows]; omega), ok_bind]
  have hcases := queryTrafficV4_cases hranged hlimited hlength howned hbounded
  rw [hvalidated, accepted_mergedSources_iff] at hcases
  rcases hcases with ⟨hlarge, herror⟩ | ⟨hrows, haccepted, result, size, state, hok, hanswer⟩ |
    ⟨hrows, hnot, e, hrejection, herror⟩
  · rw [herror]
    exact .tooLarge router interface h (hquery ▸ hlarge)
  · obtain ⟨state', hbuilt⟩ := queryTrafficV4OnConnection_built hok
    have hsize := hread _ hbuilt.size
    have hmapped : (Except.ok result : DatabaseResult TrafficQueryResult).mapError mapDatabaseError =
        .ok result := rfl
    rw [hok, hmapped, ok_bind]
    rcases buildTrafficResponse_cases hanswer hbuilt hranged hlimited hbounded router interface
      with ⟨hwide, message, hmessage⟩ | ⟨hnarrow, r, hr, hreports⟩
    · rw [hmessage]
      refine .failed router interface message h (hquery ▸ hrows) fun hreadable => ?_
      rw [hquery] at hreadable
      exact absurd (hsize.mpr hreadable.short) (not_le_of_gt hwide)
    · rw [hr]
      subst hquery
      exact .reported router interface r h hrows ⟨haccepted.1, haccepted.2, hsize.mp hnarrow⟩
        hreports
  · obtain ⟨text, rfl⟩ : ∃ text, e = .verification text := by
      rcases hrejection with rfl | rfl <;> exact ⟨_, rfl⟩
    rw [herror]
    refine .failed router interface _ h (hquery ▸ hrows) fun hreadable => ?_
    rw [hquery] at hreadable
    exact hnot ⟨hreadable.valid, hreadable.apart⟩

/-- Whatever is asked, a request that is not interrupted gets one of the answers under the
condition of that answer. -/
theorem queryTraffic_answered (db : TrafficDb) (host : String) (params : TrafficQueryParams)
    (htyped : db.WellTyped) (htimed : db.Timed) :
    Answered db host params (queryTraffic db host params none) := by
  unfold queryTraffic
  rcases checkTrafficParams_cases params with ⟨hacceptable, hcheck⟩ | ⟨hnot, message, hcheck⟩
  swap
  · rw [hcheck, error_bind]
    exact .refused message fun h => hnot h.1
  rw [hcheck, ok_bind]
  have hvalid : validateTrafficQuery ((params.request host).query 0 0) maxTrafficSourceRows =
      .ok () := by
    have hincreasing := hacceptable.increasing
    have hpos := hacceptable.points_pos
    have hle := hacceptable.points_le
    simp only [Api.maxPoints] at hle
    refine ensure_of ?_
    simp only [TrafficHistoryRequest.query, TrafficQueryParams.request, maxTrafficSourceRows]
    omega
  dsimp only
  unfold queryTask queryTrafficHistory
  rw [hvalid, ok_bind]
  rcases db.currentRouterForTarget_cases host with
    ⟨hempty, message, hrouter⟩ | ⟨hnamed, hrouter, hnone⟩ | ⟨hnamed, router, hrouter, hcurrent⟩
  · rw [show (params.request host).fallbackTarget = host from rfl, hrouter]
    exact .refused message fun h => h.2 hempty
  · rw [show (params.request host).fallbackTarget = host from rfl, hrouter]
    exact .noRouter hacceptable hnamed hnone
  · rw [show (params.request host).fallbackTarget = host from rfl, hrouter, ok_bind]
    dsimp only
    rcases TrafficDb.selectInterface_cases db router.id params.selector with
      ⟨hinterface, hnone⟩ | ⟨interface, hinterface, hselects⟩
    · rw [show (params.request host).selector = params.selector from rfl, hinterface]
      exact .noInterface router hacceptable hnamed hcurrent hnone
    · have hanswered := history_answered htyped htimed
        (⟨hacceptable, hnamed, hcurrent, hselects⟩ : Means db host params router interface)
      have hquery : (params.request host).query router.id interface.id =
          params.query router.id interface.id := rfl
      rw [show (params.request host).selector = params.selector from rfl, hinterface]
      dsimp only
      rw [hquery]
      cases hresult : queryTrafficV4OnConnection db (params.query router.id interface.id)
          maxTrafficSourceRows <;>
        rw [hresult] at hanswered <;> exact hanswered

theorem queryTraffic_interrupted (db : TrafficDb) (host : String) {params : TrafficQueryParams}
    (h : params.Acceptable) (interruption : QueryInterruption) :
    queryTraffic db host params (some interruption) = .error interruption.error := by
  unfold queryTraffic
  rcases checkTrafficParams_cases params with ⟨_, hcheck⟩ | ⟨hnot, _⟩
  · rw [hcheck, ok_bind]
    rfl
  · exact absurd h hnot

/-- Whatever is asked and whatever interrupts it, the endpoint gives one of its answers. -/
theorem queryTraffic_served (db : TrafficDb) (host : String) (params : TrafficQueryParams)
    (interruption : Option QueryInterruption) (htyped : db.WellTyped) (htimed : db.Timed) :
    Served db host params interruption (queryTraffic db host params interruption) := by
  cases interruption with
  | none => exact .answered (queryTraffic_answered db host params htyped htimed)
  | some interruption =>
      rcases checkTrafficParams_cases params with ⟨hacceptable, _⟩ | ⟨hnot, message, hcheck⟩
      · rw [queryTraffic_interrupted db host hacceptable]
        exact .interrupted hacceptable
      · rw [queryTraffic, hcheck, error_bind]
        exact .refused message hnot

/-- Only a request that nothing interrupts gets a response. -/
theorem answered_of_ok {db : TrafficDb} {host : String} {params : TrafficQueryParams}
    {interruption : Option QueryInterruption} {r : TrafficResponse} (htyped : db.WellTyped)
    (htimed : db.Timed) (h : queryTraffic db host params interruption = .ok r) :
    Answered db host params (.ok r) := by
  have hserved := queryTraffic_served db host params interruption htyped htimed
  rw [h] at hserved
  cases hserved with
  | answered hanswered => exact hanswered

/-- A request by a key with blanks around it. -/
def askedParams : TrafficQueryParams where
  start := 10
  stop := 80000
  wanName := none
  interfaceId := some " routeros:*1 "
  maxPoints := 3
  start_isI64 := by decide
  stop_isI64 := by decide

/-! ## One answer -/

theorem current_unique {db : TrafficDb} (hregistry : db.Registry) {host : String}
    {router router' : RouterRecord} (h : db.Current host router)
    (h' : db.Current host router') : router = router' := by
  have hid : ∀ a ∈ db.routers.rows, ∀ b ∈ db.routers.rows, a.id = b.id → a = b :=
    fun a ha b hb => hregistry.routers.eq_of_key_eq ha hb
  rcases h with h | ⟨hnil, h⟩ <;> rcases h' with h' | ⟨hnil', h'⟩
  · exact h.unique h' fun a ha b hb =>
      hid a (List.mem_of_mem_filter ha) b (List.mem_of_mem_filter hb)
  · exact absurd (hnil' ▸ h.mem) List.not_mem_nil
  · exact absurd (hnil ▸ h'.mem) List.not_mem_nil
  · exact h.unique h' fun a ha b hb =>
      hid a (List.mem_of_mem_filter ha) b (List.mem_of_mem_filter hb)

theorem selects_unique {db : TrafficDb} (hregistry : db.Registry) {routerId : Int}
    {interface interface' : RouterInterfaceRecord} {selector : TrafficInterfaceSelector}
    (h : db.Selects routerId interface selector)
    (h' : db.Selects routerId interface' selector) : interface = interface' := by
  have hid : ∀ a ∈ db.routerInterfaces.rows, ∀ b ∈ db.routerInterfaces.rows, a.id = b.id → a = b :=
    fun a ha b hb => hregistry.interfaceIds.eq_of_key_eq ha hb
  cases selector with
  | interfaceKey key =>
      exact hregistry.interfaces.keys _ h.1 _ h'.1 (h.2.1.trans h'.2.1.symm)
        (h.2.2.trans h'.2.2.symm)
  | wanName name =>
      refine LastSeen.unique h h' fun a ha b hb => hid a ?_ b ?_
      · exact (db.mem_wanInterfacesOf.mp (List.mem_of_mem_filter ha)).1
      · exact (db.mem_wanInterfacesOf.mp (List.mem_of_mem_filter hb)).1
  | aggregate =>
      have hrow : ∀ i ∈ db.aggregatesOf routerId, i ∈ db.routerInterfaces.rows :=
        fun i hi => (db.mem_aggregatesOf.mp hi).1
      rcases h with h | ⟨hnone, h⟩ <;> rcases h' with h' | ⟨hnone', h'⟩
      · exact h.unique h' fun a ha b hb => hid a (hrow a (List.mem_of_mem_filter ha)) b
          (hrow b (List.mem_of_mem_filter hb))
      · obtain ⟨hmem, hkey⟩ := List.mem_filter.mp h.mem
        exact absurd (of_decide_eq_true hkey) (hnone' _ hmem)
      · obtain ⟨hmem, hkey⟩ := List.mem_filter.mp h'.mem
        exact absurd (of_decide_eq_true hkey) (hnone _ hmem)
      · exact h.unique h' fun a ha b hb => hid a (hrow a ha) b (hrow b hb)

/-- The status of an answer, and its code where it is an error. -/
def statusOf : Except AppError TrafficResponse → Nat × Option String
  | .ok _ => (200, none)
  | .error e => (e.status, some e.code)

theorem means_unique {db : TrafficDb} (hregistry : db.Registry) {host : String}
    {params : TrafficQueryParams} {router router' : RouterRecord}
    {interface interface' : RouterInterfaceRecord} (h : Means db host params router interface)
    (h' : Means db host params router' interface') : router = router' ∧ interface = interface' := by
  obtain rfl := current_unique hregistry h.current h'.current
  exact ⟨rfl, selects_unique hregistry h.selects h'.selects⟩

/-- The conditions of the answers exclude each other, up to what two answers of one status
differ in. -/
theorem Answered.status_eq {db : TrafficDb} (hregistry : db.Registry) {host : String}
    {params : TrafficQueryParams} {answer answer' : Except AppError TrafficResponse}
    (h : Answered db host params answer) (h' : Answered db host params answer') :
    statusOf answer = statusOf answer' := by
  cases h with
  | refused _ hnot =>
      cases h' with
      | refused => rfl
      | noRouter hacceptable hnamed => exact absurd ⟨hacceptable, hnamed⟩ hnot
      | noInterface _ hacceptable hnamed => exact absurd ⟨hacceptable, hnamed⟩ hnot
      | tooLarge _ _ hmeans => exact absurd ⟨hmeans.acceptable, hmeans.named⟩ hnot
      | failed _ _ _ hmeans => exact absurd ⟨hmeans.acceptable, hmeans.named⟩ hnot
      | reported _ _ _ hmeans => exact absurd ⟨hmeans.acceptable, hmeans.named⟩ hnot
  | noRouter hacceptable hnamed hnone =>
      cases h' with
      | refused _ hnot => exact absurd ⟨hacceptable, hnamed⟩ hnot
      | noRouter => rfl
      | noInterface => rfl
      | tooLarge _ _ hmeans => exact absurd hmeans.current (hnone _)
      | failed _ _ _ hmeans => exact absurd hmeans.current (hnone _)
      | reported _ _ _ hmeans => exact absurd hmeans.current (hnone _)
  | noInterface router hacceptable hnamed hcurrent hnone =>
      have hmissing : ∀ {router' interface'}, Means db host params router' interface' → False := by
        intro router' interface' hmeans
        obtain rfl := current_unique hregistry hcurrent hmeans.current
        exact hnone _ hmeans.selects
      cases h' with
      | refused _ hnot => exact absurd ⟨hacceptable, hnamed⟩ hnot
      | noRouter => rfl
      | noInterface => rfl
      | tooLarge _ _ hmeans => exact (hmissing hmeans).elim
      | failed _ _ _ hmeans => exact (hmissing hmeans).elim
      | reported _ _ _ hmeans => exact (hmissing hmeans).elim
  | tooLarge router interface hmeans hrows =>
      cases h' with
      | refused _ hnot => exact absurd ⟨hmeans.acceptable, hmeans.named⟩ hnot
      | noRouter _ _ hnone => exact absurd hmeans.current (hnone _)
      | noInterface _ _ _ hcurrent hnone =>
          obtain rfl := current_unique hregistry hcurrent hmeans.current
          exact absurd hmeans.selects (hnone _)
      | tooLarge => rfl
      | failed _ _ _ hmeans' hrows' =>
          obtain ⟨rfl, rfl⟩ := means_unique hregistry hmeans hmeans'
          exact absurd hrows' (not_le_of_gt hrows)
      | reported _ _ _ hmeans' hrows' =>
          obtain ⟨rfl, rfl⟩ := means_unique hregistry hmeans hmeans'
          exact absurd hrows' (not_le_of_gt hrows)
  | failed router interface _ hmeans hrows hbad =>
      cases h' with
      | refused _ hnot => exact absurd ⟨hmeans.acceptable, hmeans.named⟩ hnot
      | noRouter _ _ hnone => exact absurd hmeans.current (hnone _)
      | noInterface _ _ _ hcurrent hnone =>
          obtain rfl := current_unique hregistry hcurrent hmeans.current
          exact absurd hmeans.selects (hnone _)
      | tooLarge _ _ hmeans' hrows' =>
          obtain ⟨rfl, rfl⟩ := means_unique hregistry hmeans hmeans'
          exact absurd hrows (not_le_of_gt hrows')
      | failed => rfl
      | reported _ _ _ hmeans' _ hread =>
          obtain ⟨rfl, rfl⟩ := means_unique hregistry hmeans hmeans'
          exact absurd hread hbad
  | reported router interface _ hmeans hrows hread =>
      cases h' with
      | refused _ hnot => exact absurd ⟨hmeans.acceptable, hmeans.named⟩ hnot
      | noRouter _ _ hnone => exact absurd hmeans.current (hnone _)
      | noInterface _ _ _ hcurrent hnone =>
          obtain rfl := current_unique hregistry hcurrent hmeans.current
          exact absurd hmeans.selects (hnone _)
      | tooLarge _ _ hmeans' hrows' =>
          obtain ⟨rfl, rfl⟩ := means_unique hregistry hmeans hmeans'
          exact absurd hrows (not_le_of_gt hrows')
      | failed _ _ _ hmeans' _ hbad =>
          obtain ⟨rfl, rfl⟩ := means_unique hregistry hmeans hmeans'
          exact absurd hread hbad
      | reported => rfl

theorem Served.status_eq {db : TrafficDb} (hregistry : db.Registry) {host : String}
    {params : TrafficQueryParams} {interruption : Option QueryInterruption}
    {answer answer' : Except AppError TrafficResponse}
    (h : Served db host params interruption answer)
    (h' : Served db host params interruption answer') : statusOf answer = statusOf answer' := by
  cases h with
  | answered h =>
      cases h' with
      | answered h' => exact h.status_eq hregistry h'
  | refused _ hnot =>
      cases h' with
      | refused => rfl
      | interrupted hacceptable => exact absurd hacceptable hnot
  | interrupted hacceptable =>
      cases h' with
      | refused _ hnot => exact absurd hacceptable hnot
      | interrupted => rfl

theorem withTraffic_registry : TrafficDb.withTraffic.Registry where
  routers := ⟨by decide, by decide⟩
  identities := by decide
  interfaceIds := ⟨by decide, by decide⟩
  interfaces := ⟨by decide, by decide, by decide⟩
  parents := by decide

/-- A name that is asked for as it is. -/
structure Askable (name : String) : Prop where
  trimmed : trim name = name
  good : badName name = false

/-- The request for an interface by its key. -/
def TrafficQueryParams.byKey (params : TrafficQueryParams) (key : String) : TrafficQueryParams :=
  { params with interfaceId := some key, wanName := none }

/-- The request for an interface by its name. -/
def TrafficQueryParams.byName (params : TrafficQueryParams) (name : String) : TrafficQueryParams :=
  { params with interfaceId := none, wanName := some name }

/-- The two responses are of one router and list the same interfaces. -/
structure SameListing (r r' : TrafficResponse) : Prop where
  router : r'.router = r.router
  wanInterfaces : r'.wanInterfaces = r.wanInterfaces
  wanNames : r'.wanNames = r.wanNames

/-- The answer is not that the request cannot be asked or that something is missing, and if
it is a response it has the property. -/
structure Finds (answer : Except AppError TrafficResponse) (P : TrafficResponse → Prop) :
    Prop where
  asked : ∀ message, answer ≠ .error (.invalidData message)
  found : ∀ message, answer ≠ .error (trafficNotFound message)
  response : ∀ r, answer = .ok r → P r

theorem mem_wanNamesOf {l : List RouterInterfaceRecord} {name : String} :
    name ∈ wanNamesOf l ↔ ∃ i ∈ l, i.name = name := by
  have hsorted : ((l.map (fun i => i.name)).insertionSort (· ≤ ·)).Pairwise (· ≤ ·) :=
    List.pairwise_insertionSort _ _
  rw [wanNamesOf, hsorted.destutter_eq_dedup, List.mem_dedup, List.mem_insertionSort, List.mem_map]

theorem nodup_wanNamesOf (l : List RouterInterfaceRecord) : (wanNamesOf l).Nodup := by
  have hsorted : ((l.map (fun i => i.name)).insertionSort (· ≤ ·)).Pairwise (· ≤ ·) :=
    List.pairwise_insertionSort _ _
  rw [wanNamesOf, hsorted.destutter_eq_dedup]
  exact List.nodup_dedup _

theorem QueryInterruption.error_ne_invalidData (interruption : QueryInterruption)
    (message : String) : interruption.error ≠ .invalidData message := by
  cases interruption <;> exact nofun

theorem QueryInterruption.error_ne_notFound (interruption : QueryInterruption)
    (message : String) : interruption.error ≠ trafficNotFound message := by
  cases interruption <;>
    simp [QueryInterruption.error, trafficNotFound, trafficQueryUnavailable,
      trafficQueryTimedOut, mapDatabaseError]

/-- A request for something that is there is answered from the same router. -/
theorem finds_of_selects {db : TrafficDb} {host : String} {params : TrafficQueryParams}
    {router : RouterRecord} (hregistry : db.Registry) (htyped : db.WellTyped) (htimed : db.Timed)
    (hacceptable : params.Acceptable) (hnamed : trim host ≠ "") (hcurrent : db.Current host router)
    (hselects : ∃ interface, db.Selects router.id interface params.selector)
    (interruption : Option QueryInterruption) :
    Finds (queryTraffic db host params interruption) (fun r =>
      ∃ interface, db.Selects router.id interface params.selector ∧
        Reports db (params.query router.id interface.id) router interface r) := by
  cases interruption with
  | some interruption =>
      rw [queryTraffic_interrupted db host hacceptable interruption]
      constructor
      · intro message h
        exact interruption.error_ne_invalidData message (Except.error.inj h)
      · intro message h
        exact interruption.error_ne_notFound message (Except.error.inj h)
      · intro r h
        cases h
  | none =>
      have hanswered := queryTraffic_answered db host params htyped htimed
      constructor
      · intro message h
        rw [h] at hanswered
        cases hanswered with
        | refused _ hnot => exact hnot ⟨hacceptable, hnamed⟩
      · intro message h
        rw [h] at hanswered
        cases hanswered with
        | noRouter _ _ hnone => exact hnone router hcurrent
        | noInterface router' _ _ hcurrent' hnone =>
            obtain ⟨interface, hinterface⟩ := hselects
            exact hnone interface (current_unique hregistry hcurrent hcurrent' ▸ hinterface)
      · intro r h
        rw [h] at hanswered
        cases hanswered with
        | reported router' interface _ hmeans _ _ hreports =>
            cases current_unique hregistry hcurrent hmeans.current
            exact ⟨interface, hmeans.selects, hreports⟩

/-- What a response of the endpoint offers: an interface that is listed is answered for when
it is asked for by its key, a name that is listed by the interface of that name seen last,
and each answer is of the same router and lists the same. -/
structure Offers (db : TrafficDb) (host : String) (params : TrafficQueryParams)
    (r : TrafficResponse) : Prop where
  named : ∀ name, name ∈ r.wanNames ↔ ∃ i ∈ r.wanInterfaces, i.name = name
  once : r.wanNames.Nodup
  byKey : ∀ i ∈ r.wanInterfaces, Askable i.id →
    ∀ interruption, Finds (queryTraffic db host (params.byKey i.id) interruption)
      (fun r' => SameListing r r' ∧ r'.interface = i)
  byName : ∀ name ∈ r.wanNames, Askable name →
    ∀ interruption, Finds (queryTraffic db host (params.byName name) interruption)
      (fun r' => SameListing r r' ∧ r'.interface ∈ r.wanInterfaces ∧ r'.interface.name = name ∧
        ∀ i ∈ r.wanInterfaces, i.name = name → i.lastSeenAtMs ≤ r'.interface.lastSeenAtMs)

section

variable {db : TrafficDb} {params : TrafficQueryParams}

theorem TrafficQueryParams.Acceptable.byKey (h : params.Acceptable) {key : String}
    (hkey : Askable key) : (params.byKey key).Acceptable where
  increasing := h.increasing
  range_le := h.range_le
  points_pos := h.points_pos
  points_le := h.points_le
  one_name := Or.inl rfl
  wanName := fun _ hname => nomatch hname
  interfaceId := by
    intro name hname
    cases hname
    rw [hkey.trimmed]
    exact hkey.good

theorem TrafficQueryParams.Acceptable.byName (h : params.Acceptable) {name : String}
    (hname : Askable name) : (params.byName name).Acceptable where
  increasing := h.increasing
  range_le := h.range_le
  points_pos := h.points_pos
  points_le := h.points_le
  one_name := Or.inr rfl
  wanName := by
    intro name' hname'
    cases hname'
    rw [hname.trimmed]
    exact hname.good
  interfaceId := fun _ hid => nomatch hid

theorem selector_byKey {key : String} (h : Askable key) :
    (params.byKey key).selector = .interfaceKey key :=
  congrArg TrafficInterfaceSelector.interfaceKey h.trimmed

theorem selector_byName {name : String} (h : Askable name) :
    (params.byName name).selector = .wanName name :=
  congrArg TrafficInterfaceSelector.wanName h.trimmed

theorem mem_routerWanInterfaces {routerId : Int} {i : RouterInterfaceRecord} :
    i ∈ db.routerWanInterfaces routerId ↔ i ∈ db.wanInterfacesOf routerId :=
  mem_sortByKey

theorem sameListing_of_reports {query query' : TrafficQuery} {router : RouterRecord}
    {interface interface' : RouterInterfaceRecord} {r r' : TrafficResponse}
    (h : Reports db query router interface r) (h' : Reports db query' router interface' r') :
    SameListing r r' where
  router := h'.ofRouter.trans h.ofRouter.symm
  wanInterfaces := h'.listed.trans h.listed.symm
  wanNames := h'.names.trans h.names.symm

/-- The names of a response are those of its interfaces. -/
theorem wanNames_listed {query : TrafficQuery} {router : RouterRecord}
    {interface : RouterInterfaceRecord} {r : TrafficResponse}
    (h : Reports db query router interface r) (name : String) :
    name ∈ r.wanNames ↔ ∃ i ∈ r.wanInterfaces, i.name = name := by
  rw [h.names, h.listed, mem_wanNamesOf]
  constructor
  · rintro ⟨i, hi, rfl⟩
    exact ⟨_, List.mem_map_of_mem hi, rfl⟩
  · rintro ⟨i, hi, rfl⟩
    obtain ⟨record, hrecord, rfl⟩ := List.mem_map.mp hi
    exact ⟨record, hrecord, rfl⟩

theorem Finds.imp {answer : Except AppError TrafficResponse} {P Q : TrafficResponse → Prop}
    (h : Finds answer P) (hPQ : ∀ r, P r → Q r) : Finds answer Q :=
  ⟨h.asked, h.found, fun r hr => hPQ r (h.response r hr)⟩

end

theorem withTraffic_asked :
    ∃ r, queryTraffic TrafficDb.withTraffic "192.168.88.1" askedParams none = .ok r := by
  have hok : (queryTraffic TrafficDb.withTraffic "192.168.88.1" askedParams none).isOk = true := by
    decide +kernel
  cases h : queryTraffic TrafficDb.withTraffic "192.168.88.1" askedParams none with
  | error e => rw [h] at hok; cases hok
  | ok r => exact ⟨r, rfl⟩

end RouterView.Api
