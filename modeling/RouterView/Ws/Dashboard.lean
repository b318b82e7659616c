/-
  Ws/Dashboard.lean --- the dashboard's store.

  `handleSnapshot` and `handleUpdate` of `stores/dashboard.ts`, on the values that a
  message is parsed to.  The objects of a store are replaced by a snapshot and
  merged into by an update.  Which traffic points are recent enough is a matter of
  the clock, and an argument.

  Left out: the reactive wrapping of a store, and what the components make of it.
-/
import RouterView.Ws.Protocol

set_option autoImplicit false

namespace RouterView.Ws

open RouterView.Foundation

/-! ## The store -/

/-- The state of the store that the handlers write. -/
structure DashboardStore where
  system : JsObject
  gateway : JsObject
  interfaces : JsObject
  isp : JsObject
  latencyProbes : Json
  trafficBuffer : List Json
  wifi : JsObject
  stability : JsObject
  interfaceStatuses : Json
  wans : Json
  wansIsp : Json
  wanTrafficBuffers : String → Option (List Json)
  selectedWan : Option String
  routerosConnected : Bool
  lastPollTimestamp : Option Json

/-- The object under a name. -/
def objectProperty (object : JsObject) (name : String) : JsObject :=
  match object name with
  | some value => value.properties
  | none => fun _ => none

/-- The value under a name. -/
def valueProperty (object : JsObject) (name : String) : Json := (object name).getD .null

/-- The items of an array. -/
def itemsOf : Json → List Json
  | .array items => items
  | _ => []

/-- The name of a WAN, where it is given. -/
def wanNameOf (value : Json) : Option String :=
  match truthyProperty value.properties "wan_name" with
  | some (.string name) => some name
  | _ => none

section

variable (recent : Json → Bool)

/-- `pruneByTimestamp`. -/
def pruneByTimestamp (points : List Json) : List Json := points.filter recent

/-- A point of a WAN, pushed to the buffer of its name. -/
def pushWanPoint (buffers : String → Option (List Json)) (point : Json) :
    String → Option (List Json) :=
  match wanNameOf point with
  | some name => Function.update buffers name
      (some (pruneByTimestamp recent ((buffers name).getD [] ++ [point])))
  | none => buffers

/-- `applyWans`. -/
def applyWans (nextWans : Json) (s : DashboardStore) : DashboardStore :=
  let validNames := (itemsOf nextWans).filterMap wanNameOf
  { s with
    wans := nextWans
    selectedWan :=
      if (itemsOf nextWans).length ≤ 1
          ∨ s.selectedWan.any (fun name => !name.isEmpty && !validNames.contains name) then none
      else s.selectedWan
    wanTrafficBuffers := fun name =>
      if validNames.contains name then s.wanTrafficBuffers name else none }

/-- `handleSnapshot`. -/
def handleSnapshot (snapshot : JsObject) (s : DashboardStore) : DashboardStore :=
  let replaced := { s with
    system := objectProperty snapshot "system"
    gateway := objectProperty snapshot "gateway"
    interfaces := objectProperty snapshot "interfaces"
    isp := objectProperty snapshot "isp"
    latencyProbes := valueProperty snapshot "latency_probes"
    trafficBuffer := pruneByTimestamp recent
      (itemsOf (valueProperty (objectProperty snapshot "traffic") "points"))
    wifi := objectProperty snapshot "wifi"
    stability := objectProperty snapshot "stability"
    interfaceStatuses := valueProperty snapshot "interface_statuses" }
  let withWans := applyWans ((truthyProperty snapshot "wans").getD (.array [])) replaced
  { withWans with
    wansIsp := (truthyProperty snapshot "wans_isp").getD (.array [])
    wanTrafficBuffers := (itemsOf (valueProperty snapshot "wan_traffic_points")).foldl
      (pushWanPoint recent) (fun _ => none)
    routerosConnected := true
    lastPollTimestamp := snapshot "timestamp" }

/-- `Object.assign` of a field of the update, where it passes the test. -/
def mergeProperty (update : JsObject) (name : String) (target : JsObject) : JsObject :=
  match truthyProperty update name with
  | some value => target.assign value.properties
  | none => target

/-- The field of the update, where it passes the test. -/
def replaceProperty (update : JsObject) (name : String) (target : Json) : Json :=
  (truthyProperty update name).getD target

/-- `handleUpdate`. -/
def handleUpdate (update : JsObject) (s : DashboardStore) : DashboardStore :=
  let merged := { s with
    system := mergeProperty update "system" s.system
    gateway := mergeProperty update "gateway" s.gateway
    interfaces := mergeProperty update "interfaces" s.interfaces
    isp := mergeProperty update "isp" s.isp
    trafficBuffer := match truthyProperty update "traffic" with
      | some point => pruneByTimestamp recent (s.trafficBuffer ++ [point])
      | none => s.trafficBuffer
    latencyProbes := replaceProperty update "latency_probes" s.latencyProbes
    wifi := mergeProperty update "wifi" s.wifi
    stability := mergeProperty update "stability" s.stability
    interfaceStatuses := replaceProperty update "interface_statuses" s.interfaceStatuses }
  let withWans := match truthyProperty update "wans" with
    | some nextWans => applyWans nextWans merged
    | none => merged
  { withWans with
    wansIsp := replaceProperty update "wans_isp" s.wansIsp
    wanTrafficBuffers := match truthyProperty update "wan_traffic_points" with
      | some points => (itemsOf points).foldl (pushWanPoint recent) withWans.wanTrafficBuffers
      | none => withWans.wanTrafficBuffers
    routerosConnected := true
    lastPollTimestamp := update "timestamp" }

end

/-! ## What the store shows -/

/-- The store equals the snapshot on the fields that updates carry. -/
structure Shows (s : DashboardStore) (d : DashboardSnapshot) : Prop where
  system : s.system = Json.ofEntries d.system.entries
  gateway : s.gateway = Json.ofEntries d.gateway.entries
  interfaces : s.interfaces = Json.ofEntries d.interfaces.entries
  isp : s.isp = Json.ofEntries d.isp.entries
  latencyProbes : s.latencyProbes = arrayJson LatencyProbe.toJson d.latencyProbes
  wifi : s.wifi = Json.ofEntries d.wifi.entries
  stability : s.stability = Json.ofEntries d.stability.entries
  interfaceStatuses : s.interfaceStatuses = arrayJson InterfaceStatus.toJson d.interfaceStatuses
  wans : s.wans = arrayJson WanEntry.toJson d.wans
  wansIsp : s.wansIsp = arrayJson WanIspInfo.toJson d.wansIsp

/-- A store that handled a snapshot shows it. -/
theorem handleSnapshot_shows (recent : Json → Bool) (current : DashboardSnapshot)
    (s : DashboardStore) :
    Shows (handleSnapshot recent (Json.ofEntries current.entries) s) current := by
  have hproperty : ∀ name value, Json.ofEntries current.entries name = some (.object value) →
      objectProperty (Json.ofEntries current.entries) name = Json.ofEntries value := by
    intro name value h
    simp only [objectProperty, h, Json.properties]
  constructor
  · exact hproperty "system" _ rfl
  · exact hproperty "gateway" _ rfl
  · exact hproperty "interfaces" _ rfl
  · exact hproperty "isp" _ rfl
  · rfl
  · exact hproperty "wifi" _ rfl
  · exact hproperty "stability" _ rfl
  · rfl
  · rfl
  · rfl

/-! ## Merging -/

/-- An object that both snapshots serialise with the same names. -/
theorem names_eq {entries entries' : List (String × Json)}
    (h : entries.map Prod.fst = entries'.map Prod.fst) (key : String)
    (hnone : Json.ofEntries entries' key = none) : Json.ofEntries entries key = none := by
  rw [Json.ofEntries_eq_none_iff] at hnone ⊢
  rwa [h]

theorem truthy_arrayJson {α : Type} (toJson : α → Json) (items : List α) :
    (arrayJson toJson items).truthy = true := rfl

section

variable {α : Type} [BEq α] [SoundBEq α] {update : JsObject} {name : String} {a b : α}

/-- A field that is replaced becomes the current one. -/
theorem replaceProperty_eq {toJson : α → Json} (htruthy : ∀ x, (toJson x).truthy = true)
    (hupdate : update name = some (.nullable ((changed a b).map toJson))) :
    replaceProperty update name (toJson a) = toJson b := by
  unfold replaceProperty truthyProperty
  rw [hupdate]
  cases hchanged : changed a b with
  | some value =>
      rw [changed_eq_some hchanged]
      simp only [Option.map_some, Json.nullable, Option.filter_some, htruthy, if_true,
        Option.getD_some]
  | none =>
      rw [changed_eq_none hchanged]
      rfl

/-- A field that is merged into becomes the current one exactly if no property
vanishes. -/
theorem mergeProperty_eq_iff {entries : α → List (String × Json)}
    (hupdate : update name = some (.nullable ((changed a b).map (fun x => .object (entries x))))) :
    mergeProperty update name (Json.ofEntries (entries a)) = Json.ofEntries (entries b) ↔
      ∀ key, Json.ofEntries (entries b) key = none → Json.ofEntries (entries a) key = none := by
  unfold mergeProperty truthyProperty
  rw [hupdate]
  cases hchanged : changed a b with
  | some value =>
      rw [changed_eq_some hchanged]
      exact JsObject.assign_eq_iff
  | none =>
      rw [changed_eq_none hchanged]
      exact ⟨fun _ _ h => h, fun _ => rfl⟩

end

theorem isSome_of_none {β γ : Type} {x : Option β} {y : Option γ} (h : y = none → x = none)
    (hx : x.isSome = true) : y.isSome = true := by
  cases y with
  | some value => rfl
  | none =>
      rw [h rfl] at hx
      cases hx

theorem none_of_isSome {β γ : Type} {x : Option β} {y : Option γ}
    (h : x.isSome = true → y.isSome = true) (hy : y = none) : x = none := by
  cases x with
  | none => rfl
  | some value =>
      have hsome := h rfl
      rw [hy] at hsome
      cases hsome

/-- The sub-fields that are left out where they are absent, of the objects that are
merged into: none that was present is absent now. -/
structure NothingVanishes (previous current : DashboardSnapshot) : Prop where
  wanIpv6 : previous.gateway.wanIpv6.isSome = true → current.gateway.wanIpv6.isSome = true
  gatewayIpv6 :
    previous.gateway.gatewayIpv6.isSome = true → current.gateway.gatewayIpv6.isSome = true
  connectionCountIpv6 : previous.isp.connectionCountIpv6.isSome = true →
    current.isp.connectionCountIpv6.isSome = true

/-- The properties of a gateway all stay exactly if its IPv6 fields do. -/
theorem gateway_names_iff (a b : GatewayInfo) :
    (∀ key, Json.ofEntries b.entries key = none → Json.ofEntries a.entries key = none) ↔
      (a.wanIpv6.isSome = true → b.wanIpv6.isSome = true) ∧
        (a.gatewayIpv6.isSome = true → b.gatewayIpv6.isSome = true) := by
  simp only [GatewayInfo.entries, Json.ofEntries_append_eq_none_iff,
    Json.ofEntries_skipNone_eq_none_iff, Option.map_eq_none_iff]
  constructor
  · intro h
    constructor
    · apply isSome_of_none
      intro hb
      exact (h "wan_ipv6" ⟨⟨rfl, fun _ => hb⟩, fun hne => absurd hne (by decide)⟩).1.2 rfl
    · apply isSome_of_none
      intro hb
      exact (h "gateway_ipv6" ⟨⟨rfl, fun hne => absurd hne (by decide)⟩, fun _ => hb⟩).2 rfl
  · rintro ⟨hwan, hgateway⟩ key ⟨⟨hfixed, hwanb⟩, hgatewayb⟩
    refine ⟨⟨?_, fun hkey => none_of_isSome hwan (hwanb hkey)⟩,
      fun hkey => none_of_isSome hgateway (hgatewayb hkey)⟩
    exact names_eq (by rfl) key hfixed

theorem isp_names_iff (a b : IspInfo) :
    (∀ key, Json.ofEntries b.entries key = none → Json.ofEntries a.entries key = none) ↔
      (a.connectionCountIpv6.isSome = true → b.connectionCountIpv6.isSome = true) := by
  simp only [IspInfo.entries, Json.ofEntries_append_eq_none_iff,
    Json.ofEntries_skipNone_eq_none_iff, Option.map_eq_none_iff]
  constructor
  · intro h
    apply isSome_of_none
    intro hb
    exact (h "connection_count_ipv6" ⟨⟨rfl, fun _ => hb⟩, rfl⟩).1.2 rfl
  · rintro hcount key ⟨⟨hfixed, hcountb⟩, hlast⟩
    exact ⟨⟨names_eq (by rfl) key hfixed, fun hkey => none_of_isSome hcount (hcountb hkey)⟩,
      names_eq (by rfl) key hlast⟩

/-! ## Differences and merges -/

theorem handleUpdate_wans (recent : Json → Bool) (update : JsObject) (s : DashboardStore) :
    (handleUpdate recent update s).wans = replaceProperty update "wans" s.wans := by
  unfold replaceProperty handleUpdate
  cases truthyProperty update "wans" <;> rfl

/-- The other fields of a handled update. -/
theorem handleUpdate_fields (recent : Json → Bool) (update : JsObject) (s : DashboardStore) :
    let s' := handleUpdate recent update s
    s'.system = mergeProperty update "system" s.system ∧
      s'.gateway = mergeProperty update "gateway" s.gateway ∧
      s'.interfaces = mergeProperty update "interfaces" s.interfaces ∧
      s'.isp = mergeProperty update "isp" s.isp ∧
      s'.latencyProbes = replaceProperty update "latency_probes" s.latencyProbes ∧
      s'.wifi = mergeProperty update "wifi" s.wifi ∧
      s'.stability = mergeProperty update "stability" s.stability ∧
      s'.interfaceStatuses = replaceProperty update "interface_statuses" s.interfaceStatuses ∧
      s'.wansIsp = replaceProperty update "wans_isp" s.wansIsp := by
  unfold handleUpdate
  cases truthyProperty update "wans" <;> exact ⟨rfl, rfl, rfl, rfl, rfl, rfl, rfl, rfl, rfl⟩

/-- An update that is handled by a store that shows the previous snapshot makes it
show the current one exactly if no optional sub-field of a merged object vanishes. -/
theorem handleUpdate_shows_iff (recent : Json → Bool) (previous current : DashboardSnapshot)
    (s : DashboardStore) (hs : Shows s previous) :
    Shows (handleUpdate recent (Json.ofEntries (diffSnapshots previous current).entries) s)
      current ↔ NothingVanishes previous current := by
  obtain ⟨hsystem, hgateway, hinterfaces, hisp, hprobes, hwifi, hstability, hstatuses, hwansIsp⟩ :=
    handleUpdate_fields recent (Json.ofEntries (diffSnapshots previous current).entries) s
  have hwans := handleUpdate_wans recent
    (Json.ofEntries (diffSnapshots previous current).entries) s
  rw [hs.system] at hsystem
  rw [hs.gateway] at hgateway
  rw [hs.interfaces] at hinterfaces
  rw [hs.isp] at hisp
  rw [hs.latencyProbes, replaceProperty_eq (truthy_arrayJson _) rfl] at hprobes
  rw [hs.wifi] at hwifi
  rw [hs.stability] at hstability
  rw [hs.interfaceStatuses, replaceProperty_eq (truthy_arrayJson _) rfl] at hstatuses
  rw [hs.wansIsp, replaceProperty_eq (truthy_arrayJson _) rfl] at hwansIsp
  rw [hs.wans, replaceProperty_eq (truthy_arrayJson _) rfl] at hwans
  constructor
  · intro hshows
    have hgatewayNames := (gateway_names_iff previous.gateway current.gateway).mp
      ((mergeProperty_eq_iff rfl).mp (hgateway.symm.trans hshows.gateway))
    have hispNames := (isp_names_iff previous.isp current.isp).mp
      ((mergeProperty_eq_iff rfl).mp (hisp.symm.trans hshows.isp))
    exact ⟨hgatewayNames.1, hgatewayNames.2, hispNames⟩
  · intro hnothing
    refine ⟨?_, ?_, ?_, ?_, hprobes, ?_, ?_, hstatuses, hwans, hwansIsp⟩
    · exact hsystem.trans ((mergeProperty_eq_iff rfl).mpr (names_eq (by rfl)))
    · exact hgateway.trans ((mergeProperty_eq_iff rfl).mpr
        ((gateway_names_iff _ _).mpr ⟨hnothing.wanIpv6, hnothing.gatewayIpv6⟩))
    · exact hinterfaces.trans ((mergeProperty_eq_iff rfl).mpr (names_eq (by rfl)))
    · exact hisp.trans ((mergeProperty_eq_iff rfl).mpr
        ((isp_names_iff _ _).mpr hnothing.connectionCountIpv6))
    · exact hwifi.trans ((mergeProperty_eq_iff rfl).mpr (names_eq (by rfl)))
    · exact hstability.trans ((mergeProperty_eq_iff rfl).mpr (names_eq (by rfl)))

/-! ### Runs on fixed inputs -/

/-- A snapshot of a router with one WAN, and the IPv6 address of that. -/
def oneWan (wanIpv6 : Option String) : DashboardSnapshot where
  system := ⟨"RB5009", "7.16", "1d", 86400, .finite 3, 512, 1024, 1024, 512, "arm64", "RB5009"⟩
  gateway := ⟨"ether1", "203.0.113.7", "203.0.113.1", true, 4, [], wanIpv6, none⟩
  interfaces := ⟨5, 2, 4, true⟩
  isp := ⟨"router", true, .finite 12, .finite 1000, .finite 500, 42, none, []⟩
  traffic := []
  latencyProbes := []
  wifi := ⟨2, 0, .finite 0, .finite 0, []⟩
  stability := ⟨.finite 100, [], 30⟩
  interfaceStatuses := []
  timestamp := "2026-01-01T00:00:00Z"
  wans := []
  wansIsp := []
  wanTrafficPoints := []

/-- The store before any message. -/
def emptyStore : DashboardStore where
  system := fun _ => none
  gateway := fun _ => none
  interfaces := fun _ => none
  isp := fun _ => none
  latencyProbes := .array []
  trafficBuffer := []
  wifi := fun _ => none
  stability := fun _ => none
  interfaceStatuses := .array []
  wans := .array []
  wansIsp := .array []
  wanTrafficBuffers := fun _ => none
  selectedWan := none
  routerosConnected := false
  lastPollTimestamp := none

/-- The store that handled a snapshot. -/
def snapshotStore (d : DashboardSnapshot) : DashboardStore :=
  handleSnapshot (fun _ => true) (Json.ofEntries d.entries) emptyStore

/-- The store that then handled the update to another one. -/
def updatedStore (previous current : DashboardSnapshot) : DashboardStore :=
  handleUpdate (fun _ => true) (Json.ofEntries (diffSnapshots previous current).entries)
    (snapshotStore previous)

theorem handleUpdate_shows_iff_appears :
    Shows (updatedStore (oneWan none) (oneWan (some "2001:db8::7"))) (oneWan (some "2001:db8::7")) :=
  (handleUpdate_shows_iff (fun _ => true) (oneWan none) (oneWan (some "2001:db8::7"))
    (snapshotStore (oneWan none)) (handleSnapshot_shows (fun _ => true) _ _)).mpr
    ⟨fun _ => rfl, id, id⟩

/-- The address of a WAN that lost IPv6 stays. -/
theorem handleUpdate_shows_fails :
    ¬ ∀ (recent : Json → Bool) (previous current : DashboardSnapshot) (s : DashboardStore),
      Shows s previous →
      Shows (handleUpdate recent (Json.ofEntries (diffSnapshots previous current).entries) s)
        current := by
  intro hclaim
  have hshows := hclaim (fun _ => true) (oneWan (some "2001:db8::7")) (oneWan none)
    (snapshotStore (oneWan (some "2001:db8::7"))) (handleSnapshot_shows (fun _ => true) _ _)
  have hstale : ((updatedStore (oneWan (some "2001:db8::7")) (oneWan none)).gateway
      "wan_ipv6").isSome = true := by decide +kernel
  have habsent : Json.ofEntries (oneWan none).gateway.entries "wan_ipv6" = none := rfl
  have hgateway := congrFun hshows.gateway "wan_ipv6"
  rw [habsent] at hgateway
  unfold updatedStore at hstale
  rw [hgateway] at hstale
  cases hstale

end RouterView.Ws
