/-
  Ws/Protocol.lean --- the messages of the dashboard.

  The structures of `ws/protocol.rs` with the entries that they are serialised to:
  a field that may be absent is `null`, or left out where its attribute says so.
  Comparing two of them is comparing their fields, floating-point numbers by
  their own comparison.
-/
import RouterView.Foundation.Json
import RouterView.Foundation.F64

set_option autoImplicit false

namespace RouterView.Ws

open RouterView.Foundation

/-! ## Parts -/

/-- A serialised list. -/
def arrayJson {α : Type} (toJson : α → Json) (items : List α) : Json := .array (items.map toJson)

/-- `SystemInfo`. -/
structure SystemInfo where
  model : String
  version : String
  uptime : String
  uptimeSeconds : UInt64
  cpuLoad : F64
  freeMemory : UInt64
  totalMemory : UInt64
  totalHdd : UInt64
  freeHdd : UInt64
  architecture : String
  boardName : String
  deriving BEq

/-- Its entries. -/
def SystemInfo.entries (x : SystemInfo) : List (String × Json) :=
  [("model", .string x.model),
    ("version", .string x.version),
    ("uptime", .string x.uptime),
    ("uptime_seconds", .ofNat x.uptimeSeconds.toNat),
    ("cpu_load", .ofF64 x.cpuLoad),
    ("free_memory", .ofNat x.freeMemory.toNat),
    ("total_memory", .ofNat x.totalMemory.toNat),
    ("total_hdd", .ofNat x.totalHdd.toNat),
    ("free_hdd", .ofNat x.freeHdd.toNat),
    ("architecture", .string x.architecture),
    ("board_name", .string x.boardName)]

def SystemInfo.toJson (x : SystemInfo) : Json := .object x.entries

instance : SoundBEq SystemInfo where
  eq_of_beq := by
    rintro ⟨⟩ ⟨⟩ h
    change instBEqSystemInfo.beq _ _ = true at h
    simp only [instBEqSystemInfo.beq, Bool.and_eq_true] at h
    obtain ⟨h1, h2, h3, h4, h5, h6, h7, h8, h9, h10, h11⟩ := h
    rw [sound_beq h1, sound_beq h2, sound_beq h3, sound_beq h4, sound_beq h5, sound_beq h6,
      sound_beq h7, sound_beq h8, sound_beq h9, sound_beq h10, sound_beq h11]

/-- `WanEntry`. -/
structure WanEntry where
  wanName : String
  wanIp : String
  gatewayIp : String
  online : Bool
  downloadBps : F64
  uploadBps : F64
  isPrimary : Bool
  wanIpv6 : Option String
  gatewayIpv6 : Option String
  deriving BEq

/-- Its entries. -/
def WanEntry.entries (x : WanEntry) : List (String × Json) :=
  [("wan_name", .string x.wanName),
    ("wan_ip", .string x.wanIp),
    ("gateway_ip", .string x.gatewayIp),
    ("online", .bool x.online),
    ("download_bps", .ofF64 x.downloadBps),
    ("upload_bps", .ofF64 x.uploadBps),
    ("is_primary", .bool x.isPrimary)]
    ++ Json.skipNone "wan_ipv6" (x.wanIpv6.map .string)
    ++ Json.skipNone "gateway_ipv6" (x.gatewayIpv6.map .string)

def WanEntry.toJson (x : WanEntry) : Json := .object x.entries

instance : SoundBEq WanEntry where
  eq_of_beq := by
    rintro ⟨⟩ ⟨⟩ h
    change instBEqWanEntry.beq _ _ = true at h
    simp only [instBEqWanEntry.beq, Bool.and_eq_true] at h
    obtain ⟨h1, h2, h3, h4, h5, h6, h7, h8, h9⟩ := h
    rw [sound_beq h1, sound_beq h2, sound_beq h3, sound_beq h4, sound_beq h5, sound_beq h6,
      sound_beq h7, sound_beq h8, sound_beq h9]

/-- `GatewayInfo`. -/
structure GatewayInfo where
  wanInterface : String
  wanIp : String
  gatewayIp : String
  wanOnline : Bool
  ipAllocations : UInt32
  wans : List WanEntry
  wanIpv6 : Option String
  gatewayIpv6 : Option String
  deriving BEq

/-- Its entries. -/
def GatewayInfo.entries (x : GatewayInfo) : List (String × Json) :=
  [("wan_interface", .string x.wanInterface),
    ("wan_ip", .string x.wanIp),
    ("gateway_ip", .string x.gatewayIp),
    ("wan_online", .bool x.wanOnline),
    ("ip_allocations", .ofNat x.ipAllocations.toNat),
    ("wans", arrayJson WanEntry.toJson x.wans)]
    ++ Json.skipNone "wan_ipv6" (x.wanIpv6.map .string)
    ++ Json.skipNone "gateway_ipv6" (x.gatewayIpv6.map .string)

def GatewayInfo.toJson (x : GatewayInfo) : Json := .object x.entries

instance : SoundBEq GatewayInfo where
  eq_of_beq := by
    rintro ⟨⟩ ⟨⟩ h
    change instBEqGatewayInfo.beq _ _ = true at h
    simp only [instBEqGatewayInfo.beq, Bool.and_eq_true] at h
    obtain ⟨h1, h2, h3, h4, h5, h6, h7, h8⟩ := h
    rw [sound_beq h1, sound_beq h2, sound_beq h3, sound_beq h4, sound_beq h5, sound_beq h6,
      sound_beq h7, sound_beq h8]

/-- `InterfaceSummary`. -/
structure InterfaceSummary where
  ethernetCount : UInt32
  wifiCount : UInt32
  connectedDevices : UInt32
  wifiOnline : Bool
  deriving BEq

/-- Its entries. -/
def InterfaceSummary.entries (x : InterfaceSummary) : List (String × Json) :=
  [("ethernet_count", .ofNat x.ethernetCount.toNat),
    ("wifi_count", .ofNat x.wifiCount.toNat),
    ("connected_devices", .ofNat x.connectedDevices.toNat),
    ("wifi_online", .bool x.wifiOnline)]

def InterfaceSummary.toJson (x : InterfaceSummary) : Json := .object x.entries

instance : SoundBEq InterfaceSummary where
  eq_of_beq := by
    rintro ⟨⟩ ⟨⟩ h
    change instBEqInterfaceSummary.beq _ _ = true at h
    simp only [instBEqInterfaceSummary.beq, Bool.and_eq_true] at h
    obtain ⟨h1, h2, h3, h4⟩ := h
    rw [sound_beq h1, sound_beq h2, sound_beq h3, sound_beq h4]

/-- `WanIspInfo`. -/
structure WanIspInfo where
  wanName : String
  name : String
  online : Bool
  downloadBps : F64
  uploadBps : F64
  deriving BEq

/-- Its entries. -/
def WanIspInfo.entries (x : WanIspInfo) : List (String × Json) :=
  [("wan_name", .string x.wanName),
    ("name", .string x.name),
    ("online", .bool x.online),
    ("download_bps", .ofF64 x.downloadBps),
    ("upload_bps", .ofF64 x.uploadBps)]

def WanIspInfo.toJson (x : WanIspInfo) : Json := .object x.entries

instance : SoundBEq WanIspInfo where
  eq_of_beq := by
    rintro ⟨⟩ ⟨⟩ h
    change instBEqWanIspInfo.beq _ _ = true at h
    simp only [instBEqWanIspInfo.beq, Bool.and_eq_true] at h
    obtain ⟨h1, h2, h3, h4, h5⟩ := h
    rw [sound_beq h1, sound_beq h2, sound_beq h3, sound_beq h4, sound_beq h5]

/-- `IspInfo`. -/
structure IspInfo where
  name : String
  online : Bool
  monthlyUsageGb : F64
  downloadBps : F64
  uploadBps : F64
  connectionCount : UInt32
  connectionCountIpv6 : Option UInt32
  wans : List WanIspInfo
  deriving BEq

/-- Its entries. -/
def IspInfo.entries (x : IspInfo) : List (String × Json) :=
  [("name", .string x.name),
    ("online", .bool x.online),
    ("monthly_usage_gb", .ofF64 x.monthlyUsageGb),
    ("download_bps", .ofF64 x.downloadBps),
    ("upload_bps", .ofF64 x.uploadBps),
    ("connection_count", .ofNat x.connectionCount.toNat)]
    ++ Json.skipNone "connection_count_ipv6" (x.connectionCountIpv6.map (fun n => .ofNat n.toNat))
    ++ [("wans", arrayJson WanIspInfo.toJson x.wans)]

def IspInfo.toJson (x : IspInfo) : Json := .object x.entries

instance : SoundBEq IspInfo where
  eq_of_beq := by
    rintro ⟨⟩ ⟨⟩ h
    change instBEqIspInfo.beq _ _ = true at h
    simp only [instBEqIspInfo.beq, Bool.and_eq_true] at h
    obtain ⟨h1, h2, h3, h4, h5, h6, h7, h8⟩ := h
    rw [sound_beq h1, sound_beq h2, sound_beq h3, sound_beq h4, sound_beq h5, sound_beq h6,
      sound_beq h7, sound_beq h8]

/-- `LatencyProbe`. -/
structure LatencyProbe where
  target : String
  host : String
  latencyMs : Option F64
  status : String
  category : String
  deriving BEq

/-- Its entries. -/
def LatencyProbe.entries (x : LatencyProbe) : List (String × Json) :=
  [("target", .string x.target),
    ("host", .string x.host),
    ("latency_ms", .nullable (x.latencyMs.map .ofF64)),
    ("status", .string x.status),
    ("category", .string x.category)]

def LatencyProbe.toJson (x : LatencyProbe) : Json := .object x.entries

instance : SoundBEq LatencyProbe where
  eq_of_beq := by
    rintro ⟨⟩ ⟨⟩ h
    change instBEqLatencyProbe.beq _ _ = true at h
    simp only [instBEqLatencyProbe.beq, Bool.and_eq_true] at h
    obtain ⟨h1, h2, h3, h4, h5⟩ := h
    rw [sound_beq h1, sound_beq h2, sound_beq h3, sound_beq h4, sound_beq h5]

/-- `TrafficPoint`. -/
structure TrafficPoint where
  timestamp : String
  downloadBps : F64
  uploadBps : F64
  wanName : Option String
  deriving BEq

/-- Its entries. -/
def TrafficPoint.entries (x : TrafficPoint) : List (String × Json) :=
  [("timestamp", .string x.timestamp),
    ("download_bps", .ofF64 x.downloadBps),
    ("upload_bps", .ofF64 x.uploadBps)]
    ++ Json.skipNone "wan_name" (x.wanName.map .string)

def TrafficPoint.toJson (x : TrafficPoint) : Json := .object x.entries

instance : SoundBEq TrafficPoint where
  eq_of_beq := by
    rintro ⟨⟩ ⟨⟩ h
    change instBEqTrafficPoint.beq _ _ = true at h
    simp only [instBEqTrafficPoint.beq, Bool.and_eq_true] at h
    obtain ⟨h1, h2, h3, h4⟩ := h
    rw [sound_beq h1, sound_beq h2, sound_beq h3, sound_beq h4]

/-- `Device`. -/
structure Device where
  mac : String
  hostname : String
  ip : String
  deviceType : String
  signal : Option Int32
  connectedDuration : UInt64
  dhcpStatus : Option String
  dhcpExpires : Option String
  interface : Option String
  arpStatus : Option String
  customName : Option String
  customType : Option String
  deriving BEq

/-- Its entries. -/
def Device.entries (x : Device) : List (String × Json) :=
  [("mac", .string x.mac),
    ("hostname", .string x.hostname),
    ("ip", .string x.ip),
    ("device_type", .string x.deviceType)]
    ++ Json.skipNone "signal" (x.signal.map (fun n => .ofInt n.toInt))
    ++ [("connected_duration", .ofNat x.connectedDuration.toNat)]
    ++ Json.skipNone "dhcp_status" (x.dhcpStatus.map .string)
    ++ Json.skipNone "dhcp_expires" (x.dhcpExpires.map .string)
    ++ Json.skipNone "interface" (x.interface.map .string)
    ++ Json.skipNone "arp_status" (x.arpStatus.map .string)
    ++ Json.skipNone "custom_name" (x.customName.map .string)
    ++ Json.skipNone "custom_type" (x.customType.map .string)

def Device.toJson (x : Device) : Json := .object x.entries

instance : SoundBEq Device where
  eq_of_beq := by
    rintro ⟨⟩ ⟨⟩ h
    change instBEqDevice.beq _ _ = true at h
    simp only [instBEqDevice.beq, Bool.and_eq_true] at h
    obtain ⟨h1, h2, h3, h4, h5, h6, h7, h8, h9, h10, h11, h12⟩ := h
    rw [sound_beq h1, sound_beq h2, sound_beq h3, sound_beq h4, sound_beq h5, sound_beq h6,
      sound_beq h7, sound_beq h8, sound_beq h9, sound_beq h10, sound_beq h11, sound_beq h12]

/-- `WifiInfo`. -/
structure WifiInfo where
  interfaceCount : UInt32
  clientCount : UInt32
  packetLossPct : F64
  retransmitPct : F64
  devices : List Device
  deriving BEq

/-- Its entries. -/
def WifiInfo.entries (x : WifiInfo) : List (String × Json) :=
  [("interface_count", .ofNat x.interfaceCount.toNat),
    ("client_count", .ofNat x.clientCount.toNat),
    ("packet_loss_pct", .ofF64 x.packetLossPct),
    ("retransmit_pct", .ofF64 x.retransmitPct),
    ("devices", arrayJson Device.toJson x.devices)]

def WifiInfo.toJson (x : WifiInfo) : Json := .object x.entries

instance : SoundBEq WifiInfo where
  eq_of_beq := by
    rintro ⟨⟩ ⟨⟩ h
    change instBEqWifiInfo.beq _ _ = true at h
    simp only [instBEqWifiInfo.beq, Bool.and_eq_true] at h
    obtain ⟨h1, h2, h3, h4, h5⟩ := h
    rw [sound_beq h1, sound_beq h2, sound_beq h3, sound_beq h4, sound_beq h5]

/-- `InterfaceStatus`. -/
structure InterfaceStatus where
  name : String
  ifaceType : String
  running : Bool
  rxBps : F64
  txBps : F64
  isWan : Option Bool
  wanName : Option String
  deriving BEq

/-- Its entries. -/
def InterfaceStatus.entries (x : InterfaceStatus) : List (String × Json) :=
  [("name", .string x.name),
    ("type", .string x.ifaceType),
    ("running", .bool x.running),
    ("rx_bps", .ofF64 x.rxBps),
    ("tx_bps", .ofF64 x.txBps)]
    ++ Json.skipNone "is_wan" (x.isWan.map .bool)
    ++ Json.skipNone "wan_name" (x.wanName.map .string)

def InterfaceStatus.toJson (x : InterfaceStatus) : Json := .object x.entries

instance : SoundBEq InterfaceStatus where
  eq_of_beq := by
    rintro ⟨⟩ ⟨⟩ h
    change instBEqInterfaceStatus.beq _ _ = true at h
    simp only [instBEqInterfaceStatus.beq, Bool.and_eq_true] at h
    obtain ⟨h1, h2, h3, h4, h5, h6, h7⟩ := h
    rw [sound_beq h1, sound_beq h2, sound_beq h3, sound_beq h4, sound_beq h5, sound_beq h6,
      sound_beq h7]

/-- `StabilitySegment`. -/
structure StabilitySegment where
  color : String
  value : F64
  label : Option String
  deriving BEq

/-- Its entries. -/
def StabilitySegment.entries (x : StabilitySegment) : List (String × Json) :=
  [("color", .string x.color),
    ("value", .ofF64 x.value),
    ("label", .nullable (x.label.map .string))]

def StabilitySegment.toJson (x : StabilitySegment) : Json := .object x.entries

instance : SoundBEq StabilitySegment where
  eq_of_beq := by
    rintro ⟨⟩ ⟨⟩ h
    change instBEqStabilitySegment.beq _ _ = true at h
    simp only [instBEqStabilitySegment.beq, Bool.and_eq_true] at h
    obtain ⟨h1, h2, h3⟩ := h
    rw [sound_beq h1, sound_beq h2, sound_beq h3]

/-- `IspStability`. -/
structure IspStability where
  onlineRate : F64
  segments : List StabilitySegment
  windowMinutes : UInt32
  deriving BEq

/-- Its entries. -/
def IspStability.entries (x : IspStability) : List (String × Json) :=
  [("online_rate", .ofF64 x.onlineRate),
    ("segments", arrayJson StabilitySegment.toJson x.segments),
    ("window_minutes", .ofNat x.windowMinutes.toNat)]

def IspStability.toJson (x : IspStability) : Json := .object x.entries

instance : SoundBEq IspStability where
  eq_of_beq := by
    rintro ⟨⟩ ⟨⟩ h
    change instBEqIspStability.beq _ _ = true at h
    simp only [instBEqIspStability.beq, Bool.and_eq_true] at h
    obtain ⟨h1, h2, h3⟩ := h
    rw [sound_beq h1, sound_beq h2, sound_beq h3]

/-! ## Snapshots and updates -/

/-- `DashboardSnapshot`. -/
structure DashboardSnapshot where
  system : SystemInfo
  gateway : GatewayInfo
  interfaces : InterfaceSummary
  isp : IspInfo
  traffic : List TrafficPoint
  latencyProbes : List LatencyProbe
  wifi : WifiInfo
  stability : IspStability
  interfaceStatuses : List InterfaceStatus
  timestamp : String
  wans : List WanEntry
  wansIsp : List WanIspInfo
  wanTrafficPoints : List TrafficPoint

/-- `DashboardUpdate`. -/
structure DashboardUpdate where
  system : Option SystemInfo
  gateway : Option GatewayInfo
  interfaces : Option InterfaceSummary
  isp : Option IspInfo
  traffic : Option TrafficPoint
  latencyProbes : Option (List LatencyProbe)
  wifi : Option WifiInfo
  stability : Option IspStability
  interfaceStatuses : Option (List InterfaceStatus)
  timestamp : String
  wans : Option (List WanEntry)
  wansIsp : Option (List WanIspInfo)
  wanTrafficPoints : Option (List TrafficPoint)

def DashboardSnapshot.entries (x : DashboardSnapshot) : List (String × Json) :=
  [("system", x.system.toJson),
    ("gateway", x.gateway.toJson),
    ("interfaces", x.interfaces.toJson),
    ("isp", x.isp.toJson),
    ("traffic", .object [("points", arrayJson TrafficPoint.toJson x.traffic)]),
    ("latency_probes", arrayJson LatencyProbe.toJson x.latencyProbes),
    ("wifi", x.wifi.toJson),
    ("stability", x.stability.toJson),
    ("interface_statuses", arrayJson InterfaceStatus.toJson x.interfaceStatuses),
    ("timestamp", .string x.timestamp),
    ("wans", arrayJson WanEntry.toJson x.wans),
    ("wans_isp", arrayJson WanIspInfo.toJson x.wansIsp),
    ("wan_traffic_points", arrayJson TrafficPoint.toJson x.wanTrafficPoints)]

/-- An absent field of an update is `null`. -/
def DashboardUpdate.entries (x : DashboardUpdate) : List (String × Json) :=
  [("system", .nullable (x.system.map SystemInfo.toJson)),
    ("gateway", .nullable (x.gateway.map GatewayInfo.toJson)),
    ("interfaces", .nullable (x.interfaces.map InterfaceSummary.toJson)),
    ("isp", .nullable (x.isp.map IspInfo.toJson)),
    ("traffic", .nullable (x.traffic.map TrafficPoint.toJson)),
    ("latency_probes", .nullable (x.latencyProbes.map (arrayJson LatencyProbe.toJson))),
    ("wifi", .nullable (x.wifi.map WifiInfo.toJson)),
    ("stability", .nullable (x.stability.map IspStability.toJson)),
    ("interface_statuses",
      .nullable (x.interfaceStatuses.map (arrayJson InterfaceStatus.toJson))),
    ("timestamp", .string x.timestamp),
    ("wans", .nullable (x.wans.map (arrayJson WanEntry.toJson))),
    ("wans_isp", .nullable (x.wansIsp.map (arrayJson WanIspInfo.toJson))),
    ("wan_traffic_points",
      .nullable (x.wanTrafficPoints.map (arrayJson TrafficPoint.toJson)))]

/-- `ServerMessage`. -/
inductive ServerMessage where
  | snapshot (data : DashboardSnapshot)
  | update (data : DashboardUpdate)
  | connectionStatus (connected : Bool) (lastPoll : Option String)

/-! ## Differences -/

/-- A field of an update: the current value where it differs from the previous one. -/
def changed {α : Type} [BEq α] (previous current : α) : Option α :=
  if previous != current then some current else none

theorem changed_eq_some {α : Type} [BEq α] {previous current value : α}
    (h : changed previous current = some value) : value = current := by
  unfold changed at h
  split at h
  · exact (Option.some.inj h).symm
  · cases h

/-- What is left out of an update has not changed. -/
theorem changed_eq_none {α : Type} [BEq α] [SoundBEq α] {previous current : α}
    (h : changed previous current = none) : previous = current := by
  unfold changed at h
  split at h
  · cases h
  · rename_i hsame
    exact sound_beq (by simpa [bne] using hsame)

/-- `diff_snapshots`. -/
def diffSnapshots (previous current : DashboardSnapshot) : DashboardUpdate where
  system := changed previous.system current.system
  gateway := changed previous.gateway current.gateway
  interfaces := changed previous.interfaces current.interfaces
  isp := changed previous.isp current.isp
  traffic := current.traffic.getLast?
  latencyProbes := changed previous.latencyProbes current.latencyProbes
  wifi := changed previous.wifi current.wifi
  stability := changed previous.stability current.stability
  interfaceStatuses := changed previous.interfaceStatuses current.interfaceStatuses
  timestamp := current.timestamp
  wans := changed previous.wans current.wans
  wansIsp := changed previous.wansIsp current.wansIsp
  wanTrafficPoints :=
    if current.wanTrafficPoints.isEmpty then none else some current.wanTrafficPoints

/-- `has_changes`. -/
def hasChanges (update : DashboardUpdate) : Bool :=
  update.system.isSome || update.gateway.isSome || update.interfaces.isSome
    || update.isp.isSome || update.traffic.isSome || update.latencyProbes.isSome
    || update.wifi.isSome || update.stability.isSome || update.interfaceStatuses.isSome
    || update.wans.isSome || update.wansIsp.isSome || update.wanTrafficPoints.isSome

end RouterView.Ws
