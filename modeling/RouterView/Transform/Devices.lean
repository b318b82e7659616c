/-
  Transform/Devices.lean --- the devices of a snapshot.

  `extract_wifi`, `infer_device_type` and `extract_interface_summary` of
  `poller/transform.rs`.  The list of devices is made in three passes, over the wireless
  registrations, the ARP table and the IPv6 neighbours, and a set collects the MAC
  addresses seen so far.  How Unicode text is lowered is an argument.
-/
import RouterView.Foundation.Keys
import RouterView.Poller.ExactTraffic
import RouterView.Transform.Uptime
import RouterView.Ws.Protocol

set_option autoImplicit false

namespace RouterView.Transform

open RouterView.Foundation
open RouterView.Ws (Device WifiInfo InterfaceSummary)

/-! ## Tables of the router -/

/-- `WirelessClientEntry`. -/
structure WirelessClientEntry where
  macAddress : String
  signalStrength : Option Int32
  uptime : String
  deriving DecidableEq

/-- `NeighborEntry`, of the ARP table and of the IPv6 neighbours. -/
structure NeighborEntry where
  address : String
  macAddress : String
  interface : String
  status : String
  disabled : Bool
  deriving DecidableEq

/-- `DhcpLeaseEntry`. -/
structure DhcpLeaseEntry where
  macAddress : String
  hostName : String
  status : String
  expiresAfter : String
  activeMacAddress : String
  deriving DecidableEq

/-- `InterfaceEntry`, with the fields that the sampling of counters does not read. -/
structure InterfaceEntry extends Poller.InterfaceEntry where
  ifaceType : String
  running : Bool
  defaultName : String
  deriving DecidableEq

/-- `LIVE_NEIGHBOR_STATES`. -/
def liveNeighborStates : List String := ["permanent", "reachable", "stale", "delay", "probe"]

/-- The entries that stand for a device: live, enabled and with a MAC address. -/
def NeighborEntry.isLive (entry : NeighborEntry) : Bool :=
  liveNeighborStates.contains entry.status && !entry.disabled && !entry.macAddress.isEmpty

/-! ## Strings -/

/-- `str::starts_with`. -/
def startsWith (text start : String) : Bool := start.toList.isPrefixOf text.toList

/-- `str::contains`. -/
def containsText (text word : String) : Bool :=
  text.toList.tails.any (fun rest => word.toList.isPrefixOf rest)

/-- The characters that take exactly the given number of bytes. -/
def takeBytes : Nat → List Char → Option (List Char)
  | 0, _ => some []
  | _ + 1, [] => none
  | n + 1, c :: cs =>
      if c.utf8Size ≤ n + 1 then (takeBytes (n + 1 - c.utf8Size) cs).map (c :: ·) else none

/-- `Some(text).filter(|s| !s.is_empty())`. -/
def nonEmpty (text : String) : Option String := if text.isEmpty then none else some text

section

variable (lower : String → String)

/-! ## Kinds of devices -/

/-- The words in a host name that tell the kind of the device, in order. -/
def hostnameKinds : List (List String × String) :=
  [(["iphone", "android", "phone", "mobile"], "phone"),
    (["ipad", "tablet"], "tablet"),
    (["macbook", "laptop", "notebook", "thinkpad"], "laptop"),
    (["raspberry", "rpi", "pi-hole"], "iot"),
    (["router", "mikrotik", "rb"], "router"),
    (["switch"], "switch"),
    (["tv", "apple tv", "roku", "chromecast"], "media"),
    (["camera", "cam", "nest"], "camera"),
    (["printer"], "printer")]

/-- The manufacturers that tell the kind of the device. -/
def ouiKinds : List (List String × String) :=
  [(["dc:a6:32", "e4:5f:01"], "iot"), (["f0:18:98", "a4:d1:d2"], "apple")]

/-- `infer_device_type`. -/
def inferDeviceType (hostname mac : String) : String :=
  let macPart := lower (((takeBytes 8 mac.toList).map String.ofList).getD mac)
  let byHostname := hostnameKinds.find? (fun kind => kind.1.any (containsText (lower hostname)))
  let byMac := ouiKinds.find? (fun kind => kind.1.any (startsWith macPart))
  ((byHostname.or byMac).map Prod.snd).getD "desktop"

/-! ## The three passes -/

/-- The lease of a MAC address. -/
def leaseOf (leases : List DhcpLeaseEntry) (mac : String) : Option DhcpLeaseEntry :=
  leases.find? (fun lease =>
    lower lease.activeMacAddress == lower mac || lower lease.macAddress == lower mac)

/-- The host name of a lease. -/
def hostnameOf (lease : Option DhcpLeaseEntry) : String :=
  (lease.bind (fun lease => nonEmpty lease.hostName)).getD "Unknown"

/-- The device of a wireless registration. -/
def registeredDevice (arp : List NeighborEntry) (leases : List DhcpLeaseEntry)
    (reg : WirelessClientEntry) : Device :=
  let lease := leaseOf lower leases reg.macAddress
  let arpEntry := arp.find? (fun entry => lower entry.macAddress == lower reg.macAddress)
  { mac := reg.macAddress
    hostname := hostnameOf lease
    ip := (arpEntry.map NeighborEntry.address).getD "—"
    deviceType := inferDeviceType lower (hostnameOf lease) reg.macAddress
    signal := reg.signalStrength
    connectedDuration := parseRouterosUptimeToSeconds lower reg.uptime
    dhcpStatus := lease.bind (fun lease => nonEmpty lease.status)
    dhcpExpires := lease.bind (fun lease => nonEmpty lease.expiresAfter)
    interface := arpEntry.bind (fun entry => nonEmpty entry.interface)
    arpStatus := arpEntry.bind (fun entry => nonEmpty entry.status)
    customName := none
    customType := none }

/-- The device of an entry of the ARP table or of the IPv6 neighbours. -/
def neighborDevice (leases : List DhcpLeaseEntry) (entry : NeighborEntry) : Device :=
  let lease := leaseOf lower leases entry.macAddress
  { mac := entry.macAddress
    hostname := hostnameOf lease
    ip := entry.address
    deviceType := inferDeviceType lower (hostnameOf lease) entry.macAddress
    signal := none
    connectedDuration := 0
    dhcpStatus := lease.bind (fun lease => nonEmpty lease.status)
    dhcpExpires := lease.bind (fun lease => nonEmpty lease.expiresAfter)
    interface := nonEmpty entry.interface
    arpStatus := nonEmpty entry.status
    customName := none
    customType := none }

/-- The devices listed so far, and `wifi_macs`. -/
structure DevicePass where
  devices : List Device
  wifiMacs : List String

/-- The body of the loop over the collected entries. -/
def DevicePass.push (leases : List DhcpLeaseEntry) (pass : DevicePass) (entry : NeighborEntry) :
    DevicePass where
  devices := pass.devices ++ [neighborDevice lower leases entry]
  wifiMacs := pass.wifiMacs.insert (lower entry.macAddress)

/-- One pass: the entries are collected before the first of them is added. -/
def DevicePass.run (leases : List DhcpLeaseEntry) (entries : List NeighborEntry)
    (pass : DevicePass) : DevicePass :=
  let fresh := entries.filter (fun entry =>
    entry.isLive && !pass.wifiMacs.contains (lower entry.macAddress))
  fresh.foldl (DevicePass.push lower leases) pass

/-- The pass over the registrations. -/
def DevicePass.start (wirelessClients : List WirelessClientEntry) (arp : List NeighborEntry)
    (leases : List DhcpLeaseEntry) : DevicePass where
  devices := wirelessClients.map (registeredDevice lower arp leases)
  wifiMacs := insertKeys (fun reg => lower reg.macAddress) [] wirelessClients

/-- `extract_wifi`. -/
def extractWifi (wirelessClients : List WirelessClientEntry) (arp : List NeighborEntry)
    (leases : List DhcpLeaseEntry) (ipv6Neighbors : List NeighborEntry) : WifiInfo where
  interfaceCount := 0
  clientCount := UInt32.ofNat wirelessClients.length
  packetLossPct := .finite 0
  retransmitPct := .finite 0
  devices := (((DevicePass.start lower wirelessClients arp leases).run lower leases arp).run
    lower leases ipv6Neighbors).devices

/-! ## The count -/

/-- An interface counted as Ethernet. -/
def InterfaceEntry.isEthernet (interface : InterfaceEntry) : Bool :=
  interface.ifaceType == "ether" || startsWith interface.defaultName "ether"

/-- An interface counted as wireless. -/
def InterfaceEntry.isWireless (interface : InterfaceEntry) : Bool :=
  interface.ifaceType == "wlan" || interface.ifaceType == "wifi" ||
    startsWith interface.defaultName "wlan" || startsWith interface.defaultName "wifi"

/-- `connected_macs`, after both tables. -/
def connectedMacs (arp ipv6Neighbors : List NeighborEntry) : List String :=
  let fromArp := insertKeys (fun entry => lower entry.macAddress) []
    (arp.filter NeighborEntry.isLive)
  insertKeys (fun entry => lower entry.macAddress) fromArp
    (ipv6Neighbors.filter NeighborEntry.isLive)

/-- `extract_interface_summary`. -/
def extractInterfaceSummary (interfaces : List InterfaceEntry)
    (arp ipv6Neighbors : List NeighborEntry) : InterfaceSummary where
  ethernetCount := UInt32.ofNat (interfaces.countP InterfaceEntry.isEthernet)
  wifiCount := UInt32.ofNat (interfaces.countP InterfaceEntry.isWireless)
  connectedDevices := UInt32.ofNat (connectedMacs lower arp ipv6Neighbors).length
  wifiOnline := interfaces.any (fun interface =>
    (interface.ifaceType == "wlan" || interface.ifaceType == "wifi") && interface.running)

end

end RouterView.Transform
