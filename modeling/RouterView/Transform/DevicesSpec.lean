/-
  Transform/DevicesSpec.lean --- which MAC addresses the list of devices has.

  One pass adds the live entries whose address is not among those seen before the pass.
  A repetition inside one table is therefore listed twice, and this is the only way in
  which the list and the count of connected devices come to disagree.
-/
import RouterView.Transform.Devices

set_option autoImplicit false

namespace RouterView.Transform

open RouterView.Foundation
open RouterView.Ws (Device)

variable {lower : String → String}

/-! ## The addresses of a table -/

/-- The addresses of the registrations, as they are compared. -/
def registeredMacs (lower : String → String) (wirelessClients : List WirelessClientEntry) :
    List String :=
  wirelessClients.map (fun reg => lower reg.macAddress)

/-- The addresses of the live entries of a table, as they are compared. -/
def liveMacs (lower : String → String) (entries : List NeighborEntry) : List String :=
  (entries.filter NeighborEntry.isLive).map (fun entry => lower entry.macAddress)

/-- The live addresses that none of the given ones is. -/
def unclaimed (lower : String → String) (claimed : List String)
    (entries : List NeighborEntry) : List String :=
  (liveMacs lower entries).filter (fun mac => !claimed.contains mac)

/-- The addresses of the devices, as they are compared. -/
def deviceMacs (lower : String → String) (devices : List Device) : List String :=
  devices.map (fun device => lower device.mac)

theorem unclaimed_eq (claimed : List String) (entries : List NeighborEntry) :
    unclaimed lower claimed entries = (entries.filter (fun entry =>
      entry.isLive && !claimed.contains (lower entry.macAddress))).map
        (fun entry => lower entry.macAddress) := by
  rw [unclaimed, liveMacs, List.filter_map, List.filter_filter]
  congr 1
  apply List.filter_congr
  intro entry _
  simp only [Function.comp_apply, Bool.and_comm]

theorem mem_unclaimed {claimed : List String} {entries : List NeighborEntry} {mac : String} :
    mac ∈ unclaimed lower claimed entries ↔ mac ∈ liveMacs lower entries ∧ mac ∉ claimed := by
  simp [unclaimed]

/-- Only the members of the claimed addresses count. -/
theorem unclaimed_congr {claimed claimed' : List String} (h : ∀ mac, mac ∈ claimed ↔ mac ∈ claimed')
    (entries : List NeighborEntry) :
    unclaimed lower claimed entries = unclaimed lower claimed' entries := by
  apply List.filter_congr
  intro mac _
  rw [Bool.eq_iff_iff]
  simp [h mac]

/-! ## One pass -/

theorem foldl_push {leases : List DhcpLeaseEntry} {entries : List NeighborEntry}
    {pass : DevicePass} :
    (entries.foldl (DevicePass.push lower leases) pass).devices =
        pass.devices ++ entries.map (neighborDevice lower leases) ∧
      (entries.foldl (DevicePass.push lower leases) pass).wifiMacs =
        insertKeys (fun entry => lower entry.macAddress) pass.wifiMacs entries := by
  induction entries generalizing pass with
  | nil => simp
  | cons entry entries ih =>
      obtain ⟨hdevices, hmacs⟩ := @ih (pass.push lower leases entry)
      refine ⟨?_, hmacs⟩
      rw [List.foldl_cons, hdevices, DevicePass.push, List.map_cons, List.append_assoc,
        List.singleton_append]

/-- A pass adds the unclaimed addresses to the list. -/
theorem deviceMacs_run (leases : List DhcpLeaseEntry) (entries : List NeighborEntry)
    (pass : DevicePass) :
    deviceMacs lower (pass.run lower leases entries).devices =
      deviceMacs lower pass.devices ++ unclaimed lower pass.wifiMacs entries := by
  rw [DevicePass.run, foldl_push.1, unclaimed_eq, deviceMacs, deviceMacs, List.map_append,
    List.map_map]
  rfl

/-- A pass adds the live addresses to the set. -/
theorem mem_wifiMacs_run {leases : List DhcpLeaseEntry} {entries : List NeighborEntry}
    {pass : DevicePass} {mac : String} :
    mac ∈ (pass.run lower leases entries).wifiMacs ↔
      mac ∈ pass.wifiMacs ∨ mac ∈ liveMacs lower entries := by
  rw [DevicePass.run, foldl_push.2, mem_insertKeys, ← unclaimed_eq, mem_unclaimed]
  tauto

/-! ## The list -/

theorem deviceMacs_start (wirelessClients : List WirelessClientEntry) (arp : List NeighborEntry)
    (leases : List DhcpLeaseEntry) :
    deviceMacs lower (DevicePass.start lower wirelessClients arp leases).devices =
      registeredMacs lower wirelessClients := by
  rw [DevicePass.start, deviceMacs, List.map_map]
  rfl

theorem mem_wifiMacs_start {wirelessClients : List WirelessClientEntry}
    {arp : List NeighborEntry} {leases : List DhcpLeaseEntry} {mac : String} :
    mac ∈ (DevicePass.start lower wirelessClients arp leases).wifiMacs ↔
      mac ∈ registeredMacs lower wirelessClients := by
  rw [DevicePass.start, mem_insertKeys]
  simp [registeredMacs]

/-- The addresses of the list, in order. -/
theorem extractWifi_macs (wirelessClients : List WirelessClientEntry) (arp : List NeighborEntry)
    (leases : List DhcpLeaseEntry) (ipv6Neighbors : List NeighborEntry) :
    deviceMacs lower (extractWifi lower wirelessClients arp leases ipv6Neighbors).devices =
      registeredMacs lower wirelessClients ++
        unclaimed lower (registeredMacs lower wirelessClients) arp ++
        unclaimed lower (registeredMacs lower wirelessClients ++ liveMacs lower arp)
          ipv6Neighbors := by
  rw [extractWifi, deviceMacs_run, deviceMacs_run, deviceMacs_start]
  congr 1
  · congr 1
    exact unclaimed_congr (fun mac => mem_wifiMacs_start) arp
  · apply unclaimed_congr
    intro mac
    rw [mem_wifiMacs_run, mem_wifiMacs_start, List.mem_append]

/-- The set of addresses is that of the three tables. -/
theorem mem_extractWifi_macs {wirelessClients : List WirelessClientEntry}
    {arp : List NeighborEntry} {leases : List DhcpLeaseEntry}
    {ipv6Neighbors : List NeighborEntry} {mac : String} :
    mac ∈ deviceMacs lower (extractWifi lower wirelessClients arp leases ipv6Neighbors).devices ↔
      mac ∈ registeredMacs lower wirelessClients ∨ mac ∈ liveMacs lower arp ∨
        mac ∈ liveMacs lower ipv6Neighbors := by
  rw [extractWifi_macs, List.mem_append, List.mem_append, mem_unclaimed, mem_unclaimed,
    List.mem_append]
  tauto

/-- The three parts of the list have no address in common. -/
theorem extractWifi_nodup_iff {wirelessClients : List WirelessClientEntry}
    (hregistered : (registeredMacs lower wirelessClients).Nodup) (arp : List NeighborEntry)
    (leases : List DhcpLeaseEntry) (ipv6Neighbors : List NeighborEntry) :
    (deviceMacs lower
        (extractWifi lower wirelessClients arp leases ipv6Neighbors).devices).Nodup ↔
      (unclaimed lower (registeredMacs lower wirelessClients) arp).Nodup ∧
        (unclaimed lower (registeredMacs lower wirelessClients ++ liveMacs lower arp)
          ipv6Neighbors).Nodup := by
  have hdisjoint : ∀ claimed entries, List.Disjoint claimed (unclaimed lower claimed entries) :=
    fun _ _ _ hmac hunclaimed => (mem_unclaimed.1 hunclaimed).2 hmac
  rw [extractWifi_macs, List.nodup_append', List.nodup_append']
  constructor
  · rintro ⟨⟨-, harp, -⟩, hneighbors, -⟩
    exact ⟨harp, hneighbors⟩
  · rintro ⟨harp, hneighbors⟩
    refine ⟨⟨hregistered, harp, hdisjoint _ _⟩, hneighbors, ?_⟩
    intro mac hmac hunclaimed
    refine hdisjoint _ _ ?_ hunclaimed
    rw [List.mem_append] at hmac ⊢
    exact hmac.imp_right (fun harp => (mem_unclaimed.1 harp).1)

/-! ## The count -/

/-- The distinct live addresses of the two tables. -/
def distinctLive (lower : String → String) (arp ipv6Neighbors : List NeighborEntry) : List String :=
  (liveMacs lower arp ++ liveMacs lower ipv6Neighbors).dedup

theorem connectedMacs_length (arp ipv6Neighbors : List NeighborEntry) :
    (connectedMacs lower arp ipv6Neighbors).length =
      (distinctLive lower arp ipv6Neighbors).length := by
  refine insertKeys_length (insertKeys_nodup List.nodup_nil) (List.nodup_dedup _) ?_
  intro mac
  rw [distinctLive, List.mem_dedup, List.mem_append, mem_insertKeys, liveMacs, liveMacs]
  simp

/-- The devices of the list whose address is live in one of the two tables. -/
def liveDevices (lower : String → String) (arp ipv6Neighbors : List NeighborEntry)
    (devices : List Device) : List Device :=
  devices.filter (fun device =>
    (liveMacs lower arp ++ liveMacs lower ipv6Neighbors).contains (lower device.mac))

theorem deviceMacs_liveDevices (arp ipv6Neighbors : List NeighborEntry) (devices : List Device) :
    deviceMacs lower (liveDevices lower arp ipv6Neighbors devices) =
      (deviceMacs lower devices).filter
        (liveMacs lower arp ++ liveMacs lower ipv6Neighbors).contains := by
  rw [deviceMacs, deviceMacs, liveDevices, List.filter_map]
  rfl

/-- In a list without duplicates as many devices are live as there are live addresses. -/
theorem liveDevices_length {wirelessClients : List WirelessClientEntry}
    {arp : List NeighborEntry} {leases : List DhcpLeaseEntry} {ipv6Neighbors : List NeighborEntry}
    (h : (deviceMacs lower
      (extractWifi lower wirelessClients arp leases ipv6Neighbors).devices).Nodup) :
    (liveDevices lower arp ipv6Neighbors
        (extractWifi lower wirelessClients arp leases ipv6Neighbors).devices).length =
      (distinctLive lower arp ipv6Neighbors).length := by
  have hperm : (deviceMacs lower (liveDevices lower arp ipv6Neighbors
      (extractWifi lower wirelessClients arp leases ipv6Neighbors).devices)).Perm
        (distinctLive lower arp ipv6Neighbors) := by
    rw [deviceMacs_liveDevices]
    refine (List.perm_ext_iff_of_nodup (h.filter _) (List.nodup_dedup _)).2 ?_
    intro mac
    rw [List.mem_filter, mem_extractWifi_macs, List.contains_iff_mem, List.mem_dedup,
      List.mem_append]
    tauto
  have hlength := hperm.length_eq
  rwa [deviceMacs, List.length_map] at hlength

/-! ## List and count -/

/-- What the list of devices promises: every address once, the addresses of the three
tables, and as many live ones as the summary counts. -/
structure ListsDevices (lower : String → String) (wirelessClients : List WirelessClientEntry)
    (arp : List NeighborEntry) (leases : List DhcpLeaseEntry)
    (ipv6Neighbors : List NeighborEntry) (interfaces : List InterfaceEntry) : Prop where
  unique : (deviceMacs lower
    (extractWifi lower wirelessClients arp leases ipv6Neighbors).devices).Nodup
  macs : ∀ mac,
    mac ∈ deviceMacs lower (extractWifi lower wirelessClients arp leases ipv6Neighbors).devices ↔
      mac ∈ registeredMacs lower wirelessClients ∨ mac ∈ liveMacs lower arp ∨
        mac ∈ liveMacs lower ipv6Neighbors
  count : (liveDevices lower arp ipv6Neighbors
      (extractWifi lower wirelessClients arp leases ipv6Neighbors).devices).length =
    (extractInterfaceSummary lower interfaces arp ipv6Neighbors).connectedDevices.toNat

/-- The tables for which the code keeps the promise: neither table repeats an address
that is not listed before its pass, and the count fits its type. -/
structure DistinctTables (lower : String → String) (wirelessClients : List WirelessClientEntry)
    (arp ipv6Neighbors : List NeighborEntry) : Prop where
  arpDistinct : (unclaimed lower (registeredMacs lower wirelessClients) arp).Nodup
  neighborsDistinct : (unclaimed lower (registeredMacs lower wirelessClients ++ liveMacs lower arp)
    ipv6Neighbors).Nodup
  fits : (distinctLive lower arp ipv6Neighbors).length < 2 ^ 32

theorem connectedDevices_toNat (interfaces : List InterfaceEntry)
    (arp ipv6Neighbors : List NeighborEntry) :
    (extractInterfaceSummary lower interfaces arp ipv6Neighbors).connectedDevices.toNat =
      (distinctLive lower arp ipv6Neighbors).length % 2 ^ 32 := by
  rw [extractInterfaceSummary, connectedMacs_length, UInt32.toNat_ofNat']

theorem lists_devices_iff (lower : String → String) (wirelessClients : List WirelessClientEntry)
    (hregistered : (registeredMacs lower wirelessClients).Nodup) (arp : List NeighborEntry)
    (leases : List DhcpLeaseEntry) (ipv6Neighbors : List NeighborEntry)
    (interfaces : List InterfaceEntry) :
    ListsDevices lower wirelessClients arp leases ipv6Neighbors interfaces ↔
      DistinctTables lower wirelessClients arp ipv6Neighbors := by
  have hnodup := extractWifi_nodup_iff hregistered arp leases ipv6Neighbors
  constructor
  · intro h
    have htables := hnodup.1 h.unique
    have hcount := h.count
    rw [liveDevices_length h.unique, connectedDevices_toNat] at hcount
    refine ⟨htables.1, htables.2, ?_⟩
    rw [hcount]
    exact Nat.mod_lt _ (by decide)
  · intro h
    have hunique := hnodup.2 ⟨h.arpDistinct, h.neighborsDistinct⟩
    refine ⟨hunique, fun mac => mem_extractWifi_macs, ?_⟩
    rw [liveDevices_length hunique, connectedDevices_toNat, Nat.mod_eq_of_lt h.fits]

/-- An entry of the ARP table for one network card. -/
def arpEntryAt (address : String) : NeighborEntry where
  address := address
  macAddress := "AA:BB:CC:00:11:22"
  interface := "bridge"
  status := "reachable"
  disabled := false

/-- Two registered cards. -/
def twoRegistrations : List WirelessClientEntry :=
  [⟨"aa:bb:cc:00:11:22", some (-60), "1h2m"⟩, ⟨"aa:bb:cc:00:11:33", some (-71), "5m"⟩]

/-- One of the registered cards and one by cable. -/
def twoArpEntries : List NeighborEntry :=
  [arpEntryAt "192.168.88.10",
    { arpEntryAt "192.168.88.12" with macAddress := "AA:BB:CC:00:11:44" }]

/-- The card by cable and one that is not in the ARP table. -/
def twoNeighbors : List NeighborEntry :=
  [{ arpEntryAt "2001:db8::12" with macAddress := "AA:BB:CC:00:11:44" },
    { arpEntryAt "2001:db8::13" with macAddress := "AA:BB:CC:00:11:55" }]

/-- Four cards, of which two are registered and three are live. -/
theorem lists_devices_iff_dual_stack :
    ListsDevices toAsciiLowercase twoRegistrations twoArpEntries [] twoNeighbors [] :=
  (lists_devices_iff toAsciiLowercase twoRegistrations (by decide +kernel) twoArpEntries []
    twoNeighbors []).mpr
    ⟨by decide +kernel, by decide +kernel, by decide +kernel⟩

/-- A card with two addresses in the ARP table is listed twice and counted once. -/
theorem repeated_arp_mac_listed_twice :
    (registeredMacs toAsciiLowercase []).Nodup ∧
      deviceMacs toAsciiLowercase (extractWifi toAsciiLowercase []
        [arpEntryAt "192.168.88.10", arpEntryAt "192.168.88.11"] [] []).devices =
          ["aa:bb:cc:00:11:22", "aa:bb:cc:00:11:22"] ∧
      (extractInterfaceSummary toAsciiLowercase []
        [arpEntryAt "192.168.88.10", arpEntryAt "192.168.88.11"] []).connectedDevices = 1 ∧
      ¬ ListsDevices toAsciiLowercase []
        [arpEntryAt "192.168.88.10", arpEntryAt "192.168.88.11"] [] [] [] := by
  have hmacs : deviceMacs toAsciiLowercase (extractWifi toAsciiLowercase []
      [arpEntryAt "192.168.88.10", arpEntryAt "192.168.88.11"] [] []).devices =
        ["aa:bb:cc:00:11:22", "aa:bb:cc:00:11:22"] := by
    rw [extractWifi_macs]
    decide +kernel
  refine ⟨List.nodup_nil, hmacs, by decide +kernel, ?_⟩
  intro h
  have hunique := h.unique
  rw [hmacs] at hunique
  exact absurd hunique (by decide)

end RouterView.Transform
