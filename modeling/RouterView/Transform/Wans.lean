/-
  Transform/Wans.lean --- the uplinks of the router.

  `resolve_all_wans` of `poller/transform.rs`.  Default routes are grouped by the
  interface they leave through.  For IPv4 the routes are sorted and the first route of
  an interface is taken; an IPv6 route changes the entry its interface has, or adds one.
  At last the primary uplink is chosen and the entries are sorted for display.

  Left out: the names that the poll engine takes from the resolved uplinks.
-/
import RouterView.Auth.ClientIp
import RouterView.Foundation.Dict
import RouterView.Foundation.Keys
import RouterView.Transform.Devices
import Mathlib.Data.Prod.Lex
import Mathlib.Data.String.Basic

set_option autoImplicit false

namespace RouterView.Transform

open RouterView.Foundation
open RouterView.Auth (parseIpAddr)

/-! ## Tables of the router -/

/-- `IpAddrEntry`, and `Ipv6AddrEntry`, which has the same fields. -/
structure IpAddrEntry where
  address : String
  interface : String
  actualInterface : String
  disabled : Bool
  deriving DecidableEq

/-- The interface that an address is assigned to. -/
def IpAddrEntry.assignedTo (entry : IpAddrEntry) : String :=
  if entry.actualInterface.isEmpty then entry.interface else entry.actualInterface

/-- `RouteEntry`, of both families. -/
structure RouteEntry where
  id : String
  dstAddress : String
  gateway : String
  gatewayStatus : String
  interface : String
  active : Bool
  disabled : Bool
  distance : UInt32
  deriving DecidableEq

/-- `WanInfo`. -/
structure WanInfo where
  interfaceName : String
  ipAddress : String
  gateway : String
  online : Bool
  isPrimary : Bool
  routeActive : Bool
  routeReachable : Bool
  distance : UInt32
  iface : Option InterfaceEntry
  ipv6Address : Option String
  ipv6Gateway : Option String
  deriving DecidableEq

/-! ## Routes -/

/-- `route_is_reachable`: a word of the status is `reachable`. -/
def routeIsReachable (route : RouteEntry) : Bool :=
  (route.gatewayStatus.toList.splitOnP (fun c => !c.isAlpha)).any
    (fun word => word.map Char.toLower == "reachable".toList)

/-- `route_state_rank`. -/
def routeStateRank (active reachable : Bool) : Nat :=
  if active && reachable then 0 else if reachable then 1 else 2

/-- `route_sort_key`. -/
def routeSortKey (route : RouteEntry) : Nat ×ₗ Nat ×ₗ String :=
  toLex (routeStateRank route.active (routeIsReachable route),
    toLex (route.distance.toNat, route.id))

/-- The routes to a destination that are enabled and have a gateway. -/
def defaultRoutes (destination : String) (routes : List RouteEntry) : List RouteEntry :=
  routes.filter (fun route =>
    route.dstAddress == destination && !route.disabled && !route.gateway.isEmpty)

/-- The IPv4 default routes. -/
def ipv4Default : String := "0.0.0.0/0"

/-- The IPv6 default routes. -/
def ipv6Default : String := "::/0"

/-- The interface of a route: a gateway that is no address is the interface. -/
def routeIfaceName (route : RouteEntry) : String :=
  if route.interface.isEmpty && (parseIpAddr route.gateway).isNone then route.gateway
  else route.interface

/-- `resolve_ipv6_route_iface`. -/
def resolveIpv6RouteIface (route : RouteEntry) : String := routeIfaceName route

/-- The key by which a route is known in `seen`. -/
def wanKey (name gateway : String) : String :=
  if name.isEmpty then "gateway:" ++ gateway else "interface:" ++ name

/-! ## Addresses -/

/-- `extract_ip_from_cidr`. -/
def extractIpFromCidr (cidr : String) : String :=
  String.ofList (cidr.toList.takeWhile (fun c => c != '/'))

/-- An address that `build_ipv6_addr_map` keeps. -/
def isGlobalUnicast (lower : String → String) (ip : String) : Bool :=
  !startsWith (lower ip) "fe80:" && (startsWith ip "2" || startsWith ip "3")

/-- `build_ipv6_addr_map`. -/
def buildIpv6AddrMap (lower : String → String) (ipv6Ips : List IpAddrEntry) :
    Dict String String :=
  (ipv6Ips.filter (fun entry => !entry.disabled)).foldl (fun map entry =>
    let ip := extractIpFromCidr entry.address
    if !isGlobalUnicast lower ip || (map.find? entry.assignedTo).isSome then map
    else map.put entry.assignedTo ip) Dict.empty

/-- `build_ipv6_default_iface_set`. -/
def buildIpv6DefaultIfaceSet (ipv6Routes : List RouteEntry) : List String :=
  insertKeys resolveIpv6RouteIface [] (defaultRoutes ipv6Default ipv6Routes)

/-- `resolve_ipv6_gateway`. -/
def resolveIpv6Gateway (ifaceName : String) (ipv6Routes : List RouteEntry) : Option String :=
  let installed := (defaultRoutes ipv6Default ipv6Routes).filter (fun route =>
    route.active && routeIsReachable route && resolveIpv6RouteIface route == ifaceName)
  (minByKey (fun route => route.distance.toNat) installed).map RouteEntry.gateway

/-! ## Entries -/

/-- What the entries are made from besides the route. -/
structure WanTables where
  ips : List IpAddrEntry
  interfaces : List InterfaceEntry
  ipv6AddrMap : Dict String String
  ipv6Gateway : String → Option String

/-- The interface of a name. -/
def WanTables.iface (tables : WanTables) (name : String) : Option InterfaceEntry :=
  tables.interfaces.find? (fun interface => interface.name == name)

/-- Whether the interface of a name is running. -/
def WanTables.running (tables : WanTables) (name : String) : Bool :=
  (tables.iface name).any InterfaceEntry.running

/-- The entry of an IPv4 route. -/
def ipv4Wan (tables : WanTables) (route : RouteEntry) : WanInfo :=
  let name := routeIfaceName route
  let ipEntry := tables.ips.find? (fun entry => !entry.disabled && entry.assignedTo == name)
  let ipv6Address := tables.ipv6AddrMap.find? name
  { interfaceName := name
    ipAddress := (ipEntry.map (fun entry => extractIpFromCidr entry.address)).getD "—"
    gateway := route.gateway
    online := routeIsReachable route && tables.running name
    isPrimary := false
    routeActive := route.active
    routeReachable := routeIsReachable route
    distance := route.distance
    iface := tables.iface name
    ipv6Address := ipv6Address
    ipv6Gateway := ipv6Address.bind (fun _ => tables.ipv6Gateway name) }

/-- The entry of an IPv6 route whose interface has none. -/
def ipv6Wan (tables : WanTables) (route : RouteEntry) : WanInfo :=
  let name := resolveIpv6RouteIface route
  let ipv6Address := tables.ipv6AddrMap.find? name
  { interfaceName := name
    ipAddress := "—"
    gateway := "—"
    online := routeIsReachable route && tables.running name
    isPrimary := false
    routeActive := route.active
    routeReachable := routeIsReachable route
    distance := route.distance
    iface := tables.iface name
    ipv6Address := ipv6Address
    ipv6Gateway := ipv6Address.map (fun _ => route.gateway) }

/-- `existing_rank`. -/
def WanInfo.existingRank (wan : WanInfo) : Nat ×ₗ Nat ×ₗ String :=
  toLex (routeStateRank wan.routeActive wan.routeReachable, toLex (wan.distance.toNat, ""))

/-- What an IPv6 route changes in the entry of its interface. -/
def WanInfo.mergeRoute (route : RouteEntry) (wan : WanInfo) : WanInfo :=
  let ranked :=
    if routeSortKey route < wan.existingRank then
      { wan with
        routeActive := route.active
        routeReachable := routeIsReachable route
        distance := route.distance }
    else wan
  { ranked with
    online := wan.online || (routeIsReachable route && wan.iface.any InterfaceEntry.running) }

/-! ## The two loops -/

/-- `seen` and the entries so far. -/
structure WanPass where
  seen : List String
  wans : List WanInfo

/-- Before the first route. -/
def WanPass.start : WanPass := ⟨[], []⟩

/-- Add an entry, unless a route with its key was seen. -/
def WanPass.push (key : String) (wan : WanInfo) (pass : WanPass) : WanPass :=
  if pass.seen.contains key then pass else ⟨pass.seen.insert key, pass.wans ++ [wan]⟩

/-- The body of the loop over the IPv4 routes. -/
def WanPass.ipv4 (tables : WanTables) (pass : WanPass) (route : RouteEntry) : WanPass :=
  pass.push (wanKey (routeIfaceName route) route.gateway) (ipv4Wan tables route)

/-- Change the first element that satisfies a condition, if there is one. -/
def updateFirst {α : Type} (p : α → Bool) (f : α → α) : List α → Option (List α)
  | [] => none
  | a :: l => if p a then some (f a :: l) else (updateFirst p f l).map (a :: ·)

/-- The body of the loop over the IPv6 routes. -/
def WanPass.ipv6 (tables : WanTables) (pass : WanPass) (route : RouteEntry) : WanPass :=
  match updateFirst (fun wan => wan.interfaceName == resolveIpv6RouteIface route)
      (WanInfo.mergeRoute route) pass.wans with
  | some wans => { pass with wans := wans }
  | none =>
      pass.push (wanKey (resolveIpv6RouteIface route) route.gateway) (ipv6Wan tables route)

/-- The entries after both loops. -/
def collectWans (tables : WanTables) (routes ipv6Routes : List RouteEntry) : List WanInfo :=
  let afterIpv4 := (sortByKey routeSortKey (defaultRoutes ipv4Default routes)).foldl
    (WanPass.ipv4 tables) WanPass.start
  let afterIpv6 := (sortByKey routeSortKey (defaultRoutes ipv6Default ipv6Routes)).foldl
    (WanPass.ipv6 tables) afterIpv4
  afterIpv6.wans

/-! ## The primary uplink -/

/-- An uplink that can be primary. -/
def WanInfo.eligible (wan : WanInfo) : Bool := wan.routeActive && wan.routeReachable && wan.online

/-- The order among those. -/
def WanInfo.preference (wan : WanInfo) : Nat ×ₗ String :=
  toLex (wan.distance.toNat, wan.interfaceName)

/-- Mark the first of the preferred uplinks. -/
def markPrimary (wans : List WanInfo) : List WanInfo :=
  let candidates := wans.zipIdx.filter (fun indexed => indexed.1.eligible)
  match minByKey (fun indexed => indexed.1.preference) candidates with
  | some (_, primaryIndex) => wans.modify primaryIndex (fun wan => { wan with isPrimary := true })
  | none => wans

/-- The order of the display. -/
def WanInfo.displayKey (wan : WanInfo) : Nat ×ₗ Nat ×ₗ String :=
  toLex (if wan.isPrimary then 0 else if wan.online then 1 else 2,
    toLex (wan.distance.toNat, wan.interfaceName))

/-- The lookups that `resolve_all_wans` prepares. -/
def wanTables (lower : String → String) (ips : List IpAddrEntry)
    (interfaces : List InterfaceEntry) (ipv6Ips : List IpAddrEntry)
    (ipv6Routes : List RouteEntry) : WanTables where
  ips := ips
  interfaces := interfaces
  ipv6AddrMap := buildIpv6AddrMap lower ipv6Ips
  ipv6Gateway := fun name =>
    if (buildIpv6DefaultIfaceSet ipv6Routes).contains name then resolveIpv6Gateway name ipv6Routes
    else none

/-- `resolve_all_wans`. -/
def resolveAllWans (lower : String → String) (ips : List IpAddrEntry)
    (interfaces : List InterfaceEntry) (routes : List RouteEntry) (ipv6Ips : List IpAddrEntry)
    (ipv6Routes : List RouteEntry) : List WanInfo :=
  sortByKey WanInfo.displayKey (markPrimary
    (collectWans (wanTables lower ips interfaces ipv6Ips ipv6Routes) routes ipv6Routes))

end RouterView.Transform
