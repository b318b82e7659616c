/-
  Transform/WansOrder.lean --- the primary uplink and the order of the display.

  Marking the primary uplink and sorting change no entry otherwise, so what the entries
  say about the routes is carried over.  The order in which the routes were read can only
  show in the IPv6 gateway: every step commutes with forgetting it.
-/
import RouterView.Transform.WansSpec

set_option autoImplicit false

namespace RouterView.Transform

open RouterView.Foundation

/-! ## The primary uplink -/

/-- The entry as the primary one. -/
def WanInfo.asPrimary (wan : WanInfo) : WanInfo := { wan with isPrimary := true }

/-- Nothing is marked, or the first of the preferred uplinks is. -/
theorem markPrimary_cases (wans : List WanInfo) :
    (markPrimary wans = wans ∧ ∀ wan ∈ wans, wan.eligible = false) ∨
      ∃ before primary after, wans = before ++ primary :: after ∧ primary.eligible = true ∧
        (∀ wan ∈ wans, wan.eligible = true → primary.preference ≤ wan.preference) ∧
        markPrimary wans = before ++ primary.asPrimary :: after := by
  have hcandidate : ∀ {wan : WanInfo} {index : Nat},
      (wan, index) ∈ wans.zipIdx.filter (fun indexed => indexed.1.eligible) ↔
        wans[index]? = some wan ∧ wan.eligible = true := by
    intro wan index
    rw [List.mem_filter, List.mk_mem_zipIdx_iff_getElem?]
  rw [markPrimary]
  cases hmin : minByKey (fun indexed => indexed.1.preference)
      (wans.zipIdx.filter (fun indexed => indexed.1.eligible)) with
  | none =>
      refine Or.inl ⟨rfl, fun wan hwan => ?_⟩
      obtain ⟨index, hindex⟩ := List.mem_iff_getElem?.1 hwan
      apply Bool.eq_false_of_not_eq_true
      intro heligible
      have hmem := hcandidate.2 ⟨hindex, heligible⟩
      rw [minByKey_eq_none.1 hmin] at hmem
      cases hmem
  | some indexed =>
      obtain ⟨primary, primaryIndex⟩ := indexed
      obtain ⟨hindex, heligible⟩ := hcandidate.1 (minByKey_mem hmin)
      obtain ⟨hlt, hget⟩ := List.getElem?_eq_some_iff.1 hindex
      refine Or.inr ⟨wans.take primaryIndex, primary, wans.drop (primaryIndex + 1), ?_, heligible,
        ?_, ?_⟩
      · rw [← hget, List.getElem_cons_drop, List.take_append_drop]
      · intro wan hwan hother
        obtain ⟨index, hindex'⟩ := List.mem_iff_getElem?.1 hwan
        exact minByKey_le hmin (hcandidate.2 ⟨hindex', hother⟩)
      · dsimp only
        rw [List.modify_eq_take_cons_drop hlt, hget]
        rfl

/-- What the marking does to a list without primary entries. -/
structure MarksPrimary (wans marked : List WanInfo) : Prop where
  entry : ∀ wan ∈ marked, ∃ original ∈ wans, wan = original ∨ wan = original.asPrimary
  names : wanNames marked = wanNames wans
  unique : (marked.filter WanInfo.isPrimary).length ≤ 1
  exists_iff : (∃ wan ∈ marked, wan.isPrimary = true) ↔ ∃ wan ∈ marked, wan.eligible = true
  least : ∀ wan ∈ marked, wan.isPrimary = true → wan.eligible = true ∧
    ∀ other ∈ marked, other.eligible = true → wan.preference ≤ other.preference
  only : ∀ wan ∈ marked, wan.isPrimary = true → ∀ other ∈ marked, other ≠ wan →
    other.isPrimary = false

theorem markPrimary_marks {wans : List WanInfo} (h : ∀ wan ∈ wans, wan.isPrimary = false) :
    MarksPrimary wans (markPrimary wans) := by
  rcases markPrimary_cases wans with ⟨hsame, hnone⟩ |
    ⟨before, primary, after, hwans, heligible, hleast, hmarked⟩
  · have hno : ∀ wan ∈ wans, ¬ wan.isPrimary = true := fun wan hwan => by simp [h wan hwan]
    rw [hsame]
    refine ⟨fun wan hwan => ⟨wan, hwan, Or.inl rfl⟩, rfl, ?_, ?_, ?_, ?_⟩
    · rw [List.filter_eq_nil_iff.2 hno, List.length_nil]
      exact Nat.zero_le 1
    · constructor
      · rintro ⟨wan, hwan, hprimary⟩
        exact absurd hprimary (hno wan hwan)
      · rintro ⟨wan, hwan, heligible⟩
        rw [hnone wan hwan] at heligible
        cases heligible
    · exact fun wan hwan hprimary => absurd hprimary (hno wan hwan)
    · exact fun wan hwan hprimary => absurd hprimary (hno wan hwan)
  · have hrest : ∀ wan, wan ∈ before ∨ wan ∈ after → wan ∈ wans := by
      intro wan hwan
      rw [hwans, List.mem_append, List.mem_cons]
      exact hwan.imp_right Or.inr
    have hprimaryMem : primary ∈ wans := by
      rw [hwans]
      exact List.mem_append_right _ List.mem_cons_self
    have hcases : ∀ wan ∈ markPrimary wans,
        wan = primary.asPrimary ∨ wan ∈ before ∨ wan ∈ after := by
      intro wan hwan
      rw [hmarked, List.mem_append, List.mem_cons] at hwan
      tauto
    have hmem : primary.asPrimary ∈ markPrimary wans := by
      rw [hmarked]
      exact List.mem_append_right _ List.mem_cons_self
    have hisPrimary : ∀ wan ∈ markPrimary wans, wan.isPrimary = true → wan = primary.asPrimary := by
      intro wan hwan hprimary
      rcases hcases wan hwan with heq | hother
      · exact heq
      · rw [h wan (hrest wan hother)] at hprimary
        cases hprimary
    refine ⟨?_, ?_, ?_, ?_, ?_, ?_⟩
    · intro wan hwan
      rcases hcases wan hwan with rfl | hother
      · exact ⟨primary, hprimaryMem, Or.inr rfl⟩
      · exact ⟨wan, hrest wan hother, Or.inl rfl⟩
    · rw [hmarked, hwans, wanNames, wanNames, List.map_append, List.map_append, List.map_cons,
        List.map_cons]
      rfl
    · have hbefore : before.filter WanInfo.isPrimary = [] :=
        List.filter_eq_nil_iff.2 (fun wan hwan => by simp [h wan (hrest wan (Or.inl hwan))])
      have hafter : after.filter WanInfo.isPrimary = [] :=
        List.filter_eq_nil_iff.2 (fun wan hwan => by simp [h wan (hrest wan (Or.inr hwan))])
      rw [hmarked, List.filter_append, hbefore, List.nil_append, List.filter_cons, hafter]
      split <;> simp
    · exact ⟨fun _ => ⟨_, hmem, heligible⟩, fun _ => ⟨_, hmem, rfl⟩⟩
    · intro wan hwan hprimary
      rw [hisPrimary wan hwan hprimary]
      refine ⟨heligible, ?_⟩
      intro other hother hotherEligible
      rcases hcases other hother with rfl | hotherMem
      · exact le_rfl
      · exact hleast other (hrest other hotherMem) hotherEligible
    · intro wan hwan hprimary other hother hne
      apply Bool.eq_false_of_not_eq_true
      intro hotherPrimary
      exact hne ((hisPrimary other hother hotherPrimary).trans
        (hisPrimary wan hwan hprimary).symm)

theorem displayKey_primary_lt {primary other : WanInfo} (hprimary : primary.isPrimary = true)
    (hother : other.isPrimary = false) : primary.displayKey < other.displayKey := by
  rw [WanInfo.displayKey, WanInfo.displayKey, Prod.Lex.toLex_lt_toLex]
  left
  simp only [hprimary, hother, if_true]
  split
  · rename_i h
    cases h
  · split <;> decide

/-! ## What is resolved -/

/-- The default routes that leave through an interface. -/
def routesThrough (routes ipv6Routes : List RouteEntry) (name : String) : List RouteEntry :=
  (allDefaultRoutes routes ipv6Routes).filter (fun route => routeIfaceName route == name)

/-- Whether the interface of a name is running. -/
def interfaceRunning (interfaces : List InterfaceEntry) (name : String) : Bool :=
  (interfaces.find? (fun interface => interface.name == name)).any InterfaceEntry.running

/-- What the entries say: one for each interface with a default route, with the least cost
and the state of its routes, and the preferred uplink as the primary one. -/
structure WanResolution (interfaces : List InterfaceEntry) (routes ipv6Routes : List RouteEntry)
    (wans : List WanInfo) : Prop where
  unique : ∀ name, name ≠ "" → (wanNames wans).count name ≤ 1
  listed : ∀ route ∈ allDefaultRoutes routes ipv6Routes, routeIfaceName route ≠ "" →
    routeIfaceName route ∈ wanNames wans
  least : ∀ wan ∈ wans, wan.interfaceName ≠ "" →
    IsLeast {cost | ∃ route ∈ routesThrough routes ipv6Routes wan.interfaceName,
      routeCost route = cost} wan.cost
  online : ∀ wan ∈ wans, wan.interfaceName ≠ "" → (wan.online = true ↔
    interfaceRunning interfaces wan.interfaceName = true ∧
      ∃ route ∈ routesThrough routes ipv6Routes wan.interfaceName, routeIsReachable route = true)
  primaryUnique : (wans.filter WanInfo.isPrimary).length ≤ 1
  primaryExists : (∃ wan ∈ wans, wan.isPrimary = true) ↔ ∃ wan ∈ wans, wan.eligible = true
  primaryLeast : ∀ wan ∈ wans, wan.isPrimary = true → wan.eligible = true ∧
    ∀ other ∈ wans, other.eligible = true → wan.preference ≤ other.preference
  primaryFirst : ∀ wan ∈ wans, wan.isPrimary = true → wans.head? = some wan

theorem mem_routesThrough {routes ipv6Routes : List RouteEntry} {name : String}
    {route : RouteEntry} :
    route ∈ routesThrough routes ipv6Routes name ↔
      route ∈ allDefaultRoutes routes ipv6Routes ∧ routeIfaceName route = name := by
  rw [routesThrough, List.mem_filter, beq_iff_eq]

theorem Resolved.isLeast {tables : WanTables} {routes ipv6Routes : List RouteEntry}
    {wan : WanInfo} (h : Resolved tables (allDefaultRoutes routes ipv6Routes) wan) :
    IsLeast {cost | ∃ route ∈ routesThrough routes ipv6Routes wan.interfaceName,
      routeCost route = cost} wan.cost := by
  constructor
  · obtain ⟨route, hroute, hname, hcost⟩ := h.attained
    exact ⟨route, mem_routesThrough.2 ⟨hroute, hname⟩, hcost⟩
  · rintro cost ⟨route, hroute, rfl⟩
    obtain ⟨hmem, hname⟩ := mem_routesThrough.1 hroute
    exact h.least route hmem hname

theorem Resolved.online_iff {tables : WanTables} {routes ipv6Routes : List RouteEntry}
    {wan : WanInfo} (h : Resolved tables (allDefaultRoutes routes ipv6Routes) wan) :
    wan.online = true ↔ interfaceRunning tables.interfaces wan.interfaceName = true ∧
      ∃ route ∈ routesThrough routes ipv6Routes wan.interfaceName,
        routeIsReachable route = true := by
  rw [h.online]
  refine and_congr Iff.rfl ?_
  simp only [mem_routesThrough, and_assoc]

/-- The marked and sorted entries say what the collected ones say. -/
theorem resolution_of_tables (tables : WanTables) (routes ipv6Routes : List RouteEntry) :
    WanResolution tables.interfaces routes ipv6Routes
      (sortByKey WanInfo.displayKey (markPrimary (collectWans tables routes ipv6Routes))) := by
  obtain ⟨hunique, hlisted, hentry, hsecondary⟩ := collectWans_resolves tables routes ipv6Routes
  have hmarks := markPrimary_marks hsecondary
  have hperm := sortByKey_perm WanInfo.displayKey
    (markPrimary (collectWans tables routes ipv6Routes))
  have hnames := hperm.map WanInfo.interfaceName
  have hresolved : ∀ wan ∈ sortByKey WanInfo.displayKey
      (markPrimary (collectWans tables routes ipv6Routes)), wan.interfaceName ≠ "" →
        Resolved tables (allDefaultRoutes routes ipv6Routes) wan := by
    intro wan hwan hnamed
    obtain ⟨original, horiginal, rfl | rfl⟩ := hmarks.entry wan (mem_sortByKey.1 hwan)
    · exact hentry wan horiginal hnamed
    · have h := hentry original horiginal hnamed
      exact ⟨h.iface, h.attained, h.least, h.online⟩
  refine ⟨?_, ?_, ?_, ?_, ?_, ?_, ?_, ?_⟩
  · intro name hnamed
    rw [wanNames, hnames.count_eq, ← wanNames, hmarks.names]
    exact hunique name hnamed
  · intro route hroute hnamed
    rw [wanNames, hnames.mem_iff, ← wanNames, hmarks.names]
    exact hlisted route hroute hnamed
  · exact fun wan hwan hnamed => (hresolved wan hwan hnamed).isLeast
  · exact fun wan hwan hnamed => (hresolved wan hwan hnamed).online_iff
  · rw [(hperm.filter _).length_eq]
    exact hmarks.unique
  · simpa only [mem_sortByKey] using hmarks.exists_iff
  · simpa only [mem_sortByKey] using hmarks.least
  · intro wan hwan hprimary
    rw [mem_sortByKey] at hwan
    refine sortByKey_head hwan ?_
    intro other hother hne
    exact displayKey_primary_lt hprimary (hmarks.only wan hwan hprimary other hother hne)

/-! ## The order of the routes -/

/-- The entry without its IPv6 gateway. -/
def WanInfo.forgetGateway (wan : WanInfo) : WanInfo := { wan with ipv6Gateway := none }

/-- The part of an entry that does not depend on the order of the routes: its name, cost,
state and whether it is primary. -/
structure WanView where
  name : String
  cost : Nat ×ₗ Nat
  online : Bool
  primary : Bool

/-- That part of an entry. -/
def WanInfo.view (wan : WanInfo) : WanView :=
  ⟨wan.interfaceName, wan.cost, wan.online, wan.isPrimary⟩

/-- The same pass, up to IPv6 gateways. -/
def SamePass (first second : WanPass) : Prop :=
  first.seen = second.seen ∧
    first.wans.map WanInfo.forgetGateway = second.wans.map WanInfo.forgetGateway

theorem SamePass.push {first second : WanPass} (h : SamePass first second) (key : String)
    {wan wan' : WanInfo} (hwan : wan.forgetGateway = wan'.forgetGateway) :
    SamePass (first.push key wan) (second.push key wan') := by
  rw [WanPass.push, WanPass.push, ← h.1]
  split
  · exact h
  · refine ⟨by rw [h.1], ?_⟩
    rw [List.map_append, List.map_append, h.2, List.map_singleton, List.map_singleton, hwan]

theorem map_updateFirst {α : Type} {p : α → Bool} {f g : α → α} (hp : ∀ a, p (g a) = p a)
    (hf : ∀ a, f (g a) = g (f a)) (l : List α) :
    (updateFirst p f l).map (List.map g) = updateFirst p f (l.map g) := by
  induction l with
  | nil => rfl
  | cons a l ih =>
      rw [updateFirst, List.map_cons, updateFirst, hp, ← ih]
      split
      · rw [hf]
        rfl
      · cases updateFirst p f l <;> rfl

theorem mergeRoute_forgetGateway (route : RouteEntry) (wan : WanInfo) :
    wan.forgetGateway.mergeRoute route = (wan.mergeRoute route).forgetGateway := by
  rw [WanInfo.mergeRoute, WanInfo.mergeRoute]
  by_cases h : routeSortKey route < wan.existingRank
  · rw [if_pos h, if_pos (show routeSortKey route < wan.forgetGateway.existingRank from h)]
    rfl
  · rw [if_neg h, if_neg (show ¬ routeSortKey route < wan.forgetGateway.existingRank from h)]
    rfl

theorem SamePass.ipv4 {first second : WanPass} (h : SamePass first second) (tables : WanTables)
    (gateway : String → Option String) (route : RouteEntry) :
    SamePass (first.ipv4 tables route)
      (second.ipv4 { tables with ipv6Gateway := gateway } route) :=
  h.push _ rfl

theorem SamePass.ipv6 {first second : WanPass} (h : SamePass first second) (tables : WanTables)
    (gateway : String → Option String) (route : RouteEntry) :
    SamePass (first.ipv6 tables route)
      (second.ipv6 { tables with ipv6Gateway := gateway } route) := by
  have hupdate : ∀ wans : List WanInfo,
      (updateFirst (fun wan => wan.interfaceName == resolveIpv6RouteIface route)
          (WanInfo.mergeRoute route) wans).map (List.map WanInfo.forgetGateway) =
        updateFirst (fun wan => wan.interfaceName == resolveIpv6RouteIface route)
          (WanInfo.mergeRoute route) (wans.map WanInfo.forgetGateway) :=
    map_updateFirst (fun _ => rfl) (mergeRoute_forgetGateway route)
  have hsame := (hupdate first.wans).trans ((congrArg _ h.2).trans (hupdate second.wans).symm)
  rw [WanPass.ipv6, WanPass.ipv6]
  cases hfirst : updateFirst (fun wan => wan.interfaceName == resolveIpv6RouteIface route)
      (WanInfo.mergeRoute route) first.wans with
  | none =>
      rw [hfirst] at hsame
      rw [Option.map_eq_none_iff.1 hsame.symm]
      exact h.push _ rfl
  | some wans =>
      rw [hfirst] at hsame
      obtain ⟨wans', hsecond, hwans⟩ := Option.map_eq_some_iff.1 hsame.symm
      rw [hsecond]
      exact ⟨h.1, hwans.symm⟩

theorem SamePass.foldl {step step' : WanPass → RouteEntry → WanPass}
    (hstep : ∀ {first second}, SamePass first second → ∀ route,
      SamePass (step first route) (step' second route))
    (routes : List RouteEntry) {first second : WanPass} (h : SamePass first second) :
    SamePass (routes.foldl step first) (routes.foldl step' second) := by
  induction routes generalizing first second with
  | nil => exact h
  | cons route routes ih => exact ih (hstep h route)

/-- Where the gateways come from shows in the gateways only. -/
theorem collectWans_gateway (tables : WanTables) (gateway : String → Option String)
    (routes ipv6Routes : List RouteEntry) :
    (collectWans tables routes ipv6Routes).map WanInfo.forgetGateway =
      (collectWans { tables with ipv6Gateway := gateway } routes ipv6Routes).map
        WanInfo.forgetGateway := by
  have hipv4 := SamePass.foldl (fun h route => h.ipv4 tables gateway route)
    (sortByKey routeSortKey (defaultRoutes ipv4Default routes))
    (show SamePass WanPass.start WanPass.start from ⟨rfl, rfl⟩)
  exact (SamePass.foldl (fun h route => h.ipv6 tables gateway route)
    (sortByKey routeSortKey (defaultRoutes ipv6Default ipv6Routes)) hipv4).2

theorem modify_map {α : Type} {f g : α → α} (h : ∀ a, f (g a) = g (f a)) (index : Nat)
    (l : List α) : (l.modify index f).map g = (l.map g).modify index f := by
  induction l generalizing index with
  | nil => cases index <;> rfl
  | cons a l ih =>
      cases index with
      | zero => simp [h]
      | succ index => simp [ih]

theorem markPrimary_forgetGateway (wans : List WanInfo) :
    (markPrimary wans).map WanInfo.forgetGateway =
      markPrimary (wans.map WanInfo.forgetGateway) := by
  have hcandidates : (wans.map WanInfo.forgetGateway).zipIdx.filter
        (fun indexed => indexed.1.eligible) =
      (wans.zipIdx.filter (fun indexed => indexed.1.eligible)).map
        (Prod.map WanInfo.forgetGateway id) := by
    rw [List.zipIdx_map, List.filter_map]
    rfl
  have hmin : ∀ candidates : List (WanInfo × Nat),
      (minByKey (fun indexed => indexed.1.preference) candidates).map
          (Prod.map WanInfo.forgetGateway id) =
        minByKey (fun indexed => indexed.1.preference)
          (candidates.map (Prod.map WanInfo.forgetGateway id)) :=
    map_minByKey (Prod.map WanInfo.forgetGateway id) (fun _ => rfl)
  rw [markPrimary, markPrimary, hcandidates, ← hmin]
  cases minByKey (fun indexed => indexed.1.preference)
      (wans.zipIdx.filter (fun indexed => indexed.1.eligible)) with
  | none => rfl
  | some indexed =>
      obtain ⟨_, primaryIndex⟩ := indexed
      exact modify_map (f := WanInfo.asPrimary) (g := WanInfo.forgetGateway) (fun _ => rfl)
        primaryIndex wans

/-- Sorted default routes do not depend on the order in which they were read. -/
theorem sorted_default_of_perm (destination : String) {routes routes' : List RouteEntry}
    (hids : (routes.map RouteEntry.id).Nodup) (h : routes.Perm routes') :
    sortByKey routeSortKey (defaultRoutes destination routes) =
      sortByKey routeSortKey (defaultRoutes destination routes') := by
  refine sortByKey_eq_of_perm (h.filter _) ?_
  intro a ha b hb hkey
  refine List.inj_on_of_nodup_map hids (List.mem_of_mem_filter ha) (List.mem_of_mem_filter hb) ?_
  simp only [routeSortKey, EmbeddingLike.apply_eq_iff_eq, Prod.mk.injEq] at hkey
  exact hkey.2.2

theorem collectWans_of_perm (tables : WanTables) {routes routes' ipv6Routes ipv6Routes' :
    List RouteEntry} (hids : (routes.map RouteEntry.id).Nodup)
    (hipv6Ids : (ipv6Routes.map RouteEntry.id).Nodup) (h : routes.Perm routes')
    (hipv6 : ipv6Routes.Perm ipv6Routes') :
    collectWans tables routes ipv6Routes = collectWans tables routes' ipv6Routes' := by
  rw [collectWans, collectWans, sorted_default_of_perm ipv4Default hids h,
    sorted_default_of_perm ipv6Default hipv6Ids hipv6]

/-- The views of the entries follow from the collected entries without their gateways. -/
theorem view_of_collected (wans : List WanInfo) :
    (sortByKey WanInfo.displayKey (markPrimary wans)).map WanInfo.view =
      (sortByKey WanInfo.displayKey (markPrimary (wans.map WanInfo.forgetGateway))).map
        WanInfo.view := by
  have hkey : ∀ wan : WanInfo, wan.forgetGateway.displayKey = wan.displayKey := fun _ => rfl
  have hforget : (sortByKey WanInfo.displayKey (markPrimary wans)).map WanInfo.forgetGateway =
      sortByKey WanInfo.displayKey (markPrimary (wans.map WanInfo.forgetGateway)) := by
    rw [map_sortByKey WanInfo.forgetGateway hkey, markPrimary_forgetGateway]
  rw [← hforget, List.map_map]
  rfl

/-- The order of the routes does not show in names, costs, states, the primary uplink or
the order of the entries. -/
theorem resolveAllWans_view_of_perm (lower : String → String) (ips : List IpAddrEntry)
    (interfaces : List InterfaceEntry) (ipv6Ips : List IpAddrEntry)
    {routes routes' ipv6Routes ipv6Routes' : List RouteEntry}
    (hids : (routes.map RouteEntry.id).Nodup) (hipv6Ids : (ipv6Routes.map RouteEntry.id).Nodup)
    (h : routes.Perm routes') (hipv6 : ipv6Routes.Perm ipv6Routes') :
    (resolveAllWans lower ips interfaces routes ipv6Ips ipv6Routes).map WanInfo.view =
      (resolveAllWans lower ips interfaces routes' ipv6Ips ipv6Routes').map WanInfo.view := by
  have hgateway := collectWans_gateway (wanTables lower ips interfaces ipv6Ips ipv6Routes)
    (wanTables lower ips interfaces ipv6Ips ipv6Routes').ipv6Gateway routes ipv6Routes
  rw [resolveAllWans, resolveAllWans, view_of_collected, hgateway,
    collectWans_of_perm _ hids hipv6Ids h hipv6, ← view_of_collected]
  rfl

/-- The resolution of uplinks. -/
theorem wan_resolution (lower : String → String) (ips : List IpAddrEntry)
    (interfaces : List InterfaceEntry) (routes : List RouteEntry) (ipv6Ips : List IpAddrEntry)
    (ipv6Routes : List RouteEntry) (hids : (routes.map RouteEntry.id).Nodup)
    (hipv6Ids : (ipv6Routes.map RouteEntry.id).Nodup) :
    WanResolution interfaces routes ipv6Routes
        (resolveAllWans lower ips interfaces routes ipv6Ips ipv6Routes) ∧
      ∀ routes' ipv6Routes', routes.Perm routes' → ipv6Routes.Perm ipv6Routes' →
        (resolveAllWans lower ips interfaces routes' ipv6Ips ipv6Routes').map WanInfo.view =
          (resolveAllWans lower ips interfaces routes ipv6Ips ipv6Routes).map WanInfo.view :=
  ⟨resolution_of_tables (wanTables lower ips interfaces ipv6Ips ipv6Routes) routes ipv6Routes, fun _ _ h hipv6 =>
    (resolveAllWans_view_of_perm lower ips interfaces ipv6Ips hids hipv6Ids h hipv6).symm⟩

/-- A default route. -/
def defaultRouteOf (destination id gateway interface : String) (distance : UInt32) : RouteEntry where
  id := id
  dstAddress := destination
  gateway := gateway
  gatewayStatus := "reachable"
  interface := interface
  active := true
  disabled := false
  distance := distance

/-- Two uplinks over IPv4, the first a dial-in link. -/
def uplinkRoutes : List RouteEntry :=
  [defaultRouteOf ipv4Default "*1" "pppoe-out1" "" 2,
    defaultRouteOf ipv4Default "*2" "192.0.2.1" "ether1" 1]

/-- The dial-in link over IPv6. -/
def uplinkIpv6Routes : List RouteEntry := [defaultRouteOf ipv6Default "*1" "pppoe-out1" "" 1]

/-- The interfaces of both uplinks. -/
def uplinkInterfaces : List InterfaceEntry :=
  ["ether1", "pppoe-out1"].map (fun name =>
    { id := name
      name := name
      macAddress := ""
      rxByte := none
      txByte := none
      ifaceType := "ether"
      running := true
      defaultName := name })

/-- The dial-in link takes the distance of its IPv6 route, and the name decides. -/
theorem wan_resolution_dual_stack :
    WanResolution uplinkInterfaces uplinkRoutes uplinkIpv6Routes
        (resolveAllWans toAsciiLowercase [] uplinkInterfaces uplinkRoutes [] uplinkIpv6Routes) ∧
      ∀ routes' ipv6Routes', uplinkRoutes.Perm routes' → uplinkIpv6Routes.Perm ipv6Routes' →
        (resolveAllWans toAsciiLowercase [] uplinkInterfaces routes' [] ipv6Routes').map
            WanInfo.view =
          (resolveAllWans toAsciiLowercase [] uplinkInterfaces uplinkRoutes []
            uplinkIpv6Routes).map WanInfo.view :=
  wan_resolution toAsciiLowercase [] uplinkInterfaces uplinkRoutes [] uplinkIpv6Routes
    (by decide) (by decide)

example :
    (resolveAllWans toAsciiLowercase [] uplinkInterfaces uplinkRoutes [] uplinkIpv6Routes).map
        (fun wan => (wan.interfaceName, wan.distance, wan.isPrimary)) =
      [("ether1", 1, true), ("pppoe-out1", 1, false)] := by
  decide +kernel

end RouterView.Transform
