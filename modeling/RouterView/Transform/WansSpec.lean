/-
  Transform/WansSpec.lean --- what an entry says about the routes of its interface.

  The cost of a route is its rank with its distance.  Along both loops the entry of a
  named interface has the least cost among the routes looked at so far; the loop over the
  IPv4 routes relies on their order for that, the loop over the IPv6 routes does not.
-/
import RouterView.Transform.Wans
import Mathlib.Order.Bounds.Basic

set_option autoImplicit false

namespace RouterView.Transform

open RouterView.Foundation

/-! ## Costs -/

/-- The rank and the distance of a route. -/
def routeCost (route : RouteEntry) : Nat ×ₗ Nat :=
  toLex (routeStateRank route.active (routeIsReachable route), route.distance.toNat)

/-- The rank and the distance of an entry. -/
def WanInfo.cost (wan : WanInfo) : Nat ×ₗ Nat :=
  toLex (routeStateRank wan.routeActive wan.routeReachable, wan.distance.toNat)

theorem not_lt_emptyString (text : String) : ¬ text < "" := by
  rw [String.lt_iff_toList_lt]
  exact List.not_lt_nil _

/-- An identifier is never less than the empty one, so equal costs do not replace. -/
theorem routeSortKey_lt_existingRank {route : RouteEntry} {wan : WanInfo} :
    routeSortKey route < wan.existingRank ↔ routeCost route < wan.cost := by
  simp only [routeSortKey, WanInfo.existingRank, routeCost, WanInfo.cost,
    Prod.Lex.toLex_lt_toLex, not_lt_emptyString, and_false, or_false]

theorem routeCost_le_of_sortKey_le {first second : RouteEntry}
    (h : routeSortKey first ≤ routeSortKey second) : routeCost first ≤ routeCost second := by
  simp only [routeSortKey, routeCost, Prod.Lex.toLex_le_toLex] at h ⊢
  rcases h with h | ⟨hrank, h | h⟩
  · exact Or.inl h
  · exact Or.inr ⟨hrank, le_of_lt h⟩
  · exact Or.inr ⟨hrank, le_of_eq h.1⟩

theorem routeStateRank_lt_two_iff {active reachable : Bool} :
    routeStateRank active reachable < 2 ↔ reachable = true := by
  cases active <;> cases reachable <;> simp [routeStateRank]

/-- A route that costs no more than a reachable one is reachable. -/
theorem reachable_of_cost_le {first second : RouteEntry} (h : routeCost first ≤ routeCost second)
    (hsecond : routeIsReachable second = true) : routeIsReachable first = true := by
  have hrank : routeStateRank second.active (routeIsReachable second) < 2 :=
    routeStateRank_lt_two_iff.2 hsecond
  rw [routeCost, routeCost, Prod.Lex.toLex_le_toLex] at h
  have hfirst : routeStateRank first.active (routeIsReachable first) < 2 := by
    rcases h with h | h
    · exact lt_trans h hrank
    · exact lt_of_eq_of_lt h.1 hrank
  exact routeStateRank_lt_two_iff.1 hfirst

/-! ## Keys of `seen` -/

theorem wanKey_named {name : String} (h : name ≠ "") (gateway : String) :
    wanKey name gateway = "interface:" ++ name := by
  rw [wanKey, if_neg]
  simpa using h

theorem wanKey_unnamed (gateway : String) : wanKey "" gateway = "gateway:" ++ gateway := rfl

theorem interfaceKey_inj {name name' : String} :
    "interface:" ++ name = "interface:" ++ name' ↔ name = name' := by
  refine ⟨fun h => ?_, fun h => by rw [h]⟩
  have hchars := congrArg String.toList h
  rw [String.toList_append, String.toList_append] at hchars
  exact String.toList_injective (List.append_cancel_left hchars)

theorem interfaceKey_ne_gatewayKey (name gateway : String) :
    "interface:" ++ name ≠ "gateway:" ++ gateway := by
  intro h
  have hchars := congrArg String.toList h
  rw [String.toList_append, String.toList_append] at hchars
  exact absurd (congrArg List.head? hchars) (by simp)

/-! ## One interface -/

/-- What an entry says about the routes of its interface. -/
structure Resolved (tables : WanTables) (routes : List RouteEntry) (wan : WanInfo) : Prop where
  iface : wan.iface = tables.iface wan.interfaceName
  attained : ∃ route ∈ routes, routeIfaceName route = wan.interfaceName ∧
    routeCost route = wan.cost
  least : ∀ route ∈ routes, routeIfaceName route = wan.interfaceName → wan.cost ≤ routeCost route
  online : wan.online = true ↔ tables.running wan.interfaceName = true ∧
    ∃ route ∈ routes, routeIfaceName route = wan.interfaceName ∧ routeIsReachable route = true

/-- The entry made from one route. -/
structure MadeFrom (tables : WanTables) (route : RouteEntry) (wan : WanInfo) : Prop where
  name : wan.interfaceName = routeIfaceName route
  iface : wan.iface = tables.iface wan.interfaceName
  cost : wan.cost = routeCost route
  online : wan.online = (routeIsReachable route && tables.running wan.interfaceName)
  secondary : wan.isPrimary = false

theorem ipv4Wan_madeFrom (tables : WanTables) (route : RouteEntry) :
    MadeFrom tables route (ipv4Wan tables route) := ⟨rfl, rfl, rfl, rfl, rfl⟩

theorem ipv6Wan_madeFrom (tables : WanTables) (route : RouteEntry) :
    MadeFrom tables route (ipv6Wan tables route) := ⟨rfl, rfl, rfl, rfl, rfl⟩

variable {tables : WanTables} {routes : List RouteEntry} {route : RouteEntry} {wan : WanInfo}

/-- A route of another interface. -/
theorem Resolved.other (h : Resolved tables routes wan)
    (hname : routeIfaceName route ≠ wan.interfaceName) :
    Resolved tables (routes ++ [route]) wan := by
  have hsame : ∀ p : RouteEntry → Prop,
      (∃ r ∈ routes ++ [route], routeIfaceName r = wan.interfaceName ∧ p r) ↔
        ∃ r ∈ routes, routeIfaceName r = wan.interfaceName ∧ p r := by
    intro p
    constructor
    · rintro ⟨r, hr, heq, hp⟩
      rcases List.mem_append.1 hr with hr | hr
      · exact ⟨r, hr, heq, hp⟩
      · exact absurd (List.mem_singleton.1 hr ▸ heq) hname
    · rintro ⟨r, hr, h⟩
      exact ⟨r, List.mem_append_left _ hr, h⟩
  refine ⟨h.iface, (hsame _).2 h.attained, ?_, ?_⟩
  · intro r hr heq
    rcases List.mem_append.1 hr with hr | hr
    · exact h.least r hr heq
    · exact absurd (List.mem_singleton.1 hr ▸ heq) hname
  · rw [h.online, hsame]

/-- The first route of an interface. -/
theorem MadeFrom.resolved (h : MadeFrom tables route wan)
    (hfirst : ∀ r ∈ routes, routeIfaceName r ≠ wan.interfaceName) :
    Resolved tables (routes ++ [route]) wan := by
  have honly : ∀ r ∈ routes ++ [route], routeIfaceName r = wan.interfaceName → r = route := by
    intro r hr heq
    rcases List.mem_append.1 hr with hr | hr
    · exact absurd heq (hfirst r hr)
    · exact List.mem_singleton.1 hr
  have hmem : route ∈ routes ++ [route] := List.mem_append_right _ (List.mem_singleton_self _)
  refine ⟨h.iface, ⟨route, hmem, h.name.symm, h.cost.symm⟩, ?_, ?_⟩
  · intro r hr heq
    rw [honly r hr heq, h.cost]
  · rw [h.online, Bool.and_eq_true]
    constructor
    · rintro ⟨hreachable, hrunning⟩
      exact ⟨hrunning, route, hmem, h.name.symm, hreachable⟩
    · rintro ⟨hrunning, r, hr, heq, hreachable⟩
      exact ⟨honly r hr heq ▸ hreachable, hrunning⟩

/-- A further route that costs no less than the entry says nothing new. -/
theorem Resolved.skip (h : Resolved tables routes wan) (hcost : wan.cost ≤ routeCost route) :
    Resolved tables (routes ++ [route]) wan := by
  obtain ⟨best, hbest, hname, hbestCost⟩ := h.attained
  refine ⟨h.iface, ⟨best, List.mem_append_left _ hbest, hname, hbestCost⟩, ?_, ?_⟩
  · intro r hr heq
    rcases List.mem_append.1 hr with hr | hr
    · exact h.least r hr heq
    · exact List.mem_singleton.1 hr ▸ hcost
  · rw [h.online]
    refine and_congr_right (fun _ => ⟨?_, ?_⟩)
    · rintro ⟨r, hr, h⟩
      exact ⟨r, List.mem_append_left _ hr, h⟩
    · rintro ⟨r, hr, heq, hreachable⟩
      rcases List.mem_append.1 hr with hr | hr
      · exact ⟨r, hr, heq, hreachable⟩
      · rw [List.mem_singleton.1 hr] at hreachable
        exact ⟨best, hbest, hname, reachable_of_cost_le (hbestCost ▸ hcost) hreachable⟩

@[simp] theorem mergeRoute_interfaceName (route : RouteEntry) (wan : WanInfo) :
    (wan.mergeRoute route).interfaceName = wan.interfaceName := by
  rw [WanInfo.mergeRoute]
  split <;> rfl

@[simp] theorem mergeRoute_iface (route : RouteEntry) (wan : WanInfo) :
    (wan.mergeRoute route).iface = wan.iface := by
  rw [WanInfo.mergeRoute]
  split <;> rfl

@[simp] theorem mergeRoute_isPrimary (route : RouteEntry) (wan : WanInfo) :
    (wan.mergeRoute route).isPrimary = wan.isPrimary := by
  rw [WanInfo.mergeRoute]
  split <;> rfl

@[simp] theorem mergeRoute_online (route : RouteEntry) (wan : WanInfo) :
    (wan.mergeRoute route).online =
      (wan.online || (routeIsReachable route && wan.iface.any InterfaceEntry.running)) := rfl

theorem mergeRoute_cost (route : RouteEntry) (wan : WanInfo) :
    (wan.mergeRoute route).cost = if routeCost route < wan.cost then routeCost route else wan.cost := by
  rw [WanInfo.mergeRoute]
  by_cases h : routeCost route < wan.cost
  · rw [if_pos h, if_pos (routeSortKey_lt_existingRank.2 h)]
    rfl
  · rw [if_neg h, if_neg (fun hlt => h (routeSortKey_lt_existingRank.1 hlt))]
    rfl

/-- A further route of the interface is taken into the entry. -/
theorem Resolved.merge (h : Resolved tables routes wan)
    (hname : routeIfaceName route = wan.interfaceName) :
    Resolved tables (routes ++ [route]) (wan.mergeRoute route) := by
  obtain ⟨best, hbest, hbestName, hbestCost⟩ := h.attained
  have hlast : route ∈ routes ++ [route] := List.mem_append_right _ (List.mem_singleton_self _)
  have hrunning : wan.iface.any InterfaceEntry.running = tables.running wan.interfaceName := by
    rw [h.iface, WanTables.running]
  refine ⟨?_, ?_, ?_, ?_⟩
  · rw [mergeRoute_iface, mergeRoute_interfaceName, h.iface]
  · rw [mergeRoute_interfaceName, mergeRoute_cost]
    split
    · exact ⟨route, hlast, hname, rfl⟩
    · exact ⟨best, List.mem_append_left _ hbest, hbestName, hbestCost⟩
  · intro r hr heq
    rw [mergeRoute_interfaceName] at heq
    rw [mergeRoute_cost]
    split
    · rename_i hlt
      rcases List.mem_append.1 hr with hr | hr
      · exact le_of_lt (lt_of_lt_of_le hlt (h.least r hr heq))
      · rw [List.mem_singleton.1 hr]
    · rename_i hnot
      rcases List.mem_append.1 hr with hr | hr
      · exact h.least r hr heq
      · rw [List.mem_singleton.1 hr]
        exact le_of_not_gt hnot
  · rw [mergeRoute_online, mergeRoute_interfaceName, hrunning, Bool.or_eq_true, Bool.and_eq_true,
      h.online]
    constructor
    · rintro (⟨hrun, r, hr, h⟩ | ⟨hreachable, hrun⟩)
      · exact ⟨hrun, r, List.mem_append_left _ hr, h⟩
      · exact ⟨hrun, route, hlast, hname, hreachable⟩
    · rintro ⟨hrun, r, hr, heq, hreachable⟩
      rcases List.mem_append.1 hr with hr | hr
      · exact Or.inl ⟨hrun, r, hr, heq, hreachable⟩
      · exact Or.inr ⟨List.mem_singleton.1 hr ▸ hreachable, hrun⟩

/-! ## Both loops -/

/-- The names of the entries. -/
def wanNames (wans : List WanInfo) : List String := wans.map WanInfo.interfaceName

/-- What the entries say about the routes looked at so far: an interface with a name has
one entry, which is the one that `seen` knows, and it says what it should. -/
structure Resolves (tables : WanTables) (routes : List RouteEntry) (pass : WanPass) : Prop where
  distinct : ∀ name, name ≠ "" → (wanNames pass.wans).count name ≤ 1
  seen : ∀ name, name ≠ "" → ("interface:" ++ name ∈ pass.seen ↔ name ∈ wanNames pass.wans)
  complete : ∀ route ∈ routes, routeIfaceName route ≠ "" →
    routeIfaceName route ∈ wanNames pass.wans
  entry : ∀ wan ∈ pass.wans, wan.interfaceName ≠ "" → Resolved tables routes wan
  secondary : ∀ wan ∈ pass.wans, wan.isPrimary = false

theorem Resolves.start (tables : WanTables) : Resolves tables [] WanPass.start where
  distinct := by simp [wanNames, WanPass.start]
  seen := by simp [wanNames, WanPass.start]
  complete := by simp
  entry := by simp [WanPass.start]
  secondary := by simp [WanPass.start]

variable {pass : WanPass}

theorem Resolves.complete_snoc (h : Resolves tables routes pass) {wans : List WanInfo}
    (hkept : ∀ name ∈ wanNames pass.wans, name ∈ wanNames wans)
    (hname : routeIfaceName route ≠ "" → routeIfaceName route ∈ wanNames wans) :
    ∀ r ∈ routes ++ [route], routeIfaceName r ≠ "" → routeIfaceName r ∈ wanNames wans := by
  intro r hr hnamed
  rcases List.mem_append.1 hr with hr | hr
  · exact hkept _ (h.complete r hr hnamed)
  · rw [List.mem_singleton.1 hr] at hnamed ⊢
    exact hname hnamed

/-- An entry is added for an interface that has none, or for a gateway. -/
theorem Resolves.pushed (h : Resolves tables routes pass) (hmade : MadeFrom tables route wan)
    (habsent : routeIfaceName route ≠ "" → routeIfaceName route ∉ wanNames pass.wans) :
    Resolves tables (routes ++ [route])
      ⟨pass.seen.insert (wanKey (routeIfaceName route) route.gateway), pass.wans ++ [wan]⟩ := by
  have hnames : wanNames (pass.wans ++ [wan]) = wanNames pass.wans ++ [routeIfaceName route] := by
    rw [wanNames, List.map_append, List.map_singleton, hmade.name, wanNames]
  refine ⟨?_, ?_, ?_, ?_, ?_⟩
  · intro name hnamed
    rw [hnames, List.count_append, List.count_singleton]
    split
    · rename_i heq
      have hname : routeIfaceName route = name := by simpa using heq
      rw [List.count_eq_zero_of_not_mem (hname ▸ habsent (hname ▸ hnamed))]
    · exact h.distinct name hnamed
  · intro name hnamed
    rw [hnames, List.mem_insert_iff, List.mem_append, List.mem_singleton, h.seen name hnamed]
    by_cases hroute : routeIfaceName route = ""
    · rw [hroute, wanKey_unnamed]
      simp only [interfaceKey_ne_gatewayKey, false_or, hnamed, or_false]
    · rw [wanKey_named hroute, interfaceKey_inj]
      exact or_comm
  · refine h.complete_snoc ?_ ?_
    · intro name hname
      rw [hnames]
      exact List.mem_append_left _ hname
    · intro _
      rw [hnames]
      exact List.mem_append_right _ (List.mem_singleton_self _)
  · intro w hw hnamed
    rcases List.mem_append.1 hw with hw | hw
    · refine (h.entry w hw hnamed).other ?_
      intro heq
      exact habsent (heq ▸ hnamed) (heq ▸ List.mem_map_of_mem hw)
    · rw [List.mem_singleton.1 hw] at hnamed ⊢
      apply hmade.resolved
      intro r hr heq
      rw [hmade.name] at heq hnamed
      exact habsent hnamed (heq ▸ h.complete r hr (heq ▸ hnamed))
  · intro w hw
    rcases List.mem_append.1 hw with hw | hw
    · exact h.secondary w hw
    · exact List.mem_singleton.1 hw ▸ hmade.secondary

/-- A route that adds no entry, since its interface has one that costs no more. -/
theorem Resolves.kept (h : Resolves tables routes pass)
    (hcovered : routeIfaceName route ≠ "" → routeIfaceName route ∈ wanNames pass.wans)
    (hcost : ∀ w ∈ pass.wans, w.interfaceName ≠ "" → routeIfaceName route = w.interfaceName →
      w.cost ≤ routeCost route) :
    Resolves tables (routes ++ [route]) pass where
  distinct := h.distinct
  seen := h.seen
  complete := h.complete_snoc (fun _ hname => hname) hcovered
  entry := by
    intro w hw hnamed
    by_cases hname : routeIfaceName route = w.interfaceName
    · exact (h.entry w hw hnamed).skip (hcost w hw hnamed hname)
    · exact (h.entry w hw hnamed).other hname
  secondary := h.secondary

theorem contains_wanKey (h : Resolves tables routes pass) (hnamed : routeIfaceName route ≠ "") :
    pass.seen.contains (wanKey (routeIfaceName route) route.gateway) = true ↔
      routeIfaceName route ∈ wanNames pass.wans := by
  rw [List.contains_iff_mem, wanKey_named hnamed, h.seen _ hnamed]

/-- One round of the loop over the IPv4 routes. -/
theorem Resolves.ipv4 (h : Resolves tables routes pass)
    (hsorted : ∀ r ∈ routes, routeSortKey r ≤ routeSortKey route) :
    Resolves tables (routes ++ [route]) (pass.ipv4 tables route) := by
  rw [WanPass.ipv4, WanPass.push]
  split
  · rename_i hseen
    refine h.kept (fun hnamed => (contains_wanKey h hnamed).1 hseen) ?_
    -- the entry has the cost of an earlier route
    intro w hw hnamed _
    obtain ⟨best, hbest, -, hcost⟩ := (h.entry w hw hnamed).attained
    exact hcost ▸ routeCost_le_of_sortKey_le (hsorted best hbest)
  · rename_i hunseen
    exact h.pushed (ipv4Wan_madeFrom tables route)
      (fun hnamed hmem => hunseen ((contains_wanKey h hnamed).2 hmem))

/-! ## The entry that an IPv6 route changes -/

section

variable {α : Type} {p : α → Bool} {f : α → α}

/-- The first element with the property is changed, the others stay. -/
theorem updateFirst_some {l l' : List α} (h : updateFirst p f l = some l') :
    ∃ before a after, l = before ++ a :: after ∧ p a = true ∧ l' = before ++ f a :: after := by
  induction l generalizing l' with
  | nil => cases h
  | cons a l ih =>
      rw [updateFirst] at h
      split at h
      · rename_i hp
        exact ⟨[], a, l, rfl, hp, (Option.some.inj h).symm⟩
      · obtain ⟨rest, hrest, rfl⟩ := Option.map_eq_some_iff.1 h
        obtain ⟨before, b, after, rfl, hp, rfl⟩ := ih hrest
        exact ⟨a :: before, b, after, rfl, hp, rfl⟩

theorem updateFirst_none {l : List α} (h : updateFirst p f l = none) : ∀ a ∈ l, p a = false := by
  induction l with
  | nil => simp
  | cons a l ih =>
      rw [updateFirst] at h
      split at h
      · cases h
      · rename_i hp
        intro b hb
        rcases List.mem_cons.1 hb with rfl | hb
        · exact Bool.eq_false_of_not_eq_true hp
        · exact ih (Option.map_eq_none_iff.1 h) b hb

end

/-- A name that occurs once in a list occurs nowhere else in it. -/
theorem name_ne_of_count {before after : List WanInfo} {wan other : WanInfo}
    (h : (wanNames (before ++ wan :: after)).count wan.interfaceName ≤ 1)
    (hother : other ∈ before ∨ other ∈ after) : other.interfaceName ≠ wan.interfaceName := by
  intro heq
  have hpos : 0 < (wanNames before).count wan.interfaceName +
      (wanNames after).count wan.interfaceName := by
    rcases hother with hmem | hmem
    · exact Nat.add_pos_left (List.count_pos_iff.2 (heq ▸ List.mem_map_of_mem hmem)) _
    · exact Nat.add_pos_right _ (List.count_pos_iff.2 (heq ▸ List.mem_map_of_mem hmem))
  have hcount : (wanNames (before ++ wan :: after)).count wan.interfaceName =
      (wanNames before).count wan.interfaceName +
        ((wanNames after).count wan.interfaceName + 1) := by
    simp only [wanNames, List.map_append, List.map_cons, List.count_append, List.count_cons_self]
  omega

/-- One round of the loop over the IPv6 routes. -/
theorem Resolves.ipv6 (h : Resolves tables routes pass) :
    Resolves tables (routes ++ [route]) (pass.ipv6 tables route) := by
  rw [WanPass.ipv6]
  cases hupdate : updateFirst (fun wan => wan.interfaceName == resolveIpv6RouteIface route)
      (WanInfo.mergeRoute route) pass.wans with
  | none =>
      have habsent : routeIfaceName route ∉ wanNames pass.wans := by
        intro hmem
        obtain ⟨w, hw, hname⟩ := List.mem_map.1 hmem
        have hno := updateFirst_none hupdate w hw
        rw [resolveIpv6RouteIface, hname, beq_self_eq_true] at hno
        cases hno
      dsimp only
      rw [WanPass.push]
      split
      · rename_i hseen
        -- only the key of a gateway can be known without an entry
        refine h.kept (fun hnamed => (contains_wanKey h hnamed).1 hseen) ?_
        intro w hw _ hname
        exact absurd (List.mem_map_of_mem hw) (hname ▸ habsent)
      · exact h.pushed (ipv6Wan_madeFrom tables route) (fun _ => habsent)
  | some wans =>
      obtain ⟨before, changed, after, hwans, hp, rfl⟩ := updateFirst_some hupdate
      have hname : routeIfaceName route = changed.interfaceName := (beq_iff_eq.1 hp).symm
      have hnames : wanNames (before ++ changed.mergeRoute route :: after) =
          wanNames pass.wans := by
        simp only [hwans, wanNames, List.map_append, List.map_cons, mergeRoute_interfaceName]
      have hmem : ∀ w, w ∈ before ∨ w ∈ after → w ∈ pass.wans := by
        intro w hw
        rw [hwans, List.mem_append, List.mem_cons]
        exact hw.imp_right Or.inr
      have hchanged : changed ∈ pass.wans := by
        rw [hwans]
        exact List.mem_append_right _ List.mem_cons_self
      have hcases : ∀ w ∈ before ++ changed.mergeRoute route :: after,
          w = changed.mergeRoute route ∨ w ∈ before ∨ w ∈ after := by
        intro w hw
        rw [List.mem_append, List.mem_cons] at hw
        tauto
      refine ⟨?_, ?_, ?_, ?_, ?_⟩
      · intro name hnamed
        rw [hnames]
        exact h.distinct name hnamed
      · intro name hnamed
        rw [hnames]
        exact h.seen name hnamed
      · refine h.complete_snoc (fun name hmem => hnames ▸ hmem) ?_
        intro _
        rw [hnames, hname]
        exact List.mem_map_of_mem hchanged
      · intro w hw hnamed
        rcases hcases w hw with rfl | hw
        · rw [mergeRoute_interfaceName] at hnamed
          exact (h.entry changed hchanged hnamed).merge hname
        · by_cases hempty : changed.interfaceName = ""
          · refine (h.entry w (hmem w hw) hnamed).other ?_
            rw [hname, hempty]
            exact hnamed.symm
          · have hne := name_ne_of_count (hwans ▸ h.distinct _ hempty) hw
            refine (h.entry w (hmem w hw) hnamed).other ?_
            rw [hname]
            exact hne.symm
      · intro w hw
        rcases hcases w hw with rfl | hw
        · rw [mergeRoute_isPrimary]
          exact h.secondary changed hchanged
        · exact h.secondary w (hmem w hw)

/-! ## All routes -/

theorem Resolves.ipv4_all (sorted : List RouteEntry) (h : Resolves tables routes pass)
    (hsorted : (routes ++ sorted).Pairwise (fun a b => routeSortKey a ≤ routeSortKey b)) :
    Resolves tables (routes ++ sorted) (sorted.foldl (WanPass.ipv4 tables) pass) := by
  induction sorted generalizing routes pass with
  | nil => rwa [List.append_nil]
  | cons route sorted ih =>
      have hassoc : routes ++ route :: sorted = (routes ++ [route]) ++ sorted := by
        rw [List.append_assoc, List.singleton_append]
      rw [List.foldl_cons, hassoc]
      refine ih (h.ipv4 ?_) (hassoc ▸ hsorted)
      intro r hr
      exact (List.pairwise_append.1 hsorted).2.2 r hr route List.mem_cons_self

theorem Resolves.ipv6_all (sorted : List RouteEntry) (h : Resolves tables routes pass) :
    Resolves tables (routes ++ sorted) (sorted.foldl (WanPass.ipv6 tables) pass) := by
  induction sorted generalizing routes pass with
  | nil => rwa [List.append_nil]
  | cons route sorted ih =>
      have hassoc : routes ++ route :: sorted = (routes ++ [route]) ++ sorted := by
        rw [List.append_assoc, List.singleton_append]
      rw [List.foldl_cons, hassoc]
      exact ih h.ipv6

/-- The default routes of both families. -/
def allDefaultRoutes (routes ipv6Routes : List RouteEntry) : List RouteEntry :=
  defaultRoutes ipv4Default routes ++ defaultRoutes ipv6Default ipv6Routes

/-- The order of the routes does not matter for what an entry says. -/
theorem Resolved.congr {routes' : List RouteEntry} (h : Resolved tables routes wan)
    (hmem : ∀ r, r ∈ routes ↔ r ∈ routes') : Resolved tables routes' wan where
  iface := h.iface
  attained := by simpa only [hmem] using h.attained
  least := by simpa only [hmem] using h.least
  online := by simpa only [hmem] using h.online

theorem mem_sorted_default {routes ipv6Routes : List RouteEntry} {r : RouteEntry} :
    r ∈ sortByKey routeSortKey (defaultRoutes ipv4Default routes) ++
        sortByKey routeSortKey (defaultRoutes ipv6Default ipv6Routes) ↔
      r ∈ allDefaultRoutes routes ipv6Routes := by
  rw [List.mem_append, mem_sortByKey, mem_sortByKey, allDefaultRoutes, List.mem_append]

/-- The entries after both loops. -/
theorem collectWans_resolves (tables : WanTables) (routes ipv6Routes : List RouteEntry) :
    (∀ name, name ≠ "" → (wanNames (collectWans tables routes ipv6Routes)).count name ≤ 1) ∧
      (∀ route ∈ allDefaultRoutes routes ipv6Routes, routeIfaceName route ≠ "" →
        routeIfaceName route ∈ wanNames (collectWans tables routes ipv6Routes)) ∧
      (∀ wan ∈ collectWans tables routes ipv6Routes, wan.interfaceName ≠ "" →
        Resolved tables (allDefaultRoutes routes ipv6Routes) wan) ∧
      ∀ wan ∈ collectWans tables routes ipv6Routes, wan.isPrimary = false := by
  have hipv4 := (Resolves.start tables).ipv4_all _
    (sortByKey_pairwise routeSortKey (defaultRoutes ipv4Default routes))
  have h := hipv4.ipv6_all (sortByKey routeSortKey (defaultRoutes ipv6Default ipv6Routes))
  rw [List.nil_append] at h
  refine ⟨h.distinct, ?_, ?_, h.secondary⟩
  · intro route hroute
    exact h.complete route (mem_sorted_default.2 hroute)
  · intro wan hwan hnamed
    exact (h.entry wan hwan hnamed).congr (fun r => mem_sorted_default)

end RouterView.Transform
