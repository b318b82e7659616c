/-
  Ws/Fields.lean --- the fields that updates carry, one at a time.

  What a client holds of a snapshot when an update replaces whole fields.  A field is
  given by its value in a snapshot and in an update; what is proved of every such
  field holds of the client's view as a whole.
-/
import RouterView.Ws.Overrides
import RouterView.Foundation.Replay

set_option autoImplicit false

namespace RouterView.Ws

open RouterView.Foundation

/-! ## Views -/

/-- The fields of a snapshot that updates carry. -/
@[ext] structure DiffedFields where
  system : SystemInfo
  gateway : GatewayInfo
  interfaces : InterfaceSummary
  isp : IspInfo
  latencyProbes : List LatencyProbe
  wifi : WifiInfo
  stability : IspStability
  interfaceStatuses : List InterfaceStatus
  wans : List WanEntry
  wansIsp : List WanIspInfo

def DashboardSnapshot.diffed (d : DashboardSnapshot) : DiffedFields where
  system := d.system
  gateway := d.gateway
  interfaces := d.interfaces
  isp := d.isp
  latencyProbes := d.latencyProbes
  wifi := d.wifi
  stability := d.stability
  interfaceStatuses := d.interfaceStatuses
  wans := d.wans
  wansIsp := d.wansIsp

/-- The view after an update that replaces the fields it gives. -/
def DashboardUpdate.replaceIn (update : DashboardUpdate) (view : DiffedFields) :
    DiffedFields where
  system := update.system.getD view.system
  gateway := update.gateway.getD view.gateway
  interfaces := update.interfaces.getD view.interfaces
  isp := update.isp.getD view.isp
  latencyProbes := update.latencyProbes.getD view.latencyProbes
  wifi := update.wifi.getD view.wifi
  stability := update.stability.getD view.stability
  interfaceStatuses := update.interfaceStatuses.getD view.interfaceStatuses
  wans := update.wans.getD view.wans
  wansIsp := update.wansIsp.getD view.wansIsp

/-- The view after a message. -/
def ServerMessage.deliver : ServerMessage → DiffedFields → DiffedFields
  | .snapshot data, _ => data.diffed
  | .update data, view => data.replaceIn view
  | .connectionStatus _ _, view => view

/-! ## Fields -/

theorem carries_changed {α : Type} [BEq α] [SoundBEq α] (previous current : α) :
    Carries (changed previous current) previous current where
  sets := fun _ h => changed_eq_some h
  unchanged := changed_eq_none

/-- A field of the view, and of an update. -/
structure Field (α : Type) where
  get : DiffedFields → α
  given : DashboardUpdate → Option α
  get_replaceIn : ∀ update view, get (update.replaceIn view) = (given update).getD (get view)
  given_noticed : ∀ update, hasChanges update = false → given update = none
  /-- The difference of two snapshots takes the field from the first, with overrides
  that the second one has applied as well, to the second. -/
  carries : ∀ lower rows previous current,
    DashboardSnapshot.withOverrides lower rows current = current →
    Carries (given (diffSnapshots previous current))
      (get (previous.withOverrides lower rows).diffed) (get current.diffed)

namespace Field

variable {α : Type}

/-- What a message does to the field. -/
def effect (f : Field α) : ServerMessage → Option α
  | .snapshot data => some (f.get data.diffed)
  | .update data => f.given data
  | .connectionStatus _ _ => none

theorem get_deliver (f : Field α) (message : ServerMessage) (view : DiffedFields) :
    f.get (message.deliver view) = (f.effect message).getD (f.get view) := by
  cases message with
  | snapshot data => rfl
  | update data => exact f.get_replaceIn data view
  | connectionStatus connected lastPoll => rfl

/-- A field that overrides leave alone. -/
def plain [BEq α] [SoundBEq α] (get : DiffedFields → α) (given : DashboardUpdate → Option α)
    (get_replaceIn : ∀ update view, get (update.replaceIn view) = (given update).getD (get view))
    (given_noticed : ∀ update, hasChanges update = false → given update = none)
    (given_diff : ∀ previous current : DashboardSnapshot,
      given (diffSnapshots previous current) = changed (get previous.diffed) (get current.diffed))
    (get_withOverrides : ∀ lower rows (d : DashboardSnapshot),
      get (d.withOverrides lower rows).diffed = get d.diffed) : Field α where
  get := get
  given := given
  get_replaceIn := get_replaceIn
  given_noticed := given_noticed
  carries := by
    intro lower rows previous current _
    rw [given_diff, get_withOverrides]
    exact carries_changed _ _

end Field

section

variable {update : DashboardUpdate}

theorem none_of_hasChanges (h : hasChanges update = false) :
    update.system = none ∧ update.gateway = none ∧ update.interfaces = none ∧
      update.isp = none ∧ update.latencyProbes = none ∧ update.wifi = none ∧
      update.stability = none ∧ update.interfaceStatuses = none ∧ update.wans = none ∧
      update.wansIsp = none := by
  simp only [hasChanges, Bool.or_eq_false_iff, Option.isSome_eq_false_iff,
    Option.isNone_iff_eq_none] at h
  obtain ⟨⟨⟨⟨⟨⟨⟨⟨⟨⟨⟨hsystem, hgateway⟩, hinterfaces⟩, hisp⟩, _⟩, hprobes⟩, hwifi⟩, hstability⟩,
    hstatuses⟩, hwans⟩, hwansIsp⟩, _⟩ := h
  exact ⟨hsystem, hgateway, hinterfaces, hisp, hprobes, hwifi, hstability, hstatuses, hwans,
    hwansIsp⟩

end

def systemField : Field SystemInfo :=
  .plain DiffedFields.system DashboardUpdate.system (fun _ _ => rfl)
    (fun _ h => (none_of_hasChanges h).1) (fun _ _ => rfl) (fun _ _ _ => rfl)

def gatewayField : Field GatewayInfo :=
  .plain DiffedFields.gateway DashboardUpdate.gateway (fun _ _ => rfl)
    (fun _ h => (none_of_hasChanges h).2.1) (fun _ _ => rfl) (fun _ _ _ => rfl)

def interfacesField : Field InterfaceSummary :=
  .plain DiffedFields.interfaces DashboardUpdate.interfaces (fun _ _ => rfl)
    (fun _ h => (none_of_hasChanges h).2.2.1) (fun _ _ => rfl) (fun _ _ _ => rfl)

def ispField : Field IspInfo :=
  .plain DiffedFields.isp DashboardUpdate.isp (fun _ _ => rfl)
    (fun _ h => (none_of_hasChanges h).2.2.2.1) (fun _ _ => rfl) (fun _ _ _ => rfl)

def latencyProbesField : Field (List LatencyProbe) :=
  .plain DiffedFields.latencyProbes DashboardUpdate.latencyProbes (fun _ _ => rfl)
    (fun _ h => (none_of_hasChanges h).2.2.2.2.1) (fun _ _ => rfl) (fun _ _ _ => rfl)

/-- The field that overrides change: where it has not changed, the overrides that the
current one has applied give the previous one the same value. -/
def wifiField : Field WifiInfo where
  get := DiffedFields.wifi
  given := DashboardUpdate.wifi
  get_replaceIn := fun _ _ => rfl
  given_noticed := fun _ h => (none_of_hasChanges h).2.2.2.2.2.1
  carries := by
    intro lower rows previous current happlied
    have hdiff := carries_changed previous.wifi current.wifi
    refine ⟨hdiff.sets, fun hnone => ?_⟩
    have hwifi : applyDeviceOverrides lower rows current.wifi = current.wifi :=
      congrArg DashboardSnapshot.wifi happlied
    have hsame : previous.wifi = current.wifi := hdiff.unchanged hnone
    show applyDeviceOverrides lower rows previous.wifi = current.wifi
    rw [hsame, hwifi]

def stabilityField : Field IspStability :=
  .plain DiffedFields.stability DashboardUpdate.stability (fun _ _ => rfl)
    (fun _ h => (none_of_hasChanges h).2.2.2.2.2.2.1) (fun _ _ => rfl) (fun _ _ _ => rfl)

def interfaceStatusesField : Field (List InterfaceStatus) :=
  .plain DiffedFields.interfaceStatuses DashboardUpdate.interfaceStatuses (fun _ _ => rfl)
    (fun _ h => (none_of_hasChanges h).2.2.2.2.2.2.2.1) (fun _ _ => rfl) (fun _ _ _ => rfl)

def wansField : Field (List WanEntry) :=
  .plain DiffedFields.wans DashboardUpdate.wans (fun _ _ => rfl)
    (fun _ h => (none_of_hasChanges h).2.2.2.2.2.2.2.2.1) (fun _ _ => rfl) (fun _ _ _ => rfl)

def wansIspField : Field (List WanIspInfo) :=
  .plain DiffedFields.wansIsp DashboardUpdate.wansIsp (fun _ _ => rfl)
    (fun _ h => (none_of_hasChanges h).2.2.2.2.2.2.2.2.2) (fun _ _ => rfl) (fun _ _ _ => rfl)

/-- Two views that agree on every field are the same. -/
theorem DiffedFields.eq_of_fields {v w : DiffedFields}
    (h : ∀ (α : Type) (f : Field α), f.get v = f.get w) : v = w := by
  ext1
  · exact h _ systemField
  · exact h _ gatewayField
  · exact h _ interfacesField
  · exact h _ ispField
  · exact h _ latencyProbesField
  · exact h _ wifiField
  · exact h _ stabilityField
  · exact h _ interfaceStatusesField
  · exact h _ wansField
  · exact h _ wansIspField

end RouterView.Ws
