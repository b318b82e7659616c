/-
  Ws/Overrides.lean --- the names and types that users give to devices.

  The table `device_overrides` and `apply_device_overrides` of `db/mod.rs`.  An
  override sets what it gives and leaves the rest of a device alone.  Addresses are
  compared in lower case; how a text is lowered does not matter here, and is an
  argument.

  Left out: a failing read of the table, which the source treats as an empty one, and
  `updated_at`.
-/
import RouterView.Ws.Protocol

set_option autoImplicit false

namespace RouterView.Ws

open RouterView.Foundation

/-! ## The table -/

/-- `DeviceOverride`: a row of `device_overrides`. -/
structure DeviceOverride where
  mac : String
  customName : Option String
  customType : Option String
  deriving DecidableEq, Repr

/-- `upsert_device_override`. -/
def upsertDeviceOverride (mac : String) (customName customType : Option String)
    (rows : List DeviceOverride) : List DeviceOverride :=
  if customName.isNone && customType.isNone then rows.filter (fun row => decide (row.mac ≠ mac))
  else rows.filter (fun row => decide (row.mac ≠ mac)) ++ [⟨mac, customName, customType⟩]

section

variable (lower : String → String) (rows : List DeviceOverride)

/-- The override of an address: of rows that differ in case only, the last one. -/
def overrideFor (mac : String) : Option DeviceOverride :=
  rows.reverse.find? (fun row => lower row.mac == lower mac)

/-- The name that the table gives to an address. -/
def customNameFor (mac : String) : Option String :=
  (overrideFor lower rows mac).bind DeviceOverride.customName

/-- The type that the table gives to an address. -/
def customTypeFor (mac : String) : Option String :=
  (overrideFor lower rows mac).bind DeviceOverride.customType

/-- A device with its override. -/
def overrideDevice (device : Device) : Device :=
  match overrideFor lower rows device.mac with
  | some row => { device with
      customName := row.customName.or device.customName
      customType := row.customType.or device.customType }
  | none => device

/-- `apply_device_overrides`. -/
def applyDeviceOverrides (wifi : WifiInfo) : WifiInfo :=
  if rows.isEmpty then wifi
  else { wifi with devices := wifi.devices.map (overrideDevice lower rows) }

/-- A snapshot with the overrides applied. -/
def DashboardSnapshot.withOverrides (d : DashboardSnapshot) : DashboardSnapshot :=
  { d with wifi := applyDeviceOverrides lower rows d.wifi }

end

/-! ## Applying overrides again -/

section

variable {lower : String → String} {rows : List DeviceOverride}

theorem overrideDevice_eq (rows : List DeviceOverride) (device : Device) :
    overrideDevice lower rows device = { device with
      customName := (customNameFor lower rows device.mac).or device.customName
      customType := (customTypeFor lower rows device.mac).or device.customType } := by
  unfold overrideDevice customNameFor customTypeFor
  cases overrideFor lower rows device.mac <;> rfl

theorem applyDeviceOverrides_eq (wifi : WifiInfo) :
    applyDeviceOverrides lower rows wifi =
      { wifi with devices := wifi.devices.map (overrideDevice lower rows) } := by
  unfold applyDeviceOverrides
  split
  · rename_i hempty
    have hnone : rows = [] := List.isEmpty_iff.mp hempty
    have hid : overrideDevice lower rows = id := by
      funext device
      rw [hnone]
      rfl
    rw [hid, List.map_id]
  · rfl

theorem overrideDevice_overrideDevice (device : Device) :
    overrideDevice lower rows (overrideDevice lower rows device) =
      overrideDevice lower rows device := by
  rw [overrideDevice_eq, overrideDevice_eq rows device]
  simp only [← Option.or_assoc, Option.or_self]

/-- Overrides that were applied are not applied again. -/
theorem applyDeviceOverrides_twice (wifi : WifiInfo) :
    applyDeviceOverrides lower rows (applyDeviceOverrides lower rows wifi) =
      applyDeviceOverrides lower rows wifi := by
  simp only [applyDeviceOverrides_eq, List.map_map]
  congr 1
  apply List.map_congr_left
  intro device _
  exact overrideDevice_overrideDevice device

theorem DashboardSnapshot.withOverrides_twice (d : DashboardSnapshot) :
    (d.withOverrides lower rows).withOverrides lower rows = d.withOverrides lower rows := by
  simp only [DashboardSnapshot.withOverrides, applyDeviceOverrides_twice]

/-- What a copy shows of a device beyond the device itself, the table still gives. -/
def StillGiven (lower : String → String) (rows : List DeviceOverride) (shown own : Device) : Prop :=
  (customNameFor lower rows own.mac = none → shown.customName = own.customName) ∧
    (customTypeFor lower rows own.mac = none → shown.customType = own.customType)

/-- The table still gives every name and type that the copy of a snapshot shows beyond
the snapshot itself. -/
def KeepsAdded (lower : String → String) (rows : List DeviceOverride)
    (copy own : DashboardSnapshot) : Prop :=
  List.Forall₂ (StillGiven lower rows) copy.wifi.devices own.wifi.devices

/-- A device with its name and its type replaced. -/
def Renamed (shown own : Device) : Prop :=
  { shown with customName := own.customName, customType := own.customType } = own

/-- A snapshot whose devices have their names and types replaced. -/
structure RenamedCopy (copy own : DashboardSnapshot) : Prop where
  devices : List.Forall₂ Renamed copy.wifi.devices own.wifi.devices
  rest : { copy with wifi := { copy.wifi with devices := own.wifi.devices } } = own

theorem Renamed.overrideDevice {shown own : Device} (h : Renamed shown own)
    (rows : List DeviceOverride) : Renamed (Ws.overrideDevice lower rows shown) own := by
  rw [overrideDevice_eq]
  exact h

theorem RenamedCopy.refl (d : DashboardSnapshot) : RenamedCopy d d where
  devices := List.forall₂_same.mpr (fun _ _ => rfl)
  rest := rfl

theorem RenamedCopy.withOverrides {copy own : DashboardSnapshot} (h : RenamedCopy copy own)
    (rows : List DeviceOverride) : RenamedCopy (copy.withOverrides lower rows) own where
  devices := by
    simp only [DashboardSnapshot.withOverrides, applyDeviceOverrides_eq,
      List.forall₂_map_left_iff]
    exact h.devices.imp (fun _ _ hdevice => hdevice.overrideDevice rows)
  rest := by
    simp only [DashboardSnapshot.withOverrides, applyDeviceOverrides_eq]
    exact h.rest

/-- An override over a renamed device of which everything is still given is the
override over the device. -/
theorem Renamed.overrideDevice_eq {shown own : Device} (h : Renamed shown own)
    (hgiven : StillGiven lower rows shown own) :
    Ws.overrideDevice lower rows shown = Ws.overrideDevice lower rows own := by
  obtain ⟨hname, htype⟩ := hgiven
  have hsame : { shown with customName := own.customName, customType := own.customType } = own := h
  have hmac : shown.mac = own.mac := by
    have hread := congrArg Device.mac hsame
    exact hread
  have hname' : (customNameFor lower rows shown.mac).or shown.customName =
      (customNameFor lower rows own.mac).or own.customName := by
    rw [hmac]
    cases hrow : customNameFor lower rows own.mac with
    | some name => rfl
    | none => rw [hname hrow]
  have htype' : (customTypeFor lower rows shown.mac).or shown.customType =
      (customTypeFor lower rows own.mac).or own.customType := by
    rw [hmac]
    cases hrow : customTypeFor lower rows own.mac with
    | some type => rfl
    | none => rw [htype hrow]
  rw [Ws.overrideDevice_eq, Ws.overrideDevice_eq rows own, hname', htype']
  exact congrArg (fun device : Device => { device with
    customName := (customNameFor lower rows own.mac).or own.customName
    customType := (customTypeFor lower rows own.mac).or own.customType }) hsame

/-- Overrides over a renamed copy, where nothing that it shows was removed, are
overrides over the snapshot. -/
theorem RenamedCopy.withOverrides_eq {copy own : DashboardSnapshot} (h : RenamedCopy copy own)
    (hkeeps : KeepsAdded lower rows copy own) :
    copy.withOverrides lower rows = own.withOverrides lower rows := by
  have hdevices : copy.wifi.devices.map (overrideDevice lower rows) =
      own.wifi.devices.map (overrideDevice lower rows) := by
    have hboth := h.devices
    unfold KeepsAdded at hkeeps
    generalize copy.wifi.devices = shown at hboth hkeeps
    generalize own.wifi.devices = owned at hboth hkeeps
    induction hboth with
    | nil => rfl
    | cons hdevice _ ih =>
        obtain ⟨hgiven, hrest⟩ := List.forall₂_cons.mp hkeeps
        rw [List.map_cons, List.map_cons, hdevice.overrideDevice_eq hgiven, ih hrest]
  simp only [DashboardSnapshot.withOverrides, applyDeviceOverrides_eq, hdevices]
  exact congrArg (fun d : DashboardSnapshot => { d with
    wifi := { d.wifi with devices := own.wifi.devices.map (overrideDevice lower rows) } }) h.rest

end

end RouterView.Ws
