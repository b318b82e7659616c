/-
  Ws/OverrideRequests.lean --- requests for overrides, one after another.

  `update_override` of `api/devices.rs` stores an override and applies the whole
  table to the snapshot that is cached, which shows the earlier overrides already.
  What it applies can replace a name or a type but cannot take one away, and the
  table is keyed by the spelling of an address while the lookup is not.
-/
import RouterView.Ws.Convergence

set_option autoImplicit false

namespace RouterView.Ws

open RouterView.Foundation

/-! ## Data -/

/-- The order in which the query without an `ORDER BY` returns the rows. -/
structure RowOrder where
  rows : List DeviceOverride → List DeviceOverride
  perm : ∀ l, (rows l).Perm l

/-- The order in which the rows were inserted. -/
def RowOrder.inserted : RowOrder := ⟨id, fun _ => List.Perm.refl _⟩

/-- `UpdateOverrideRequest`. -/
structure UpdateOverrideRequest where
  customName : Option String
  customType : Option String
  deriving DecidableEq, Repr

/-- A device as a poll builds it, before overrides. -/
def Device.Plain (device : Device) : Prop := device.customName = none ∧ device.customType = none

/-- The snapshot of a poll, before overrides. -/
structure FetchedSnapshot where
  data : DashboardSnapshot
  plain : ∀ device ∈ data.wifi.devices, device.Plain

/-- What the requests and the polls share: the table and the snapshot cache. -/
structure OverrideState where
  overrides : List DeviceOverride
  lastSnapshot : Option DashboardSnapshot

/-- Nothing is stored, and no poll has completed. -/
def OverrideState.initial : OverrideState := ⟨[], none⟩

/-! ## Requests and polls -/

/-- What `update_override` does: the new state, the message that it broadcasts and
the list that it answers. -/
structure UpdateOverrideOutcome where
  state : OverrideState
  broadcast : Option ServerMessage
  response : List DeviceOverride

section

variable (lower : String → String)

/-- `update_override`. -/
def updateOverride (order : RowOrder) (mac : String) (body : UpdateOverrideRequest)
    (s : OverrideState) : UpdateOverrideOutcome :=
  let overrides := upsertDeviceOverride mac body.customName body.customType s.overrides
  let updatedSnapshot := s.lastSnapshot.map (fun snapshot =>
    snapshot.withOverrides lower (order.rows overrides))
  { state := ⟨overrides, updatedSnapshot⟩
    broadcast := updatedSnapshot.map ServerMessage.snapshot
    response := order.rows overrides }

/-- A completed poll, in what concerns the overrides. -/
def completePoll (order : RowOrder) (fetched : FetchedSnapshot) (s : OverrideState) :
    OverrideState :=
  { s with lastSnapshot := some (fetched.data.withOverrides lower (order.rows s.overrides)) }

/-- What happens to the overrides and the snapshot cache. -/
inductive OverrideEvent where
  | request (order : RowOrder) (mac : String) (body : UpdateOverrideRequest)
  | poll (order : RowOrder) (fetched : FetchedSnapshot)
  /-- The cache is emptied, by a restart or for another router. -/
  | emptyCache

/-- One event. -/
def overrideStep (s : OverrideState) : OverrideEvent → OverrideState
  | .request order mac body => (updateOverride lower order mac body s).state
  | .poll order fetched => completePoll lower order fetched s
  | .emptyCache => { s with lastSnapshot := none }

/-! ## The last request -/

/-- The most recent request for an address, after one more event. -/
def noteRequest (mac : String) (last : UpdateOverrideRequest) :
    OverrideEvent → UpdateOverrideRequest
  | .request _ requested body => if lower requested = lower mac then body else last
  | .poll _ _ => last
  | .emptyCache => last

/-- The most recent request for an address, compared in lower case. -/
def lastRequest (mac : String) (events : List OverrideEvent) : UpdateOverrideRequest :=
  events.foldl (noteRequest lower mac) ⟨none, none⟩

/-- The device shows exactly what the request gives. -/
def Device.ShowsRequest (device : Device) (request : UpdateOverrideRequest) : Prop :=
  device.customName = request.customName ∧ device.customType = request.customType

instance (device : Device) (request : UpdateOverrideRequest) :
    Decidable (device.ShowsRequest request) :=
  inferInstanceAs (Decidable (_ ∧ _))

/-- Every device of the snapshot shows the most recent request for its address. -/
def DashboardSnapshot.ShowsLast (d : DashboardSnapshot) (events : List OverrideEvent) : Prop :=
  ∀ device ∈ d.wifi.devices, device.ShowsRequest (lastRequest lower device.mac events)

instance (d : DashboardSnapshot) (events : List OverrideEvent) :
    Decidable (d.ShowsLast lower events) :=
  inferInstanceAs (Decidable (∀ device ∈ d.wifi.devices, _))

/-! ## When requests take effect -/

/-- What the request leaves absent, the device does not show. -/
def Device.ShowsNoMore (device : Device) (body : UpdateOverrideRequest) : Prop :=
  (body.customName = none → device.customName = none) ∧
    (body.customType = none → device.customType = none)

instance (device : Device) (body : UpdateOverrideRequest) :
    Decidable (device.ShowsNoMore body) :=
  inferInstanceAs (Decidable (_ ∧ _))

/-- A request that takes nothing away: the address is stored under no other
spelling, and what the request leaves absent the cached snapshot does not show. -/
def Effective (s : OverrideState) : OverrideEvent → Prop
  | .request _ mac body =>
      (∀ row ∈ s.overrides, lower row.mac = lower mac → row.mac = mac) ∧
        ∀ d ∈ s.lastSnapshot, ∀ device ∈ d.wifi.devices,
          lower device.mac = lower mac → device.ShowsNoMore body
  | .poll _ _ => True
  | .emptyCache => True

instance (s : OverrideState) : (e : OverrideEvent) → Decidable (Effective lower s e)
  | .request _ _ _ => inferInstanceAs (Decidable (_ ∧ _))
  | .poll _ _ => isTrue trivial
  | .emptyCache => isTrue trivial

end

section

variable {lower : String → String}

theorem lastRequest_append (mac : String) (events : List OverrideEvent) (e : OverrideEvent) :
    lastRequest lower mac (events ++ [e]) =
      noteRequest lower mac (lastRequest lower mac events) e := by
  unfold lastRequest
  rw [List.foldl_append]
  rfl

/-- The most recent request is one for the address in lower case. -/
theorem lastRequest_congr {mac mac' : String} (h : lower mac = lower mac')
    (events : List OverrideEvent) :
    lastRequest lower mac events = lastRequest lower mac' events := by
  have hnote : noteRequest lower mac = noteRequest lower mac' := by
    funext last e
    cases e with
    | request order requested body => simp only [noteRequest, h]
    | poll order fetched => rfl
    | emptyCache => rfl
  unfold lastRequest
  rw [hnote]

/-! ## The table -/

/-- The table holds the most recent requests: every row is one, and an address
without a row was left without a name and a type. -/
structure HoldsLast (lower : String → String) (events : List OverrideEvent)
    (rows : List DeviceOverride) : Prop where
  exact : ∀ row ∈ rows, lastRequest lower row.mac events = ⟨row.customName, row.customType⟩
  absent : ∀ mac, (∀ row ∈ rows, lower row.mac ≠ lower mac) →
    lastRequest lower mac events = ⟨none, none⟩

theorem mem_upsertDeviceOverride {mac : String} {customName customType : Option String}
    {rows : List DeviceOverride} {row : DeviceOverride}
    (h : row ∈ upsertDeviceOverride mac customName customType rows) :
    (row ∈ rows ∧ row.mac ≠ mac) ∨ row = ⟨mac, customName, customType⟩ := by
  unfold upsertDeviceOverride at h
  split at h
  · exact Or.inl (by simpa using h)
  · rcases List.mem_append.mp h with h | h
    · exact Or.inl (by simpa using h)
    · exact Or.inr (List.mem_singleton.mp h)

/-- A row for another address stays. -/
theorem upsertDeviceOverride_keeps {mac : String} {customName customType : Option String}
    {rows : List DeviceOverride} {row : DeviceOverride} (h : row ∈ rows) (hne : row.mac ≠ mac) :
    row ∈ upsertDeviceOverride mac customName customType rows := by
  have hfiltered : row ∈ rows.filter (fun row => decide (row.mac ≠ mac)) :=
    List.mem_filter.mpr ⟨h, decide_eq_true hne⟩
  unfold upsertDeviceOverride
  split
  · exact hfiltered
  · exact List.mem_append_left _ hfiltered

/-- A request that gives a name or a type has a row. -/
theorem upsertDeviceOverride_gives {mac : String} {customName customType : Option String}
    {rows : List DeviceOverride} (h : ¬(customName = none ∧ customType = none)) :
    ⟨mac, customName, customType⟩ ∈ upsertDeviceOverride mac customName customType rows := by
  unfold upsertDeviceOverride
  split
  · rename_i hboth
    simp only [Bool.and_eq_true, Option.isNone_iff_eq_none] at hboth
    exact absurd hboth h
  · exact List.mem_append_right _ (List.mem_singleton.mpr rfl)

/-- A request under the stored spelling leaves the most recent requests in the
table. -/
theorem HoldsLast.request {events : List OverrideEvent} {rows : List DeviceOverride}
    (h : HoldsLast lower events rows) {mac : String}
    (hspelling : ∀ row ∈ rows, lower row.mac = lower mac → row.mac = mac) (order : RowOrder)
    (body : UpdateOverrideRequest) :
    HoldsLast lower (events ++ [.request order mac body])
      (upsertDeviceOverride mac body.customName body.customType rows) := by
  constructor
  · intro row hrow
    rw [lastRequest_append]
    rcases mem_upsertDeviceOverride hrow with ⟨hold, hne⟩ | hnew
    · have hother : lower mac ≠ lower row.mac :=
        fun heq => hne (hspelling row hold heq.symm)
      rw [noteRequest, if_neg hother]
      exact h.exact row hold
    · rw [hnew]
      exact if_pos rfl
  · intro other hnone
    rw [lastRequest_append, noteRequest]
    split
    · rename_i hsame
      by_cases hboth : body.customName = none ∧ body.customType = none
      · obtain ⟨hname, htype⟩ := hboth
        cases body
        simp only at hname htype
        rw [hname, htype]
      · exact absurd hsame (hnone _ (upsertDeviceOverride_gives hboth))
    · rename_i hother
      apply h.absent
      intro row hrow heq
      have hne : row.mac ≠ mac := fun hmac => hother (hmac ▸ heq)
      exact hnone row (upsertDeviceOverride_keeps hrow hne) heq

/-- Whatever the order of the rows, the override that is found for an address is
its most recent request. -/
theorem HoldsLast.found {events : List OverrideEvent} {rows : List DeviceOverride}
    (h : HoldsLast lower events rows) (order : RowOrder) (mac : String) :
    customNameFor lower (order.rows rows) mac = (lastRequest lower mac events).customName ∧
      customTypeFor lower (order.rows rows) mac = (lastRequest lower mac events).customType := by
  have hmem : ∀ {row}, row ∈ order.rows rows ↔ row ∈ rows := (order.perm rows).mem_iff
  unfold customNameFor customTypeFor
  cases hfound : overrideFor lower (order.rows rows) mac with
  | none =>
      have hnone := List.find?_eq_none.mp hfound
      have habsent : lastRequest lower mac events = ⟨none, none⟩ := by
        apply h.absent
        intro row hrow heq
        have hne := hnone row (List.mem_reverse.mpr (hmem.mpr hrow))
        simp only [heq, beq_self_eq_true, not_true_eq_false] at hne
      rw [habsent]
      exact ⟨rfl, rfl⟩
  | some row =>
      have hrow := hmem.mp (List.mem_reverse.mp (List.mem_of_find?_eq_some hfound))
      have hsame : lower row.mac = lower mac := by
        have hkey := List.find?_some hfound
        exact beq_iff_eq.mp hkey
      rw [← lastRequest_congr hsame, h.exact row hrow]
      exact ⟨rfl, rfl⟩

/-- A device with the table applied: what the most recent request gives, over what
the device showed. -/
theorem HoldsLast.applied {events : List OverrideEvent} {rows : List DeviceOverride}
    (h : HoldsLast lower events rows) (order : RowOrder) (device : Device) :
    (overrideDevice lower (order.rows rows) device).customName =
        (lastRequest lower device.mac events).customName.or device.customName ∧
      (overrideDevice lower (order.rows rows) device).customType =
        (lastRequest lower device.mac events).customType.or device.customType := by
  obtain ⟨hname, htype⟩ := h.found order device.mac
  rw [overrideDevice_eq, hname, htype]
  exact ⟨rfl, rfl⟩

/-! ## The snapshot -/

theorem overrideDevice_mac (rows : List DeviceOverride) (device : Device) :
    (overrideDevice lower rows device).mac = device.mac := by
  rw [overrideDevice_eq]

theorem mem_withOverrides {rows : List DeviceOverride} {d : DashboardSnapshot} {shown : Device} :
    shown ∈ (d.withOverrides lower rows).wifi.devices ↔
      ∃ device ∈ d.wifi.devices, overrideDevice lower rows device = shown := by
  simp only [DashboardSnapshot.withOverrides, applyDeviceOverrides_eq, List.mem_map]

/-- A table that holds the most recent requests makes a snapshot show them exactly
where they take nothing away from its devices. -/
theorem HoldsLast.shows_iff {events : List OverrideEvent} {rows : List DeviceOverride}
    (h : HoldsLast lower events rows) (order : RowOrder) (d : DashboardSnapshot) :
    (d.withOverrides lower (order.rows rows)).ShowsLast lower events ↔
      ∀ device ∈ d.wifi.devices, device.ShowsNoMore (lastRequest lower device.mac events) := by
  have hor : ∀ given shown : Option String,
      given.or shown = given ↔ (given = none → shown = none) := by
    intro given shown
    cases given with
    | none => simp
    | some name => simp
  have hdevice : ∀ device : Device,
      (overrideDevice lower (order.rows rows) device).ShowsRequest
        (lastRequest lower device.mac events) ↔
      device.ShowsNoMore (lastRequest lower device.mac events) := by
    intro device
    obtain ⟨hname, htype⟩ := h.applied order device
    rw [Device.ShowsRequest, hname, htype, hor, hor]
    rfl
  constructor
  · intro hshows device hmem
    have hshown := hshows _ (mem_withOverrides.mpr ⟨device, hmem, rfl⟩)
    rw [overrideDevice_mac] at hshown
    exact (hdevice device).mp hshown
  · intro hmore shown hmem
    obtain ⟨device, hdev, rfl⟩ := mem_withOverrides.mp hmem
    rw [overrideDevice_mac]
    exact (hdevice device).mpr (hmore device hdev)

/-- A device that shows a request shows nothing that the request leaves absent. -/
theorem Device.ShowsRequest.showsNoMore {device : Device} {request : UpdateOverrideRequest}
    (h : device.ShowsRequest request) : device.ShowsNoMore request :=
  ⟨fun hnone => h.1.trans hnone, fun hnone => h.2.trans hnone⟩

/-! ## Runs -/

/-- After the events, the table and the cached snapshot give the most recent
requests. -/
structure UpToDate (lower : String → String) (events : List OverrideEvent) (s : OverrideState) :
    Prop where
  table : HoldsLast lower events s.overrides
  snapshot : ∀ d ∈ s.lastSnapshot, d.ShowsLast lower events

/-- After a request under the stored spelling the cached snapshot is up to date
exactly when the request leaves nothing absent that it showed. -/
theorem UpToDate.request_iff {events : List OverrideEvent} {s : OverrideState}
    (h : UpToDate lower events s) {mac : String}
    (hspelling : ∀ row ∈ s.overrides, lower row.mac = lower mac → row.mac = mac)
    (order : RowOrder) (body : UpdateOverrideRequest) :
    UpToDate lower (events ++ [.request order mac body])
        (updateOverride lower order mac body s).state ↔
      ∀ d ∈ s.lastSnapshot, ∀ device ∈ d.wifi.devices,
        lower device.mac = lower mac → device.ShowsNoMore body := by
  have htable := h.table.request hspelling order body
  have hlast : ∀ device : Device,
      lastRequest lower device.mac (events ++ [.request order mac body]) =
        if lower mac = lower device.mac then body else lastRequest lower device.mac events :=
    fun device => lastRequest_append device.mac events _
  constructor
  · intro hafter d hd device hdevice hsame
    have hcached : d.withOverrides lower (order.rows (upsertDeviceOverride mac body.customName
        body.customType s.overrides)) ∈ (updateOverride lower order mac body s).state.lastSnapshot :=
      Option.mem_map_of_mem _ hd
    have hmore := (htable.shows_iff order d).mp (hafter.snapshot _ hcached) device hdevice
    rwa [hlast, if_pos hsame.symm] at hmore
  · intro hmore
    refine ⟨htable, ?_⟩
    intro shown hshown
    obtain ⟨d, hd, rfl⟩ := Option.mem_map.mp hshown
    refine (htable.shows_iff order d).mpr ?_
    intro device hdevice
    rw [hlast]
    split
    · rename_i hsame
      exact hmore d hd device hdevice hsame.symm
    · exact (h.snapshot d hd device hdevice).showsNoMore

theorem UpToDate.initial : UpToDate lower [] OverrideState.initial where
  table := ⟨fun _ hrow => (List.not_mem_nil hrow).elim, fun _ _ => rfl⟩
  snapshot := fun _ hd => by cases hd

/-- A poll and an empty cache are no requests. -/
theorem HoldsLast.other {events : List OverrideEvent} {rows : List DeviceOverride}
    (h : HoldsLast lower events rows) {e : OverrideEvent}
    (hnote : ∀ mac last, noteRequest lower mac last e = last) :
    HoldsLast lower (events ++ [e]) rows := by
  have hlast : ∀ mac, lastRequest lower mac (events ++ [e]) = lastRequest lower mac events := by
    intro mac
    rw [lastRequest_append, hnote]
  refine ⟨?_, ?_⟩
  · intro row hrow
    rw [hlast]
    exact h.exact row hrow
  · intro mac hnone
    rw [hlast]
    exact h.absent mac hnone

/-- An effective event keeps the cached snapshot up to date. -/
theorem UpToDate.step {events : List OverrideEvent} {s : OverrideState}
    (h : UpToDate lower events s) {e : OverrideEvent} (he : Effective lower s e) :
    UpToDate lower (events ++ [e]) (overrideStep lower s e) := by
  cases e with
  | request order mac body => exact (h.request_iff he.1 order body).mpr he.2
  | poll order fetched =>
      have htable := h.table.other (e := .poll order fetched) (fun _ _ => rfl)
      refine ⟨htable, ?_⟩
      intro shown hshown
      rw [← Option.some.inj hshown]
      refine (htable.shows_iff order fetched.data).mpr ?_
      intro device hdevice
      obtain ⟨hname, htype⟩ := fetched.plain device hdevice
      exact ⟨fun _ => hname, fun _ => htype⟩
  | emptyCache =>
      refine ⟨h.table.other (fun _ _ => rfl), ?_⟩
      intro shown hshown
      cases hshown

theorem UpToDate.along {events : List OverrideEvent}
    (h : Along (overrideStep lower) (Effective lower) OverrideState.initial events) :
    UpToDate lower events (run (overrideStep lower) OverrideState.initial events) := by
  induction events using List.reverseRecOn with
  | nil => exact UpToDate.initial
  | append_singleton earlier e ih =>
      obtain ⟨hearlier, he, _⟩ := Along.append.mp h
      rw [run_append]
      exact (ih hearlier).step he

/-- In a run of effective requests and polls, the snapshot that a request leaves in
the cache and broadcasts shows the most recent request for every device. -/
theorem last_override_wins {earlier : List OverrideEvent} {order : RowOrder} {mac : String}
    {body : UpdateOverrideRequest}
    (h : Along (overrideStep lower) (Effective lower) OverrideState.initial
      (earlier ++ [.request order mac body]))
    {outcome : UpdateOverrideOutcome}
    (houtcome : outcome = updateOverride lower order mac body
      (run (overrideStep lower) OverrideState.initial earlier))
    {d : DashboardSnapshot}
    (hd : outcome.state.lastSnapshot = some d ∨ outcome.broadcast = some (.snapshot d)) :
    d.ShowsLast lower (earlier ++ [.request order mac body]) := by
  have hafter := UpToDate.along h
  rw [run_append] at hafter
  subst houtcome
  apply hafter.snapshot
  rcases hd with hd | hd
  · exact hd
  · obtain ⟨shown, hshown, heq⟩ := Option.map_eq_some_iff.mp hd
    cases heq
    exact hshown

/-! ### Runs on fixed inputs -/

/-- What a poll finds of a router with one wireless device. -/
def fetchedDevice : FetchedSnapshot where
  data := oneDevice none
  plain := by
    intro device hdevice
    rw [List.mem_singleton.mp hdevice]
    exact ⟨rfl, rfl⟩

/-- A request over the rows in the order of their insertion. -/
def requested (mac : String) (customName customType : Option String) : OverrideEvent :=
  .request .inserted mac ⟨customName, customType⟩

/-- What lower case makes of the addresses of the runs. -/
structure LowersAddresses (lower : String → String) : Prop where
  address : lower "aa:bb" = "aa:bb"
  capitals : lower "AA:BB" = "aa:bb"
  other : lower "cc:dd" = "cc:dd"

theorem LowersAddresses.toLower : LowersAddresses String.toLower :=
  ⟨by decide +kernel, by decide +kernel, by decide +kernel⟩

/-- A second request for one address takes nothing away. -/
theorem LowersAddresses.effective (h : LowersAddresses lower) :
    Along (overrideStep lower) (Effective lower) OverrideState.initial
      ([.poll .inserted fetchedDevice, requested "AA:BB" (some "Phone") none,
        .poll .inserted fetchedDevice] ++
          [.request .inserted "AA:BB" ⟨some "Tablet", some "tablet"⟩]) := by
  simp [Along, Effective, overrideStep, completePoll, updateOverride, requested,
    OverrideState.initial, fetchedDevice, oneDevice, upsertDeviceOverride,
    DashboardSnapshot.withOverrides, RowOrder.inserted, applyDeviceOverrides, overrideDevice,
    overrideFor, h.address, h.capitals, Device.ShowsNoMore]

/-- Two requests for one device, the second under another letter case than the
snapshot has. -/
theorem last_override_wins_renamed :
    ∃ d, (updateOverride String.toLower .inserted "AA:BB" ⟨some "Tablet", some "tablet"⟩
        (run (overrideStep String.toLower) OverrideState.initial
          [.poll .inserted fetchedDevice, requested "AA:BB" (some "Phone") none,
            .poll .inserted fetchedDevice])).broadcast = some (.snapshot d) ∧
      d.ShowsLast String.toLower [.poll .inserted fetchedDevice,
        requested "AA:BB" (some "Phone") none, .poll .inserted fetchedDevice,
        requested "AA:BB" (some "Tablet") (some "tablet")] :=
  ⟨_, rfl, @last_override_wins String.toLower [.poll .inserted fetchedDevice,
      requested "AA:BB" (some "Phone") none, .poll .inserted fetchedDevice] .inserted "AA:BB"
    ⟨some "Tablet", some "tablet"⟩ LowersAddresses.toLower.effective _ rfl _ (Or.inr rfl)⟩

/-- The request after the run broadcasts a snapshot that does not show the most
recent requests. -/
def BroadcastsStale (earlier : List OverrideEvent) (mac : String)
    (customName customType : Option String) : Prop :=
  ∃ d, (updateOverride String.toLower .inserted mac ⟨customName, customType⟩
      (run (overrideStep String.toLower) OverrideState.initial earlier)).broadcast =
        some (.snapshot d) ∧
    ¬ d.ShowsLast String.toLower (earlier ++ [requested mac customName customType])

/-- The same for any function that lowers the addresses: evaluated in general, lower
case stays folded. -/
def StaleUnder (lower : String → String) (earlier : List OverrideEvent) (mac : String)
    (customName customType : Option String) : Prop :=
  ∃ d, (updateOverride lower .inserted mac ⟨customName, customType⟩
      (run (overrideStep lower) OverrideState.initial earlier)).broadcast =
        some (.snapshot d) ∧
    ¬ d.ShowsLast lower (earlier ++ [requested mac customName customType])

theorem LowersAddresses.stale (h : LowersAddresses lower) :
    StaleUnder lower [.poll .inserted fetchedDevice, requested "aa:bb" (some "Phone") none]
        "aa:bb" none none ∧
      StaleUnder lower
        [.poll .inserted fetchedDevice, requested "aa:bb" (some "Phone") (some "phone")]
        "aa:bb" (some "Phone") none ∧
      StaleUnder lower [requested "AA:BB" (some "Phone") none, requested "aa:bb" none none,
        .poll .inserted fetchedDevice] "cc:dd" (some "TV") none := by
  simp [StaleUnder, DashboardSnapshot.ShowsLast, run, overrideStep, completePoll, updateOverride,
    requested, OverrideState.initial, fetchedDevice, oneDevice, upsertDeviceOverride,
    DashboardSnapshot.withOverrides, RowOrder.inserted, applyDeviceOverrides, overrideDevice,
    overrideFor, h.address, h.capitals, h.other, Device.ShowsRequest, lastRequest, noteRequest]

/-- A name that is cleared, and a type that is left out, stay in the snapshot that
the request broadcasts; and a name cleared under another spelling comes back. -/
theorem cleared_override_stays :
    BroadcastsStale [.poll .inserted fetchedDevice, requested "aa:bb" (some "Phone") none]
        "aa:bb" none none ∧
      BroadcastsStale
        [.poll .inserted fetchedDevice, requested "aa:bb" (some "Phone") (some "phone")]
        "aa:bb" (some "Phone") none ∧
      BroadcastsStale [requested "AA:BB" (some "Phone") none, requested "aa:bb" none none,
        .poll .inserted fetchedDevice] "cc:dd" (some "TV") none :=
  LowersAddresses.toLower.stale

end

end RouterView.Ws
