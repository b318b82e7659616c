/-
  Poller/ExactTraffic.lean --- one tick of the traffic sampling.

  `persist_exact_traffic` of `poller/engine.rs`: every WAN interface is
  registered and its counters recorded, the counters are added up, and the sum
  is recorded for the aggregate interface.  Every storage call of a tick has an
  outcome of its own.

  Left out: how the counters are read from the router.  An answer is a list of interfaces
  with optional counters, in which a name or an address may come twice.
-/
import Mathlib.Data.List.Sort
import RouterView.Db.Interfaces
import RouterView.Poller.Engine

set_option autoImplicit false

namespace RouterView.Poller

open RouterView.Foundation
open RouterView.Db

/-! ## Data -/

/-- The fields of `InterfaceEntry` that the sampling reads. -/
structure InterfaceEntry where
  id : String
  name : String
  macAddress : String
  rxByte : Option UInt64
  txByte : Option UInt64
  deriving DecidableEq, Repr

/-- `CounterSampleTime`. -/
structure CounterSampleTime where
  unixMs : Int
  monotonic : Nat
  deriving DecidableEq, Repr

/-- The fields of `RouterData` that the sampling reads. -/
structure RouterData where
  counterSampleTime : CounterSampleTime
  uptimeSeconds : Option UInt64
  interfaces : List InterfaceEntry
  deriving DecidableEq, Repr

/-- `AGGREGATE_INTERFACE_KEY`. -/
def aggregateInterfaceKey : String := "__aggregate__"

/-- `durable_interface_key`. -/
def durableInterfaceKey (interface : InterfaceEntry) : String :=
  if isBlank interface.id then "name:" ++ interface.name else "routeros:" ++ interface.id

/-- What a tick reports without failing. -/
inductive ExactTrafficError where
  | disappeared (wanName : String)
  | unresolved (name : String) (error : DatabaseError)
  | omittedCounter (name : String)
  | notPersisted (name : String) (error : DatabaseError)
  | overflowed
  | aggregateNotPersisted (error : DatabaseError)
  deriving DecidableEq, Repr

/-- The text of a report, given those of the database errors. -/
def ExactTrafficError.text (display : DatabaseError → String) : ExactTrafficError → String
  | .disappeared wanName => s!"WAN interface {wanName} disappeared during sampling"
  | .unresolved name error => s!"failed to resolve WAN interface {name}: {display error}"
  | .omittedCounter name => s!"WAN interface {name} omitted a byte counter; exact sampling paused"
  | .notPersisted name error => s!"failed to persist WAN interface {name}: {display error}"
  | .overflowed => "aggregate WAN counters overflowed u64"
  | .aggregateNotPersisted error =>
      s!"failed to persist aggregate WAN traffic: {display error}"

/-- `ExactPersistenceResult`. -/
structure ExactPersistenceResult where
  routerId : Int
  aggregateInterfaceId : Int
  errors : List ExactTrafficError
  deriving DecidableEq, Repr

/-! ## Outcomes -/

/-- The outcomes of the storage calls for one WAN interface. -/
structure MemberOutcomes where
  upsert : StorageOutcome
  persist : StorageOutcomes
  deriving DecidableEq, Repr

/-- The outcomes of the storage calls of a tick; the WAN interfaces are numbered
in the order in which they are sampled. -/
structure TickOutcomes where
  aggregateUpsert : StorageOutcome
  members : Nat → MemberOutcomes
  aggregate : StorageOutcomes

/-! ## The members -/

/-- `u64::checked_add`. -/
def checkedAddU64 (a b : UInt64) : Option UInt64 :=
  if a.toNat + b.toNat ≤ u64Max.toNat then some (a + b) else none

/-- The variables of the loop over the WAN interfaces. -/
structure MemberLoop where
  state : PollerState
  errors : List ExactTrafficError
  activeInterfaceIds : List Int
  aggregateRx : UInt64
  aggregateTx : UInt64
  aggregateComplete : Bool
  aggregateContinuous : Bool
  aggregateMembers : List Int

/-- The variables before the loop. -/
def MemberLoop.start (state : PollerState) (aggregateId : Int) (wanNames : List String) :
    MemberLoop where
  state := state
  errors := []
  activeInterfaceIds := [aggregateId]
  aggregateRx := 0
  aggregateTx := 0
  aggregateComplete := !wanNames.isEmpty
  aggregateContinuous := !wanNames.isEmpty
  aggregateMembers := []

/-- The observation of a WAN interface. -/
def memberObservation (routerId : Int) (data : RouterData) (interfaceId : Int)
    (rxCounter txCounter : UInt64) : CounterObservation where
  routerId := routerId
  interfaceId := interfaceId
  rxCounter := rxCounter
  txCounter := txCounter
  observedAtMs := data.counterSampleTime.unixMs
  monotonic := data.counterSampleTime.monotonic
  uptimeSeconds := data.uptimeSeconds
  memberSignature := none
  forcedGap := none

/-- Add the counters of a member to the sums. -/
def MemberLoop.addCounters (acc : MemberLoop) (rxCounter txCounter : UInt64) : MemberLoop :=
  match checkedAddU64 acc.aggregateRx rxCounter, checkedAddU64 acc.aggregateTx txCounter with
  | some rx, some tx => { acc with aggregateRx := rx, aggregateTx := tx }
  | _, _ => { acc with aggregateComplete := false, errors := acc.errors ++ [.overflowed] }

/-- What the answer about a member says about the aggregate. -/
def MemberLoop.noteAnswer (acc : MemberLoop) (name : String) :
    DatabaseResult CounterPersistenceOutcome → MemberLoop
  | .ok .exactSample => acc
  | .ok _ => { acc with aggregateContinuous := false }
  | .error error =>
      { acc with
        aggregateContinuous := false
        errors := acc.errors ++ [.notPersisted name error] }

/-- Record the counters of a member and add them up. -/
def persistMember (outcomes : StorageOutcomes) (routerId : Int) (data : RouterData)
    (name : String) (interfaceId : Int) (rxCounter txCounter : UInt64) (acc : MemberLoop) :
    MemberLoop :=
  let (result, state) := persistCounterObservation outcomes
    (memberObservation routerId data interfaceId rxCounter txCounter) acc.state
  ({ acc with state := state }.noteAnswer name result).addCounters rxCounter txCounter

/-- A registered member: without both counters its baseline is dropped. -/
def sampleRegistered (outcomes : StorageOutcomes) (routerId : Int) (data : RouterData)
    (interface : InterfaceEntry) (interfaceId : Int) (acc : MemberLoop) : MemberLoop :=
  let acc' := { acc with
    activeInterfaceIds := interfaceId :: acc.activeInterfaceIds
    aggregateMembers := acc.aggregateMembers ++ [interfaceId] }
  match interface.rxByte, interface.txByte with
  | some rxCounter, some txCounter =>
      persistMember outcomes routerId data interface.name interfaceId rxCounter txCounter acc'
  | _, _ =>
      { acc' with
        aggregateComplete := false
        state := { acc.state with baselines := acc.state.baselines.remove interfaceId }
        errors := acc.errors ++ [.omittedCounter interface.name] }

/-- The interface of a WAN name. -/
def RouterData.interfaceNamed (data : RouterData) (wanName : String) : Option InterfaceEntry :=
  data.interfaces.find? (fun interface => decide (interface.name = wanName))

/-- The hardware address that a registration passes on. -/
def InterfaceEntry.hardwareId (interface : InterfaceEntry) : Option String :=
  if isBlank interface.macAddress then none else some interface.macAddress

/-- One pass of the loop. -/
def sampleMember (outcomes : MemberOutcomes) (routerId : Int) (data : RouterData)
    (wanName : String) (acc : MemberLoop) : MemberLoop :=
  match data.interfaceNamed wanName with
  | none =>
      { acc with
        aggregateComplete := false
        errors := acc.errors ++ [.disappeared wanName] }
  | some interface =>
      match outcomes.upsert.run (upsertRouterInterface routerId (durableInterfaceKey interface)
          interface.name "wan" interface.hardwareId data.counterSampleTime.unixMs)
          acc.state.db with
      | (.error error, db) =>
          { acc with
            state := { acc.state with db := db }
            aggregateComplete := false
            errors := acc.errors ++ [.unresolved interface.name error] }
      | (.ok record, db) =>
          sampleRegistered outcomes.persist routerId data interface record.id
            { acc with state := { acc.state with db := db } }

/-- The loop over the WAN names, the first of which is number `index`. -/
def sampleMembers (outcomes : Nat → MemberOutcomes) (routerId : Int) (data : RouterData) :
    Nat → List String → MemberLoop → MemberLoop
  | _, [], acc => acc
  | index, wanName :: rest, acc =>
      sampleMembers outcomes routerId data (index + 1) rest
        (sampleMember (outcomes index) routerId data wanName acc)

/-! ## The aggregate -/

/-- The signature of a set of members. -/
def aggregateSignature (members : List Int) : String :=
  String.intercalate "," ((members.insertionSort (· ≤ ·)).map toString)

/-- The observation of the aggregate. -/
def aggregateObservation (routerId : Int) (data : RouterData) (aggregateId : Int)
    (acc : MemberLoop) : CounterObservation where
  routerId := routerId
  interfaceId := aggregateId
  rxCounter := acc.aggregateRx
  txCounter := acc.aggregateTx
  observedAtMs := data.counterSampleTime.unixMs
  monotonic := data.counterSampleTime.monotonic
  uptimeSeconds := data.uptimeSeconds
  memberSignature := some (aggregateSignature acc.aggregateMembers)
  forcedGap :=
    if acc.aggregateContinuous then none
    else some ("wan_member_discontinuity",
      "one or more aggregate WAN members lacked an exact interval")

/-- Record the aggregate when every member was read, or drop its baseline. -/
def persistAggregate (outcomes : StorageOutcomes) (routerId : Int) (data : RouterData)
    (aggregateId : Int) (acc : MemberLoop) : List ExactTrafficError × PollerState :=
  if acc.aggregateComplete then
    match persistCounterObservation outcomes
        (aggregateObservation routerId data aggregateId acc) acc.state with
    | (.ok _, state) => (acc.errors, state)
    | (.error error, state) => (acc.errors ++ [.aggregateNotPersisted error], state)
  else
    (acc.errors, { acc.state with baselines := acc.state.baselines.remove aggregateId })

/-- `persist_exact_traffic`. -/
def persistExactTraffic (outcomes : TickOutcomes) (routerId : Int) (data : RouterData)
    (wanNames : List String) (s : PollerState) :
    DatabaseResult ExactPersistenceResult × PollerState :=
  match outcomes.aggregateUpsert.run (upsertRouterInterface routerId aggregateInterfaceKey
      "Aggregate" "aggregate" none data.counterSampleTime.unixMs) s.db with
  | (.error error, db) => (.error error, { s with db := db })
  | (.ok aggregate, db) =>
      let acc := sampleMembers outcomes.members routerId data 0 wanNames
        (MemberLoop.start { s with db := db } aggregate.id wanNames)
      let (errors, state) := persistAggregate outcomes.aggregate routerId data aggregate.id acc
      (.ok ⟨routerId, aggregate.id, errors⟩,
        { state with
          baselines := state.baselines.retain (fun id => acc.activeInterfaceIds.contains id) })

/-! ## Ticks -/

/-- A tick: what was read, and the outcomes of its storage calls. -/
structure Tick where
  outcomes : TickOutcomes
  routerId : Int
  data : RouterData
  wanNames : List String

/-- The state after a tick. -/
def tickStep (s : PollerState) (tick : Tick) : PollerState :=
  (persistExactTraffic tick.outcomes tick.routerId tick.data tick.wanNames s).2

end RouterView.Poller
