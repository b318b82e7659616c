/-
  Poller/Probes.lean --- the latency probes.

  The probe tasks of `poller/engine.rs` with `record_probe_results`, next to the requests
  that replace the targets.  A batch pings a copy of the targets, a few at a time; the
  loop starts no batch while one runs, and records the results of the batch that ended.
  What the network answers is given with each step.

  Left out: the ICMP client, the lookup of host names, and the time that a ping takes; a
  round trip is a number that comes with the step.  Numbers are printed by an argument.
-/
import RouterView.Api.ProbesSpec
import RouterView.Config.Merged
import RouterView.Foundation.Collect
import RouterView.Ws.Protocol

set_option autoImplicit false

namespace RouterView.Poller

open RouterView.Api (ProbeServer ProbeTarget maxProbeTargets)
open RouterView.Auth (parseIpAddr)
open RouterView.Config (MergedConfig)
open RouterView.Foundation
open RouterView.Ws (IpAddr IspStability LatencyProbe)

/-! ## One target -/

/-- `PING_COUNT`. -/
def pingCount : Nat := 3

/-- `MAX_CONCURRENT_PROBES`. -/
def maxConcurrentProbes : Nat := 4

/-- What the probe of a target meets: the addresses that a lookup of its host gives, if
it gives any in time, the families for which there is an ICMP client, and the round trip
of each ping in milliseconds, if it is answered in time. -/
structure ProbeObservation where
  lookup : Option (List IpAddr)
  client : IpAddr → Bool
  pings : Fin pingCount → Option Rat

/-- The address is an IPv4 address. -/
def isV4 : IpAddr → Bool
  | .V4 _ => true
  | .V6 _ => false

/-- `resolve_host`: the first IPv4 address, or else the first one. -/
def resolveHost (host : String) (lookup : Option (List IpAddr)) : Option IpAddr :=
  match parseIpAddr host with
  | some ip => some ip
  | none =>
      match lookup with
      | some addresses => (addresses.find? isV4).or addresses.head?
      | none => none

/-- `send_n_pings`. -/
def sendNPings (observation : ProbeObservation) : List Rat :=
  (List.finRange pingCount).filterMap observation.pings

/-- `classify_latency`. -/
def classifyLatency (ms goodMs poorMs : Rat) : String :=
  if ms < goodMs then "good" else if ms < poorMs then "moderate" else "poor"

/-- `probe_one`. -/
def probeOne (goodMs poorMs : Rat) (observation : ProbeObservation) (target : ProbeTarget) :
    LatencyProbe :=
  let down : LatencyProbe := ⟨target.name, target.host, none, "down", target.category⟩
  let unknown : LatencyProbe := ⟨target.name, target.host, none, "unknown", target.category⟩
  match resolveHost target.host observation.lookup with
  | none => down
  | some ip =>
      if observation.client ip then
        let latencies := sendNPings observation
        let success := latencies.length
        if pingCount / 2 < success then
          let avgMs := latencies.sum / success
          ⟨target.name, target.host, some (.finite avgMs), classifyLatency avgMs goodMs poorMs,
            target.category⟩
        else down
      else unknown

/-! ## The assessment of a batch -/

/-- `ProbeQuality`. -/
inductive ProbeQuality where
  | good
  | degraded
  | down
  deriving DecidableEq, Repr

/-- The targets that answered. -/
def reachable (results : List LatencyProbe) : Nat := results.countP (·.latencyMs.isSome)

/-- `classify_probe_quality`. -/
def classifyProbeQuality (results : List LatencyProbe) : ProbeQuality :=
  let total := results.length
  if total = 0 then .good
  else
    let downCount := total - reachable results
    let poorCount := results.countP (·.status == "poor")
    let problemCount := poorCount + downCount
    if reachable results = 0 ∨ total / 2 < downCount then .down
    else if total / 3 < problemCount then .degraded
    else .good

/-! ## The loop -/

/-- A configuration that passed the check, as every one that is published. -/
def CheckedConfig : Type := {config : MergedConfig // config.validate = .ok ()}

/-- The number of assessments that are kept: those of half an hour, within bounds.  The
interval of a configuration that passed the check is not zero. -/
def maxEntries (config : CheckedConfig) : Nat :=
  max 10 (min (30 * 60 / config.val.probeIntervalSecs.toNat) 120)

/-- `latency_good_ms as f64`. -/
def latencyGoodMs (config : CheckedConfig) : Rat := (config.val.latencyGoodMs.toNat : Rat)

/-- `latency_poor_ms as f64`. -/
def latencyPoorMs (config : CheckedConfig) : Rat := (config.val.latencyPoorMs.toNat : Rat)

/-- The task of a batch, with the thresholds that it was started with. -/
structure ProbeBatch where
  goodMs : Rat
  poorMs : Rat
  probes : Collection ProbeTarget LatencyProbe

/-- The fields of `PollEngine` for the probes, the targets that the loop has read for the
next batch, and the task that it waits for.  The code does not store the assessments of
all batches since its start. -/
structure Prober where
  config : CheckedConfig
  offered : Option (List ProbeTarget)
  batch : Option ProbeBatch
  lastProbeResults : List LatencyProbe
  stabilityHistory : List ProbeQuality
  assessed : List ProbeQuality
  stopped : Bool

namespace Prober

/-- `PollEngine::new`. -/
def new (config : CheckedConfig) : Prober := ⟨config, none, none, [], [], [], false⟩

/-- The timer of the probes goes off, and the loop reads the targets. -/
def sweep (targets : List ProbeTarget) (s : Prober) : Prober :=
  if s.offered.isNone ∧ s.stopped = false then
    { s with offered := some (targets.take maxProbeTargets) }
  else s

/-- `start_probe_batch`: a batch that is running is not joined by another one. -/
def startProbeBatch (targets : List ProbeTarget) (s : Prober) : Prober :=
  match s.batch with
  | some _ => s
  | none =>
      { s with batch := some ⟨latencyGoodMs s.config, latencyPoorMs s.config,
          .new (targets.take maxProbeTargets)⟩ }

/-- The loop reads the thresholds and starts the batch. -/
def launch (s : Prober) : Prober :=
  match s.offered with
  | some targets => { s.startProbeBatch targets with offered := none }
  | none => s

/-- The task of the batch goes on. -/
def advance (progress : ProbeBatch → Collection ProbeTarget LatencyProbe) (s : Prober) : Prober :=
  { s with batch := s.batch.map (fun batch => { batch with probes := progress batch }) }

/-- `record_probe_results`. -/
def recordProbeResults (results : List LatencyProbe) (s : Prober) : Prober :=
  let quality := classifyProbeQuality results
  let history := s.stabilityHistory ++ [quality]
  { s with
    batch := none
    stabilityHistory := history.drop (history.length - maxEntries s.config)
    assessed := s.assessed ++ [quality]
    lastProbeResults := results }

/-- The loop joins the task of a batch that ended. -/
def join (s : Prober) : Prober :=
  match s.offered, s.batch with
  | none, some batch =>
      if batch.probes.Finished then s.recordProbeResults batch.probes.results else s
  | _, _ => s

/-- The loop joins the task of a batch that panicked. -/
def lose (s : Prober) : Prober :=
  if s.offered.isNone then { s with batch := none } else s

/-- The loop ends, and aborts the task. -/
def shutdown (s : Prober) : Prober :=
  if s.offered.isNone then { s with batch := none, stopped := true } else s

/-- `build_stability`, how a number is printed with a number of decimals being given. -/
def buildStability (printed : Nat → F64 → String) (s : Prober) : IspStability :=
  let total := s.stabilityHistory.length
  if total = 0 then ⟨.finite 100, [⟨"#22c55e", .finite 30, some "100%"⟩], 30⟩
  else
    let good := s.stabilityHistory.count .good
    let degraded := s.stabilityHistory.count .degraded
    let down := s.stabilityHistory.count .down
    let onlineRate : F64 := .finite (((good + degraded : Nat) : Rat) / (total : Rat) * 100)
    let windowMinutes := max (total * s.config.val.probeIntervalSecs.toNat / 60) 1
    ⟨onlineRate,
      [⟨"#22c55e", .finite good, some s!"{printed 1 onlineRate}%"⟩,
        ⟨"#f59e0b", .finite degraded,
          if 0 < degraded then some (printed 0 (.finite degraded)) else none⟩,
        ⟨"#6b7280", .finite down, none⟩],
      UInt32.ofNat windowMinutes⟩

end Prober

/-- What happens. -/
inductive ProbeEvent where
  /-- A step of the requests, or a restart. -/
  | server (event : ProbeServer.Event)
  | configure (config : CheckedConfig)
  | sweep
  | launch
  /-- The batch goes on with its next target. -/
  | start
  | answer (index : Nat) (observation : ProbeObservation)
  | join
  | lose
  | shutdown

/-- The process: the requests with the list of targets, and the probes. -/
structure ProbeSystem where
  server : ProbeServer
  prober : Prober

namespace ProbeSystem

/-- A process starts on a database without targets. -/
def new (lastId : Int) (config : CheckedConfig) : ProbeSystem :=
  ⟨.start ⟨[], lastId⟩, .new config⟩

/-- A step. -/
def step (s : ProbeSystem) : ProbeEvent → ProbeSystem
  | .server .restart => ⟨s.server.step .restart, .new s.prober.config⟩
  | .server event => { s with server := s.server.step event }
  | .configure config => { s with prober := { s.prober with config := config } }
  | .sweep =>
      -- The loop waits for a request that holds the write lock of the list.
      if s.server.lock = none then { s with prober := s.prober.sweep s.server.live } else s
  | .launch => { s with prober := s.prober.launch }
  | .start =>
      { s with prober := s.prober.advance (fun batch => batch.probes.start maxConcurrentProbes) }
  | .answer index observation =>
      { s with prober := s.prober.advance (fun batch =>
          batch.probes.finish index (probeOne batch.goodMs batch.poorMs observation)) }
  | .join => { s with prober := s.prober.join }
  | .lose => { s with prober := s.prober.lose }
  | .shutdown => { s with prober := s.prober.shutdown }

/-- The process after the events. -/
def after (lastId : Int) (config : CheckedConfig) (events : List ProbeEvent) : ProbeSystem :=
  run step (new lastId config) events

end ProbeSystem

end RouterView.Poller
