/-
  Api/Probes.lean --- the targets of the latency probes.

  `api/probes.rs` with the statements of `db/mod.rs` that it calls: the check of a
  list of targets, the table that holds them, and the list that the poll engine
  reads.  Two requests replace the targets; each takes the write lock of the list,
  stores its targets in one transaction and publishes what is stored.  A step is what
  a request does between two points at which another one can run.

  Left out: the JSON of the bodies, and the lock of the database connection.  A client that
  goes away drops its request while it waits for the write lock; a request that holds the
  lock awaits nothing until it has published.
-/
import RouterView.Api.Traffic
import RouterView.Auth.ClientIp
import RouterView.Config.Publication
import RouterView.Foundation.Checked
import RouterView.Foundation.Ipv6Print
import RouterView.Foundation.Pending
import RouterView.Maintenance.Export

set_option autoImplicit false

namespace RouterView.Api

open RouterView.Foundation
open RouterView.Auth (parseIpAddr)
open RouterView.Config (SaveOutcome)
open RouterView.Maintenance (ProbeTargetRow)
open RouterView.Ws (IpAddr)

/-! ## The check -/

/-- `MAX_PROBE_TARGETS`. -/
def maxProbeTargets : Nat := 32

/-- `MAX_PROBE_NAME_CHARS`. -/
def maxProbeNameChars : Nat := 64

/-- `MAX_PROBE_HOST_BYTES`. -/
def maxProbeHostBytes : Nat := 253

/-- `PROBE_CATEGORIES`. -/
def probeCategories : List String := ["dns", "cloud", "cdn", "repo", "isp", "custom"]

/-- `ProbeTargetInput`. -/
structure ProbeTargetInput where
  name : String
  host : String
  category : String
  deriving DecidableEq, Repr

/-- `IpAddr` printed. -/
def showIpAddr : IpAddr → String
  | .V4 address => String.ofList (showIpv4 address)
  | .V6 address => String.ofList (showIpv6 address)

/-- `hostname.strip_suffix('.').unwrap_or(hostname)`. -/
def stripDot (host : List Char) : List Char :=
  if host.getLast? = some '.' then host.dropLast else host

/-- A label of a host name; it is ASCII, so its bytes are its characters. -/
def isHostLabel (label : List Char) : Bool :=
  !label.isEmpty && decide (label.length ≤ 63) && label.all (fun c => c.isAlphanum || c == '-') &&
    label.head?.any Char.isAlphanum && label.getLast?.any Char.isAlphanum

/-- `normalize_probe_host`. -/
def normalizeProbeHost (host : String) : Option String :=
  if host.isEmpty = true ∨ maxProbeHostBytes < host.utf8ByteSize then none
  else
    match parseIpAddr host with
    | some address => some (showIpAddr address)
    | none =>
        let hostname := stripDot host.toList
        if hostname.isEmpty || !(hostname.splitOn '.').all isHostLabel then none
        else some (toAsciiLowercase (String.ofList hostname))

/-- The check of one target, the hosts of the targets before it being given. -/
def checkProbeTarget (index : Nat) (hosts : List String) (target : ProbeTargetInput) :
    Except AppError ProbeTargetRow := do
  let name := trim target.name
  ensure (¬ (name.isEmpty = true ∨ maxProbeNameChars < name.length))
    (.invalidData s!"probe target {index + 1} name must contain 1..={maxProbeNameChars} characters")
  let host ← okOr (normalizeProbeHost (trim target.host))
    (.invalidData s!"probe target {index + 1} host must be an IP address or valid DNS hostname up to {maxProbeHostBytes} bytes")
  ensure (host ∉ hosts) (.invalidData s!"probe target {index + 1} duplicates host '{host}'")
  let category := trim target.category
  ensure (category ∈ probeCategories)
    (.invalidData s!"probe target {index + 1} category is not supported")
  return ⟨0, name, host, category, index⟩

/-- The targets from an index on. -/
def checkProbeTargets : Nat → List String → List ProbeTargetInput →
    Except AppError (List ProbeTargetRow)
  | _, _, [] => .ok []
  | index, hosts, target :: rest => do
      let row ← checkProbeTarget index hosts target
      let rows ← checkProbeTargets (index + 1) (row.host :: hosts) rest
      return row :: rows

/-- `validate_probe_targets`. -/
def validateProbeTargets (targets : List ProbeTargetInput) :
    Except AppError (List ProbeTargetRow) := do
  ensure (targets ≠ []) (.invalidData "at least one probe target is required")
  ensure (targets.length ≤ maxProbeTargets)
    (.invalidData s!"probe targets cannot exceed {maxProbeTargets} entries")
  checkProbeTargets 0 [] targets

/-! ## The table -/

/-- The table `probe_targets`, with the last identifier that it gave. -/
structure ProbeDb where
  rows : List ProbeTargetRow
  lastId : Int
  deriving DecidableEq, Repr

/-- `query_probe_targets`. -/
def ProbeDb.queryProbeTargets (db : ProbeDb) : List ProbeTargetRow :=
  db.rows.mergeSort
    (fun a b => decide (a.sortOrder < b.sortOrder ∨ (a.sortOrder = b.sortOrder ∧ a.id ≤ b.id)))

/-- The insertion of a row. -/
def ProbeDb.insert (db : ProbeDb) (target : ProbeTargetRow) : ProbeDb :=
  ⟨db.rows ++ [{ target with id := db.lastId + 1 }], db.lastId + 1⟩

/-- `replace_all_probe_targets`, the transaction. -/
def ProbeDb.replaceAllProbeTargets (targets : List ProbeTargetRow) (db : ProbeDb) : ProbeDb :=
  targets.foldl ProbeDb.insert { db with rows := [] }

/-- `default_latency_probe_targets`, without servers of the router. -/
def defaultLatencyProbeTargets : List ProbeTargetInput :=
  [⟨"Cloudflare DNS", "1.1.1.1", "dns"⟩,
    ⟨"Google DNS", "8.8.8.8", "dns"⟩,
    ⟨"Quad9 DNS", "9.9.9.9", "dns"⟩,
    ⟨"AliDNS", "223.5.5.5", "dns"⟩,
    ⟨"DNSPod", "119.29.29.29", "dns"⟩,
    ⟨"AWS", "amazon.com", "cloud"⟩,
    ⟨"Azure", "azure.microsoft.com", "cloud"⟩,
    ⟨"Alibaba Cloud", "aliyun.com", "cloud"⟩,
    ⟨"Tencent Cloud", "cloud.tencent.com", "cloud"⟩,
    ⟨"Cloudflare", "cloudflare.com", "cdn"⟩,
    ⟨"Akamai", "akamai.com", "cdn"⟩,
    ⟨"Fastly", "fastly.com", "cdn"⟩,
    ⟨"GitHub", "github.com", "repo"⟩,
    ⟨"Docker Hub", "hub.docker.com", "repo"⟩,
    ⟨"npm Registry", "registry.npmjs.org", "repo"⟩,
    ⟨"crates.io", "crates.io", "repo"⟩,
    ⟨"Cloudflare DNS v6", "2606:4700:4700::1111", "dns"⟩,
    ⟨"Google DNS v6", "2001:4860:4860::8888", "dns"⟩,
    ⟨"Quad9 DNS v6", "2620:fe::fe", "dns"⟩]

/-- The rows that `insert_default_probe_targets` inserts. -/
def defaultProbeTargetRows : List ProbeTargetRow :=
  defaultLatencyProbeTargets.mapIdx
    (fun i target => ⟨0, target.name, target.host, target.category, i⟩)

/-- `reset_probe_targets`, the transaction. -/
def ProbeDb.resetProbeTargets (db : ProbeDb) : ProbeDb :=
  db.replaceAllProbeTargets defaultProbeTargetRows

/-- `seed_default_probe_targets_inner`. -/
def ProbeDb.seedDefaultProbeTargets (db : ProbeDb) : ProbeDb :=
  if 0 < db.rows.length then db else defaultProbeTargetRows.foldl ProbeDb.insert db

/-! ## The requests -/

/-- A target as the poll engine reads it. -/
structure ProbeTarget where
  name : String
  host : String
  category : String
  deriving DecidableEq, Repr

/-- `runtime_probe_targets`, which the start of the process does as well. -/
def runtimeProbeTargets (rows : List ProbeTargetRow) : List ProbeTarget :=
  rows.map (fun r => ⟨r.name, r.host, r.category⟩)

/-- A request for other targets. -/
inductive ProbeRequest where
  /-- `PUT /api/probes`. -/
  | update (body : List ProbeTargetInput)
  /-- `POST /api/probes/reset`. -/
  | reset
  deriving DecidableEq, Repr

/-- What a request stores. -/
inductive ProbeWrite where
  | replaceAll (rows : List ProbeTargetRow)
  | reset
  deriving DecidableEq, Repr

/-- Its transaction. -/
def ProbeWrite.store : ProbeWrite → ProbeDb → ProbeDb
  | .replaceAll rows, db => db.replaceAllProbeTargets rows
  | .reset, db => db.resetProbeTargets

/-- Where a request stands. -/
inductive ProbePhase where
  | absent
  /-- It waits for the write lock. -/
  | waiting (write : ProbeWrite)
  | holding (write : ProbeWrite)
  /-- Its transaction returned, and the list is not published. -/
  | stored (rows : List ProbeTargetRow)
  | answered (answer : Except AppError (List ProbeTargetRow))
  | dropped

/-- The running process: the table, the list that the engine reads, the request that
holds its write lock, and the requests. -/
structure ProbeServer where
  db : ProbeDb
  live : List ProbeTarget
  lock : Option Nat
  requests : Phases ProbePhase

namespace ProbeServer

/-- The start of the process on a database. -/
def start (db : ProbeDb) : ProbeServer :=
  let seeded := db.seedDefaultProbeTargets
  ⟨seeded, runtimeProbeTargets seeded.queryProbeTargets, none, .all .absent⟩

abbrev setPhase (s : ProbeServer) (i : Nat) (phase : ProbePhase) : ProbeServer :=
  { s with requests := s.requests.set i phase }

/-- What happens. -/
inductive Event where
  | arrive (i : Nat) (request : ProbeRequest)
  | acquire (i : Nat)
  | store (i : Nat) (outcome : SaveOutcome)
  | publish (i : Nat)
  /-- The client goes away while its request waits. -/
  | drop (i : Nat)
  /-- The process ends, and starts again on its database. -/
  | restart

/-- A request that arrives: its body is checked before it waits. -/
def arrive (i : Nat) (request : ProbeRequest) (s : ProbeServer) : ProbeServer :=
  match request with
  | .reset => s.setPhase i (.waiting .reset)
  | .update body =>
      match validateProbeTargets body with
      | .ok rows => s.setPhase i (.waiting (.replaceAll rows))
      | .error e => s.setPhase i (.answered (.error e))

/-- The transaction of the request that holds the lock, which is released if it fails. -/
def store (i : Nat) (write : ProbeWrite) (outcome : SaveOutcome) (s : ProbeServer) : ProbeServer :=
  match outcome with
  | .returned =>
      let db := write.store s.db
      { s with db := db }.setPhase i (.stored db.queryProbeTargets)
  | .failed => { s with lock := none }.setPhase i (.answered (.error .database))
  | .unacknowledged =>
      { s with db := write.store s.db, lock := none }.setPhase i (.answered (.error .database))

/-- A step. -/
def step (s : ProbeServer) : Event → ProbeServer
  | .arrive i request =>
      match s.requests i with
      | .absent => s.arrive i request
      | _ => s
  | .acquire i =>
      match s.requests i, s.lock with
      | .waiting write, none => { s with lock := some i }.setPhase i (.holding write)
      | _, _ => s
  | .store i outcome =>
      match s.requests i with
      | .holding write => s.store i write outcome
      | _ => s
  | .publish i =>
      match s.requests i with
      | .stored rows =>
          { s with live := runtimeProbeTargets rows, lock := none }.setPhase i (.answered (.ok rows))
      | _ => s
  | .drop i =>
      match s.requests i with
      | .waiting _ => s.setPhase i .dropped
      | _ => s
  | .restart => start s.db

/-- `list_probes`, at any moment. -/
def listProbes (s : ProbeServer) : List ProbeTargetRow := s.db.queryProbeTargets

end ProbeServer

end RouterView.Api
