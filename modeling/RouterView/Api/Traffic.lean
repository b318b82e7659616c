/-
  Api/Traffic.lean --- the traffic endpoint.

  `query_traffic` of `api/traffic.rs` and `query_traffic_history_cancellable` of
  `db/traffic_v4.rs`: the checks of a request, the choice of the router and of the
  interface, and the response.

  What interrupts a query is an argument of the endpoint: that no permit is left, the
  shutdown, the deadline, a connection that fails, a panic.  Which of them comes is open;
  the number of permits, the clock of the deadline and the progress handler, which decide
  it, are left out, and so is the extractor that parses the query string.
-/
import Mathlib.Data.List.Destutter
import Mathlib.Data.Prod.Lex
import Mathlib.Data.String.Basic
import RouterView.Foundation.Json
import RouterView.Foundation.Keys
import RouterView.Foundation.Text
import RouterView.Db.Interfaces
import RouterView.Db.Query
import RouterView.Db.Routers

set_option autoImplicit false

namespace RouterView.Db

open RouterView.Foundation

/-! ## Selections -/

/-- `ORDER BY last_seen_at_ms DESC, id DESC`. -/
def seenKey (lastSeenAtMs id : Int) : Intᵒᵈ ×ₗ Intᵒᵈ :=
  toLex (OrderDual.toDual lastSeenAtMs, OrderDual.toDual id)

/-- The order of the statements that take the router last seen. -/
def RouterRecord.seenKey (r : RouterRecord) : Intᵒᵈ ×ₗ Intᵒᵈ := Db.seenKey r.lastSeenAtMs r.id

/-- The order of the statement that takes the interface last seen. -/
def RouterInterfaceRecord.seenKey (i : RouterInterfaceRecord) : Intᵒᵈ ×ₗ Intᵒᵈ :=
  Db.seenKey i.lastSeenAtMs i.id

/-- The key of the aggregate interface. -/
def aggregateKey : String := "__aggregate__"

/-- The order of the statement for the aggregate: the interface of that key first. -/
def RouterInterfaceRecord.aggregateOrder (i : RouterInterfaceRecord) :
    Nat ×ₗ Intᵒᵈ ×ₗ Intᵒᵈ :=
  toLex (if i.interfaceKey = aggregateKey then 0 else 1, i.seenKey)

/-- `ORDER BY name COLLATE NOCASE, interface_key, id`. -/
def RouterInterfaceRecord.listOrder (i : RouterInterfaceRecord) : String ×ₗ String ×ₗ Int :=
  toLex (toAsciiLowercase i.name, toLex (i.interfaceKey, i.id))

/-- The kind of an aggregate interface. -/
def RouterInterfaceRecord.isAggregate (i : RouterInterfaceRecord) : Bool :=
  decide (i.kind = "aggregate")

/-- `TrafficInterfaceSelector`. -/
inductive TrafficInterfaceSelector where
  | aggregate
  | interfaceKey (key : String)
  | wanName (name : String)
  deriving DecidableEq, Repr

namespace TrafficDb

variable (db : TrafficDb)

/-- The router has a sample or a rollup. -/
def hasTraffic (r : RouterRecord) : Bool :=
  db.trafficSamples.rows.any (fun s => decide (s.routerId = r.id)) ||
    db.trafficRollups.rows.any (fun rollup => decide (rollup.routerId = r.id))

/-- `current_router_for_target_on_connection`: the router of the target, or else the one
with traffic that was seen last. -/
def currentRouterForTarget (fallbackTarget : String) : DatabaseResult (Option RouterRecord) := do
  let target := trim fallbackTarget
  ensure (target.isEmpty = false) (.invalidCommand "router fallback target must not be empty")
  return (db.routerByFallbackTarget target).or
    (minByKey RouterRecord.seenKey (db.routers.rows.filter db.hasTraffic))

/-- The interfaces of a router that are not aggregates. -/
def wanInterfacesOf (routerId : Int) : List RouterInterfaceRecord :=
  db.routerInterfaces.rows.filter (fun i => decide (i.routerId = routerId) && !i.isAggregate)

/-- `traffic_interface_for_query_on_connection`. -/
def trafficInterfaceForQuery (routerId : Int) : Option String → Option RouterInterfaceRecord
  | some name =>
      minByKey RouterInterfaceRecord.seenKey
        ((db.wanInterfacesOf routerId).filter (fun i => decide (i.name = name)))
  | none =>
      minByKey RouterInterfaceRecord.aggregateOrder
        (db.routerInterfaces.rows.filter (fun i => decide (i.routerId = routerId) && i.isAggregate))

/-- The interface that a selector names. -/
def selectInterface (routerId : Int) : TrafficInterfaceSelector → Option RouterInterfaceRecord
  | .interfaceKey key => db.interfaceByKey routerId key
  | .wanName name => db.trafficInterfaceForQuery routerId (some name)
  | .aggregate => db.trafficInterfaceForQuery routerId none

/-- `router_wan_interfaces_on_connection`. -/
def routerWanInterfaces (routerId : Int) : List RouterInterfaceRecord :=
  sortByKey RouterInterfaceRecord.listOrder (db.wanInterfacesOf routerId)

end TrafficDb

/-! ## History -/

/-- `TrafficHistoryRequest`. -/
structure TrafficHistoryRequest where
  fallbackTarget : String
  selector : TrafficInterfaceSelector
  fromMs : Int
  toMs : Int
  maxPoints : Nat
  deriving DecidableEq, Repr

/-- The query of a request over an interface of a router. -/
def TrafficHistoryRequest.query (request : TrafficHistoryRequest) (routerId interfaceId : Int) :
    TrafficQuery :=
  ⟨routerId, interfaceId, request.fromMs, request.toMs, request.maxPoints⟩

/-- `TrafficHistorySnapshot`. -/
structure TrafficHistorySnapshot where
  router : RouterRecord
  interface : RouterInterfaceRecord
  wanInterfaces : List RouterInterfaceRecord
  result : TrafficQueryResult
  deriving DecidableEq, Repr

/-- `TrafficHistoryLookup`. -/
inductive TrafficHistoryLookup where
  | routerNotFound
  | interfaceNotFound
  | found (snapshot : TrafficHistorySnapshot)
  deriving DecidableEq, Repr

/-- `query_traffic_history_cancellable`, of a query that is not interrupted. -/
def queryTrafficHistory (db : TrafficDb) (request : TrafficHistoryRequest) :
    DatabaseResult TrafficHistoryLookup := do
  validateTrafficQuery (request.query 0 0) maxTrafficSourceRows
  match ← db.currentRouterForTarget request.fallbackTarget with
  | none => return .routerNotFound
  | some router =>
      match db.selectInterface router.id request.selector with
      | none => return .interfaceNotFound
      | some interface => do
          let result ← queryTrafficV4OnConnection db (request.query router.id interface.id)
            maxTrafficSourceRows
          return .found ⟨router, interface, db.routerWanInterfaces router.id, result⟩

end RouterView.Db

namespace RouterView.Api

open RouterView.Db
open RouterView.Foundation

/-! ## Errors -/

/-- `AppError`, restricted to the variants of the endpoint. -/
inductive AppError where
  | invalidData (message : String)
  | invalidRequest (status : Nat) (code message : String)
  | rateLimited (retryAfterSecs : Nat)
  | database
  | internal (message : String)
  deriving DecidableEq, Repr

/-- The status of `AppError::into_response`. -/
def AppError.status : AppError → Nat
  | .invalidData _ => 422
  | .invalidRequest status _ _ => status
  | .rateLimited _ => 429
  | .database => 500
  | .internal _ => 500

/-- The code of `AppError::into_response`. -/
def AppError.code : AppError → String
  | .invalidData _ => "invalid_data"
  | .invalidRequest _ code _ => code
  | .rateLimited _ => "rate_limited"
  | .database => "database_error"
  | .internal _ => "internal_error"

/-- `map_database_error`, of the errors of a query that is not interrupted. -/
def mapDatabaseError : DatabaseError → AppError
  | .sqlite => .database
  | .invalidCommand message => .invalidData message
  | .trafficQueryTooLarge maxSourceRows =>
      .invalidRequest 422 "traffic_query_too_large"
        s!"Traffic query matches more than {maxSourceRows} source rows; request a narrower time range or wait for traffic rollup"
  | .verification message => .internal s!"database verification failed: {message}"

/-- `traffic_not_found`. -/
def trafficNotFound (message : String) : AppError :=
  .invalidRequest 404 "traffic_history_not_found" message

/-! ## Requests -/

/-- `DEFAULT_MAX_POINTS`. -/
def defaultMaxPoints : Nat := 1200

/-- `MAX_POINTS`. -/
def maxPoints : Nat := 5000

/-- `MAX_RANGE_MS`. -/
def maxRangeMs : Int := 90 * 86400 * 1000

/-- `TrafficQueryParams`; the two ends are 64-bit integers, as the extractor reads them. -/
structure TrafficQueryParams where
  start : Int
  stop : Int
  wanName : Option String
  interfaceId : Option String
  maxPoints : Nat
  start_isI64 : IsI64 start
  stop_isI64 : IsI64 stop

/-- A name that cannot be asked for. -/
def badName (name : String) : Bool := name.isEmpty || decide (255 < name.utf8ByteSize)

/-- The selector of the names of a request. -/
def selectorOf : Option String → Option String → TrafficInterfaceSelector
  -- Both at once were refused before.
  | some interfaceId, _ => .interfaceKey interfaceId
  | none, some wanName => .wanName wanName
  | none, none => .aggregate

/-- The selector that the trimmed names of a request give. -/
def TrafficQueryParams.selector (params : TrafficQueryParams) : TrafficInterfaceSelector :=
  selectorOf (params.interfaceId.map trim) (params.wanName.map trim)

/-- The checks of `query_traffic`. -/
def checkTrafficParams (params : TrafficQueryParams) : Except AppError Unit := do
  let rangeMs ← okOr (toI64? (params.stop - params.start))
    (.invalidData "traffic time range cannot be represented")
  ensure (¬ rangeMs ≤ 0) (.invalidData "end must be greater than start")
  ensure (¬ rangeMs > maxRangeMs) (.invalidData "time range exceeds 90 days")
  ensure (1 ≤ params.maxPoints ∧ params.maxPoints ≤ maxPoints)
    (.invalidData s!"max_points must be between 1 and {maxPoints}")
  let wanName := params.wanName.map trim
  let interfaceId := params.interfaceId.map trim
  ensure (¬ (wanName.isSome = true ∧ interfaceId.isSome = true))
    (.invalidData "wan_name and interface_id cannot be combined")
  ensure (wanName.any badName = false)
    (.invalidData "wan_name must contain between 1 and 255 characters")
  ensure (interfaceId.any badName = false)
    (.invalidData "interface_id must contain between 1 and 255 characters")

/-! ## Responses -/

/-- `RouterMetadataResponse`. -/
structure RouterMetadataResponse where
  id : String
  hardwareIdentity : Option String
  fallbackTarget : String
  identitySource : String
  firstSeenAtMs : Int
  lastSeenAtMs : Int
  deriving DecidableEq, Repr

/-- `InterfaceMetadataResponse`. -/
structure InterfaceMetadataResponse where
  id : String
  name : String
  kind : String
  hardwareId : Option String
  aggregate : Bool
  firstSeenAtMs : Int
  lastSeenAtMs : Int
  deriving DecidableEq, Repr

/-- `TrafficPointResponse`. -/
structure TrafficPointResponse where
  timestampMs : Int
  startedAtMs : Int
  endedAtMs : Int
  durationMs : Int
  downloadBps : F64
  uploadBps : F64
  downloadBytes : String
  uploadBytes : String
  exactDownloadBytes : String
  exactUploadBytes : String
  estimatedDownloadBytes : String
  estimatedUploadBytes : String
  exactDurationMs : Int
  estimatedDurationMs : Int
  sampleCount : Int
  estimated : Bool
  complete : Bool
  wanName : Option String
  deriving DecidableEq, Repr

/-- `TrafficTotalsResponse`. -/
structure TrafficTotalsResponse where
  downloadBytes : String
  uploadBytes : String
  exactDownloadBytes : String
  exactUploadBytes : String
  estimatedDownloadBytes : String
  estimatedUploadBytes : String
  estimated : Bool
  complete : Bool
  coverageRatio : F64
  deriving DecidableEq, Repr

/-- `TrafficResponse`. -/
structure TrafficResponse where
  schemaVersion : Nat
  router : RouterMetadataResponse
  interface : InterfaceMetadataResponse
  wanInterfaces : List InterfaceMetadataResponse
  wanNames : List String
  points : List TrafficPointResponse
  totals : TrafficTotalsResponse
  coverage : TrafficCoverage
  bucketSizeMs : Int
  intervalSecs : Int
  deriving DecidableEq, Repr

/-- `add_decimal_bytes`. -/
def addDecimalBytes (left right : String) : Except AppError String := do
  let left ← okOr (parseU128 left) (.internal "database returned an invalid byte total")
  let right ← okOr (parseU128 right) (.internal "database returned an invalid byte total")
  ensure (left + right < 2 ^ 128) (.internal "traffic byte total overflowed")
  return toString (left + right)

/-- `traffic_point_response`. -/
def trafficPointResponse (point : TrafficBucket) (wanName : Option String) :
    Except AppError TrafficPointResponse := do
  let downloadBytes ← addDecimalBytes point.exactDownloadBytes point.estimatedDownloadBytes
  let uploadBytes ← addDecimalBytes point.exactUploadBytes point.estimatedUploadBytes
  let durationMs := satAdd point.exactDurationMs point.estimatedDurationMs
  let bucketDurationMs := satSub point.endedAtMs point.startedAtMs
  return {
    timestampMs := point.startedAtMs
    startedAtMs := point.startedAtMs
    endedAtMs := point.endedAtMs
    durationMs := durationMs
    downloadBps := point.downloadBps
    uploadBps := point.uploadBps
    downloadBytes := downloadBytes
    uploadBytes := uploadBytes
    exactDownloadBytes := point.exactDownloadBytes
    exactUploadBytes := point.exactUploadBytes
    estimatedDownloadBytes := point.estimatedDownloadBytes
    estimatedUploadBytes := point.estimatedUploadBytes
    exactDurationMs := point.exactDurationMs
    estimatedDurationMs := point.estimatedDurationMs
    sampleCount := point.sampleCount
    estimated := decide (point.estimatedDurationMs > 0 ∨ point.estimatedDownloadBytes ≠ "0"
      ∨ point.estimatedUploadBytes ≠ "0")
    complete := decide (durationMs = bucketDurationMs)
    wanName := wanName }

/-- `traffic_totals_response`. -/
def trafficTotalsResponse (totals : TrafficTotals) (coverage : TrafficCoverage) :
    TrafficTotalsResponse where
  downloadBytes := totals.downloadBytes
  uploadBytes := totals.uploadBytes
  exactDownloadBytes := totals.exactDownloadBytes
  exactUploadBytes := totals.exactUploadBytes
  estimatedDownloadBytes := totals.estimatedDownloadBytes
  estimatedUploadBytes := totals.estimatedUploadBytes
  estimated := decide (coverage.estimatedDurationMs > 0 ∨ totals.estimatedDownloadBytes ≠ "0"
    ∨ totals.estimatedUploadBytes ≠ "0")
  complete := decide (coverage.coveredDurationMs = coverage.requestedDurationMs)
  coverageRatio := coverage.completeness

/-- The metadata of a router. -/
def routerMetadataResponse (router : RouterRecord) : RouterMetadataResponse where
  id := router.internalUuid
  hardwareIdentity := router.hardwareIdentity
  fallbackTarget := router.fallbackTarget
  identitySource := router.identitySource
  firstSeenAtMs := router.firstSeenAtMs
  lastSeenAtMs := router.lastSeenAtMs

/-- `interface_metadata_response`. -/
def interfaceMetadataResponse (interface : RouterInterfaceRecord) :
    InterfaceMetadataResponse where
  id := interface.interfaceKey
  name := interface.name
  kind := interface.kind
  hardwareId := interface.hardwareId
  aggregate := interface.isAggregate
  firstSeenAtMs := interface.firstSeenAtMs
  lastSeenAtMs := interface.lastSeenAtMs

/-- The names of a selector: sorted, and each of them once. -/
def wanNamesOf (wanInterfaces : List RouterInterfaceRecord) : List String :=
  ((wanInterfaces.map (fun candidate => candidate.name)).insertionSort (· ≤ ·)).destutter (· ≠ ·)

/-- `build_traffic_response`. -/
def buildTrafficResponse (snapshot : TrafficHistorySnapshot) : Except AppError TrafficResponse := do
  let ⟨router, interface, wanInterfaces, result⟩ := snapshot
  let selectedWanName := if interface.isAggregate then none else some interface.name
  let points ← result.points.mapM (fun point => trafficPointResponse point selectedWanName)
  let seconds := (satAdd result.bucketSizeMs 999).tdiv 1000
  ensure (0 ≤ seconds ∧ seconds < 2 ^ 32)
    (.internal "traffic bucket size exceeds API limits")
  return {
    schemaVersion := 4
    router := routerMetadataResponse router
    interface := interfaceMetadataResponse interface
    wanInterfaces := wanInterfaces.map interfaceMetadataResponse
    wanNames := wanNamesOf wanInterfaces
    points := points
    totals := trafficTotalsResponse result.totals result.coverage
    coverage := result.coverage
    bucketSizeMs := result.bucketSizeMs
    intervalSecs := max seconds 1 }

/-! ## Serialisation -/

/-- A text or `null`. -/
def textOrNull (text : Option String) : Json := Json.nullable (text.map Json.string)

/-- The items of a `Vec`. -/
def arrayJson {α : Type} (toJson : α → Json) (items : List α) : Json := .array (items.map toJson)

def RouterMetadataResponse.toJson (r : RouterMetadataResponse) : Json :=
  .object [
    ("id", .string r.id),
    ("hardware_identity", textOrNull r.hardwareIdentity),
    ("fallback_target", .string r.fallbackTarget),
    ("identity_source", .string r.identitySource),
    ("first_seen_at_ms", Json.ofInt r.firstSeenAtMs),
    ("last_seen_at_ms", Json.ofInt r.lastSeenAtMs)]

def InterfaceMetadataResponse.toJson (i : InterfaceMetadataResponse) : Json :=
  .object [
    ("id", .string i.id),
    ("name", .string i.name),
    ("kind", .string i.kind),
    ("hardware_id", textOrNull i.hardwareId),
    ("aggregate", .bool i.aggregate),
    ("first_seen_at_ms", Json.ofInt i.firstSeenAtMs),
    ("last_seen_at_ms", Json.ofInt i.lastSeenAtMs)]

def TrafficPointResponse.toJson (p : TrafficPointResponse) : Json :=
  .object [
    ("timestamp_ms", Json.ofInt p.timestampMs),
    ("started_at_ms", Json.ofInt p.startedAtMs),
    ("ended_at_ms", Json.ofInt p.endedAtMs),
    ("duration_ms", Json.ofInt p.durationMs),
    ("download_bps", Json.ofF64 p.downloadBps),
    ("upload_bps", Json.ofF64 p.uploadBps),
    ("download_bytes", .string p.downloadBytes),
    ("upload_bytes", .string p.uploadBytes),
    ("exact_download_bytes", .string p.exactDownloadBytes),
    ("exact_upload_bytes", .string p.exactUploadBytes),
    ("estimated_download_bytes", .string p.estimatedDownloadBytes),
    ("estimated_upload_bytes", .string p.estimatedUploadBytes),
    ("exact_duration_ms", Json.ofInt p.exactDurationMs),
    ("estimated_duration_ms", Json.ofInt p.estimatedDurationMs),
    ("sample_count", Json.ofInt p.sampleCount),
    ("estimated", .bool p.estimated),
    ("complete", .bool p.complete),
    ("wan_name", textOrNull p.wanName)]

def TrafficTotalsResponse.toJson (t : TrafficTotalsResponse) : Json :=
  .object [
    ("download_bytes", .string t.downloadBytes),
    ("upload_bytes", .string t.uploadBytes),
    ("exact_download_bytes", .string t.exactDownloadBytes),
    ("exact_upload_bytes", .string t.exactUploadBytes),
    ("estimated_download_bytes", .string t.estimatedDownloadBytes),
    ("estimated_upload_bytes", .string t.estimatedUploadBytes),
    ("estimated", .bool t.estimated),
    ("complete", .bool t.complete),
    ("coverage_ratio", Json.ofF64 t.coverageRatio)]

def coverageJson (c : TrafficCoverage) : Json :=
  .object [
    ("requested_duration_ms", Json.ofInt c.requestedDurationMs),
    ("exact_duration_ms", Json.ofInt c.exactDurationMs),
    ("estimated_duration_ms", Json.ofInt c.estimatedDurationMs),
    ("covered_duration_ms", Json.ofInt c.coveredDurationMs),
    ("completeness", Json.ofF64 c.completeness),
    ("gap_count", Json.ofInt c.gapCount)]

def TrafficResponse.toJson (r : TrafficResponse) : Json :=
  .object [
    ("schema_version", Json.ofInt r.schemaVersion),
    ("router", r.router.toJson),
    ("interface", r.interface.toJson),
    ("wan_interfaces", arrayJson InterfaceMetadataResponse.toJson r.wanInterfaces),
    ("wan_names", arrayJson Json.string r.wanNames),
    ("points", arrayJson TrafficPointResponse.toJson r.points),
    ("totals", r.totals.toJson),
    ("coverage", coverageJson r.coverage),
    ("bucket_size_ms", Json.ofInt r.bucketSizeMs),
    ("interval_secs", Json.ofInt r.intervalSecs)]

/-! ## The endpoint -/

/-- The message for an interface that has no history. -/
def interfaceNotFoundMessage : TrafficInterfaceSelector → String
  | .interfaceKey interfaceId => s!"interface '{interfaceId}' has no traffic history"
  | .wanName name => s!"WAN interface '{name}' has no traffic history"
  | .aggregate => "aggregate traffic history has not been initialized"

/-- The request for the history of checked parameters. -/
def TrafficQueryParams.request (params : TrafficQueryParams) (routerHost : String) :
    TrafficHistoryRequest :=
  ⟨routerHost, params.selector, params.start, params.stop, params.maxPoints⟩

/-- The task of a query that is not interrupted. -/
def queryTask (db : TrafficDb) (routerHost : String) (params : TrafficQueryParams) :
    Except AppError TrafficResponse := do
  match ← (queryTrafficHistory db (params.request routerHost)).mapError mapDatabaseError with
  | .routerNotFound => throw (trafficNotFound "traffic history has not been initialized")
  | .interfaceNotFound => throw (trafficNotFound (interfaceNotFoundMessage params.selector))
  | .found snapshot => buildTrafficResponse snapshot

/-- `TRAFFIC_QUERY_DEADLINE`, in seconds. -/
def trafficQueryDeadlineSecs : Nat := 10

/-- `traffic_query_unavailable`. -/
def trafficQueryUnavailable : AppError :=
  .invalidRequest 503 "traffic_query_cancelled"
    "Traffic query was cancelled because the server is shutting down"

/-- `traffic_query_timed_out`. -/
def trafficQueryTimedOut : AppError :=
  .invalidRequest 504 "traffic_query_timeout"
    s!"Traffic query exceeded the {trafficQueryDeadlineSecs} second processing limit"

/-- What comes between a request and the result of its task: every permit is taken; the
shutdown or the deadline comes first, which the endpoint or the query itself notices; the
connection of the query fails; the task panics. -/
inductive QueryInterruption where
  | noPermit
  | shutdown
  | deadline
  | connection
  | panic (message : String)
  deriving DecidableEq, Repr

/-- The answer to a request that is interrupted. -/
def QueryInterruption.error : QueryInterruption → AppError
  | .noPermit => .rateLimited 1
  | .shutdown => trafficQueryUnavailable
  | .deadline => trafficQueryTimedOut
  | .connection => mapDatabaseError .sqlite
  | .panic message => .internal s!"traffic query task failed: {message}"

/-- `query_traffic`. -/
def queryTraffic (db : TrafficDb) (routerHost : String) (params : TrafficQueryParams)
    (interruption : Option QueryInterruption) : Except AppError TrafficResponse := do
  checkTrafficParams params
  match interruption with
  | some interruption => throw interruption.error
  | none => queryTask db routerHost params

end RouterView.Api
