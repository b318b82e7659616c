/-
  Api/TrafficPage.lean --- what the page makes of a traffic response.

  The readers of `api/index.ts` down to `parseTrafficHistory`, and
  `resolveTrafficTotals` of `utils/trafficHistory.ts`.  A property that is `undefined` is
  `none`.  A number is the value of its text; that the page rounds a rate is not modelled,
  and only the totals of a response without any are derived from one.

  Scope: one response and one selection.  Left out: the chart and the texts around it, and
  the locale in which a number is shown.
-/
import Mathlib.Data.Rat.Floor
import RouterView.Foundation.Json
import RouterView.Foundation.Text

set_option autoImplicit false

namespace RouterView.Api.Page

open RouterView.Foundation

/-! ## Readers -/

/-- `Parser`. -/
abbrev Parser (α : Type) : Type := Reader String α

/-- `schemaError`. -/
def schemaError {α : Type} (path expected : String) : Except String α :=
  .error s!"Invalid API response at {path}: expected {expected}"

/-- `asRecord`. -/
def asRecord : Parser JsObject
  | some (.object entries), _ => .ok (Json.ofEntries entries)
  | _, path => schemaError path "object"

/-- `asString`. -/
def asString : Parser String
  | some (.string value), _ => .ok value
  | _, path => schemaError path "string"

/-- `asBoolean`. -/
def asBoolean : Parser Bool
  | some (.bool value), _ => .ok value
  | _, path => schemaError path "boolean"

/-- `asNumber`. -/
def asNumber : Parser Rat
  | some (.number value), _ => .ok value
  | _, path => schemaError path "finite number"

/-- `Number.MAX_SAFE_INTEGER`. -/
def maxSafeInteger : Int := 9007199254740991

/-- The integers that the page tells apart. -/
def SafeInteger (n : Int) : Prop := -maxSafeInteger ≤ n ∧ n ≤ maxSafeInteger

instance (n : Int) : Decidable (SafeInteger n) :=
  inferInstanceAs (Decidable (-maxSafeInteger ≤ n ∧ n ≤ maxSafeInteger))

/-- `asInteger`. -/
def asInteger (value : Option Json) (path : String) : Except String Int := do
  let number ← asNumber value path
  if number.den = 1 ∧ SafeInteger number.num then return number.num
  else schemaError path "safe integer"

/-- `asNullableString`. -/
def asNullableString : Parser (Option String)
  | some .null, _ => .ok none
  | value, path => some <$> asString value path

/-- `optional`. -/
def optional {α : Type} (record : JsObject) (key : String) (parser : Parser α) :
    Except String (Option α) :=
  match record key with
  | none => .ok none
  | some value => some <$> parser (some value) s!"response.{key}"

/-- `arrayOf`. -/
def arrayOf {α : Type} (parser : Parser α) : Parser (List α)
  | some (.array items), path =>
      items.zipIdx.mapM (fun item => parser (some item.1) s!"{path}[{item.2}]")
  | _, path => schemaError path "array"

/-- `asDecimalString`. -/
def asDecimalString (value : Option Json) (path : String) : Except String String := do
  let string ← asString value path
  if isDecimal string then return string else schemaError path "unsigned decimal string"

/-! ## The response -/

/-- `TrafficRouterMetadata`. -/
structure TrafficRouterMetadata where
  id : String
  hardwareIdentity : Option String
  fallbackTarget : String
  identitySource : String
  firstSeenAtMs : Int
  lastSeenAtMs : Int
  deriving DecidableEq, Repr

/-- `TrafficInterfaceMetadata`. -/
structure TrafficInterfaceMetadata where
  id : String
  name : String
  kind : String
  hardwareId : Option String
  aggregate : Bool
  firstSeenAtMs : Int
  lastSeenAtMs : Int
  deriving DecidableEq, Repr

/-- `TrafficCoverage`. -/
structure TrafficCoverage where
  requestedDurationMs : Int
  exactDurationMs : Int
  estimatedDurationMs : Int
  coveredDurationMs : Int
  completeness : Rat
  gapCount : Int
  deriving DecidableEq, Repr

/-- `TrafficHistoryPoint`. -/
structure TrafficHistoryPoint where
  timestampMs : Int
  downloadBps : Rat
  uploadBps : Rat
  wanName : Option (Option String)
  startedAtMs : Option Int
  endedAtMs : Option Int
  durationMs : Option Int
  downloadBytes : Option String
  uploadBytes : Option String
  exactDownloadBytes : Option String
  exactUploadBytes : Option String
  estimatedDownloadBytes : Option String
  estimatedUploadBytes : Option String
  exactDurationMs : Option Int
  estimatedDurationMs : Option Int
  sampleCount : Option Int
  estimated : Option Bool
  complete : Option Bool
  deriving DecidableEq, Repr

/-- A field of the type `number | string`. -/
inductive NumberOrString where
  | number (value : Rat)
  | string (value : String)
  deriving DecidableEq, Repr

/-- `TrafficHistoryTotals`. -/
structure TrafficHistoryTotals where
  downloadBytes : Option NumberOrString
  uploadBytes : Option NumberOrString
  totalDownloadBytes : Option String
  totalUploadBytes : Option String
  exactDownloadBytes : Option String
  exactUploadBytes : Option String
  estimatedDownloadBytes : Option String
  estimatedUploadBytes : Option String
  estimated : Option Bool
  complete : Option Bool
  coverageRatio : Option Rat
  deriving DecidableEq, Repr

/-- `TrafficHistoryResponse`. -/
structure TrafficHistoryResponse where
  schemaVersion : Option Nat
  router : Option TrafficRouterMetadata
  interface : Option TrafficInterfaceMetadata
  wanInterfaces : Option (List TrafficInterfaceMetadata)
  points : List TrafficHistoryPoint
  intervalSecs : Option Int
  bucketSizeMs : Option Int
  wanNames : Option (List String)
  totals : Option TrafficHistoryTotals
  coverage : Option TrafficCoverage
  deriving DecidableEq, Repr

/-! ## Parsers -/

/-- `parseTrafficRouter`. -/
def parseTrafficRouter (value : Option Json) (path : String) :
    Except String TrafficRouterMetadata := do
  let record ← asRecord value path
  let id ← asString (record "id") s!"{path}.id"
  let hardwareIdentity ← asNullableString (record "hardware_identity") s!"{path}.hardware_identity"
  let fallbackTarget ← asString (record "fallback_target") s!"{path}.fallback_target"
  let identitySource ← asString (record "identity_source") s!"{path}.identity_source"
  let firstSeenAtMs ← asInteger (record "first_seen_at_ms") s!"{path}.first_seen_at_ms"
  let lastSeenAtMs ← asInteger (record "last_seen_at_ms") s!"{path}.last_seen_at_ms"
  return ⟨id, hardwareIdentity, fallbackTarget, identitySource, firstSeenAtMs, lastSeenAtMs⟩

/-- `parseTrafficInterface`. -/
def parseTrafficInterface (value : Option Json) (path : String) :
    Except String TrafficInterfaceMetadata := do
  let record ← asRecord value path
  let id ← asString (record "id") s!"{path}.id"
  let name ← asString (record "name") s!"{path}.name"
  let kind ← asString (record "kind") s!"{path}.kind"
  let hardwareId ← asNullableString (record "hardware_id") s!"{path}.hardware_id"
  let aggregate ← asBoolean (record "aggregate") s!"{path}.aggregate"
  let firstSeenAtMs ← asInteger (record "first_seen_at_ms") s!"{path}.first_seen_at_ms"
  let lastSeenAtMs ← asInteger (record "last_seen_at_ms") s!"{path}.last_seen_at_ms"
  return ⟨id, name, kind, hardwareId, aggregate, firstSeenAtMs, lastSeenAtMs⟩

/-- `parseTrafficCoverage`. -/
def parseTrafficCoverage (value : Option Json) (path : String) :
    Except String TrafficCoverage := do
  let record ← asRecord value path
  let requestedDurationMs ← asInteger (record "requested_duration_ms")
    s!"{path}.requested_duration_ms"
  let exactDurationMs ← asInteger (record "exact_duration_ms") s!"{path}.exact_duration_ms"
  let estimatedDurationMs ← asInteger (record "estimated_duration_ms")
    s!"{path}.estimated_duration_ms"
  let coveredDurationMs ← asInteger (record "covered_duration_ms") s!"{path}.covered_duration_ms"
  let completeness ← asNumber (record "completeness") s!"{path}.completeness"
  let gapCount ← asInteger (record "gap_count") s!"{path}.gap_count"
  return ⟨requestedDurationMs, exactDurationMs, estimatedDurationMs, coveredDurationMs,
    completeness, gapCount⟩

/-- A field that only a canonical record must have. -/
def canonicalField {α : Type} (canonical : Bool) (parser : Parser α) (record : JsObject)
    (path key : String) : Except String (Option α) :=
  match canonical, record key with
  | true, value => some <$> parser value s!"{path}.{key}"
  | false, none => .ok none
  | false, some value => some <$> parser (some value) s!"{path}.{key}"

/-- `parseTrafficPoint`. -/
def parseTrafficPoint (canonical : Bool) (value : Option Json) (path : String) :
    Except String TrafficHistoryPoint := do
  let record ← asRecord value path
  let integer := canonicalField canonical asInteger record path
  let decimal := canonicalField canonical asDecimalString record path
  let timestampMs ← asInteger (record "timestamp_ms") s!"{path}.timestamp_ms"
  let downloadBps ← asNumber (record "download_bps") s!"{path}.download_bps"
  let uploadBps ← asNumber (record "upload_bps") s!"{path}.upload_bps"
  let wanName ← canonicalField false asNullableString record path "wan_name"
  let startedAtMs ← integer "started_at_ms"
  let endedAtMs ← integer "ended_at_ms"
  let durationMs ← integer "duration_ms"
  let downloadBytes ← decimal "download_bytes"
  let uploadBytes ← decimal "upload_bytes"
  let exactDownloadBytes ← decimal "exact_download_bytes"
  let exactUploadBytes ← decimal "exact_upload_bytes"
  let estimatedDownloadBytes ← decimal "estimated_download_bytes"
  let estimatedUploadBytes ← decimal "estimated_upload_bytes"
  let exactDurationMs ← integer "exact_duration_ms"
  let estimatedDurationMs ← integer "estimated_duration_ms"
  let sampleCount ← integer "sample_count"
  let estimated ← canonicalField canonical asBoolean record path "estimated"
  let complete ← canonicalField canonical asBoolean record path "complete"
  return {
    timestampMs, downloadBps, uploadBps, wanName, startedAtMs, endedAtMs, durationMs,
    downloadBytes, uploadBytes, exactDownloadBytes, exactUploadBytes, estimatedDownloadBytes,
    estimatedUploadBytes, exactDurationMs, estimatedDurationMs, sampleCount, estimated, complete }

/-- `legacyBytes` of `parseTrafficTotals`. -/
def legacyBytes : Option Json → String → Except String (Option NumberOrString)
  | none, _ => .ok none
  | some (.number value), path => (some ∘ .number) <$> asNumber (some (.number value)) path
  | some candidate, path => (some ∘ .string) <$> asDecimalString (some candidate) path

/-- `parseTrafficTotals`. -/
def parseTrafficTotals (canonical : Bool) (value : Option Json) (path : String) :
    Except String TrafficHistoryTotals := do
  let record ← asRecord value path
  let bytes (key : String) : Except String (Option NumberOrString) :=
    if canonical then (some ∘ .string) <$> asDecimalString (record key) s!"{path}.{key}"
    else legacyBytes (record key) s!"{path}.{key}"
  let decimal := canonicalField canonical asDecimalString record path
  let downloadBytes ← bytes "download_bytes"
  let uploadBytes ← bytes "upload_bytes"
  let totalDownloadBytes ← canonicalField false asDecimalString record path "total_download_bytes"
  let totalUploadBytes ← canonicalField false asDecimalString record path "total_upload_bytes"
  let exactDownloadBytes ← decimal "exact_download_bytes"
  let exactUploadBytes ← decimal "exact_upload_bytes"
  let estimatedDownloadBytes ← decimal "estimated_download_bytes"
  let estimatedUploadBytes ← decimal "estimated_upload_bytes"
  let estimated ←
    if canonical then some <$> asBoolean (record "estimated") s!"{path}.estimated"
    else optional record "estimated" asBoolean
  let complete ←
    if canonical then some <$> asBoolean (record "complete") s!"{path}.complete"
    else optional record "complete" asBoolean
  let coverageRatio ←
    if canonical then some <$> asNumber (record "coverage_ratio") s!"{path}.coverage_ratio"
    else optional record "coverage_ratio" asNumber
  return {
    downloadBytes, uploadBytes, totalDownloadBytes, totalUploadBytes, exactDownloadBytes,
    exactUploadBytes, estimatedDownloadBytes, estimatedUploadBytes, estimated, complete,
    coverageRatio }

/-- `parseTrafficHistory`. -/
def parseTrafficHistory (value : Option Json) : Except String TrafficHistoryResponse := do
  let record ← asRecord value "response"
  let schemaVersion ← canonicalField false asInteger record "response" "schema_version"
  if schemaVersion ≠ none ∧ schemaVersion ≠ some 4 then schemaError "response.schema_version" "4"
  let canonical := decide (schemaVersion = some 4)
  let router ← canonicalField canonical parseTrafficRouter record "response" "router"
  let interface ← canonicalField canonical parseTrafficInterface record "response" "interface"
  let wanInterfaces ← canonicalField canonical (arrayOf parseTrafficInterface) record "response"
    "wan_interfaces"
  let points ← arrayOf (parseTrafficPoint canonical) (record "points") "response.points"
  let intervalSecs ← canonicalField canonical asInteger record "response" "interval_secs"
  let bucketSizeMs ← canonicalField canonical asInteger record "response" "bucket_size_ms"
  let wanNames ← canonicalField false (arrayOf asString) record "response" "wan_names"
  let totals ← canonicalField canonical (parseTrafficTotals canonical) record "response" "totals"
  let coverage ← canonicalField canonical parseTrafficCoverage record "response" "coverage"
  return {
    schemaVersion := if canonical then some 4 else none
    router, interface, wanInterfaces, points, intervalSecs, bucketSizeMs, wanNames, totals,
    coverage }

/-! ## Totals -/

/-- The white space that `String.prototype.trim` takes off. -/
def isTrimmed (c : Char) : Bool :=
  decide (c.toNat ∈ [0x9, 0xA, 0xB, 0xC, 0xD, 0x20, 0xA0, 0x1680, 0x2028, 0x2029, 0x202F, 0x205F,
    0x3000, 0xFEFF] ∨ (0x2000 ≤ c.toNat ∧ c.toNat ≤ 0x200A))

/-- `String.prototype.trim`. -/
def trimText (s : String) : String :=
  String.ofList (((s.toList.dropWhile isTrimmed).reverse.dropWhile isTrimmed).reverse)

/-- `BigInt` of a text of digits. -/
def bigInt (s : String) : Nat := Nat.ofDigitChars 10 s.toList 0

/-- `byteCount`. -/
def byteCount : Option NumberOrString → Option Nat
  | none => none
  | some (.number value) =>
      if value.den = 1 ∧ SafeInteger value.num ∧ 0 ≤ value then some value.num.toNat else none
  | some (.string value) =>
      if isDecimal (trimText value) then some (bigInt (trimText value)) else none

/-- The direction of a total. -/
inductive Direction where
  | download
  | upload
  deriving DecidableEq, Repr

/-- The rate of a point. -/
def TrafficHistoryPoint.bps (point : TrafficHistoryPoint) : Direction → Rat
  | .download => point.downloadBps
  | .upload => point.uploadBps

/-- The bytes of a point. -/
def TrafficHistoryPoint.bytes (point : TrafficHistoryPoint) : Direction → Option String
  | .download => point.downloadBytes
  | .upload => point.uploadBytes

/-- The bytes that stand in the totals: `total_…_bytes`, or else `…_bytes`. -/
def TrafficHistoryTotals.bytes (totals : TrafficHistoryTotals) : Direction → Option NumberOrString
  | .download => (totals.totalDownloadBytes.map .string).or totals.downloadBytes
  | .upload => (totals.totalUploadBytes.map .string).or totals.uploadBytes

/-- The exact bytes of the totals. -/
def TrafficHistoryTotals.exactBytes (totals : TrafficHistoryTotals) : Direction → Option String
  | .download => totals.exactDownloadBytes
  | .upload => totals.exactUploadBytes

/-- The estimated bytes of the totals. -/
def TrafficHistoryTotals.estimatedBytes (totals : TrafficHistoryTotals) :
    Direction → Option String
  | .download => totals.estimatedDownloadBytes
  | .upload => totals.estimatedUploadBytes

/-- `pointBytes`. -/
def pointBytes (point : TrafficHistoryPoint) (direction : Direction) (legacyDurationSecs : Rat) :
    Nat × Bool :=
  match byteCount ((point.bytes direction).map .string) with
  | some explicit => (explicit, decide (point.estimated = some true))
  | none =>
      let durationSecs := match point.durationMs with
        | some durationMs => max 0 (durationMs : Rat) / 1000
        | none => legacyDurationSecs
      let derivedBytes := max 0 (point.bps direction) * durationSecs / 8
      -- `Math.round` takes the half upwards.
      (⌊derivedBytes + 1 / 2⌋.toNat, true)

/-- `MAX_INFERRED_LEGACY_DURATION_MS`. -/
def maxInferredLegacyDurationMs : Rat := 60000

/-- `inferLegacyDurationSecs`. -/
def inferLegacyDurationSecs (points : List TrafficHistoryPoint) (index : Nat)
    (fallbackIntervalSecs : Rat) : Rat :=
  let timestamp := (points[index]?).map (fun point => point.timestampMs)
  let nextTimestamp := (points[index + 1]?).map (fun point => point.timestampMs)
  let previousTimestamp :=
    if index = 0 then none else (points[index - 1]?).map (fun point => point.timestampMs)
  let nextDelta := timestamp.bind (fun t => nextTimestamp.map (fun next => next - t))
  let previousDelta := timestamp.bind (fun t => previousTimestamp.map (fun previous => t - previous))
  let adjacentDelta := (nextDelta.filter (fun delta => decide (0 < delta))).or
    (previousDelta.filter (fun delta => decide (0 < delta)))
  let fallbackMs := max 0 fallbackIntervalSecs * 1000
  let durationMs := (adjacentDelta.map (fun delta => (delta : Rat))).getD fallbackMs
  min durationMs maxInferredLegacyDurationMs / 1000

/-- `DirectionTotals`. -/
structure DirectionTotals where
  total : Nat
  exact : Option Nat
  estimated : Option Nat
  inferredEstimated : Bool
  deriving DecidableEq, Repr

/-- `resolveDirection`. -/
def resolveDirection (response : TrafficHistoryResponse) (direction : Direction)
    (fallbackIntervalSecs : Rat) : DirectionTotals :=
  let direct := byteCount (response.totals.bind (fun totals => totals.bytes direction))
  let exact := byteCount
    (response.totals.bind (fun totals => (totals.exactBytes direction).map .string))
  let estimated := byteCount
    (response.totals.bind (fun totals => (totals.estimatedBytes direction).map .string))
  if direct.isSome ∨ exact.isSome ∨ estimated.isSome then
    { total := direct.getD (exact.getD 0 + estimated.getD 0)
      exact := exact
      estimated := estimated
      inferredEstimated := decide (0 < estimated.getD 0) }
  else
    let resolved := response.points.zipIdx.map (fun point => pointBytes point.1 direction
      (inferLegacyDurationSecs response.points point.2 fallbackIntervalSecs))
    { total := (resolved.map Prod.fst).sum
      exact := none
      estimated := none
      inferredEstimated := resolved.any Prod.snd }

/-- `ResolvedTrafficTotals`. -/
structure ResolvedTrafficTotals where
  downloadBytes : Nat
  uploadBytes : Nat
  exactDownloadBytes : Option Nat
  exactUploadBytes : Option Nat
  estimatedDownloadBytes : Option Nat
  estimatedUploadBytes : Option Nat
  estimated : Bool
  complete : Bool
  coverageRatio : Option Rat
  requestedDurationMs : Option Int
  exactDurationMs : Option Int
  estimatedDurationMs : Option Int
  coveredDurationMs : Option Int
  gapCount : Option Int
  deriving DecidableEq, Repr

/-- `resolveTrafficTotals`.  What it calls `finiteNumber` of is a number or `undefined`
here. -/
def resolveTrafficTotals (response : TrafficHistoryResponse) : ResolvedTrafficTotals :=
  let intervalSecs : Rat := max 0 ((response.intervalSecs.map (fun secs => (secs : Rat))).getD 0)
  let download := resolveDirection response .download intervalSecs
  let upload := resolveDirection response .upload intervalSecs
  let pointEstimated := response.points.any (fun point => decide (point.estimated = some true))
  let pointIncomplete := response.points.any (fun point => decide (point.complete = some false))
  let rawCoverage := (response.coverage.map (fun coverage => coverage.completeness)).or
    (response.totals.bind (fun totals => totals.coverageRatio))
  let estimatedDurationMs : Option Int :=
    response.coverage.map (fun coverage => coverage.estimatedDurationMs)
  { downloadBytes := download.total
    uploadBytes := upload.total
    exactDownloadBytes := download.exact
    exactUploadBytes := upload.exact
    estimatedDownloadBytes := download.estimated
    estimatedUploadBytes := upload.estimated
    estimated := (response.totals.bind (fun totals => totals.estimated)).getD
      (decide (0 < estimatedDurationMs.getD 0) || pointEstimated || download.inferredEstimated ||
        upload.inferredEstimated)
    complete := match response.coverage with
      | none => (response.totals.bind (fun totals => totals.complete)).getD !pointIncomplete
      | some coverage => decide (coverage.coveredDurationMs = coverage.requestedDurationMs)
    coverageRatio := rawCoverage.map (fun raw => max 0 (min 1 raw))
    requestedDurationMs := response.coverage.map (fun coverage => coverage.requestedDurationMs)
    exactDurationMs := response.coverage.map (fun coverage => coverage.exactDurationMs)
    estimatedDurationMs := estimatedDurationMs
    coveredDurationMs := response.coverage.map (fun coverage => coverage.coveredDurationMs)
    gapCount := response.coverage.map (fun coverage => coverage.gapCount) }

end RouterView.Api.Page
