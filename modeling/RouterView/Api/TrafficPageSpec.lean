/-
  Api/TrafficPageSpec.lean --- the page reads what the endpoint writes.

  Every record of a response is read by the parser of its name, exactly where the page can
  tell its integers apart; the totals that the page then shows are those of the stored rows.

  Scope: responses of the endpoint, under the bound on instants of `Api/TrafficSpec.lean`.
  What a page makes of a response that no such endpoint wrote is not said.
-/
import RouterView.Api.TrafficPage
import RouterView.Api.TrafficSpec

set_option autoImplicit false

namespace RouterView.Api.Page

open RouterView.Db (Printed)
open RouterView.Foundation

/-! ## Values -/

/-- The number of a rate that is finite. -/
def rateOf : F64 → Rat
  | .finite value => value
  | _ => 0

theorem asString_reads : Reads asString Json.string (fun _ => True) id :=
  Reads.total fun _ _ => rfl

theorem asBoolean_reads : Reads asBoolean Json.bool (fun _ => True) id :=
  Reads.total fun _ _ => rfl

theorem asNullableString_reads : Reads asNullableString textOrNull (fun _ => True) id :=
  Reads.total fun text _ => by cases text <;> rfl

theorem asNumber_reads : Reads asNumber Json.ofF64 (fun x => x.isFinite = true) rateOf := by
  intro x path b
  cases x with
  | finite value =>
      show (Except.ok value : Except String Rat) = .ok b ↔ _
      simp only [Except.ok.injEq, F64.isFinite, true_and, rateOf]
  | nan =>
      show (schemaError path "finite number" : Except String Rat) = .ok b ↔ _
      simp [schemaError, F64.isFinite]
  | inf negative =>
      show (schemaError path "finite number" : Except String Rat) = .ok b ↔ _
      simp [schemaError, F64.isFinite]

theorem asInteger_reads : Reads asInteger Json.ofInt SafeInteger id := by
  intro n path b
  have hread : asInteger (some (Json.ofInt n)) path =
      if SafeInteger n then .ok n else schemaError path "safe integer" := by
    show (if ((n : Rat).den = 1 ∧ SafeInteger (n : Rat).num) then
      (pure (n : Rat).num : Except String Int) else _) = _
    rw [Rat.den_intCast, Rat.num_intCast]
    simp only [true_and, pure_eq_ok]
  rw [hread]
  by_cases hsafe : SafeInteger n
  · rw [if_pos hsafe]
    simp only [Except.ok.injEq, hsafe, true_and, id]
  · rw [if_neg hsafe]
    simp [schemaError, hsafe]

theorem asDecimalString_reads :
    Reads asDecimalString Json.string (fun text => isDecimal text = true) id := by
  intro text path b
  have hread : asDecimalString (some (.string text)) path =
      if isDecimal text = true then .ok text else schemaError path "unsigned decimal string" := rfl
  rw [hread]
  by_cases hdecimal : isDecimal text = true
  · rw [if_pos hdecimal]
    simp only [Except.ok.injEq, hdecimal, true_and, id]
  · rw [if_neg hdecimal]
    simp [schemaError, hdecimal]

theorem arrayOf_reads {α β : Type} {parser : Parser β} {write : α → Json} {Accepts : α → Prop}
    {view : α → β} (h : Reads parser write Accepts view) :
    Reads (arrayOf parser) (arrayJson write) (fun l => ∀ a ∈ l, Accepts a) (List.map view) :=
  fun l path bs => h.mapM_iff (fun index => s!"{path}[{index}]") l 0 bs

theorem canonicalField_true {α : Type} {parser : Parser α} {record : JsObject}
    {path key : String} : canonicalField true parser record path key =
      some <$> parser (record key) s!"{path}.{key}" := rfl

theorem canonicalField_some {α : Type} {canonical : Bool} {parser : Parser α} {record : JsObject}
    {path key : String} (value : Json) (h : record key = some value) :
    canonicalField canonical parser record path key =
      some <$> parser (some value) s!"{path}.{key}" := by
  cases canonical with
  | true => rw [canonicalField_true, h]
  | false => simp only [canonicalField, h]

theorem canonicalField_none {α : Type} {parser : Parser α} {record : JsObject}
    {path key : String} (h : record key = none) :
    canonicalField false parser record path key = .ok none := by
  simp only [canonicalField, h]

/-! ## Records -/

/-- The page can tell the times of a router apart. -/
structure SafeRouter (r : RouterMetadataResponse) : Prop where
  firstSeen : SafeInteger r.firstSeenAtMs
  lastSeen : SafeInteger r.lastSeenAtMs

/-- What the page takes of a router. -/
def routerView (r : RouterMetadataResponse) : TrafficRouterMetadata where
  id := r.id
  hardwareIdentity := r.hardwareIdentity
  fallbackTarget := r.fallbackTarget
  identitySource := r.identitySource
  firstSeenAtMs := r.firstSeenAtMs
  lastSeenAtMs := r.lastSeenAtMs

theorem parseTrafficRouter_reads :
    Reads parseTrafficRouter RouterMetadataResponse.toJson SafeRouter routerView := by
  intro r path b
  unfold parseTrafficRouter RouterMetadataResponse.toJson
  simp only [asRecord, ok_bind, Json.ofEntries, List.reverse_cons, List.reverse_nil,
    List.nil_append, List.cons_append, List.find?_cons, String.reduceBEq, beq_self_eq_true,
    Option.map_some]
  simp only [asString_reads.bind_iff, asNullableString_reads.bind_iff, asInteger_reads.bind_iff,
    pure_eq_ok, Except.ok.injEq, true_and]
  constructor
  · rintro ⟨hfirst, hlast, rfl⟩
    exact ⟨⟨hfirst, hlast⟩, rfl⟩
  · rintro ⟨⟨hfirst, hlast⟩, rfl⟩
    exact ⟨hfirst, hlast, rfl⟩

/-- The page can tell the times of an interface apart. -/
structure SafeInterface (i : InterfaceMetadataResponse) : Prop where
  firstSeen : SafeInteger i.firstSeenAtMs
  lastSeen : SafeInteger i.lastSeenAtMs

/-- What the page takes of an interface. -/
def interfaceView (i : InterfaceMetadataResponse) : TrafficInterfaceMetadata where
  id := i.id
  name := i.name
  kind := i.kind
  hardwareId := i.hardwareId
  aggregate := i.aggregate
  firstSeenAtMs := i.firstSeenAtMs
  lastSeenAtMs := i.lastSeenAtMs

theorem parseTrafficInterface_reads :
    Reads parseTrafficInterface InterfaceMetadataResponse.toJson SafeInterface interfaceView := by
  intro i path b
  unfold parseTrafficInterface InterfaceMetadataResponse.toJson
  simp only [asRecord, ok_bind, Json.ofEntries, List.reverse_cons, List.reverse_nil,
    List.nil_append, List.cons_append, List.find?_cons, String.reduceBEq, beq_self_eq_true,
    Option.map_some]
  simp only [asString_reads.bind_iff, asNullableString_reads.bind_iff, asBoolean_reads.bind_iff,
    asInteger_reads.bind_iff, pure_eq_ok, Except.ok.injEq, true_and]
  constructor
  · rintro ⟨hfirst, hlast, rfl⟩
    exact ⟨⟨hfirst, hlast⟩, rfl⟩
  · rintro ⟨⟨hfirst, hlast⟩, rfl⟩
    exact ⟨hfirst, hlast, rfl⟩

/-- The page can read the numbers of a coverage. -/
structure SafeCoverage (c : Db.TrafficCoverage) : Prop where
  requested : SafeInteger c.requestedDurationMs
  exact : SafeInteger c.exactDurationMs
  estimated : SafeInteger c.estimatedDurationMs
  covered : SafeInteger c.coveredDurationMs
  completeness : c.completeness.isFinite = true
  gaps : SafeInteger c.gapCount

/-- What the page takes of a coverage. -/
def coverageView (c : Db.TrafficCoverage) : TrafficCoverage where
  requestedDurationMs := c.requestedDurationMs
  exactDurationMs := c.exactDurationMs
  estimatedDurationMs := c.estimatedDurationMs
  coveredDurationMs := c.coveredDurationMs
  completeness := rateOf c.completeness
  gapCount := c.gapCount

theorem parseTrafficCoverage_reads :
    Reads parseTrafficCoverage coverageJson SafeCoverage coverageView := by
  intro c path b
  unfold parseTrafficCoverage coverageJson
  simp only [asRecord, ok_bind, Json.ofEntries, List.reverse_cons, List.reverse_nil,
    List.nil_append, List.cons_append, List.find?_cons, String.reduceBEq, beq_self_eq_true,
    Option.map_some]
  simp only [asNumber_reads.bind_iff, asInteger_reads.bind_iff, pure_eq_ok, Except.ok.injEq]
  constructor
  · rintro ⟨hrequested, hexact, hestimated, hcovered, hcompleteness, hgaps, rfl⟩
    exact ⟨⟨hrequested, hexact, hestimated, hcovered, hcompleteness, hgaps⟩, rfl⟩
  · rintro ⟨h, rfl⟩
    exact ⟨h.requested, h.exact, h.estimated, h.covered, h.completeness, h.gaps, rfl⟩

/-- The page can read the numbers and the byte counts of a point. -/
structure SafePoint (p : TrafficPointResponse) : Prop where
  timestamp : SafeInteger p.timestampMs
  downloadBps : p.downloadBps.isFinite = true
  uploadBps : p.uploadBps.isFinite = true
  started : SafeInteger p.startedAtMs
  ended : SafeInteger p.endedAtMs
  duration : SafeInteger p.durationMs
  download : isDecimal p.downloadBytes = true
  upload : isDecimal p.uploadBytes = true
  exactDownload : isDecimal p.exactDownloadBytes = true
  exactUpload : isDecimal p.exactUploadBytes = true
  estimatedDownload : isDecimal p.estimatedDownloadBytes = true
  estimatedUpload : isDecimal p.estimatedUploadBytes = true
  exactDuration : SafeInteger p.exactDurationMs
  estimatedDuration : SafeInteger p.estimatedDurationMs
  samples : SafeInteger p.sampleCount

/-- What the page takes of a point. -/
def pointView (p : TrafficPointResponse) : TrafficHistoryPoint where
  timestampMs := p.timestampMs
  downloadBps := rateOf p.downloadBps
  uploadBps := rateOf p.uploadBps
  wanName := some p.wanName
  startedAtMs := some p.startedAtMs
  endedAtMs := some p.endedAtMs
  durationMs := some p.durationMs
  downloadBytes := some p.downloadBytes
  uploadBytes := some p.uploadBytes
  exactDownloadBytes := some p.exactDownloadBytes
  exactUploadBytes := some p.exactUploadBytes
  estimatedDownloadBytes := some p.estimatedDownloadBytes
  estimatedUploadBytes := some p.estimatedUploadBytes
  exactDurationMs := some p.exactDurationMs
  estimatedDurationMs := some p.estimatedDurationMs
  sampleCount := some p.sampleCount
  estimated := some p.estimated
  complete := some p.complete

theorem parseTrafficPoint_reads :
    Reads (parseTrafficPoint true) TrafficPointResponse.toJson SafePoint pointView := by
  intro p path b
  unfold parseTrafficPoint TrafficPointResponse.toJson
  simp only [asRecord, ok_bind, canonicalField_true]
  rw [canonicalField_some (textOrNull p.wanName) rfl]
  simp only [Json.ofEntries, List.reverse_cons, List.reverse_nil,
    List.nil_append, List.cons_append, List.find?_cons, String.reduceBEq, beq_self_eq_true,
    Option.map_some]
  simp only [asNumber_reads.bind_iff, asInteger_reads.bind_iff, asNullableString_reads.map_bind_iff,
    asInteger_reads.map_bind_iff, asDecimalString_reads.map_bind_iff, asBoolean_reads.map_bind_iff,
    pure_eq_ok, Except.ok.injEq, true_and]
  constructor
  · rintro ⟨h1, h2, h3, h4, h5, h6, h7, h8, h9, h10, h11, h12, h13, h14, h15, rfl⟩
    exact ⟨⟨h1, h2, h3, h4, h5, h6, h7, h8, h9, h10, h11, h12, h13, h14, h15⟩, rfl⟩
  · rintro ⟨h, rfl⟩
    exact ⟨h.timestamp, h.downloadBps, h.uploadBps, h.started, h.ended, h.duration, h.download,
      h.upload, h.exactDownload, h.exactUpload, h.estimatedDownload, h.estimatedUpload,
      h.exactDuration, h.estimatedDuration, h.samples, rfl⟩

/-- The page can read the byte counts and the ratio of the totals. -/
structure SafeTotals (t : TrafficTotalsResponse) : Prop where
  download : isDecimal t.downloadBytes = true
  upload : isDecimal t.uploadBytes = true
  exactDownload : isDecimal t.exactDownloadBytes = true
  exactUpload : isDecimal t.exactUploadBytes = true
  estimatedDownload : isDecimal t.estimatedDownloadBytes = true
  estimatedUpload : isDecimal t.estimatedUploadBytes = true
  ratio : t.coverageRatio.isFinite = true

/-- What the page takes of the totals. -/
def totalsView (t : TrafficTotalsResponse) : TrafficHistoryTotals where
  downloadBytes := some (.string t.downloadBytes)
  uploadBytes := some (.string t.uploadBytes)
  totalDownloadBytes := none
  totalUploadBytes := none
  exactDownloadBytes := some t.exactDownloadBytes
  exactUploadBytes := some t.exactUploadBytes
  estimatedDownloadBytes := some t.estimatedDownloadBytes
  estimatedUploadBytes := some t.estimatedUploadBytes
  estimated := some t.estimated
  complete := some t.complete
  coverageRatio := some (rateOf t.coverageRatio)

theorem parseTrafficTotals_reads :
    Reads (parseTrafficTotals true) TrafficTotalsResponse.toJson SafeTotals totalsView := by
  intro t path b
  unfold parseTrafficTotals TrafficTotalsResponse.toJson
  simp only [asRecord, ok_bind, canonicalField_true, if_true]
  rw [canonicalField_none rfl, canonicalField_none rfl]
  simp only [ok_bind, Json.ofEntries, List.reverse_cons, List.reverse_nil,
    List.nil_append, List.cons_append, List.find?_cons, String.reduceBEq, beq_self_eq_true,
    Option.map_some]
  simp only [asDecimalString_reads.map_bind_iff, asBoolean_reads.map_bind_iff,
    asNumber_reads.map_bind_iff, pure_eq_ok, Except.ok.injEq, true_and]
  constructor
  · rintro ⟨h1, h2, h3, h4, h5, h6, h7, rfl⟩
    exact ⟨⟨h1, h2, h3, h4, h5, h6, h7⟩, rfl⟩
  · rintro ⟨h, rfl⟩
    exact ⟨h.download, h.upload, h.exactDownload, h.exactUpload, h.estimatedDownload,
      h.estimatedUpload, h.ratio, rfl⟩

/-! ## Responses -/

/-- The page can read every part of a response. -/
structure SafeResponse (r : TrafficResponse) : Prop where
  schema : r.schemaVersion = 4
  router : SafeRouter r.router
  interface : SafeInterface r.interface
  wanInterfaces : ∀ i ∈ r.wanInterfaces, SafeInterface i
  points : ∀ p ∈ r.points, SafePoint p
  interval : SafeInteger r.intervalSecs
  bucketSize : SafeInteger r.bucketSizeMs
  totals : SafeTotals r.totals
  coverage : SafeCoverage r.coverage

/-- What the page takes of a response. -/
def responseView (r : TrafficResponse) : TrafficHistoryResponse where
  schemaVersion := some 4
  router := some (routerView r.router)
  interface := some (interfaceView r.interface)
  wanInterfaces := some (r.wanInterfaces.map interfaceView)
  points := r.points.map pointView
  intervalSecs := some r.intervalSecs
  bucketSizeMs := some r.bucketSizeMs
  wanNames := some r.wanNames
  totals := some (totalsView r.totals)
  coverage := some (coverageView r.coverage)

/-- A response is read exactly where every part of it can be. -/
theorem parseTrafficHistory_iff (r : TrafficResponse) (page : TrafficHistoryResponse) :
    parseTrafficHistory (some r.toJson) = .ok page ↔ SafeResponse r ∧ responseView r = page := by
  unfold parseTrafficHistory TrafficResponse.toJson
  simp only [asRecord, ok_bind]
  rw [canonicalField_some (Json.ofInt r.schemaVersion) rfl, asInteger_reads.map_bind_iff]
  by_cases hschema : r.schemaVersion = 4
  swap
  · have hne : ¬ some ((r.schemaVersion : Int)) = some 4 := by
      rw [Option.some.injEq]
      exact_mod_cast hschema
    simp only [id, if_pos (show some (r.schemaVersion : Int) ≠ none ∧
      some (r.schemaVersion : Int) ≠ some 4 from ⟨Option.some_ne_none _, hne⟩), schemaError,
      error_bind]
    constructor
    · rintro ⟨_, h⟩
      cases h
    · rintro ⟨h, _⟩
      exact absurd h.schema hschema
  · have hfour : some (id (r.schemaVersion : Int)) = some 4 := by rw [hschema]; rfl
    have hsafe : SafeInteger (r.schemaVersion : Int) := by rw [hschema]; decide
    rw [hfour]
    simp only [hsafe, true_and, ne_eq, not_true_eq_false, and_false, if_false, decide_true,
      canonicalField_true]
    rw [canonicalField_some (arrayJson Json.string r.wanNames) rfl]
    simp only [Json.ofEntries, List.reverse_cons, List.reverse_nil,
      List.nil_append, List.cons_append, List.find?_cons, String.reduceBEq, beq_self_eq_true,
      Option.map_some]
    simp only [parseTrafficRouter_reads.map_bind_iff, parseTrafficInterface_reads.map_bind_iff,
      (arrayOf_reads parseTrafficInterface_reads).map_bind_iff,
      (arrayOf_reads parseTrafficPoint_reads).bind_iff, asInteger_reads.map_bind_iff,
      (arrayOf_reads asString_reads).map_bind_iff, parseTrafficTotals_reads.map_bind_iff,
      parseTrafficCoverage_reads.map_bind_iff, pure_eq_ok, Except.ok.injEq, if_true]
    constructor
    · rintro ⟨hrouter, hinterface, hwans, hpoints, hinterval, hsize, _, htotals, hcoverage, rfl⟩
      refine ⟨⟨hschema, hrouter, hinterface, hwans, hpoints, hinterval, hsize, htotals, hcoverage⟩,
        ?_⟩
      rw [responseView, List.map_id]
      rfl
    · rintro ⟨h, rfl⟩
      refine ⟨h.router, h.interface, h.wanInterfaces, h.points, h.interval, h.bucketSize,
        fun _ _ => trivial, h.totals, h.coverage, ?_⟩
      rw [responseView, List.map_id]
      rfl

/-! ## Byte counts -/

theorem toList_natToString (n : Nat) : (toString n).toList = Nat.toDigits 10 n := by
  rw [Nat.toString_eq_ofList_toDigits, String.toList_ofList]

theorem isDigit_of_mem_natToString {n : Nat} {c : Char} (h : c ∈ (toString n).toList) :
    c.isDigit = true := by
  rw [toList_natToString] at h
  exact Nat.isDigit_of_mem_toDigits (by decide) (by decide) h

theorem isDecimal_of_printed {text : String} (h : Printed text) : isDecimal text = true := by
  obtain ⟨n, rfl⟩ := h
  rw [isDecimal, Bool.and_eq_true, Bool.not_eq_true', List.isEmpty_eq_false_iff,
    toList_natToString]
  refine ⟨Nat.toDigits_ne_nil, List.all_eq_true.mpr fun c hc => ?_⟩
  exact Nat.isDigit_of_mem_toDigits (by decide) (by decide) hc

theorem isTrimmed_of_isDigit {c : Char} (h : c.isDigit = true) : isTrimmed c = false := by
  rw [Char.isDigit, Bool.and_eq_true, decide_eq_true_eq, decide_eq_true_eq] at h
  have hlow : 48 ≤ c.toNat := h.1
  have hhigh : c.toNat ≤ 57 := h.2
  simp only [isTrimmed, decide_eq_false_iff_not, List.mem_cons, List.not_mem_nil, or_false]
  omega

theorem dropWhile_isTrimmed {l : List Char} (h : ∀ c ∈ l, c.isDigit = true) :
    l.dropWhile isTrimmed = l := by
  cases l with
  | nil => rfl
  | cons c rest =>
      rw [List.dropWhile_cons_of_neg]
      rw [isTrimmed_of_isDigit (h c List.mem_cons_self)]
      exact Bool.false_ne_true

theorem trimText_natToString (n : Nat) : trimText (toString n) = toString n := by
  rw [trimText, dropWhile_isTrimmed fun c hc => isDigit_of_mem_natToString hc,
    dropWhile_isTrimmed fun c hc => isDigit_of_mem_natToString (List.mem_reverse.mp hc),
    List.reverse_reverse, String.ofList_toList]

/-- The page takes the digits of a byte count as its value. -/
theorem byteCount_of_printed {text : String} (h : Printed text) :
    ∃ n : Nat, byteCount (some (.string text)) = some n ∧ (n : Int) = Db.decimalValue text := by
  have hdecimal := isDecimal_of_printed h
  obtain ⟨n, rfl⟩ := h
  refine ⟨n, ?_, (Db.decimalValue_natToString n).symm⟩
  rw [byteCount, trimText_natToString, if_pos hdecimal, bigInt, toList_natToString,
    Nat.ofDigitChars_ten_toDigits]

/-! ## What the page shows -/

/-- The page can tell apart what nothing bounds: when the router and the interfaces were
seen, when the points start and end, and how many samples and gaps there are. -/
structure Tells (r : TrafficResponse) : Prop where
  router : SafeRouter r.router
  interface : SafeInterface r.interface
  wanInterfaces : ∀ i ∈ r.wanInterfaces, SafeInterface i
  times : ∀ p ∈ r.points, SafeInteger p.startedAtMs ∧ SafeInteger p.endedAtMs
  samples : ∀ p ∈ r.points, SafeInteger p.sampleCount
  gaps : SafeInteger r.coverage.gapCount

/-- What the page shows of a range of an interface: the totals of the stored rows, each in
its exact and its estimated part, and how much of the range they cover. -/
structure Shows (db : Db.TrafficDb) (query : Db.TrafficQuery) (router : Db.RouterRecord)
    (interface : Db.RouterInterfaceRecord) (page : TrafficHistoryResponse) : Prop where
  ofRouter : page.router = some (routerView (routerMetadataResponse router))
  ofInterface : page.interface = some (interfaceView (interfaceMetadataResponse interface))
  listed : page.wanInterfaces = some ((db.routerWanInterfaces router.id).map
    (fun i => interfaceView (interfaceMetadataResponse i)))
  ordered : (page.points.map (fun p => p.timestampMs)).Pairwise (· < ·)
  downloaded : ((resolveTrafficTotals page).downloadBytes : Int) =
    ((db.sources query).map (fun c => c.within query .downloadBytes)).sum
  uploaded : ((resolveTrafficTotals page).uploadBytes : Int) =
    ((db.sources query).map (fun c => c.within query .uploadBytes)).sum
  downloadParts : ∃ exact estimated, (resolveTrafficTotals page).exactDownloadBytes = some exact ∧
    (resolveTrafficTotals page).estimatedDownloadBytes = some estimated ∧
      (resolveTrafficTotals page).downloadBytes = exact + estimated
  uploadParts : ∃ exact estimated, (resolveTrafficTotals page).exactUploadBytes = some exact ∧
    (resolveTrafficTotals page).estimatedUploadBytes = some estimated ∧
      (resolveTrafficTotals page).uploadBytes = exact + estimated
  complete : (resolveTrafficTotals page).complete = true ↔
    ((db.sources query).map (fun c => c.within query .durationMs)).sum =
      query.toMs - query.fromMs
  ratio : (resolveTrafficTotals page).coverageRatio = some
    (((((db.sources query).map (fun c => c.within query .durationMs)).sum : Int) : Rat) /
      ((query.toMs - query.fromMs : Int) : Rat))
  gaps : (resolveTrafficTotals page).gapCount = some (db.gapCount query : Int)

section

variable {db : Db.TrafficDb} {query : Db.TrafficQuery} {router : Db.RouterRecord}
  {interface : Db.RouterInterfaceRecord} {r : TrafficResponse}

theorem safeInteger_of_range {n : Int} (hnonneg : 0 ≤ n) (hle : n ≤ maxRangeMs) :
    SafeInteger n := by
  simp only [maxRangeMs] at hle
  simp only [SafeInteger, maxSafeInteger]
  omega

theorem safePoint_of_formed {p : TrafficPointResponse} (h : p.Formed)
    (hspan : p.endedAtMs - p.startedAtMs ≤ maxRangeMs) (hstarted : SafeInteger p.startedAtMs)
    (hended : SafeInteger p.endedAtMs) (hsamples : SafeInteger p.sampleCount) : SafePoint p := by
  have hexact := h.exact_nonneg
  have hestimated := h.estimated_nonneg
  have hduration := h.duration
  have hcovered := h.covered_le
  exact {
    timestamp := h.timestamp ▸ hstarted
    downloadBps := h.downloadBps
    uploadBps := h.uploadBps
    started := hstarted
    ended := hended
    duration := safeInteger_of_range (by omega) (by omega)
    download := isDecimal_of_printed h.download
    upload := isDecimal_of_printed h.upload
    exactDownload := isDecimal_of_printed h.exactDownload
    exactUpload := isDecimal_of_printed h.exactUpload
    estimatedDownload := isDecimal_of_printed h.estimatedDownload
    estimatedUpload := isDecimal_of_printed h.estimatedUpload
    exactDuration := safeInteger_of_range (by omega) (by omega)
    estimatedDuration := safeInteger_of_range (by omega) (by omega)
    samples := hsamples }

/-- A response of the endpoint can be read where the page tells its integers apart. -/
theorem safeResponse_iff (h : Reports db query router interface r)
    (hrange : query.toMs - query.fromMs ≤ maxRangeMs) : SafeResponse r ↔ Tells r := by
  have hformed := h.formed
  constructor
  · intro hsafe
    exact ⟨hsafe.router, hsafe.interface, hsafe.wanInterfaces,
      fun p hp => ⟨(hsafe.points p hp).started, (hsafe.points p hp).ended⟩,
      fun p hp => (hsafe.points p hp).samples, hsafe.coverage.gaps⟩
  · intro htells
    have hsized := h.sized
    have hinterval := h.interval
    have hrequested := h.requested
    have hcovered := hformed.covered
    have hle := hformed.covered_le
    have hexact := hformed.exact_nonneg
    have hestimated := hformed.estimated_nonneg
    simp only [maxBucketSizeMs] at hsized
    exact {
      schema := hformed.schema
      router := htells.router
      interface := htells.interface
      wanInterfaces := htells.wanInterfaces
      points := by
        intro p hp
        have hspan : p.span ∈ r.points.map TrafficPointResponse.span := List.mem_map_of_mem hp
        have hfrom : query.fromMs ≤ p.startedAtMs := h.inside.start_le _ hspan
        have hto : p.endedAtMs ≤ query.toMs := h.inside.stop_le _ hspan
        exact safePoint_of_formed (hformed.points p hp) (by omega) (htells.times p hp).1
          (htells.times p hp).2 (htells.samples p hp)
      interval := by
        simp only [SafeInteger, maxSafeInteger]
        omega
      bucketSize := by
        simp only [SafeInteger, maxSafeInteger]
        omega
      totals := {
        download := isDecimal_of_printed hformed.download
        upload := isDecimal_of_printed hformed.upload
        exactDownload := isDecimal_of_printed hformed.exactDownload
        exactUpload := isDecimal_of_printed hformed.exactUpload
        estimatedDownload := isDecimal_of_printed hformed.estimatedDownload
        estimatedUpload := isDecimal_of_printed hformed.estimatedUpload
        ratio := by rw [hformed.ratio, hformed.completeness]; rfl }
      coverage := {
        requested := safeInteger_of_range (by omega) (by omega)
        exact := safeInteger_of_range (by omega) (by omega)
        estimated := safeInteger_of_range (by omega) (by omega)
        covered := safeInteger_of_range (by omega) (by omega)
        completeness := by rw [hformed.completeness]; rfl
        gaps := htells.gaps } }

/-- A direction of the totals of a response, as the page resolves it. -/
theorem resolveDirection_of_printed (page : TrafficHistoryResponse) (direction : Direction)
    {totals : TrafficHistoryTotals} {total exact estimated : String} (hpage : page.totals = some totals)
    (hbytes : totals.bytes direction = some (.string total))
    (hexact : totals.exactBytes direction = some exact)
    (hestimated : totals.estimatedBytes direction = some estimated)
    (htotal : Printed total) (hexactPrinted : Printed exact) (hestimatedPrinted : Printed estimated)
    (hparts : Db.decimalValue total = Db.decimalValue exact + Db.decimalValue estimated)
    (fallbackIntervalSecs : Rat) :
    ∃ e s, ((e + s : Nat) : Int) = Db.decimalValue total ∧
      resolveDirection page direction fallbackIntervalSecs = ⟨e + s, some e, some s, decide (0 < s)⟩
    := by
  obtain ⟨n, hn, hvalue⟩ := byteCount_of_printed htotal
  obtain ⟨e, he, hexactValue⟩ := byteCount_of_printed hexactPrinted
  obtain ⟨s, hs, hestimatedValue⟩ := byteCount_of_printed hestimatedPrinted
  obtain rfl : n = e + s := by omega
  refine ⟨e, s, hvalue, ?_⟩
  simp only [resolveDirection, hpage, Option.bind_some, hbytes, hexact, hestimated,
    Option.map_some, hn, he, hs, Option.isSome_some, true_or, if_true, Option.getD_some]

/-- The interval that the page falls back to. -/
def intervalOf (page : TrafficHistoryResponse) : Rat :=
  max 0 ((page.intervalSecs.map (fun secs => (secs : Rat))).getD 0)

/-- The byte counts that the page shows are those of the two directions. -/
theorem resolved_directions {page : TrafficHistoryResponse} {download upload : DirectionTotals}
    (hdownload : resolveDirection page .download (intervalOf page) = download)
    (hupload : resolveDirection page .upload (intervalOf page) = upload) :
    ((resolveTrafficTotals page).downloadBytes = download.total ∧
      (resolveTrafficTotals page).exactDownloadBytes = download.exact ∧
      (resolveTrafficTotals page).estimatedDownloadBytes = download.estimated) ∧
    ((resolveTrafficTotals page).uploadBytes = upload.total ∧
      (resolveTrafficTotals page).exactUploadBytes = upload.exact ∧
      (resolveTrafficTotals page).estimatedUploadBytes = upload.estimated) := by
  subst hdownload hupload
  exact ⟨⟨rfl, rfl, rfl⟩, ⟨rfl, rfl, rfl⟩⟩

/-- The ratio that a page takes of the coverage is what the coverage stands for. -/
theorem completeness_eq {covered requested : Int} (hnonneg : 0 ≤ covered) (hle : covered ≤ requested)
    (hpos : 0 < requested) :
    max 0 (min 1 (rateOf (Db.completenessOf covered requested))) = (covered : Rat) / requested := by
  have hrequested : (0 : Rat) < requested := by exact_mod_cast hpos
  have hlow : (0 : Rat) ≤ (covered : Rat) / requested :=
    div_nonneg (by exact_mod_cast hnonneg) hrequested.le
  have hhigh : (covered : Rat) / requested ≤ 1 := by
    rw [div_le_one hrequested]
    exact_mod_cast hle
  rw [Db.completenessOf, rateOf, min_eq_right hhigh, max_eq_right hlow, min_eq_right hhigh,
    max_eq_right hlow]

theorem shows_of_reports (h : Reports db query router interface r) :
    Shows db query router interface (responseView r) := by
  have hformed := h.formed
  obtain ⟨de, ds, hdownload, hdownloadTotals⟩ := resolveDirection_of_printed
    (responseView r) .download rfl rfl rfl rfl hformed.download
    hformed.exactDownload hformed.estimatedDownload hformed.downloadParts (intervalOf (responseView r))
  obtain ⟨ue, us, hupload, huploadTotals⟩ := resolveDirection_of_printed
    (responseView r) .upload rfl rfl rfl rfl hformed.upload
    hformed.exactUpload hformed.estimatedUpload hformed.uploadParts (intervalOf (responseView r))
  obtain ⟨⟨hdt, hde, hds⟩, ⟨hut, hue, hus⟩⟩ := resolved_directions hdownloadTotals huploadTotals
  have hcoveredSum := h.covered
  have hcovered := hformed.covered
  have hexact := hformed.exact_nonneg
  have hestimated := hformed.estimated_nonneg
  exact {
    ofRouter := congrArg (fun router => some (routerView router)) h.ofRouter
    ofInterface := congrArg (fun interface => some (interfaceView interface)) h.ofInterface
    listed := by
      rw [responseView, h.listed, List.map_map]
      rfl
    ordered := by
      have hbefore := h.inside.ordered
      rw [List.pairwise_map] at hbefore
      rw [responseView, List.map_map, List.pairwise_map]
      refine hbefore.imp_of_mem fun {p p'} hp hp' hspan => ?_
      have hproper := h.inside.proper _ (List.mem_map_of_mem hp)
      simp only [Function.comp, pointView, (hformed.points p hp).timestamp,
        (hformed.points p' hp').timestamp]
      exact lt_of_lt_of_le hproper hspan
    downloaded := by rw [hdt, hdownload, h.downloaded]
    uploaded := by rw [hut, hupload, h.uploaded]
    downloadParts := ⟨de, ds, hde, hds, hdt⟩
    uploadParts := ⟨ue, us, hue, hus, hut⟩
    complete := by
      rw [← hcoveredSum, ← h.requested]
      exact decide_eq_true_iff
    ratio := by
      show some (max 0 (min 1 (rateOf r.coverage.completeness))) = _
      rw [hformed.completeness, completeness_eq (by omega) hformed.covered_le
        hformed.requested_pos, hcoveredSum, h.requested]
    gaps := congrArg (fun count : Nat => some (count : Int)) h.gaps }

end

/-- A response that the page has read shows the stored rows. -/
theorem shows_of_parsed {db : Db.TrafficDb} {host : String} {params : TrafficQueryParams}
    {interruption : Option QueryInterruption} {r : TrafficResponse} (htyped : db.WellTyped)
    (htimed : db.Timed) (h : queryTraffic db host params interruption = .ok r) :
    (SafeResponse r ↔ Tells r) ∧ ∃ router interface, Means db host params router interface ∧
      Shows db (params.query router.id interface.id) router interface (responseView r) := by
  cases answered_of_ok htyped htimed h with
  | reported router interface _ hmeans _ _ hreports =>
      exact ⟨safeResponse_iff hreports hmeans.acceptable.range_le, router, interface, hmeans,
        shows_of_reports hreports⟩

end RouterView.Api.Page
