/-
  Api/TrafficView.lean --- the traffic page and the server behind it.

  The script of `TrafficView.vue`: what is selected, the numbered history requests, of which
  the newest one may change the screen, and what a request does when it settles.  Beside the
  page stands the server, whose database changes between the requests, and the network, which
  answers late, out of order or not at all.

  The server may answer a request as the endpoint does when a permit is missing, the
  deadline passes or the server shuts down; which of them happens is part of the event.
  Left out: the timeout of a request, the headers, the routes of the page, and drawing.
-/
import RouterView.Api.TrafficPage
import RouterView.Api.TrafficSpec

set_option autoImplicit false

namespace RouterView.Api.Page

open RouterView.Foundation

/-! ## Requests -/

/-- The instants that a `Date` can hold. -/
def Dateable (t : Int) : Prop := -8640000000000000 ≤ t ∧ t ≤ 8640000000000000

instance (t : Int) : Decidable (Dateable t) :=
  inferInstanceAs (Decidable (-8640000000000000 ≤ t ∧ t ≤ 8640000000000000))

/-- The time of a `Date`. -/
structure JsTime where
  ms : Int
  dateable : Dateable ms

/-- `new Date(value).getTime()` of a date field. -/
inductive DateField where
  | empty
  | invalid
  | date (time : JsTime)

/-- `TimeRange | 'custom'`, of the ranges of the page. -/
inductive TimeRange where
  | hour
  | sixHours
  | day
  | week
  | month
  | custom
  deriving DecidableEq, Repr

/-- `timeRangeToMs`. -/
def timeRangeToMs : TimeRange → Int
  | .hour => 3600 * 1000
  | .sixHours => 6 * 3600 * 1000
  | .day => 24 * 3600 * 1000
  | .week => 7 * 86400 * 1000
  | .month => 30 * 86400 * 1000
  | .custom => 0

/-- The start of a range before an instant is safe too. -/
theorem JsTime.safe_before (now : JsTime) (range : TimeRange) :
    SafeInteger (now.ms - timeRangeToMs range) := by
  have hdateable := now.dateable
  simp only [Dateable] at hdateable
  cases range <;> simp only [timeRangeToMs, SafeInteger, maxSafeInteger] <;> omega

/-- `TrafficHistorySelector`. -/
inductive TrafficHistorySelector where
  | interfaceId (id : String)
  | wanName (name : String)
  deriving DecidableEq, Repr

/-- What a history request is waiting for. -/
inductive CallStage where
  | waiting
  | rendering
  | settled
  deriving DecidableEq, Repr

/-- A range whose ends the page can tell apart. -/
structure AskedRange where
  startMs : Int
  endMs : Int
  start_safe : SafeInteger startMs
  end_safe : SafeInteger endMs

/-- One call of `fetchTrafficHistory`, with its generation and its controller. -/
structure HistoryCall extends AskedRange where
  generation : Nat
  selector : Option TrafficHistorySelector
  aborted : Bool
  stage : CallStage

theorem Dateable.safe {t : Int} (h : Dateable t) : SafeInteger t := by
  simp only [Dateable] at h
  simp only [SafeInteger, maxSafeInteger]
  omega

theorem SafeInteger.isI64 {n : Int} (h : SafeInteger n) : IsI64 n := by
  simp only [SafeInteger, maxSafeInteger] at h
  simp only [IsI64, i64Min, i64Max]
  omega

/-- The parameters that `fetchTrafficHistory` puts into the query. -/
def HistoryCall.params (call : HistoryCall) : TrafficQueryParams where
  start := call.startMs
  stop := call.endMs
  wanName := match call.selector with
    | some (.wanName name) => some name
    | _ => none
  interfaceId := match call.selector with
    | some (.interfaceId id) => some id
    | _ => none
  maxPoints := defaultMaxPoints
  start_isI64 := call.start_safe.isI64
  stop_isI64 := call.end_safe.isI64

/-! ## Errors -/

/-- What a history request is rejected with. -/
inductive PageError where
  | api (status : Nat) (code : String)
  | abort
  | other
  deriving DecidableEq, Repr

/-- `trafficHistoryErrorMessage`. -/
def trafficHistoryErrorMessage : PageError → String
  | .api status code =>
      if code = "traffic_history_not_found" then "所选范围或接口尚无流量历史数据"
      else if status = 429 ∨ code = "rate_limited" then "历史数据查询繁忙，请稍后重试"
      else "历史数据加载失败，请稍后重试"
  | _ => "历史数据加载失败，请稍后重试"

/-- The value of `apiRequest` for an answer of the endpoint. -/
def outcomeOf : Except AppError TrafficResponse → Except PageError TrafficHistoryResponse
  | .error error => .error (.api error.status error.code)
  | .ok response => (parseTrafficHistory (some response.toJson)).mapError (fun _ => .other)

/-! ## The page -/

/-- A point of the chart. -/
structure TrafficChartData where
  timestampMs : Int
  downloadBps : Rat
  uploadBps : Rat
  deriving DecidableEq, Repr

/-- What the page draws of a response: the chart, the interval and the totals. -/
structure Screen where
  chartData : List TrafficChartData
  intervalSecs : Option Rat
  totals : ResolvedTrafficTotals
  deriving DecidableEq, Repr

/-- The screen before any response. -/
def Screen.initial : Screen where
  chartData := []
  intervalSecs := none
  totals := {
    downloadBytes := 0
    uploadBytes := 0
    exactDownloadBytes := none
    exactUploadBytes := none
    estimatedDownloadBytes := none
    estimatedUploadBytes := none
    estimated := false
    complete := true
    coverageRatio := none
    requestedDurationMs := none
    exactDurationMs := none
    estimatedDurationMs := none
    coveredDurationMs := none
    gapCount := none }

/-- The screen of a response. -/
def screenOf (response : TrafficHistoryResponse) : Screen where
  chartData := response.points.map (fun p => ⟨p.timestampMs, p.downloadBps, p.uploadBps⟩)
  intervalSecs := match response.bucketSizeMs with
    | none => response.intervalSecs.map (fun secs => (secs : Rat))
    | some size => some ((size : Rat) / 1000)
  totals := resolveTrafficTotals response

/-- The life of the component. -/
inductive Phase where
  | created
  | mounted
  | unmounted
  deriving DecidableEq, Repr

/-- The state of the script. -/
structure TrafficView where
  phase : Phase
  selectedRange : TimeRange
  customStart : DateField
  customEnd : DateField
  loading : Bool
  error : Option String
  screen : Screen
  trafficInterfaces : List TrafficInterfaceMetadata
  selectedInterfaceId : Option String
  selectedLegacyWanName : Option String
  requestGeneration : Nat
  requestController : Option Nat
  calls : List HistoryCall

namespace TrafficView

/-- The component as it is created; the dashboard may have a WAN selected. -/
def initial (selectedWan : Option String) : TrafficView where
  phase := .created
  selectedRange := .sixHours
  customStart := .empty
  customEnd := .empty
  loading := false
  error := none
  screen := .initial
  trafficInterfaces := []
  selectedInterfaceId := none
  selectedLegacyWanName := selectedWan
  requestGeneration := 0
  requestController := none
  calls := []

/-- A text that is not empty. -/
def truthy (text : Option String) : Option String := text.filter (fun s => !s.isEmpty)

/-- `trafficSelector`. -/
def trafficSelector (v : TrafficView) : Option TrafficHistorySelector :=
  match truthy v.selectedInterfaceId, truthy v.selectedLegacyWanName with
  | some id, _ => some (.interfaceId id)
  | none, some name => some (.wanName name)
  | none, none => none

/-- `applyInterfaceMetadata`. -/
def applyInterfaceMetadata (v : TrafficView) (response : TrafficHistoryResponse) : TrafficView :=
  match response.wanInterfaces with
  | none => v
  | some [] => v
  | some (first :: rest) =>
      let v := { v with trafficInterfaces := first :: rest }
      match response.interface.filter (fun interface => !interface.aggregate) with
      | some interface =>
          { v with selectedInterfaceId := some interface.id, selectedLegacyWanName := none }
      | none =>
          match truthy v.selectedInterfaceId with
          | some id =>
              if v.trafficInterfaces.any (fun candidate => decide (candidate.id = id)) then v
              else { v with selectedInterfaceId := none }
          | none => v

/-- `requestController?.abort()`. -/
def abortController (v : TrafficView) : TrafficView :=
  { v with calls := v.calls.map (fun call =>
      if v.requestController = some call.generation then { call with aborted := true } else call) }

/-- The ends of the range that is asked for, or what becomes of the page without one. -/
def rangeOf (v : TrafficView) (now : JsTime) : TimeRange → TrafficView ⊕ AskedRange
  | .custom =>
      match v.customStart, v.customEnd with
      | .empty, _ => .inl v
      | _, .empty => .inl v
      | .date start, .date stop =>
          if stop.ms ≤ start.ms then .inl { v with error := some "结束时间必须大于开始时间" }
          else .inr ⟨start.ms, stop.ms, start.dateable.safe, stop.dateable.safe⟩
      | _, _ => .inl { v with error := some "结束时间必须大于开始时间" }
  | range =>
      .inr ⟨now.ms - timeRangeToMs range, now.ms, now.safe_before range, now.dateable.safe⟩

/-- `loadHistory`, up to the point where the request is sent. -/
def loadHistory (v : TrafficView) (now : JsTime) (range : TimeRange) : TrafficView :=
  let v := { v.abortController with
    requestGeneration := v.requestGeneration + 1
    requestController := none
    loading := false }
  match v.rangeOf now range with
  | .inl v => v
  | .inr asked =>
      { v with
        requestController := some v.requestGeneration
        loading := true
        error := none
        calls := v.calls ++ [{
          toAskedRange := asked
          generation := v.requestGeneration
          selector := v.trafficSelector
          aborted := false
          stage := .waiting }] }

/-- The stage of the call of a generation. -/
def setStage (v : TrafficView) (generation : Nat) (stage : CallStage) : TrafficView :=
  { v with calls := v.calls.map (fun call =>
      if call.generation = generation then { call with stage := stage } else call) }

/-- The `finally` of `loadHistory`. -/
def finish (v : TrafficView) (generation : Nat) : TrafficView :=
  if generation = v.requestGeneration then { v with loading := false } else v

/-- The `catch` of `loadHistory`. -/
def fail (v : TrafficView) (call : HistoryCall) (error : PageError) : TrafficView :=
  if call.aborted = true ∨ call.generation ≠ v.requestGeneration ∨ error = .abort then v
  else { v with error := some (trafficHistoryErrorMessage error) }

/-- What is left of `loadHistory` for a call whose request settles. -/
def settle (v : TrafficView) (call : HistoryCall) :
    Except PageError TrafficHistoryResponse → TrafficView
  | .error error =>
      ((v.setStage call.generation .settled).fail call error).finish call.generation
  | .ok response =>
      if call.generation ≠ v.requestGeneration then
        (v.setStage call.generation .settled).finish call.generation
      else
        let v := v.applyInterfaceMetadata response
        if response.points.all (fun p => decide (Dateable p.timestampMs)) then
          { v.setStage call.generation .rendering with screen := screenOf response }
        -- `toISOString` throws.
        else ((v.setStage call.generation .settled).fail call .other).finish call.generation

/-- The rest of `loadHistory` after `nextTick`. -/
def rendered (v : TrafficView) (call : HistoryCall) (failed : Bool) : TrafficView :=
  let v := v.setStage call.generation .settled
  (if failed then v.fail call .other else v).finish call.generation

/-- The call of a generation, in a stage. -/
def callIn (v : TrafficView) (generation : Nat) (stage : CallStage) : Option HistoryCall :=
  v.calls.find? (fun call => decide (call.generation = generation ∧ call.stage = stage))

/-- The prefix of the options that are names. -/
def legacyPrefix : String := "legacy:"

end TrafficView

/-- What the user does, and the life of the component. -/
inductive UserEvent where
  | mount
  | unmount
  | selectRange (range : TimeRange)
  | selectCustom (start stop : DateField)
  | editCustom (start stop : DateField)
  | applyCustom
  | selectInterface (value : String)
  | retry

namespace TrafficView

/-- `selectInterface`, up to its call of `loadHistory`. -/
def choose (v : TrafficView) (value : String) : TrafficView :=
  if legacyPrefix.toList <+: value.toList then
    { v with
      selectedInterfaceId := none
      selectedLegacyWanName :=
        truthy (some (String.ofList (value.toList.drop legacyPrefix.length))) }
  else { v with selectedInterfaceId := truthy (some value), selectedLegacyWanName := none }

/-- The handlers of the page. -/
def handle (v : TrafficView) (now : JsTime) : UserEvent → TrafficView
  | .mount =>
      if v.phase = .created then
        { v.loadHistory now v.selectedRange with phase := .mounted }
      else v
  | .unmount =>
      if v.phase = .mounted then
        { v.abortController with requestGeneration := v.requestGeneration + 1, phase := .unmounted }
      else v
  | event =>
      if v.phase ≠ .mounted then v
      else match event with
        | .selectRange range => { v with selectedRange := range }.loadHistory now range
        | .selectCustom start stop =>
            { v with selectedRange := .custom, customStart := start, customEnd := stop }
        | .editCustom start stop => { v with customStart := start, customEnd := stop }
        | .applyCustom =>
            match v.customStart, v.customEnd with
            | .empty, _ => v
            | _, .empty => v
            | _, _ => v.loadHistory now .custom
        | .selectInterface value => (v.choose value).loadHistory now v.selectedRange
        | .retry => v.loadHistory now v.selectedRange
        | _ => v

end TrafficView

/-! ## The page and the server -/

/-- A database whose columns hold what their types and its clock allow. -/
structure StoredDb where
  db : Db.TrafficDb
  typed : db.WellTyped
  timed : db.Timed

/-- An answer of the endpoint, with the database and the target that it was computed from
and what interrupted it. -/
structure ServerAnswer where
  generation : Nat
  stored : StoredDb
  host : String
  interruption : Option QueryInterruption
  result : Except AppError TrafficResponse

/-- The page, the server and the answers it has given. -/
structure TrafficSystem where
  view : TrafficView
  stored : StoredDb
  host : String
  answers : List ServerAnswer

/-- A step of the user, of the server or of the network. -/
inductive SystemEvent where
  | user (now : JsTime) (event : UserEvent)
  | store (stored : StoredDb)
  | configure (host : String)
  /-- The server handles the request of a generation. -/
  | serve (generation : Nat) (interruption : Option QueryInterruption)
  /-- Its answer arrives. -/
  | deliver (generation : Nat)
  /-- A request ends without an answer of the endpoint. -/
  | lose (generation : Nat) (status : Nat) (code : String)
  | time (generation : Nat)
  /-- A request that was aborted is rejected. -/
  | rejectAborted (generation : Nat)
  | render (generation : Nat) (failed : Bool)

namespace TrafficSystem

/-- The page before it is mounted. -/
def initial (stored : StoredDb) (host : String) (selectedWan : Option String) : TrafficSystem :=
  ⟨.initial selectedWan, stored, host, []⟩

/-- The page after the call of a generation has settled. -/
def settle (s : TrafficSystem) (generation : Nat)
    (outcome : Except PageError TrafficHistoryResponse) : TrafficSystem :=
  match s.view.callIn generation .waiting with
  | some call => { s with view := s.view.settle call outcome }
  | none => s

/-- One step. -/
def step (s : TrafficSystem) : SystemEvent → TrafficSystem
  | .user now event => { s with view := s.view.handle now event }
  | .store stored => { s with stored := stored }
  | .configure host => { s with host := host }
  | .serve generation interruption =>
      match s.view.callIn generation .waiting with
      | some call =>
          if s.answers.any (fun answer => decide (answer.generation = generation)) then s
          else { s with answers := s.answers ++ [⟨generation, s.stored, s.host, interruption,
            queryTraffic s.stored.db s.host call.params interruption⟩] }
      | none => s
  | .deliver generation =>
      match s.answers.find? (fun answer => decide (answer.generation = generation)) with
      | some answer => s.settle generation (outcomeOf answer.result)
      | none => s
  | .lose generation status code => s.settle generation (.error (.api status code))
  | .time generation => s.settle generation (.error .other)
  | .rejectAborted generation =>
      match s.view.callIn generation .waiting with
      | some call =>
          if call.aborted then { s with view := s.view.settle call (.error .abort) } else s
      | none => s
  | .render generation failed =>
      match s.view.callIn generation .rendering with
      | some call => { s with view := s.view.rendered call failed }
      | none => s

end TrafficSystem

end RouterView.Api.Page
