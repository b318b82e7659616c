/-
  Api/TrafficViewSpec.lean --- what the traffic page shows, in every run.

  Requests are numbered, and one that is not the newest changes nothing when it settles.  So
  the page loads exactly while its newest request is under way, and what it shows without an
  error is what the server stored for that request when it answered it.

  Scope: the bound on instants is that of `Api/TrafficSpec.lean`.  Custom ranges with empty
  fields send no request; what is said of the newest load is said when it sent one.
-/
import RouterView.Api.TrafficPageSpec
import RouterView.Api.TrafficView
import RouterView.Foundation.Run

set_option autoImplicit false

namespace RouterView.Api.Page

open RouterView.Foundation

/-! ## Steps of the page -/

namespace TrafficView

variable {v : TrafficView} {call : HistoryCall}

/-- The page selects an interface by its key or by its name. -/
def OneSelected (v : TrafficView) : Prop :=
  v.selectedInterfaceId ≠ none → v.selectedLegacyWanName = none

/-- What is selected after a response to a request: the interface of the response, where
that is no aggregate and the response lists interfaces; for an aggregate nothing, or what
the request was sent for. -/
structure Marks (asked : Option TrafficHistorySelector) (v : TrafficView)
    (response : TrafficHistoryResponse) : Prop where
  plain : ∀ first rest interface, response.wanInterfaces = some (first :: rest) →
    response.interface = some interface → interface.aggregate = false →
      v.selectedInterfaceId = some interface.id
  aggregate : ∀ interface, response.interface = some interface → interface.aggregate = true →
    v.trafficSelector = none ∨ v.trafficSelector = asked

variable {asked : Option TrafficHistorySelector} {response : TrafficHistoryResponse}

/-- Two pages with one selection. -/
structure SameSelection (v w : TrafficView) : Prop where
  id : w.selectedInterfaceId = v.selectedInterfaceId
  name : w.selectedLegacyWanName = v.selectedLegacyWanName

theorem SameSelection.trafficSelector {w : TrafficView} (h : SameSelection v w) :
    w.trafficSelector = v.trafficSelector := by
  rw [TrafficView.trafficSelector, h.id, h.name]
  rfl

theorem SameSelection.oneSelected {w : TrafficView} (h : SameSelection v w)
    (hone : v.OneSelected) : w.OneSelected := by
  unfold OneSelected
  rw [h.id, h.name]
  exact hone

theorem SameSelection.marks {w : TrafficView} (h : SameSelection v w)
    (hmarks : Marks asked v response) : Marks asked w response where
  plain := by
    rw [h.id]
    exact hmarks.plain
  aggregate := by
    rw [h.trafficSelector]
    exact hmarks.aggregate

/-- The selection stays as it was for the request, and the response is of no other
interface. -/
theorem marks_of_kept {w : TrafficView} (h : w.trafficSelector = asked)
    (hplain : ∀ interface first rest, response.wanInterfaces = some (first :: rest) →
      response.interface = some interface → interface.aggregate = true) :
    Marks asked w response where
  plain := by
    intro first rest interface hlist hinterface hfalse
    rw [hplain interface first rest hlist hinterface] at hfalse
    cases hfalse
  aggregate := fun _ _ _ => .inr h

/-- The metadata of a response changes the selection only. -/
theorem applyInterfaceMetadata_eq (v : TrafficView) (response : TrafficHistoryResponse) :
    ∃ interfaces id name, v.applyInterfaceMetadata response = { v with
        trafficInterfaces := interfaces
        selectedInterfaceId := id
        selectedLegacyWanName := name } := by
  unfold applyInterfaceMetadata
  split
  · exact ⟨_, _, _, rfl⟩
  · exact ⟨_, _, _, rfl⟩
  · dsimp only
    split
    · exact ⟨_, _, _, rfl⟩
    · split
      · split
        · exact ⟨_, _, _, rfl⟩
        · exact ⟨_, _, _, rfl⟩
      · exact ⟨_, _, _, rfl⟩

/-- What the metadata of a response selects. -/
theorem applyInterfaceMetadata_marks (hone : v.OneSelected) (response : TrafficHistoryResponse) :
    (v.applyInterfaceMetadata response).OneSelected ∧
      Marks v.trafficSelector (v.applyInterfaceMetadata response) response := by
  unfold applyInterfaceMetadata
  split
  · rename_i hnone
    exact ⟨hone, marks_of_kept rfl fun _ _ _ hlist => absurd (hnone ▸ hlist) nofun⟩
  · rename_i hnil
    exact ⟨hone, marks_of_kept rfl fun _ _ _ hlist => absurd (hnil ▸ hlist) nofun⟩
  · dsimp only
    split
    · rename_i interface hinterface
      obtain ⟨hsome, haggregate⟩ := Option.filter_eq_some_iff.mp hinterface
      refine ⟨fun _ => rfl, fun first rest i _ hi _ => ?_, fun i hi htrue => ?_⟩
      · rw [hsome] at hi
        cases hi
        rfl
      · rw [hsome] at hi
        cases hi
        rw [htrue] at haggregate
        cases haggregate
    · rename_i hfilter
      have hplain : ∀ i first rest, response.wanInterfaces = some (first :: rest) →
          response.interface = some i → i.aggregate = true := by
        intro i first rest _ hi
        rw [hi, Option.filter_some] at hfilter
        split at hfilter
        · cases hfilter
        · rename_i hnot
          simpa using hnot
      split
      · rename_i id hid
        split
        · exact ⟨hone, marks_of_kept rfl hplain⟩
        · -- the name is none where an interface was selected by its key
          have hsome : v.selectedInterfaceId ≠ none := by
            intro hnone
            rw [hnone] at hid
            cases hid
          refine ⟨fun hselected => absurd rfl hselected,
            fun first rest i hlist hi hfalse => ?_, fun _ _ _ => .inl ?_⟩
          · rw [hplain i first rest hlist hi] at hfalse
            cases hfalse
          · simp [trafficSelector, truthy, hone hsome]
      · exact ⟨hone, marks_of_kept rfl hplain⟩

theorem fail_stale (h : call.generation ≠ v.requestGeneration) (error : PageError) :
    v.fail call error = v := by
  rw [fail, if_pos (Or.inr (Or.inl h))]

theorem fail_newest (h : call.generation = v.requestGeneration) (hkept : call.aborted = false)
    (error : PageError) (herror : error ≠ .abort) :
    v.fail call error = { v with error := some (trafficHistoryErrorMessage error) } := by
  rw [fail, if_neg]
  rintro (haborted | hstale | habort)
  · rw [hkept] at haborted
    cases haborted
  · exact hstale h
  · exact herror habort

theorem finish_stale {generation : Nat} (h : generation ≠ v.requestGeneration) :
    v.finish generation = v := by
  rw [finish, if_neg h]

theorem finish_newest {generation : Nat} (h : generation = v.requestGeneration) :
    v.finish generation = { v with loading := false } := by
  rw [finish, if_pos h]

/-- The newest call fails: the page says so and loads no longer. -/
theorem fail_finish (h : call.generation = v.requestGeneration) (hkept : call.aborted = false)
    (error : PageError) (herror : error ≠ .abort) :
    (v.fail call error).finish call.generation = { v with
      error := some (trafficHistoryErrorMessage error)
      loading := false } := by
  rw [fail_newest h hkept error herror]
  exact finish_newest h

/-- A call that is not the newest only settles. -/
theorem settle_stale (h : call.generation ≠ v.requestGeneration)
    (outcome : Except PageError TrafficHistoryResponse) :
    v.settle call outcome = v.setStage call.generation .settled := by
  have hfinish : (v.setStage call.generation .settled).finish call.generation =
      v.setStage call.generation .settled := finish_stale h
  cases outcome with
  | error error =>
      rw [settle, fail_stale (v := v.setStage call.generation .settled) h]
      exact hfinish
  | ok response =>
      rw [settle, if_pos h]
      exact hfinish

theorem settle_error (h : call.generation = v.requestGeneration) (hkept : call.aborted = false)
    {error : PageError} (herror : error ≠ .abort) :
    v.settle call (.error error) = { v.setStage call.generation .settled with
      error := some (trafficHistoryErrorMessage error)
      loading := false } :=
  fail_finish (v := v.setStage call.generation .settled) h hkept error herror

/-- The newest call has a response: it is drawn, or no chart can be made of it. -/
theorem settle_ok (h : call.generation = v.requestGeneration) (hkept : call.aborted = false)
    (hone : v.OneSelected) (response : TrafficHistoryResponse) :
    ∃ interfaces id name, Marks v.trafficSelector { v with
          selectedInterfaceId := id
          selectedLegacyWanName := name } response ∧
      (v.settle call (.ok response) = { v.setStage call.generation .rendering with
          trafficInterfaces := interfaces
          selectedInterfaceId := id
          selectedLegacyWanName := name
          screen := screenOf response } ∨
        ∃ message, v.settle call (.ok response) = { v.setStage call.generation .settled with
          trafficInterfaces := interfaces
          selectedInterfaceId := id
          selectedLegacyWanName := name
          error := some message
          loading := false }) := by
  obtain ⟨interfaces, id, name, happlied⟩ := v.applyInterfaceMetadata_eq response
  have hmarks := (applyInterfaceMetadata_marks hone response).2
  rw [happlied] at hmarks
  let applied : TrafficView := { v with
    trafficInterfaces := interfaces
    selectedInterfaceId := id
    selectedLegacyWanName := name }
  refine ⟨interfaces, id, name, SameSelection.marks (v := applied) ⟨rfl, rfl⟩ hmarks, ?_⟩
  rw [settle, if_neg (not_not_intro h), happlied]
  dsimp only
  by_cases hdates : response.points.all (fun p => decide (Dateable p.timestampMs)) = true
  · rw [if_pos hdates]
    exact Or.inl rfl
  · rw [if_neg hdates]
    exact Or.inr ⟨_, fail_finish (v := applied.setStage call.generation .settled) h hkept .other
      nofun⟩

theorem rendered_stale (h : call.generation ≠ v.requestGeneration) (failed : Bool) :
    v.rendered call failed = v.setStage call.generation .settled := by
  cases failed with
  | false => exact finish_stale (v := v.setStage call.generation .settled) h
  | true =>
      show ((v.setStage call.generation .settled).fail call .other).finish call.generation = _
      rw [fail_stale (v := v.setStage call.generation .settled) h]
      exact finish_stale h

theorem rendered_newest (h : call.generation = v.requestGeneration) (hkept : call.aborted = false)
    (failed : Bool) :
    v.rendered call failed = { v.setStage call.generation .settled with loading := false } ∨
    ∃ message, v.rendered call failed = { v.setStage call.generation .settled with
      error := some message
      loading := false } := by
  cases failed with
  | false => exact Or.inl (finish_newest (v := v.setStage call.generation .settled) h)
  | true =>
      exact Or.inr ⟨_, fail_finish (v := v.setStage call.generation .settled) h hkept .other nofun⟩

/-- What a call changes of the page besides its numbers. -/
theorem fail_fields (v : TrafficView) (call : HistoryCall) (error : PageError) :
    ∃ message, v.fail call error = { v with error := message } := by
  unfold fail
  split
  · exact ⟨v.error, rfl⟩
  · exact ⟨_, rfl⟩

theorem finish_fields (v : TrafficView) (generation : Nat) :
    ∃ loading, v.finish generation = { v with loading := loading } := by
  unfold finish
  split
  · exact ⟨_, rfl⟩
  · exact ⟨v.loading, rfl⟩

theorem fail_finish_selection (v : TrafficView) (call : HistoryCall) (error : PageError)
    (generation : Nat) : SameSelection v ((v.fail call error).finish generation) := by
  obtain ⟨message, hfail⟩ := v.fail_fields call error
  obtain ⟨loading, hfinish⟩ := ({ v with error := message } : TrafficView).finish_fields generation
  rw [hfail, hfinish]
  exact ⟨rfl, rfl⟩

theorem finish_selection (v : TrafficView) (generation : Nat) :
    SameSelection v (v.finish generation) := by
  obtain ⟨loading, hfinish⟩ := v.finish_fields generation
  rw [hfinish]
  exact ⟨rfl, rfl⟩

theorem settle_oneSelected (hone : v.OneSelected) (call : HistoryCall)
    (outcome : Except PageError TrafficHistoryResponse) : (v.settle call outcome).OneSelected := by
  have hstaged : ∀ stage, (v.setStage call.generation stage).OneSelected := fun _ => hone
  cases outcome with
  | error error => exact (fail_finish_selection _ call error _).oneSelected (hstaged .settled)
  | ok response =>
      have happlied := (applyInterfaceMetadata_marks hone response).1
      unfold settle
      dsimp only
      split
      · exact (finish_selection _ _).oneSelected (hstaged .settled)
      · split
        · exact happlied
        · exact (fail_finish_selection ((v.applyInterfaceMetadata response).setStage
            call.generation .settled) call .other _).oneSelected happlied

theorem rendered_oneSelected (hone : v.OneSelected) (call : HistoryCall) (failed : Bool) :
    (v.rendered call failed).OneSelected := by
  have hstaged : (v.setStage call.generation .settled).OneSelected := hone
  cases failed with
  | false => exact (finish_selection _ _).oneSelected hstaged
  | true => exact (fail_finish_selection _ call .other _).oneSelected hstaged

/-- The numbers of two pages are the same, but for the stage of a call. -/
structure Restaged (v w : TrafficView) (generation : Nat) : Prop where
  phase : w.phase = v.phase
  newest : w.requestGeneration = v.requestGeneration
  controller : w.requestController = v.requestController
  calls : ∃ stage, w.calls = (v.setStage generation stage).calls

theorem fail_finish_restaged {w : TrafficView} {generation : Nat} (h : Restaged v w generation)
    (call : HistoryCall) (error : PageError) :
    Restaged v ((w.fail call error).finish generation) generation := by
  obtain ⟨message, hfail⟩ := w.fail_fields call error
  obtain ⟨loading, hfinish⟩ := ({ w with error := message } : TrafficView).finish_fields generation
  rw [hfail, hfinish]
  exact ⟨h.phase, h.newest, h.controller, h.calls⟩

theorem finish_restaged {w : TrafficView} {generation : Nat} (h : Restaged v w generation) :
    Restaged v (w.finish generation) generation := by
  obtain ⟨loading, hfinish⟩ := w.finish_fields generation
  rw [hfinish]
  exact ⟨h.phase, h.newest, h.controller, h.calls⟩

theorem settle_restaged (v : TrafficView) (call : HistoryCall)
    (outcome : Except PageError TrafficHistoryResponse) :
    Restaged v (v.settle call outcome) call.generation := by
  have hsettled : Restaged v (v.setStage call.generation .settled) call.generation :=
    ⟨rfl, rfl, rfl, .settled, rfl⟩
  cases outcome with
  | error error => exact fail_finish_restaged hsettled call error
  | ok response =>
      unfold settle
      dsimp only
      split
      · exact finish_restaged hsettled
      · obtain ⟨interfaces, id, name, happlied⟩ := v.applyInterfaceMetadata_eq response
        rw [happlied]
        split
        · exact ⟨rfl, rfl, rfl, .rendering, rfl⟩
        · let applied : TrafficView := { v with
            trafficInterfaces := interfaces
            selectedInterfaceId := id
            selectedLegacyWanName := name }
          have hrestaged : Restaged v (applied.setStage call.generation .settled)
              call.generation := ⟨rfl, rfl, rfl, .settled, rfl⟩
          exact fail_finish_restaged hrestaged call .other

theorem rendered_restaged (v : TrafficView) (call : HistoryCall) (failed : Bool) :
    Restaged v (v.rendered call failed) call.generation := by
  have hsettled : Restaged v (v.setStage call.generation .settled) call.generation :=
    ⟨rfl, rfl, rfl, .settled, rfl⟩
  cases failed with
  | false => exact finish_restaged hsettled
  | true => exact fail_finish_restaged hsettled call .other

theorem rangeOf_inl {now : JsTime} {range : TimeRange} {w : TrafficView}
    (h : v.rangeOf now range = .inl w) : ∃ message, w = { v with error := message } := by
  unfold rangeOf at h
  split at h
  · split at h
    · cases h
      exact ⟨v.error, rfl⟩
    · cases h
      exact ⟨v.error, rfl⟩
    · split at h
      · cases h
        exact ⟨_, rfl⟩
      · cases h
    · cases h
      exact ⟨_, rfl⟩
  · cases h

/-- A load is numbered anew; it asks for nothing, or sends the newest request. -/
theorem loadHistory_cases (v : TrafficView) (now : JsTime) (range : TimeRange) :
    (v.loadHistory now range).phase = v.phase ∧
    (v.loadHistory now range).requestGeneration = v.requestGeneration + 1 ∧
    SameSelection v (v.loadHistory now range) ∧
    (((v.loadHistory now range).requestController = none ∧
        (v.loadHistory now range).loading = false ∧
        (v.loadHistory now range).calls = v.abortController.calls) ∨
      ((v.loadHistory now range).requestController ≠ none ∧
        (v.loadHistory now range).loading = true ∧ (v.loadHistory now range).error = none ∧
        ∃ call : HistoryCall, call.generation = v.requestGeneration + 1 ∧ call.aborted = false ∧
          call.stage = .waiting ∧ call.selector = v.trafficSelector ∧
          (v.loadHistory now range).calls = v.abortController.calls ++ [call])) := by
  unfold loadHistory
  dsimp only
  split
  · rename_i w hrange
    obtain ⟨message, rfl⟩ := rangeOf_inl hrange
    exact ⟨rfl, rfl, ⟨rfl, rfl⟩, Or.inl ⟨rfl, rfl, rfl⟩⟩
  · exact ⟨rfl, rfl, ⟨rfl, rfl⟩, Or.inr ⟨nofun, rfl, rfl, _, rfl, rfl, rfl, rfl, rfl⟩⟩

theorem choose_oneSelected (v : TrafficView) (value : String) : (v.choose value).OneSelected := by
  unfold choose
  split
  · exact fun hselected => absurd rfl hselected
  · exact fun _ => rfl

theorem handle_oneSelected (hone : v.OneSelected) (now : JsTime) (event : UserEvent) :
    (v.handle now event).OneSelected := by
  have hloads : ∀ (w : TrafficView) (range : TimeRange), w.OneSelected →
      (w.loadHistory now range).OneSelected :=
    fun w range hw => (w.loadHistory_cases now range).2.2.1.oneSelected hw
  unfold handle
  split
  · split
    · exact hloads v v.selectedRange hone
    · exact hone
  · split
    · exact hone
    · exact hone
  · split
    · exact hone
    · split
      · exact hloads _ _ hone
      · exact hone
      · exact hone
      · split
        · exact hone
        · exact hone
        · exact hloads v .custom hone
      · exact hloads _ _ (v.choose_oneSelected _)
      · exact hloads v _ hone
      · exact hone

end TrafficView

/-! ## Requests and answers -/

namespace TrafficSystem

/-- The requests are numbered, and every answer is one of the endpoint to a request. -/
structure Numbered (s : TrafficSystem) : Prop where
  bounded : ∀ c ∈ s.view.calls, c.generation ≤ s.view.requestGeneration
  distinct : (s.view.calls.map (fun c => c.generation)).Nodup
  answered : ∀ a ∈ s.answers, ∃ c ∈ s.view.calls, c.generation = a.generation ∧
    a.result = queryTraffic a.stored.db a.host c.params a.interruption

variable {s : TrafficSystem}

theorem Numbered.eq_of_generation (h : s.Numbered) {c c' : HistoryCall} (hc : c ∈ s.view.calls)
    (hc' : c' ∈ s.view.calls) (hsame : c.generation = c'.generation) : c = c' :=
  List.inj_on_of_nodup_map h.distinct hc hc' hsame

/-- A change of the calls that keeps what was asked. -/
theorem Numbered.map (h : s.Numbered) {v : TrafficView} {f : HistoryCall → HistoryCall}
    (hgeneration : ∀ c, (f c).generation = c.generation) (hparams : ∀ c, (f c).params = c.params)
    (hcalls : v.calls = s.view.calls.map f)
    (hnewest : s.view.requestGeneration ≤ v.requestGeneration) :
    ({ s with view := v } : TrafficSystem).Numbered where
  bounded := by
    intro c hc
    rw [show ({ s with view := v } : TrafficSystem).view.calls = v.calls from rfl, hcalls] at hc
    obtain ⟨c', hc', rfl⟩ := List.mem_map.mp hc
    rw [hgeneration]
    exact (h.bounded c' hc').trans hnewest
  distinct := by
    show (v.calls.map (fun c => c.generation)).Nodup
    rw [hcalls, List.map_map, show (fun c : HistoryCall => c.generation) ∘ f =
      (fun c => c.generation) from funext hgeneration]
    exact h.distinct
  answered := by
    intro a ha
    obtain ⟨c, hc, hsame, hresult⟩ := h.answered a ha
    refine ⟨f c, ?_, (hgeneration c).trans hsame, by rw [hparams]; exact hresult⟩
    show f c ∈ v.calls
    rw [hcalls]
    exact List.mem_map_of_mem hc

/-- A new request with the next number. -/
theorem Numbered.send (h : s.Numbered) {v : TrafficView} {f : HistoryCall → HistoryCall}
    {call : HistoryCall} (hgeneration : ∀ c, (f c).generation = c.generation)
    (hparams : ∀ c, (f c).params = c.params)
    (hcalls : v.calls = s.view.calls.map f ++ [call])
    (hnewest : v.requestGeneration = s.view.requestGeneration + 1)
    (hcall : call.generation = s.view.requestGeneration + 1) :
    ({ s with view := v } : TrafficSystem).Numbered where
  bounded := by
    intro c hc
    show c.generation ≤ v.requestGeneration
    rw [show ({ s with view := v } : TrafficSystem).view.calls = v.calls from rfl, hcalls] at hc
    rcases List.mem_append.mp hc with hc | hc
    · obtain ⟨c', hc', rfl⟩ := List.mem_map.mp hc
      have hle := h.bounded c' hc'
      rw [hgeneration]
      omega
    · obtain rfl := List.mem_singleton.mp hc
      omega
  distinct := by
    show (v.calls.map (fun c => c.generation)).Nodup
    rw [hcalls, List.map_append, List.map_map, show (fun c : HistoryCall => c.generation) ∘ f =
      (fun c => c.generation) from funext hgeneration, List.nodup_append]
    refine ⟨h.distinct, List.nodup_singleton _, ?_⟩
    intro g hg g' hg'
    obtain ⟨c, hc, rfl⟩ := List.mem_map.mp hg
    have hnew : g' = call.generation := List.mem_singleton.mp hg'
    have hle := h.bounded c hc
    omega
  answered := by
    intro a ha
    obtain ⟨c, hc, hsame, hresult⟩ := h.answered a ha
    refine ⟨f c, ?_, (hgeneration c).trans hsame, by rw [hparams]; exact hresult⟩
    show f c ∈ v.calls
    rw [hcalls]
    exact List.mem_append_left _ (List.mem_map_of_mem hc)

/-- What was answered for a call is on the screen. -/
def Shown (s : TrafficSystem) (call : HistoryCall) : Prop :=
  ∃ a ∈ s.answers, a.generation = call.generation ∧ ∃ page, outcomeOf a.result = .ok page ∧
    s.view.screen = screenOf page ∧ TrafficView.Marks call.selector s.view page

/-- How far the newest call is, and what the page shows meanwhile. -/
def Progress (s : TrafficSystem) (call : HistoryCall) : Prop :=
  match call.stage with
  | .waiting => s.view.loading = true ∧ s.view.trafficSelector = call.selector
  | .rendering => s.view.loading = true ∧ s.Shown call
  | .settled => s.view.loading = false ∧ (s.view.error = none → s.Shown call)

/-- The page and its newest load: nothing is under way, or the newest call is. -/
structure Current (s : TrafficSystem) : Prop where
  idle : s.view.requestController = none → s.view.loading = false ∧
    ∀ c ∈ s.view.calls, c.generation ≠ s.view.requestGeneration
  sent : s.view.requestController ≠ none → ∃ c ∈ s.view.calls,
    c.generation = s.view.requestGeneration ∧ c.aborted = false ∧ s.Progress c

/-- What holds in every run. -/
structure Inv (s : TrafficSystem) : Prop where
  numbered : s.Numbered
  current : s.view.phase = .mounted → s.Current
  selected : s.view.OneSelected

theorem Shown.mono {s' : TrafficSystem} {call call' : HistoryCall} (h : s.Shown call)
    (hanswers : ∀ a ∈ s.answers, a ∈ s'.answers) (hscreen : s'.view.screen = s.view.screen)
    (hselected : TrafficView.SameSelection s.view s'.view)
    (hcall : call'.generation = call.generation) (hselector : call'.selector = call.selector) :
    s'.Shown call' := by
  obtain ⟨a, ha, hsame, page, hpage, hshown, hmarks⟩ := h
  exact ⟨a, hanswers a ha, hsame.trans hcall.symm, page, hpage, hscreen.trans hshown,
    hselector ▸ hselected.marks hmarks⟩

/-- A step that leaves the calls and what is shown. -/
theorem Current.congr {s' : TrafficSystem} (h : s.Current)
    (hanswers : ∀ a ∈ s.answers, a ∈ s'.answers) (hcalls : s'.view.calls = s.view.calls)
    (hnewest : s'.view.requestGeneration = s.view.requestGeneration)
    (hcontroller : s'.view.requestController = s.view.requestController)
    (hloading : s'.view.loading = s.view.loading) (herror : s'.view.error = s.view.error)
    (hscreen : s'.view.screen = s.view.screen)
    (hselected : TrafficView.SameSelection s.view s'.view) : s'.Current where
  idle := by
    rw [hcalls, hnewest, hcontroller, hloading]
    exact h.idle
  sent := by
    rw [hcalls, hnewest, hcontroller]
    intro hsent
    obtain ⟨c, hc, hsame, hkept, hprogress⟩ := h.sent hsent
    refine ⟨c, hc, hsame, hkept, ?_⟩
    unfold Progress at *
    rw [hloading, herror]
    split
    · rename_i hstage
      simp only [hstage] at hprogress
      exact ⟨hprogress.1, hselected.trafficSelector.trans hprogress.2⟩
    · rename_i hstage
      simp only [hstage] at hprogress
      exact ⟨hprogress.1, hprogress.2.mono hanswers hscreen hselected rfl rfl⟩
    · rename_i hstage
      simp only [hstage] at hprogress
      exact ⟨hprogress.1, fun hnone =>
        (hprogress.2 hnone).mono hanswers hscreen hselected rfl rfl⟩

/-! ## One step -/

/-- Only the stage of a call is changed, or whether it was aborted. -/
theorem setStage_generation (generation : Nat) (stage : CallStage) (c : HistoryCall) :
    (if c.generation = generation then { c with stage := stage } else c).generation =
      c.generation := by
  split <;> rfl

theorem setStage_params (generation : Nat) (stage : CallStage) (c : HistoryCall) :
    (if c.generation = generation then { c with stage := stage } else c).params = c.params := by
  split <;> rfl

theorem Numbered.restage (h : s.Numbered) {v : TrafficView} {generation : Nat}
    (hrestaged : TrafficView.Restaged s.view v generation) :
    ({ s with view := v } : TrafficSystem).Numbered := by
  obtain ⟨stage, hcalls⟩ := hrestaged.calls
  exact h.map (setStage_generation generation stage) (setStage_params generation stage) hcalls
    hrestaged.newest.ge

theorem abort_generation (v : TrafficView) (c : HistoryCall) :
    (if v.requestController = some c.generation then { c with aborted := true } else c).generation =
      c.generation := by
  split <;> rfl

theorem abort_params (v : TrafficView) (c : HistoryCall) :
    (if v.requestController = some c.generation then { c with aborted := true } else c).params =
      c.params := by
  split <;> rfl

/-- A load leaves the page with nothing under way, or with its own call. -/
theorem Numbered.loadHistory (h : s.Numbered) (now : JsTime) (range : TimeRange) :
    ({ s with view := s.view.loadHistory now range } : TrafficSystem).Numbered ∧
      ({ s with view := s.view.loadHistory now range } : TrafficSystem).Current := by
  obtain ⟨_, hnewest, hselection, hload⟩ := s.view.loadHistory_cases now range
  rcases hload with ⟨hcontroller, hloading, hcalls⟩ |
    ⟨hcontroller, hloading, _, call, hcall, hkept, hstage, hselector, hcalls⟩
  · have hnumbered : ({ s with view := s.view.loadHistory now range } : TrafficSystem).Numbered :=
      h.map (abort_generation s.view) (abort_params s.view) hcalls (by omega)
    refine ⟨hnumbered, fun _ => ⟨hloading, ?_⟩, fun hsent => absurd hcontroller hsent⟩
    intro c hc
    show c.generation ≠ (s.view.loadHistory now range).requestGeneration
    replace hc : c ∈ (s.view.loadHistory now range).calls := hc
    rw [hcalls] at hc
    obtain ⟨c', hc', rfl⟩ := List.mem_map.mp hc
    have hle := h.bounded c' hc'
    rw [abort_generation, hnewest]
    omega
  · refine ⟨h.send (abort_generation s.view) (abort_params s.view) hcalls hnewest hcall,
      fun hnone => absurd hnone hcontroller, fun _ => ?_⟩
    refine ⟨call, ?_, hcall.trans hnewest.symm, hkept, ?_⟩
    · show call ∈ (s.view.loadHistory now range).calls
      rw [hcalls]
      exact List.mem_append_right _ (List.mem_singleton.mpr rfl)
    · rw [Progress, hstage]
      exact ⟨hloading, hselection.trafficSelector.trans hselector.symm⟩

/-- The newest call, when another one changes its stage. -/
theorem Current.restage_other (h : s.Current) {generation : Nat} {stage : CallStage}
    (hother : generation ≠ s.view.requestGeneration) :
    ({ s with view := s.view.setStage generation stage } : TrafficSystem).Current where
  idle := by
    intro hnone
    obtain ⟨hloading, hcalls⟩ := h.idle hnone
    refine ⟨hloading, fun c hc => ?_⟩
    obtain ⟨c', hc', rfl⟩ := List.mem_map.mp hc
    rw [setStage_generation]
    exact hcalls c' hc'
  sent := by
    intro hsent
    obtain ⟨c, hc, hsame, hkept, hprogress⟩ := h.sent hsent
    refine ⟨c, List.mem_map.mpr ⟨c, hc, if_neg fun hg => hother (hg.symm.trans hsame)⟩, hsame,
      hkept, ?_⟩
    unfold Progress at *
    split <;> rename_i hstage <;> simp only [hstage] at hprogress
    · exact hprogress
    · exact ⟨hprogress.1, hprogress.2.mono (fun _ ha => ha) rfl ⟨rfl, rfl⟩ rfl rfl⟩
    · exact ⟨hprogress.1, fun hnone =>
        (hprogress.2 hnone).mono (fun _ ha => ha) rfl ⟨rfl, rfl⟩ rfl rfl⟩

/-- The newest call, in a new stage of its own. -/
theorem current_of_stage (s : TrafficSystem) {v w : TrafficView} {call : HistoryCall}
    (stage : CallStage) (hcall : call ∈ v.calls) (hsame : call.generation = v.requestGeneration)
    (hkept : call.aborted = false) (hcontroller : v.requestController ≠ none)
    (hcalls : w.calls = (v.setStage call.generation stage).calls)
    (hnewest : w.requestGeneration = v.requestGeneration)
    (hcontroller' : w.requestController = v.requestController)
    (hprogress : ({ s with view := w } : TrafficSystem).Progress { call with stage := stage }) :
    ({ s with view := w } : TrafficSystem).Current where
  idle := fun hnone => absurd (hcontroller'.symm.trans hnone) hcontroller
  sent := by
    intro _
    refine ⟨{ call with stage := stage }, ?_, hsame.trans hnewest.symm, hkept, hprogress⟩
    show _ ∈ w.calls
    rw [hcalls]
    exact List.mem_map.mpr ⟨call, hcall, if_pos rfl⟩

/-- A request settles with an error that is none of an abort, or with an answer to it. -/
def Settles (s : TrafficSystem) (call : HistoryCall) :
    Except PageError TrafficHistoryResponse → Prop
  | .error error => error = .abort → call.aborted = true
  | .ok page => ∃ a ∈ s.answers, a.generation = call.generation ∧ outcomeOf a.result = .ok page

theorem Inv.settle_call (h : s.Inv) {call : HistoryCall} (hcall : call ∈ s.view.calls)
    (hstage : call.stage = .waiting) {outcome : Except PageError TrafficHistoryResponse}
    (hsettles : s.Settles call outcome) :
    ({ s with view := s.view.settle call outcome } : TrafficSystem).Inv := by
  have hrestaged := s.view.settle_restaged call outcome
  refine ⟨h.numbered.restage hrestaged, fun hmounted => ?_,
    TrafficView.settle_oneSelected h.selected call outcome⟩
  have hcurrent := h.current (hrestaged.phase.symm.trans hmounted)
  by_cases hnewest : call.generation = s.view.requestGeneration
  swap
  · rw [TrafficView.settle_stale hnewest]
    exact hcurrent.restage_other hnewest
  have hcontroller : s.view.requestController ≠ none := fun hnone =>
    (hcurrent.idle hnone).2 call hcall hnewest
  obtain ⟨c, hc, hsame, hkept, hprogress⟩ := hcurrent.sent hcontroller
  obtain rfl := h.numbered.eq_of_generation hc hcall (hsame.trans hnewest.symm)
  rw [Progress, hstage] at hprogress
  cases outcome with
  | error error =>
      have hgoes : error ≠ .abort := by
        intro habort
        have haborted := hsettles habort
        rw [hkept] at haborted
        cases haborted
      rw [TrafficView.settle_error hnewest hkept hgoes]
      refine current_of_stage s .settled hcall hnewest hkept hcontroller ?_ ?_ ?_ ?_
      iterate 3 rfl
      exact ⟨rfl, nofun⟩
  | ok page =>
      obtain ⟨a, ha, hanswers, hpage⟩ := hsettles
      obtain ⟨interfaces, id, name, hmarks, hdrawn | ⟨message, hbroken⟩⟩ :=
        TrafficView.settle_ok hnewest hkept h.selected page
      · rw [hdrawn]
        refine current_of_stage s .rendering hcall hnewest hkept hcontroller ?_ ?_ ?_ ?_
        iterate 3 rfl
        rw [hprogress.2] at hmarks
        exact ⟨hprogress.1, a, ha, hanswers, page, hpage, rfl, hmarks.plain, hmarks.aggregate⟩
      · rw [hbroken]
        refine current_of_stage s .settled hcall hnewest hkept hcontroller ?_ ?_ ?_ ?_
        iterate 3 rfl
        exact ⟨rfl, nofun⟩

theorem Inv.render_call (h : s.Inv) {call : HistoryCall} (hcall : call ∈ s.view.calls)
    (hstage : call.stage = .rendering) (failed : Bool) :
    ({ s with view := s.view.rendered call failed } : TrafficSystem).Inv := by
  have hrestaged := s.view.rendered_restaged call failed
  refine ⟨h.numbered.restage hrestaged, fun hmounted => ?_,
    TrafficView.rendered_oneSelected h.selected call failed⟩
  have hcurrent := h.current (hrestaged.phase.symm.trans hmounted)
  by_cases hnewest : call.generation = s.view.requestGeneration
  swap
  · rw [TrafficView.rendered_stale hnewest]
    exact hcurrent.restage_other hnewest
  have hcontroller : s.view.requestController ≠ none := fun hnone =>
    (hcurrent.idle hnone).2 call hcall hnewest
  obtain ⟨c, hc, hsame, hkept, hprogress⟩ := hcurrent.sent hcontroller
  obtain rfl := h.numbered.eq_of_generation hc hcall (hsame.trans hnewest.symm)
  rw [Progress, hstage] at hprogress
  rcases TrafficView.rendered_newest hnewest hkept failed with hdrawn | ⟨message, hbroken⟩
  · rw [hdrawn]
    refine current_of_stage s .settled hcall hnewest hkept hcontroller ?_ ?_ ?_ ?_
    iterate 3 rfl
    exact ⟨rfl, fun _ => hprogress.2.mono (fun _ ha => ha) rfl ⟨rfl, rfl⟩ rfl rfl⟩
  · rw [hbroken]
    refine current_of_stage s .settled hcall hnewest hkept hcontroller ?_ ?_ ?_ ?_
    iterate 3 rfl
    exact ⟨rfl, nofun⟩

theorem choose_numbers (v : TrafficView) (value : String) :
    (v.choose value).calls = v.calls ∧
      (v.choose value).requestGeneration = v.requestGeneration := by
  unfold TrafficView.choose
  split <;> exact ⟨rfl, rfl⟩

/-- The user's steps. -/
theorem Inv.handle (h : s.Inv) (now : JsTime) (event : UserEvent) :
    ({ s with view := s.view.handle now event } : TrafficSystem).Inv := by
  have hone := TrafficView.handle_oneSelected h.selected now event
  suffices hrest : ({ s with view := s.view.handle now event } : TrafficSystem).Numbered ∧
      ((s.view.handle now event).phase = .mounted →
        ({ s with view := s.view.handle now event } : TrafficSystem).Current) from
    ⟨hrest.1, hrest.2, hone⟩
  clear hone
  have hkeeps : ({ s with view := s.view } : TrafficSystem).Numbered ∧
      (s.view.phase = .mounted → ({ s with view := s.view } : TrafficSystem).Current) :=
    ⟨h.numbered, h.current⟩
  have hloads : ∀ (v : TrafficView) (range : TimeRange), v.calls = s.view.calls →
      v.requestGeneration = s.view.requestGeneration →
        ({ s with view := v.loadHistory now range } : TrafficSystem).Numbered ∧
          ((v.loadHistory now range).phase = .mounted →
            ({ s with view := v.loadHistory now range } : TrafficSystem).Current) := by
    intro v range hcalls hnewest
    have hnumbered : ({ s with view := v } : TrafficSystem).Numbered :=
      h.numbered.map (fun _ => rfl) (fun _ => rfl) (hcalls.trans (List.map_id _).symm) hnewest.ge
    obtain ⟨hnumbered', hcurrent⟩ := hnumbered.loadHistory now range
    exact ⟨hnumbered', fun _ => hcurrent⟩
  have hedits : ∀ (start stop : DateField) (range : TimeRange),
      ({ s with view := { s.view with
        selectedRange := range, customStart := start, customEnd := stop } } :
          TrafficSystem).Numbered ∧
      (s.view.phase = .mounted → ({ s with view := { s.view with
        selectedRange := range, customStart := start, customEnd := stop } } :
          TrafficSystem).Current) :=
    fun start stop range => ⟨h.numbered.map (fun _ => rfl) (fun _ => rfl) (List.map_id _).symm le_rfl,
      fun hmounted => (h.current hmounted).congr (fun _ ha => ha) rfl rfl rfl rfl rfl rfl ⟨rfl, rfl⟩⟩
  cases event with
  | mount =>
      unfold TrafficView.handle
      dsimp only
      split
      · obtain ⟨hnumbered, hcurrent⟩ := h.numbered.loadHistory now s.view.selectedRange
        exact ⟨⟨hnumbered.bounded, hnumbered.distinct, hnumbered.answered⟩,
          fun _ => hcurrent.congr (fun _ ha => ha) rfl rfl rfl rfl rfl rfl ⟨rfl, rfl⟩⟩
      · exact hkeeps
  | unmount =>
      unfold TrafficView.handle
      dsimp only
      split
      · exact ⟨h.numbered.map (abort_generation s.view) (abort_params s.view) rfl (Nat.le_succ _),
          nofun⟩
      · exact hkeeps
  | selectRange range =>
      unfold TrafficView.handle
      dsimp only
      split
      · exact hkeeps
      · exact hloads _ range rfl rfl
  | selectCustom start stop =>
      unfold TrafficView.handle
      dsimp only
      split
      · exact hkeeps
      · exact hedits start stop .custom
  | editCustom start stop =>
      unfold TrafficView.handle
      dsimp only
      split
      · exact hkeeps
      · exact hedits start stop s.view.selectedRange
  | applyCustom =>
      unfold TrafficView.handle
      dsimp only
      split
      · exact hkeeps
      · split
        · exact hkeeps
        · exact hkeeps
        · exact hloads s.view .custom rfl rfl
  | selectInterface value =>
      unfold TrafficView.handle
      dsimp only
      split
      · exact hkeeps
      · obtain ⟨hcalls, hnewest⟩ := choose_numbers s.view value
        exact hloads _ s.view.selectedRange hcalls hnewest
  | retry =>
      unfold TrafficView.handle
      dsimp only
      split
      · exact hkeeps
      · exact hloads s.view s.view.selectedRange rfl rfl

theorem callIn_some {v : TrafficView} {generation : Nat} {stage : CallStage} {call : HistoryCall}
    (h : v.callIn generation stage = some call) :
    call ∈ v.calls ∧ call.generation = generation ∧ call.stage = stage := by
  have hfound := List.find?_some h
  rw [decide_eq_true_eq] at hfound
  exact ⟨List.mem_of_find?_eq_some h, hfound.1, hfound.2⟩

theorem Inv.settle (h : s.Inv) {generation : Nat}
    {outcome : Except PageError TrafficHistoryResponse}
    (hsettles : ∀ call ∈ s.view.calls, call.generation = generation → s.Settles call outcome) :
    (s.settle generation outcome).Inv := by
  unfold TrafficSystem.settle
  split
  · rename_i call hfound
    obtain ⟨hcall, hsame, hstage⟩ := callIn_some hfound
    exact h.settle_call hcall hstage (hsettles call hcall hsame)
  · exact h

theorem outcomeOf_ne_abort (result : Except AppError TrafficResponse) :
    outcomeOf result ≠ .error .abort := by
  cases result with
  | error error => simp [outcomeOf]
  | ok response =>
      unfold outcomeOf Except.mapError
      dsimp only
      split <;> simp

/-- A change of what the server stores or is configured with. -/
theorem Inv.server (h : s.Inv) (stored : StoredDb) (host : String) :
    ({ s with stored := stored, host := host } : TrafficSystem).Inv :=
  ⟨⟨h.numbered.bounded, h.numbered.distinct, h.numbered.answered⟩,
    fun hmounted => (h.current hmounted).congr (fun _ ha => ha) rfl rfl rfl rfl rfl rfl ⟨rfl, rfl⟩,
    h.selected⟩

theorem Inv.step (h : s.Inv) (event : SystemEvent) : (s.step event).Inv := by
  cases event with
  | user now event => exact h.handle now event
  | store stored => exact h.server stored s.host
  | configure host => exact h.server s.stored host
  | serve generation interruption =>
      unfold TrafficSystem.step
      dsimp only
      split
      · rename_i call hfound
        obtain ⟨hcall, hsame, _⟩ := callIn_some hfound
        split
        · exact h
        · refine ⟨⟨h.numbered.bounded, h.numbered.distinct, ?_⟩, fun hmounted =>
            (h.current hmounted).congr (fun _ ha => List.mem_append_left _ ha) rfl rfl rfl rfl rfl
              rfl ⟨rfl, rfl⟩, h.selected⟩
          intro a ha
          rcases List.mem_append.mp ha with ha | ha
          · exact h.numbered.answered a ha
          · obtain rfl := List.mem_singleton.mp ha
            exact ⟨call, hcall, hsame, rfl⟩
      · exact h
  | deliver generation =>
      unfold TrafficSystem.step
      dsimp only
      split
      · rename_i answer hfound
        have hanswer := List.find?_some hfound
        rw [decide_eq_true_eq] at hanswer
        refine h.settle fun call hcall hsame => ?_
        cases houtcome : outcomeOf answer.result with
        | error error =>
            intro habort
            exact absurd (habort ▸ houtcome) (outcomeOf_ne_abort answer.result)
        | ok page =>
            exact ⟨answer, List.mem_of_find?_eq_some hfound, hanswer.trans hsame.symm, houtcome⟩
      · exact h
  | lose generation status code => exact h.settle fun _ _ _ => nofun
  | time generation => exact h.settle fun _ _ _ => nofun
  | rejectAborted generation =>
      unfold TrafficSystem.step
      dsimp only
      split
      · rename_i call hfound
        obtain ⟨hcall, _, hstage⟩ := callIn_some hfound
        split
        · rename_i haborted
          exact h.settle_call hcall hstage fun _ => haborted
        · exact h
      · exact h
  | render generation failed =>
      unfold TrafficSystem.step
      dsimp only
      split
      · rename_i call hfound
        obtain ⟨hcall, _, hstage⟩ := callIn_some hfound
        exact h.render_call hcall hstage failed
      · exact h

theorem inv_initial (stored : StoredDb) (host : String) (selectedWan : Option String) :
    (initial stored host selectedWan).Inv where
  numbered := {
    bounded := fun _ hc => absurd hc List.not_mem_nil
    distinct := List.nodup_nil
    answered := fun _ ha => absurd ha List.not_mem_nil }
  current := fun hmounted => Phase.noConfusion hmounted
  selected := fun hselected => absurd rfl hselected

/-! ## Runs -/

/-- The screen is that of an answer to the call, and its totals are those of the rows that
were stored when the server answered; an interface that is no aggregate is the one that is
selected, and for an aggregate nothing is selected, or what the call was sent for. -/
def ShowsStored (s : TrafficSystem) (call : HistoryCall) : Prop :=
  ∃ a ∈ s.answers, a.generation = call.generation ∧ ∃ router interface page,
    Means a.stored.db a.host call.params router interface ∧
    Shows a.stored.db (call.params.query router.id interface.id) router interface page ∧
    s.view.screen = screenOf page ∧
    (interface.isAggregate = false →
      s.view.selectedInterfaceId = some interface.interfaceKey) ∧
    (interface.isAggregate = true →
      s.view.trafficSelector = none ∨ s.view.trafficSelector = call.selector)

theorem Numbered.showsStored (h : s.Numbered) {call : HistoryCall} (hcall : call ∈ s.view.calls)
    (hshown : s.Shown call) : s.ShowsStored call := by
  obtain ⟨a, ha, hsame, page, hpage, hscreen, hmarks⟩ := hshown
  obtain ⟨c, hc, hsame', hresult⟩ := h.answered a ha
  obtain rfl := h.eq_of_generation hc hcall (hsame'.trans hsame)
  cases hanswer : a.result with
  | error error =>
      rw [hanswer] at hpage
      cases hpage
  | ok r =>
      have hparsed : parseTrafficHistory (some r.toJson) = .ok page := by
        rw [hanswer, outcomeOf] at hpage
        cases hparse : parseTrafficHistory (some r.toJson) with
        | error message =>
            rw [hparse] at hpage
            cases hpage
        | ok page' =>
            rw [hparse] at hpage
            cases hpage
            rfl
      obtain ⟨_, rfl⟩ := (parseTrafficHistory_iff r page).mp hparsed
      obtain ⟨_, router, interface, hmeans, hshows⟩ :=
        shows_of_parsed a.stored.typed a.stored.timed (hresult.symm.trans hanswer)
      refine ⟨a, ha, hsame, router, interface, _, hmeans, hshows, hscreen, fun hplain => ?_,
        fun haggregate => hmarks.aggregate _ hshows.ofInterface haggregate⟩
      have hselected := hmeans.selects.mem
      have hlisted : interface ∈ a.stored.db.routerWanInterfaces router.id :=
        mem_routerWanInterfaces.mpr
          ((a.stored.db.mem_wanInterfacesOf).mpr ⟨hselected.1, hselected.2, hplain⟩)
      have hlist := hshows.listed
      cases hinterfaces : a.stored.db.routerWanInterfaces router.id with
      | nil =>
          rw [hinterfaces] at hlisted
          exact absurd hlisted List.not_mem_nil
      | cons first rest =>
          rw [hinterfaces, List.map_cons] at hlist
          exact hmarks.plain _ _ _ hlist hshows.ofInterface hplain

/-- The page loads exactly while its newest request is under way. -/
theorem Inv.loading_iff (h : s.Inv) (hcurrent : s.Current) :
    s.view.loading = true ↔ ∃ c ∈ s.view.calls,
      c.generation = s.view.requestGeneration ∧ c.stage ≠ .settled := by
  by_cases hsent : s.view.requestController = none
  · obtain ⟨hloading, hothers⟩ := hcurrent.idle hsent
    rw [hloading]
    refine iff_of_false Bool.false_ne_true ?_
    rintro ⟨c, hc, hsame, _⟩
    exact hothers c hc hsame
  obtain ⟨c, hc, hsame, _, hprogress⟩ := hcurrent.sent hsent
  unfold Progress at hprogress
  split at hprogress
  · rename_i hstage
    exact iff_of_true hprogress.1 ⟨c, hc, hsame, hstage ▸ nofun⟩
  · rename_i hstage
    exact iff_of_true hprogress.1 ⟨c, hc, hsame, hstage ▸ nofun⟩
  · rename_i hstage
    rw [hprogress.1]
    refine iff_of_false Bool.false_ne_true ?_
    rintro ⟨c', hc', hsame', hunsettled⟩
    obtain rfl := h.numbered.eq_of_generation hc' hc (hsame'.trans hsame.symm)
    exact hunsettled hstage

/-- In every run of the page and the server, whatever the user does, whatever is stored
meanwhile and in whichever order requests end: the page loads exactly while its newest
request is under way, and when it neither loads nor reports an error, the screen is what
the server answered to that request, with the totals of the rows stored then. -/
theorem screen_current (stored : StoredDb) (host : String) (selectedWan : Option String)
    (events : List SystemEvent)
    (h : (run step (initial stored host selectedWan) events).view.phase = .mounted) :
    let s := run step (initial stored host selectedWan) events
    (s.view.loading = true ↔ ∃ c ∈ s.view.calls,
      c.generation = s.view.requestGeneration ∧ c.stage ≠ .settled) ∧
    (s.view.loading = false → s.view.error = none → s.view.requestController ≠ none →
      ∃ c ∈ s.view.calls, c.generation = s.view.requestGeneration ∧ s.ShowsStored c) := by
  have hinv : (run step (initial stored host selectedWan) events).Inv :=
    run_preserves (fun s event (hs : TrafficSystem.Inv s) => hs.step event)
      (inv_initial stored host selectedWan) events
  have hcurrent := hinv.current h
  generalize run step (initial stored host selectedWan) events = s at *
  intro s'
  refine ⟨hinv.loading_iff hcurrent, fun hloading herror hsent => ?_⟩
  obtain ⟨c, hc, hsame, _, hprogress⟩ := hcurrent.sent hsent
  refine ⟨c, hc, hsame, hinv.numbered.showsStored hc ?_⟩
  unfold Progress at hprogress
  split at hprogress
  · rw [hloading] at hprogress
    cases hprogress.1
  · rw [hloading] at hprogress
    cases hprogress.1
  · exact hprogress.2 herror

/-- The database of a sample and a rollup. -/
def storedTraffic : StoredDb :=
  ⟨Db.TrafficDb.withTraffic, Db.withTraffic_wellTyped, Db.withTraffic_timed⟩

/-- The page is opened, an interface is selected while the first request is under way, and
the answers arrive. -/
def watched : List SystemEvent :=
  let now : JsTime := ⟨80000, by decide⟩
  [.user now .mount, .serve 1 none, .user now (.selectInterface "routeros:*1"), .serve 2 none, .deliver 2,
    .deliver 1, .render 2 false]

theorem screen_current_watched :
    ∃ c ∈ (run step (initial storedTraffic "192.168.88.1" none) watched).view.calls,
      c.generation = (run step (initial storedTraffic "192.168.88.1" none)
        watched).view.requestGeneration ∧
      ShowsStored (run step (initial storedTraffic "192.168.88.1" none) watched) c :=
  (screen_current storedTraffic "192.168.88.1" none watched (by decide +kernel)).2
    (by decide +kernel) (by decide +kernel) (by decide +kernel)

end TrafficSystem

end RouterView.Api.Page
