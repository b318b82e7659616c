/-
  Oidc/FlowRuns.lean --- runs of the login flows.

  The store is bounded; a callback goes on only with the flow that its source
  started, and before that expires; and once query and cookie of an admissible
  callback agree on a state, no callback goes on with it again.
-/
import RouterView.Foundation.Run
import RouterView.Oidc.FlowSpec

set_option autoImplicit false

namespace RouterView.Oidc

open RouterView.Foundation

section Runs

variable {Addr Identity : Type} [DecidableEq Addr] {store : FlowStore Addr} {now : Nat}

/-! ## Steps -/

/-- A step on the flows. -/
inductive FlowOp (Addr : Type) where
  | start (request : StartRequest Addr) (now : Nat)
  | callback (request : CallbackRequest Addr) (now : Nat)
  | discard (state : String)

/-- One step; the times of the steps are arbitrary. -/
def flowStep (provider : Provider Identity) (store : FlowStore Addr) :
    FlowOp Addr → FlowStore Addr
  | .start request now => (start store request now : Response Identity × FlowStore Addr).2
  | .callback request now => (callback provider store request now).2
  | .discard state => store.remove state

/-- A callback that goes on, with the flow that it consumes. -/
structure Consumption (Addr : Type) where
  state : String
  time : Nat
  flow : LoginFlow Addr

/-- The flow that a callback consumes when it goes on. -/
def consumption? (store : FlowStore Addr) (request : CallbackRequest Addr) (now : Nat) :
    Option (Consumption Addr) :=
  match (admitCallback store request now).1, agreedState request with
  | .ok _, some state => (store.find? state).map (fun flow => ⟨state, now, flow⟩)
  | _, _ => none

/-- A callback goes on only with the flow of its state, which its source started and which is not
expired. -/
theorem admitCallback_ok {request : CallbackRequest Addr} {values : Dict String String}
    {flow : ConsumedFlow} (h : (admitCallback store request now).1 = .ok (values, flow)) :
    ∃ state stored, consumption? store request now = some ⟨state, now, stored⟩ ∧
      values.find? "state" = some state ∧ singleCookie request.cookies flowCookie = some state ∧
      store.find? state = some stored ∧ flow = stored.consumed ∧
      request.source = some stored.source ∧ now < stored.expiresAt := by
  cases hagreed : agreedState request with
  | none =>
      obtain ⟨_, error, herror⟩ := admitCallback_other store now hagreed
      rw [herror] at h
      cases h
  | some state =>
      obtain ⟨source, stored, hsource, hconsume, hflow, hparse⟩ :=
        (admitCallback_agreed hagreed).2 values flow h
      obtain ⟨hfind, hsame, hlive⟩ := consume_eq_some hconsume
      obtain ⟨values', hparse', _, hquery, hcookie⟩ := agreedState_eq_some hagreed
      rw [hparse] at hparse'
      cases hparse'
      refine ⟨state, stored, ?_, hquery, hcookie, hfind, hflow, by rw [hsource, hsame], hlive⟩
      rw [consumption?, h, hagreed]
      simp only [hfind, Option.map_some]

theorem consumption?_eq_some {request : CallbackRequest Addr} {c : Consumption Addr}
    (h : consumption? store request now = some c) :
    agreedState request = some c.state ∧ store.find? c.state = some c.flow ∧
      c.time < c.flow.expiresAt := by
  have hgoes := h
  unfold consumption? at h
  cases hpassed : (admitCallback store request now).1 with
  | error error =>
      rw [hpassed] at h
      cases h
  | ok admitted =>
      obtain ⟨values, flow⟩ := admitted
      obtain ⟨state, stored, hc, _, _, hfind, _, _, hlive⟩ := admitCallback_ok hpassed
      rw [hgoes] at hc
      cases hc
      refine ⟨?_, hfind, hlive⟩
      cases hagreed : agreedState request with
      | none =>
          rw [hpassed, hagreed] at h
          cases h
      | some state' =>
          simp only [hpassed, hagreed] at h
          obtain ⟨flow', _, heq⟩ := Option.map_eq_some_iff.mp h
          cases heq
          rfl

/-- The states that were seen, the flows that were stored, and the callbacks that went on. -/
structure FlowHistory (Addr : Type) where
  seen : List String
  stored : List (String × LoginFlow Addr)
  consumed : List (Consumption Addr)

/-- Nothing happened. -/
def FlowHistory.initial : FlowHistory Addr := ⟨[], [], []⟩

/-- The flow that a state has. -/
def held (store : FlowStore Addr) (state : String) : List (String × LoginFlow Addr) :=
  ((store.find? state).map (fun flow => (state, flow))).toList

/-- The history after a step. -/
def historyStep (provider : Provider Identity) (store : FlowStore Addr) (history : FlowHistory Addr) :
    FlowOp Addr → FlowHistory Addr
  | .start request now =>
      { history with
        seen := request.tokens.state :: history.seen
        stored := held (flowStep provider store (.start request now)) request.tokens.state ++
          history.stored }
  | .callback request now =>
      { history with
        seen := (agreedState request).toList ++ history.seen
        consumed := (consumption? store request now).toList ++ history.consumed }
  | .discard _ => history

/-- The store with its history. -/
abbrev FlowWorld (Addr : Type) : Type := FlowStore Addr × FlowHistory Addr

/-- One step, with the history. -/
def worldStep (provider : Provider Identity) (x : FlowWorld Addr) (op : FlowOp Addr) :
    FlowWorld Addr :=
  (flowStep provider x.1 op, historyStep provider x.1 x.2 op)

/-- A start draws a state that was never seen. -/
def FlowOp.Fresh (x : FlowWorld Addr) : FlowOp Addr → Prop
  | .start request _ => request.tokens.state ∉ x.2.seen
  | _ => True

instance (x : FlowWorld Addr) (op : FlowOp Addr) : Decidable (op.Fresh x) := by
  cases op with
  | start request now => exact inferInstanceAs (Decidable (_ ∉ _))
  | callback request now => exact inferInstanceAs (Decidable True)
  | discard state => exact inferInstanceAs (Decidable True)

/-- The state was seen, and has no flow any more. -/
def Gone (state : String) (x : FlowWorld Addr) : Prop :=
  state ∈ x.2.seen ∧ x.1.find? state = none

variable {provider : Provider Identity}

theorem callback_agreed {request : CallbackRequest Addr} {state : String}
    (h : agreedState request = some state) :
    flowStep provider store (.callback request now) = burn store state now request.source := by
  rw [flowStep, callback_snd, (admitCallback_agreed h).1]

theorem callback_other {request : CallbackRequest Addr} (h : agreedState request = none) :
    flowStep provider store (.callback request now) = store := by
  rw [flowStep, callback_snd, (admitCallback_other store now h).1]

/-- A flow was there before the step, or the step is the start that stores it. -/
theorem flowStep_find? {op : FlowOp Addr} {key : String} {flow : LoginFlow Addr}
    (h : (flowStep provider store op).find? key = some flow) :
    store.find? key = some flow ∨ ∃ request now, op = .start request now ∧
      key = request.tokens.state := by
  cases op with
  | start request now =>
      rcases @start_snd Addr Identity _ store request now with hsame | ⟨flow', hinsert⟩
      · rw [flowStep, hsame] at h
        exact Or.inl h
      · rw [flowStep, hinsert] at h
        rcases insert_find? h with hbefore | hkey
        · exact Or.inl hbefore
        · exact Or.inr ⟨request, now, rfl, hkey⟩
  | callback request now =>
      left
      cases hagreed : agreedState request with
      | none =>
          rw [callback_other hagreed] at h
          exact h
      | some state =>
          rw [callback_agreed hagreed] at h
          exact burn_find? h
  | discard state =>
      left
      rw [flowStep, Dict.find?_remove] at h
      split at h
      · cases h
      · exact h

theorem Bounded.step (h : Bounded store) (op : FlowOp Addr) :
    Bounded (flowStep provider store op) := by
  cases op with
  | start request now =>
      rcases @start_snd Addr Identity _ store request now with hsame | ⟨flow, hinsert⟩
      · rw [flowStep, hsame]
        exact h
      · rw [flowStep, hinsert]
        exact h.insert _ _ _
  | callback request now =>
      cases hagreed : agreedState request with
      | none =>
          rw [callback_other hagreed]
          exact h
      | some state =>
          rw [callback_agreed hagreed]
          exact h.burn state now _
  | discard state => exact h.remove state

theorem seen_step {state : String} {x : FlowWorld Addr} (h : state ∈ x.2.seen) (op : FlowOp Addr) :
    state ∈ (worldStep provider x op).2.seen := by
  cases op with
  | start request now => exact List.mem_cons_of_mem _ h
  | callback request now => exact List.mem_append_right _ h
  | discard state' => exact h

/-- A state that is gone does not come back. -/
theorem Gone.step {state : String} {x : FlowWorld Addr} (h : Gone state x) {op : FlowOp Addr}
    (hfresh : op.Fresh x) : Gone state (worldStep provider x op) := by
  refine ⟨seen_step h.1 op, ?_⟩
  cases hfind : (worldStep provider x op).1.find? state with
  | none => rfl
  | some flow =>
      rcases flowStep_find? hfind with hbefore | ⟨request, now, rfl, rfl⟩
      · rw [h.2] at hbefore
        cases hbefore
      · exact absurd h.1 hfresh

theorem Gone.along {state : String} {x : FlowWorld Addr} (h : Gone state x)
    {ops : List (FlowOp Addr)}
    (hops : Along (worldStep provider) (fun x op => op.Fresh x) x ops) :
    Gone state (run (worldStep provider) x ops) := by
  have hstep : ∀ (x : FlowWorld Addr) (op : FlowOp Addr), Gone state x → op.Fresh x →
      Gone state (worldStep provider x op) := fun _ _ h hfresh => h.step hfresh
  exact run_invariant hstep h hops

/-- A callback does not go on with a state that is gone. -/
theorem Gone.not_admitted {state : String} {x : FlowWorld Addr} (h : Gone state x)
    {request : CallbackRequest Addr} {values : Dict String String} {flow : ConsumedFlow}
    (hok : (admitCallback x.1 request now).1 = .ok (values, flow)) :
    values.find? "state" ≠ some state := by
  obtain ⟨state', stored, _, hquery, _, hfind, _⟩ := admitCallback_ok hok
  rw [hquery]
  intro hsame
  rw [Option.some.inj hsame, h.2] at hfind
  cases hfind

/-- The invariant of the flows. -/
structure Sound (x : FlowWorld Addr) : Prop where
  bounded : Bounded x.1
  seen : ∀ key flow, x.1.find? key = some flow → key ∈ x.2.seen
  stored : ∀ key flow, x.1.find? key = some flow → (key, flow) ∈ x.2.stored
  gone : ∀ c ∈ x.2.consumed, Gone c.state x
  consumed : ∀ c ∈ x.2.consumed, (c.state, c.flow) ∈ x.2.stored ∧ c.time < c.flow.expiresAt
  once : (x.2.consumed.map Consumption.state).Nodup

theorem Sound.initial : Sound ((Dict.empty, FlowHistory.initial) : FlowWorld Addr) where
  bounded := Bounded.empty
  seen := fun _ _ hfind => by cases hfind
  stored := fun _ _ hfind => by cases hfind
  gone := fun _ hc => by cases hc
  consumed := fun _ hc => by cases hc
  once := List.nodup_nil

theorem stored_step (x : FlowWorld Addr) (op : FlowOp Addr) {entry : String × LoginFlow Addr}
    (h : entry ∈ x.2.stored) : entry ∈ (worldStep provider x op).2.stored := by
  cases op with
  | start request now => exact List.mem_append_right _ h
  | callback request now => exact h
  | discard state => exact h

/-- What went on before the step, or goes on in it. -/
theorem consumed_step {x : FlowWorld Addr} {op : FlowOp Addr} {c : Consumption Addr}
    (h : c ∈ (worldStep provider x op).2.consumed) :
    c ∈ x.2.consumed ∨ ∃ request now, op = .callback request now ∧
      consumption? x.1 request now = some c := by
  cases op with
  | start request now => exact Or.inl h
  | discard state => exact Or.inl h
  | callback request now =>
      rcases List.mem_append.mp h with hnew | hold
      · exact Or.inr ⟨request, now, rfl, Option.mem_toList.mp hnew⟩
      · exact Or.inl hold

theorem Sound.step {x : FlowWorld Addr} (h : Sound x) {op : FlowOp Addr} (hfresh : op.Fresh x) :
    Sound (worldStep provider x op) where
  bounded := h.bounded.step op
  seen := by
    intro key flow hfind
    rcases flowStep_find? hfind with hbefore | ⟨request, now, rfl, rfl⟩
    · exact seen_step (h.seen key flow hbefore) op
    · exact List.mem_cons_self
  stored := by
    intro key flow hfind
    rcases flowStep_find? hfind with hbefore | ⟨request, now, rfl, rfl⟩
    · exact stored_step x op (h.stored key flow hbefore)
    · apply List.mem_append_left
      rw [held, Option.mem_toList]
      exact Option.map_eq_some_iff.mpr ⟨flow, hfind, rfl⟩
  gone := by
    intro c hc
    rcases consumed_step hc with hbefore | ⟨request, now, rfl, hnew⟩
    · exact (h.gone c hbefore).step hfresh
    · obtain ⟨hagreed, _, _⟩ := consumption?_eq_some hnew
      refine ⟨List.mem_append_left _ (Option.mem_toList.mpr hagreed), ?_⟩
      rw [worldStep, callback_agreed hagreed]
      exact burn_gone _ _ _ _
  consumed := by
    intro c hc
    rcases consumed_step hc with hbefore | ⟨request, now, rfl, hnew⟩
    · exact ⟨stored_step x op (h.consumed c hbefore).1, (h.consumed c hbefore).2⟩
    · obtain ⟨_, hfind, hlive⟩ := consumption?_eq_some hnew
      exact ⟨h.stored _ _ hfind, hlive⟩
  once := by
    cases op with
    | start request now => exact h.once
    | discard state => exact h.once
    | callback request now =>
        show ((consumption? x.1 request now).toList ++ x.2.consumed).map _ |>.Nodup
        cases hnew : consumption? x.1 request now with
        | none => exact h.once
        | some c =>
            obtain ⟨_, hfind, _⟩ := consumption?_eq_some hnew
            rw [Option.toList_some, List.singleton_append, List.map_cons, List.nodup_cons]
            refine ⟨?_, h.once⟩
            intro hmem
            obtain ⟨before, hbefore, hsame⟩ := List.mem_map.mp hmem
            have hgone := (h.gone before hbefore).2
            rw [hsame, hfind] at hgone
            cases hgone

theorem Sound.along {x : FlowWorld Addr} (h : Sound x) {ops : List (FlowOp Addr)}
    (hops : Along (worldStep provider) (fun x op => op.Fresh x) x ops) :
    Sound (run (worldStep provider) x ops) := by
  have hstep : ∀ (x : FlowWorld Addr) (op : FlowOp Addr), Sound x → op.Fresh x →
      Sound (worldStep provider x op) := fun _ _ h hfresh => h.step hfresh
  exact run_invariant hstep h hops

/-! ## The guarantees -/

/-- No flow was started. -/
def FlowWorld.initial : FlowWorld Addr := (Dict.empty, FlowHistory.initial)

/-- The flows of a source that are not expired are no more than its flows. -/
theorem unexpired_le (store : FlowStore Addr) (source : Addr) (now : Nat) :
    store.count (fun _ flow => decide (flow.source = source ∧ flow.expiresAt > now)) ≤
      store.ofSource source := by
  apply List.countP_mono_left
  intro entry _ hboth
  exact decide_eq_true (of_decide_eq_true hboth).1

/-- Over any starts, callbacks and discards at any times, with states that were never seen before:
there are at most as many flows as the capacity, and as many unexpired ones of a source as the limit;
a state is consumed once, and before its flow expires; a callback goes on only when query, cookie and
store have its state and its source started the flow; and once query and cookie of an admissible
callback agree, its state is gone and no callback goes on with it. -/
theorem oidc_flows_one_shot (provider : Provider Identity) (ops : List (FlowOp Addr))
    (hops : Along (worldStep provider) (fun x op => op.Fresh x) FlowWorld.initial ops) :
    ((run (worldStep provider) FlowWorld.initial ops).1.size ≤ flowCapacity ∧
      ∀ source now, (run (worldStep provider) FlowWorld.initial ops).1.count
        (fun _ flow => decide (flow.source = source ∧ flow.expiresAt > now)) ≤ flowPerSource) ∧
    (((run (worldStep provider) FlowWorld.initial ops).2.consumed.map Consumption.state).Nodup ∧
      ∀ c ∈ (run (worldStep provider) FlowWorld.initial ops).2.consumed,
        (c.state, c.flow) ∈ (run (worldStep provider) FlowWorld.initial ops).2.stored ∧
          c.time < c.flow.expiresAt) ∧
    (∀ request now values flow,
      (admitCallback (run (worldStep provider) FlowWorld.initial ops).1 request now).1 =
          .ok (values, flow) →
      ∃ state stored,
        consumption? (run (worldStep provider) FlowWorld.initial ops).1 request now =
          some ⟨state, now, stored⟩ ∧
        values.find? "state" = some state ∧ singleCookie request.cookies flowCookie = some state ∧
        (run (worldStep provider) FlowWorld.initial ops).1.find? state = some stored ∧
        flow = stored.consumed ∧ request.source = some stored.source ∧ now < stored.expiresAt) ∧
    ∀ request now state, agreedState request = some state →
      (callback provider (run (worldStep provider) FlowWorld.initial ops).1 request now).2.find?
          state = none ∧
      ∀ later, Along (worldStep provider) (fun x op => op.Fresh x)
          (run (worldStep provider) FlowWorld.initial (ops ++ [.callback request now])) later →
        ∀ request' now' values flow,
          (admitCallback (run (worldStep provider) FlowWorld.initial
            (ops ++ [.callback request now] ++ later)).1 request' now').1 = .ok (values, flow) →
          values.find? "state" ≠ some state := by
  have hsound := Sound.initial.along hops
  refine ⟨⟨hsound.bounded.size, ?_⟩, ⟨hsound.once, hsound.consumed⟩, ?_, ?_⟩
  · intro source now
    exact le_trans (unexpired_le _ source now) (hsound.bounded.perSource source)
  · intro request now values flow hok
    exact admitCallback_ok hok
  · intro request now state hagreed
    have hburnt : (flowStep provider (run (worldStep provider) FlowWorld.initial ops).1
        (.callback request now)).find? state = none := by
      rw [callback_agreed hagreed]
      exact burn_gone _ _ _ _
    refine ⟨hburnt, ?_⟩
    intro later hlater request' now' values flow hok
    have hgone : Gone state (worldStep provider
        (run (worldStep provider) FlowWorld.initial ops) (.callback request now)) :=
      ⟨List.mem_append_left _ (Option.mem_toList.mpr hagreed), hburnt⟩
    rw [run_append] at hlater hok
    rw [run_append] at hok
    exact (hgone.along hlater).not_admitted hok

end Runs

/-! ## Two callbacks -/

/-- A provider that knows nobody. -/
def nobody : Provider Unit := ⟨none, fun _ _ => .error .notAuthorized, fun _ _ => false⟩

/-- A source starts a flow. -/
def started : List (FlowOp Nat) :=
  [.start ⟨⟨0, []⟩, .present, some 7, true, ⟨"s", "n", "p"⟩, 0⟩ 0]

/-- A callback of that source with the cookie of the flow and the given fields. -/
def fromBrowser (pairs : List (String × String)) : CallbackRequest Nat :=
  ⟨⟨64, pairs⟩, [some "__Host-routerview_oidc_flow=s"], .present, some 7⟩

/-- The provider's error burns the flow, so that a code that comes later finds none. -/
theorem oidc_flows_one_shot_provider_error :
    (callback nobody (run (worldStep nobody) FlowWorld.initial started).1
      (fromBrowser [("state", "s"), ("error", "access_denied")]) 1).2.find? "s" = none ∧
    ∀ values flow, (admitCallback (run (worldStep nobody) FlowWorld.initial
        (started ++ [.callback (fromBrowser [("state", "s"), ("error", "access_denied")]) 1] ++
          [.discard "t"])).1 (fromBrowser [("state", "s"), ("code", "c")]) 2).1 =
        .ok (values, flow) → values.find? "state" ≠ some "s" := by
  obtain ⟨_, _, _, hburns⟩ := oidc_flows_one_shot nobody started (by decide +kernel)
  obtain ⟨hgone, hlater⟩ := hburns (fromBrowser [("state", "s"), ("error", "access_denied")]) 1 "s"
    (by decide +kernel)
  exact ⟨hgone, hlater [.discard "t"] (by decide +kernel)
    (fromBrowser [("state", "s"), ("code", "c")]) 2⟩

/-- A callback with the details of an error but without the error is refused before it burns its
flow, although query and cookie agree on the state: the same browser then goes on with a code. -/
theorem stray_error_details_keep_flow :
    ¬ ∀ (ops : List (FlowOp Nat)) (request : CallbackRequest Nat) (now : Nat)
        (values : Dict String String) (state : String),
      Along (worldStep nobody) (fun x op => op.Fresh x) FlowWorld.initial ops →
      parseQuery request.query callbackFields = some values → values.find? "state" = some state →
      singleCookie request.cookies flowCookie = some state →
      ∀ request' now', ¬ ((admitCallback (run (worldStep nobody) FlowWorld.initial
        (ops ++ [.callback request now])).1 request' now').1.isOk = true ∧
          agreedState request' = some state) := by
  intro hclaim
  obtain ⟨values, hparse⟩ : ∃ values, parseQuery (fromBrowser [("state", "s"),
      ("error_description", "d")]).query callbackFields = some values :=
    Option.isSome_iff_exists.mp (by decide +kernel)
  have hstate : values.find? "state" = some "s" := by
    have hfind : (parseQuery (fromBrowser [("state", "s"), ("error_description", "d")]).query
        callbackFields).bind (fun values => values.find? "state") = some "s" := by decide +kernel
    rw [hparse] at hfind
    exact hfind
  exact hclaim started (fromBrowser [("state", "s"), ("error_description", "d")]) 1 values "s"
    (by decide +kernel) hparse hstate (by decide +kernel)
    (fromBrowser [("state", "s"), ("code", "c")]) 2 (by decide +kernel)

end RouterView.Oidc
