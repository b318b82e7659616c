/-
  Ws/Convergence.lean --- what the clients of the hub show.

  Without override requests, every client that received what was sent to it shows
  the cached snapshot.  With them it shows the latest poll with the present
  overrides, where each request replaces the cached snapshot alone.
-/
import RouterView.Ws.HubSpec
import RouterView.Ws.Dashboard

set_option autoImplicit false

namespace RouterView.Ws

open RouterView.Foundation

/-! ## Without override requests -/

/-- A step of an override request. -/
def HubEvent.IsRequest : HubEvent → Bool
  | .store .. => true
  | .copy _ => true
  | .writeBack _ => true
  | .announce _ => true
  | _ => false

section

variable {lower : String → String} {capacity : Nat} {s : Hub}

theorem switchRouterScope_requests (s : Hub) (router : Option Int) :
    (s.switchRouterScope router).requests = s.requests := by
  unfold Hub.switchRouterScope
  split <;> rfl

theorem broadcast_requests (s : Hub) (p : Polled) : (s.broadcast p).requests = s.requests := by
  unfold Hub.broadcast
  cases s.firstPoll
  · cases s.prevSnapshot with
    | none => rfl
    | some previous =>
        simp only [Bool.false_eq_true, if_false]
        split <;> rfl
  · rfl

/-- The other steps leave the requests where they are. -/
theorem hubStep_requests {e : HubEvent} (he : e.IsRequest = false) :
    (hubStep lower capacity s e).requests = s.requests := by
  cases e with
  | skip lastPoll =>
      cases hpoller : s.poller <;> simp only [hubStep, hpoller]
      rfl
  | reconnect => cases hpoller : s.poller <;> simp only [hubStep, hpoller]
  | resolve router =>
      cases hpoller : s.poller <;> simp only [hubStep, hpoller]
      exact switchRouterScope_requests s router
  | fail lastPoll => cases hpoller : s.poller <;> simp only [hubStep, hpoller] <;> rfl
  | build fetched => cases hpoller : s.poller <;> simp only [hubStep, hpoller]
  | write => cases hpoller : s.poller <;> simp only [hubStep, hpoller]
  | broadcast =>
      cases hpoller : s.poller <;> simp only [hubStep, hpoller]
      exact broadcast_requests s _
  | store i mac customName customType => cases he
  | copy i => cases he
  | writeBack i => cases he
  | announce i => cases he
  | subscribe k =>
      cases hk : (s.sessions k).phase <;> simp only [hubStep, hk]
      rfl
  | readCache k =>
      cases hk : (s.sessions k).phase <;> simp only [hubStep, hk, Hub.readCache]
      · cases s.cache <;> rfl
      · cases s.cache <;> rfl
  | receive k =>
      cases hk : (s.sessions k).phase <;> simp only [hubStep, hk, Hub.receive]
      cases Foundation.receive capacity s.log (s.sessions k).position <;> rfl
  | close k => rfl

/-- Where there are no requests, every other step replaces the cache alone. -/
theorem replacesAlone_of_absent (hs : ∀ i, s.requests i = .absent) {e : HubEvent}
    (he : e.IsRequest = false) : ReplacesAlone lower s e := by
  have hnone : ∀ i, ¬ s.Replacing i := by
    rintro i ⟨copy, h | h⟩
    · rw [hs i] at h
      cases h
    · rw [hs i] at h
      cases h
  cases e with
  | resolve router => exact fun _ => hnone
  | build fetched => exact hnone
  | copy i => cases he
  | _ => trivial

/-- The invariant of a hub without requests. -/
def Undisturbed (lower : String → String) (s : Hub) : Prop :=
  HubInv lower s ∧ ∀ i, s.requests i = .absent

theorem Undisturbed.step (hs : Undisturbed lower s) (capacity : Nat) {e : HubEvent}
    (he : e.IsRequest = false) : Undisturbed lower (hubStep lower capacity s e) := by
  obtain ⟨hinv, habsent⟩ := hs
  refine ⟨hinv.step capacity e (replacesAlone_of_absent habsent he), ?_⟩
  intro i
  rw [hubStep_requests he]
  exact habsent i

end

/-- A client that has received every queued message shows the cached snapshot, in every
run of poll ticks and of sessions, while no tick is between its write of the cache and
its message. -/
theorem subscriber_converges (lower : String → String) (capacity : Nat)
    (overrides : List DeviceOverride) (views : Nat → DiffedFields) (events : List HubEvent)
    (hevents : ∀ e ∈ events, e.IsRequest = false) (k : Nat) :
    let s := run (hubStep lower capacity) (Hub.initial overrides views) events
    s.CaughtUp capacity k → (∀ p, s.poller ≠ .written p) →
      ∀ cached, s.cache = some cached → (s.sessions k).view = cached.data.diffed := by
  intro s hcaught hpoller cached hcached
  have halong : Along (hubStep lower capacity) (fun _ e => e.IsRequest = false)
      (Hub.initial overrides views) events := Along.of_forall (fun e he _ => hevents e he) _
  have hinv : Undisturbed lower s :=
    run_invariant (fun t e ht he => ht.step capacity he)
      ⟨HubInv.initial overrides views, fun _ => rfl⟩ halong
  have hcalm : s.Calm := fun i => Or.inl (hinv.2 i)
  obtain ⟨_, hawaits⟩ := (fresh_open_iff hpoller).mp (hinv.1.fresh hcalm) cached hcached
  exact hawaits.caughtUp hcaught

/-! ## With override requests -/

/-- A tick that polls a snapshot of the router. -/
def pollEvents (router : Int) (d : DashboardSnapshot) : List HubEvent :=
  [.resolve (some router), .build d, .write, .broadcast]

/-- The hub of a router with one client. -/
def runHub (events : List HubEvent) : Hub :=
  run (hubStep id 128) (Hub.initial [] (fun _ => (oneWan none).diffed)) events

/-- The snapshot of a router with one wireless device. -/
def oneDevice (wanIpv6 : Option String) : DashboardSnapshot :=
  { oneWan wanIpv6 with wifi := ⟨2, 1, .finite 0, .finite 0,
    [⟨"aa:bb", "phone-1", "192.168.88.9", "phone", some (-50), 60, none, none, none, none, none,
      none⟩]⟩ }

/-- A client subscribes after the cache was written and before the message was sent,
and receives the message over the newer snapshot. -/
theorem subscriber_converges_betweenSteps :
    ((runHub (pollEvents 1 (oneDevice none) ++ [.resolve (some 1),
      .build (oneDevice (some "2001:db8::7")), .write, .subscribe 0, .readCache 0, .broadcast,
      .receive 0])).sessions 0).view = (oneDevice (some "2001:db8::7")).diffed :=
  subscriber_converges id 128 [] (fun _ => (oneWan none).diffed) _ (by decide) 0
    ⟨by decide +kernel, rfl⟩ (fun p h => by cases h)
    ⟨2, some 1, oneDevice (some "2001:db8::7"), oneDevice (some "2001:db8::7")⟩ rfl

/-- A request that runs alone after a poll, with a client. -/
def aloneRequest : List HubEvent :=
  pollEvents 1 (oneDevice none) ++
    [.subscribe 0, .readCache 0, .store 0 "aa:bb" (some "Phone") none, .copy 0, .writeBack 0,
      .announce 0, .receive 0]

/-- A request reads the cache, the next poll replaces it, and the request writes the
copy of the earlier poll back. -/
def lostPoll : List HubEvent :=
  pollEvents 1 (oneDevice none) ++ [.store 0 "aa:bb" (some "Phone") none, .copy 0] ++
    pollEvents 1 (oneDevice (some "2001:db8::7")) ++ [.writeBack 0]

end RouterView.Ws
