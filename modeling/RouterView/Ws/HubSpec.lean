/-
  Ws/HubSpec.lean --- what the parties of the hub keep.

  A client that follows the log reaches what the cache holds, from wherever it
  started to read.  The cache is a copy of the latest poll's snapshot, as long as a
  request that replaces it runs apart from the poller and from other requests.

  `ReplacesAlone` is the condition on the steps.  Overrides are applied onto the
  cached snapshot, which never clears a name; so the condition also asks, when a
  request reads the cache, that the table still gives what the cached snapshot and
  the latest poll show beyond what that poll fetched.  `HubInv` is the invariant: one
  lemma for each step, and `HubInv.step` puts them together.
-/
import RouterView.Ws.Hub

set_option autoImplicit false

namespace RouterView.Ws

open RouterView.Foundation

/-! ## Following the log -/

/-- What the log does to a field. -/
def Hub.effects {α : Type} (s : Hub) (f : Field α) : List (Option α) := s.log.map f.effect

/-- The session's view, after the messages it has not received, is that of one of two
snapshots. -/
def Follows (s : Hub) (old new : DashboardSnapshot) (session : Session) : Prop :=
  ∀ (α : Type) (f : Field α),
    overwrite (f.get session.view) ((s.effects f).drop session.position) = f.get old.diffed ∨
      overwrite (f.get session.view) ((s.effects f).drop session.position) = f.get new.diffed

/-- The log ends at the first snapshot, and every session that streams ends there or
at the second one, which is to be sent next. -/
structure Awaits (s : Hub) (old new : DashboardSnapshot) : Prop where
  settles : ∀ (α : Type) (f : Field α), Settles (s.effects f) (f.get old.diffed)
  follows : ∀ k, (s.sessions k).phase = .streaming → Follows s old new (s.sessions k)

section

variable {s s' : Hub} {old new : DashboardSnapshot}

/-- Only the log and the sessions matter. -/
theorem Awaits.congr (h : Awaits s old new) (hlog : s'.log = s.log)
    (hsessions : s'.sessions = s.sessions) : Awaits s' old new := by
  have heffects : ∀ (α : Type) (f : Field α), s'.effects f = s.effects f := by
    intro α f
    rw [Hub.effects, Hub.effects, hlog]
  refine ⟨fun α f => (heffects α f).symm ▸ h.settles α f, ?_⟩
  intro k hk α f
  rw [hsessions] at hk ⊢
  rw [heffects]
  exact h.follows k hk α f

theorem Awaits.later (h : Awaits s old old) (new : DashboardSnapshot) : Awaits s old new :=
  ⟨h.settles, fun k hk α f => Or.inl ((h.follows k hk α f).elim id id)⟩

/-- A message that takes every field from the first snapshot to the second. -/
theorem Awaits.send (h : Awaits s old new) (hposition : ∀ k, (s.sessions k).position ≤ s.log.length)
    {message : ServerMessage}
    (hcarries : ∀ (α : Type) (f : Field α),
      Carries (f.effect message) (f.get old.diffed) (f.get new.diffed)) :
    Awaits (s.send message) new new := by
  have heffects : ∀ (α : Type) (f : Field α),
      (s.send message).effects f = s.effects f ++ [f.effect message] := by
    intro α f
    simp only [Hub.effects, Hub.send, List.map_append, List.map_cons, List.map_nil]
  constructor
  · intro α f
    rw [heffects]
    exact (hcarries α f).settles (h.settles α f)
  · intro k hk α f
    rw [heffects]
    have hlength : (s.sessions k).position ≤ (s.effects f).length := by
      rw [Hub.effects, List.length_map]
      exact hposition k
    exact Or.inl ((hcarries α f).follows hlength (h.follows k hk α f))

/-- A message that takes no field anywhere. -/
theorem Awaits.send_status (h : Awaits s old old)
    (hposition : ∀ k, (s.sessions k).position ≤ s.log.length) (connected : Bool)
    (lastPoll : Option String) :
    Awaits (s.send (.connectionStatus connected lastPoll)) old old := by
  apply h.send hposition
  intro α f
  exact ⟨fun _ hvalue => (nomatch hvalue), fun _ => rfl⟩

/-- A whole snapshot needs no history. -/
theorem awaits_snapshot (hposition : ∀ k, (s.sessions k).position ≤ s.log.length)
    (d : DashboardSnapshot) : Awaits (s.send (.snapshot d)) d d := by
  have heffects : ∀ (α : Type) (f : Field α),
      (s.send (.snapshot d)).effects f = s.effects f ++ [some (f.get d.diffed)] := by
    intro α f
    simp only [Hub.effects, Hub.send, List.map_append, List.map_cons, List.map_nil, Field.effect]
  constructor
  · intro α f
    rw [heffects]
    exact settles_set _ _
  · intro k _ α f
    rw [heffects]
    left
    have hlength : (s.sessions k).position ≤ (s.effects f).length := by
      rw [Hub.effects, List.length_map]
      exact hposition k
    show overwrite (f.get (s.sessions k).view)
      ((s.effects f ++ [some (f.get d.diffed)]).drop (s.sessions k).position) = f.get d.diffed
    rw [List.drop_append_of_le_length hlength, overwrite_append]
    rfl

/-- Where the two snapshots agree on the fields, nothing is to be sent. -/
theorem Awaits.same (h : Awaits s old new)
    (hsame : ∀ (α : Type) (f : Field α), f.get old.diffed = f.get new.diffed) :
    Awaits s new new := by
  constructor
  · intro α f
    rw [← hsame]
    exact h.settles α f
  · intro k hk α f
    rcases h.follows k hk α f with hold | hnew
    · exact Or.inl (hold.trans (hsame α f))
    · exact Or.inl hnew

/-- A session that is replaced by one that follows. -/
theorem Awaits.setSession (h : Awaits s old new) {k : Nat} {session : Session}
    (hsession : session.phase = .streaming → Follows s old new session) :
    Awaits (s.setSession k session) old new := by
  refine ⟨h.settles, ?_⟩
  intro j hj
  by_cases hjk : j = k
  · subst hjk
    simp only [Hub.setSession, Function.update_self] at hj ⊢
    exact hsession hj
  · simp only [Hub.setSession, Function.update_of_ne hjk] at hj ⊢
    exact h.follows j hj

/-- A session that reads a snapshot follows the log from there. -/
theorem Awaits.follows_read (h : Awaits s old new) {session : Session}
    (hview : session.view = new.diffed) : Follows s old new session := by
  intro α f
  rw [hview]
  exact (h.settles α f).newer (f.get new.diffed) session.position

theorem Follows.deliver {session : Session} (h : Follows s old new session)
    {message : ServerMessage} (hmessage : s.log[session.position]? = some message) :
    Follows s old new { session with
      position := session.position + 1
      view := message.deliver session.view } := by
  intro α f
  have heffect : (s.effects f)[session.position]? = some (f.effect message) := by
    rw [Hub.effects, List.getElem?_map, hmessage]
    rfl
  have hfollows := h α f
  rw [overwrite_drop heffect] at hfollows
  rw [f.get_deliver]
  exact hfollows

/-- A session with nothing to receive shows the snapshot. -/
theorem Awaits.caughtUp {capacity k : Nat} (h : Awaits s old old) (hk : s.CaughtUp capacity k) :
    (s.sessions k).view = old.diffed := by
  apply DiffedFields.eq_of_fields
  intro α f
  have hlength := receive_nothing hk.2
  have hnil : (s.effects f).drop (s.sessions k).position = [] := by
    apply List.drop_eq_nil_of_le
    rw [Hub.effects, List.length_map]
    exact hlength
  have hfollows := h.follows k hk.1 α f
  rw [hnil, overwrite_nil] at hfollows
  exact hfollows.elim id id

end

/-! ## The condition -/

section

variable (lower : String → String)

/-- A step that replaces the cache apart from the others: the router scope changes and a
snapshot is built while no request is replacing the cache; a request reads the cache
while no other one is replacing it and the poller is not publishing, and finds that
the table still gives every name and type that the cached snapshot and the latest poll
show beyond what that poll fetched. -/
def ReplacesAlone (s : Hub) : HubEvent → Prop
  | .resolve router => s.activeRouter ≠ router → ∀ i, ¬ s.Replacing i
  | .build _ => ∀ i, ¬ s.Replacing i
  | .copy i => s.requests i = .stored →
      ¬ s.Publishing ∧ (∀ j, ¬ s.Replacing j) ∧
        ∀ cached latest, s.cache = some cached → s.latest = some latest →
          KeepsAdded lower s.overrides cached.data latest.fetched ∧
            KeepsAdded lower s.overrides latest.data latest.fetched
  | _ => True

end

/-! ## The invariant -/

section

variable (lower : String → String)

/-- The snapshot is the latest poll with the present overrides, and overrides over what
that poll wrote are overrides over what it fetched. -/
def ShowsLatest (s : Hub) (p : Polled) : Prop :=
  ∃ latest, s.latest = some latest ∧ p = latest.shownWith lower s.overrides ∧
    latest.data.withOverrides lower s.overrides = latest.fetched.withOverrides lower s.overrides

/-- A snapshot of the same poll, which is a renamed copy of what that poll fetched. -/
structure Polled.Copies (copy latest : Polled) : Prop where
  poll : copy.poll = latest.poll
  router : copy.router = latest.router
  fetched : copy.fetched = latest.fetched
  renamed : RenamedCopy copy.data latest.fetched

/-- The snapshot is a copy of the latest poll. -/
def CopiesLatest (s : Hub) (p : Polled) : Prop :=
  ∃ latest, s.latest = some latest ∧ p.Copies latest

/-- What clients follow while no request is under way: the cached snapshot, or, where
the cache is written and the message not sent, the previous one first. -/
def Fresh (s : Hub) : Prop :=
  ∀ cached, s.cache = some cached →
    match s.poller with
    | .written _ => s.firstPoll = false → ∃ previous, s.prevSnapshot = some previous ∧
        Awaits s (previous.withOverrides lower s.overrides) cached.data
    | _ => ShowsLatest lower s cached ∧ Awaits s cached.data cached.data

/-- The copy of a request: one of the latest snapshot, and the one with the present
overrides unless another request has stored its own since. -/
structure CopyOf (s : Hub) (copy : Polled) : Prop where
  cached : s.cache.isSome = true
  latest : CopiesLatest s copy
  present : (∀ j, s.requests j ≠ .stored) → ShowsLatest lower s copy

/-- The invariant of a hub whose requests replace the cache alone. -/
structure HubInv (s : Hub) : Prop where
  position : ∀ k, (s.sessions k).position ≤ s.log.length
  cached : ∀ cached, s.cache = some cached → CopiesLatest s cached
  renamed : ∀ p, s.poller = .built p ∨ s.latest = some p → RenamedCopy p.data p.fetched
  exclusive : s.Publishing → ∀ i, ¬ s.Replacing i
  alone : ∀ i j, s.Replacing i → s.Replacing j → i = j
  copies : ∀ i copy, s.requests i = .copied copy ∨ s.requests i = .cached copy →
    CopyOf lower s copy
  written : ∀ i copy, s.requests i = .cached copy → s.cache = some copy
  pending : ∀ p, s.poller = .written p → s.cache = some p ∧ s.latest = some p
  previous : s.firstPoll = false →
    match s.poller with
    | .written _ => s.prevSnapshot.isSome = true
    | _ => s.cache.isSome = true ∧
        ∃ latest, s.latest = some latest ∧ s.prevSnapshot = some latest.data
  applied : s.Calm → ∀ p, s.poller = .built p ∨ s.poller = .written p →
    p.shownWith lower s.overrides = p
  fresh : s.Calm → Fresh lower s

end

section

variable {lower : String → String} {s : Hub}

theorem Polled.Copies.withOverrides {copy latest : Polled} (h : copy.Copies latest)
    (rows : List DeviceOverride) : (copy.withOverrides lower rows).Copies latest :=
  ⟨h.poll, h.router, h.fetched, h.renamed.withOverrides rows⟩

/-- The present overrides over a copy, where nothing that it shows was removed. -/
theorem Polled.Copies.withOverrides_eq {copy latest : Polled} (h : copy.Copies latest)
    {rows : List DeviceOverride} (hkeeps : KeepsAdded lower rows copy.data latest.fetched) :
    copy.withOverrides lower rows = latest.shownWith lower rows := by
  obtain ⟨hpoll, hrouter, hfetched, hrenamed⟩ := h
  unfold Polled.withOverrides Polled.shownWith
  rw [hrenamed.withOverrides_eq hkeeps, hpoll, hrouter, hfetched]

theorem HubInv.initial (overrides : List DeviceOverride) (views : Nat → DiffedFields) :
    HubInv lower (Hub.initial overrides views) where
  position := fun _ => Nat.le_refl 0
  cached := fun _ h => nomatch h
  renamed := fun p h => by
    rcases h with hbuilt | hlatest
    · cases hbuilt
    · cases hlatest
  exclusive := fun _ i hi => by
    obtain ⟨copy, hcopied | hcached⟩ := hi
    · cases hcopied
    · cases hcached
  alone := fun i _ hi => by
    obtain ⟨copy, hcopied | hcached⟩ := hi
    · cases hcopied
    · cases hcached
  copies := fun i copy h => by
    rcases h with hcopied | hcached
    · cases hcopied
    · cases hcached
  written := fun _ _ h => nomatch h
  pending := fun _ h => nomatch h
  previous := fun h => nomatch h
  applied := fun _ p h => by
    rcases h with hbuilt | hwritten
    · cases hbuilt
    · cases hwritten
  fresh := fun _ _ h => nomatch h

/-! ### Sessions -/

/-- A session that follows what the others do keeps the invariant. -/
theorem HubInv.setSession (hs : HubInv lower s) {k : Nat} {session : Session}
    (hposition : session.position ≤ s.log.length)
    (hfollows : session.phase = .streaming → ∀ old cached, s.cache = some cached →
      Awaits s old cached.data → Follows s old cached.data session) :
    HubInv lower (s.setSession k session) where
  position := by
    intro j
    by_cases hjk : j = k
    · subst hjk
      simp only [Hub.setSession, Function.update_self]
      exact hposition
    · simp only [Hub.setSession, Function.update_of_ne hjk]
      exact hs.position j
  cached := hs.cached
  renamed := hs.renamed
  exclusive := hs.exclusive
  alone := hs.alone
  copies := fun i copy h => ⟨(hs.copies i copy h).cached, (hs.copies i copy h).latest,
    (hs.copies i copy h).present⟩
  written := hs.written
  pending := hs.pending
  previous := hs.previous
  applied := hs.applied
  fresh := by
    intro hcalm cached hcached
    have hfresh := hs.fresh hcalm cached hcached
    have hset : ∀ old, Awaits s old cached.data →
        Awaits (s.setSession k session) old cached.data :=
      fun old h => h.setSession (fun hphase => hfollows hphase old cached hcached h)
    show match s.poller with
      | .written _ => s.firstPoll = false → ∃ previous, s.prevSnapshot = some previous ∧
          Awaits (s.setSession k session) (previous.withOverrides lower s.overrides) cached.data
      | _ => ShowsLatest lower s cached ∧
          Awaits (s.setSession k session) cached.data cached.data
    cases hpoller : s.poller with
    | written p =>
        simp only [hpoller] at hfresh
        intro hfirst
        obtain ⟨previous, hprevious, hawaits⟩ := hfresh hfirst
        exact ⟨previous, hprevious, hset _ hawaits⟩
    | idle =>
        simp only [hpoller] at hfresh
        exact ⟨hfresh.1, hset _ hfresh.2⟩
    | polling =>
        simp only [hpoller] at hfresh
        exact ⟨hfresh.1, hset _ hfresh.2⟩
    | built p =>
        simp only [hpoller] at hfresh
        exact ⟨hfresh.1, hset _ hfresh.2⟩

theorem HubInv.readCache (hs : HubInv lower s) (k : Nat) : HubInv lower (s.readCache k) := by
  unfold Hub.readCache
  cases hcache : s.cache with
  | some p =>
      simp only
      refine hs.setSession (hs.position k) ?_
      intro _ old cached hcached hawaits
      rw [hcache, Option.some.injEq] at hcached
      subst hcached
      exact hawaits.follows_read rfl
  | none =>
      simp only
      refine hs.setSession (hs.position k) ?_
      intro _ old cached hcached
      rw [hcache] at hcached
      cases hcached

theorem HubInv.receive (hs : HubInv lower s) (capacity k : Nat)
    (hstreaming : (s.sessions k).phase = .streaming) : HubInv lower (s.receive capacity k) := by
  unfold Hub.receive
  cases hreceived : Foundation.receive capacity s.log (s.sessions k).position with
  | nothing =>
      simp only [hreceived]
      exact hs
  | lagged position =>
      simp only [hreceived]
      refine hs.setSession (receive_lagged hreceived) ?_
      intro hphase
      cases hphase
  | message message =>
      simp only [hreceived]
      have hmessage := receive_message hreceived
      apply hs.setSession
      · obtain ⟨hlt, _⟩ := List.getElem?_eq_some_iff.mp hmessage
        exact hlt
      · intro _ old cached _ hawaits
        exact (hawaits.follows k hstreaming).deliver hmessage

/-! ### The poller -/

/-- The poller has not built a snapshot yet. -/
def PollerPhase.Open (phase : PollerPhase) : Prop := phase = .idle ∨ phase = .polling

theorem PollerPhase.Open.not_written {phase : PollerPhase} (h : phase.Open) (p : Polled) :
    phase ≠ .written p := by
  rcases h with rfl | rfl
  · exact fun h => nomatch h
  · exact fun h => nomatch h

theorem PollerPhase.Open.not_built {phase : PollerPhase} (h : phase.Open) (p : Polled) :
    phase ≠ .built p := by
  rcases h with rfl | rfl
  · exact fun h => nomatch h
  · exact fun h => nomatch h

theorem not_publishing (h : s.poller.Open) : ¬ s.Publishing := by
  rintro ⟨p, hbuilt | hwritten⟩
  · exact h.not_built p hbuilt
  · exact h.not_written p hwritten

/-- While the cache is the poller's last word, `Fresh` says where the log ends. -/
theorem fresh_open_iff (h : ∀ p, s.poller ≠ .written p) :
    Fresh lower s ↔ ∀ cached, s.cache = some cached →
      ShowsLatest lower s cached ∧ Awaits s cached.data cached.data := by
  unfold Fresh
  cases hpoller : s.poller with
  | written p => exact absurd hpoller (h p)
  | idle => rfl
  | polling => rfl
  | built p => rfl

/-- While the cache is the poller's last word, an update is against the latest poll. -/
theorem HubInv.previous_open (hs : HubInv lower s) (h : ∀ p, s.poller ≠ .written p)
    (hfirst : s.firstPoll = false) :
    s.cache.isSome = true ∧ ∃ latest, s.latest = some latest ∧
      s.prevSnapshot = some latest.data := by
  have hprevious := hs.previous hfirst
  cases hpoller : s.poller with
  | written p => exact absurd hpoller (h p)
  | idle => simpa only [hpoller] using hprevious
  | polling => simpa only [hpoller] using hprevious
  | built p => simpa only [hpoller] using hprevious

/-- A status keeps the invariant. -/
theorem HubInv.send_status (hs : HubInv lower s) (hopen : s.poller.Open) (connected : Bool)
    (lastPoll : Option String) : HubInv lower (s.send (.connectionStatus connected lastPoll)) where
  position := by
    intro k
    have hk := hs.position k
    simp only [Hub.send, List.length_append, List.length_singleton]
    omega
  cached := hs.cached
  renamed := hs.renamed
  exclusive := hs.exclusive
  alone := hs.alone
  copies := fun i copy h => ⟨(hs.copies i copy h).cached, (hs.copies i copy h).latest,
    (hs.copies i copy h).present⟩
  written := hs.written
  pending := hs.pending
  previous := hs.previous
  applied := hs.applied
  fresh := by
    intro hcalm
    have hfresh := (fresh_open_iff hopen.not_written).mp (hs.fresh hcalm)
    refine (fresh_open_iff ?_).mpr ?_
    · exact hopen.not_written
    intro cached hcached
    obtain ⟨hlatest, hawaits⟩ := hfresh cached hcached
    exact ⟨hlatest, hawaits.send_status hs.position connected lastPoll⟩

/-- The poller moves before it builds a snapshot, or asks for a whole one. -/
theorem HubInv.move (hs : HubInv lower s) (hopen : s.poller.Open) (phase : PollerPhase)
    (first : Bool) (hphase : phase.Open) (hfirst : first = false → s.firstPoll = false) :
    HubInv lower { s with poller := phase, firstPoll := first } where
  position := hs.position
  cached := hs.cached
  renamed := by
    rintro p (hbuilt | hlatest)
    · exact absurd hbuilt (hphase.not_built p)
    · exact hs.renamed p (Or.inr hlatest)
  exclusive := fun h => absurd h (not_publishing hphase)
  alone := hs.alone
  copies := fun i copy h => ⟨(hs.copies i copy h).cached, (hs.copies i copy h).latest,
    (hs.copies i copy h).present⟩
  written := hs.written
  pending := fun p h => absurd h (hphase.not_written p)
  previous := by
    intro h
    have hprevious := hs.previous_open hopen.not_written (hfirst h)
    rcases hphase with rfl | rfl
    · exact hprevious
    · exact hprevious
  applied := by
    intro _ p h
    rcases h with hbuilt | hwritten
    · exact absurd hbuilt (hphase.not_built p)
    · exact absurd hwritten (hphase.not_written p)
  fresh := by
    intro hcalm
    have hfresh := (fresh_open_iff hopen.not_written).mp (hs.fresh hcalm)
    refine (fresh_open_iff ?_).mpr ?_
    · exact hphase.not_written
    intro cached hcached
    obtain ⟨hlatest, hawaits⟩ := hfresh cached hcached
    exact ⟨hlatest, hawaits.congr rfl rfl⟩

theorem HubInv.switchRouterScope (hs : HubInv lower s) (hopen : s.poller.Open)
    {router : Option Int} (halone : s.activeRouter ≠ router → ∀ i, ¬ s.Replacing i) :
    HubInv lower (s.switchRouterScope router) := by
  unfold Hub.switchRouterScope
  split
  · exact hs
  · rename_i hne
    have hnone := halone hne
    exact {
      position := hs.position
      cached := fun _ h => nomatch h
      renamed := hs.renamed
      exclusive := fun h => absurd h (not_publishing hopen)
      alone := fun i _ hi => absurd hi (hnone i)
      copies := fun i copy h => absurd ⟨copy, h⟩ (hnone i)
      written := fun i copy h => absurd ⟨copy, Or.inr h⟩ (hnone i)
      pending := fun p h => absurd h (hopen.not_written p)
      previous := fun h => nomatch h
      applied := fun _ p h => absurd ⟨p, h⟩ (not_publishing hopen)
      fresh := fun _ _ h => nomatch h }

theorem switchRouterScope_poller (s : Hub) (router : Option Int) :
    (s.switchRouterScope router).poller = s.poller := by
  unfold Hub.switchRouterScope
  split <;> rfl

/-- A snapshot is built while no request is replacing the cache. -/
theorem HubInv.build (hs : HubInv lower s) (hopen : s.poller.Open) (halone : ∀ i, ¬ s.Replacing i)
    {p : Polled} (hp : p.shownWith lower s.overrides = p) :
    HubInv lower { s with poller := .built p } where
  position := hs.position
  cached := hs.cached
  renamed := by
    rintro q (hbuilt | hlatest)
    · simp only [PollerPhase.built.injEq] at hbuilt
      rw [← hbuilt, ← hp]
      exact (RenamedCopy.refl _).withOverrides _
    · exact hs.renamed q (Or.inr hlatest)
  exclusive := fun _ => halone
  alone := hs.alone
  copies := fun i copy h => absurd ⟨copy, h⟩ (halone i)
  written := hs.written
  pending := fun _ h => nomatch h
  previous := fun h => hs.previous_open hopen.not_written h
  applied := by
    intro _ q h
    rcases h with hbuilt | hwritten
    · simp only [PollerPhase.built.injEq] at hbuilt
      rw [← hbuilt]
      exact hp
    · cases hwritten
  fresh := by
    intro hcalm
    have hfresh := (fresh_open_iff hopen.not_written).mp (hs.fresh hcalm)
    refine (fresh_open_iff ?_).mpr ?_
    · intro q h
      cases h
    intro cached hcached
    obtain ⟨hlatest, hawaits⟩ := hfresh cached hcached
    exact ⟨hlatest, hawaits.congr rfl rfl⟩

/-- The poller writes the cache. -/
theorem HubInv.write (hs : HubInv lower s) {p : Polled} (hbuilt : s.poller = .built p) :
    HubInv lower { s with
      poller := .written p, cache := some p, latest := some p, polls := p.poll } := by
  have halone := hs.exclusive ⟨p, Or.inl hbuilt⟩
  have hopen : ∀ q, s.poller ≠ .written q := by
    intro q h
    rw [hbuilt] at h
    cases h
  exact {
    position := hs.position
    cached := by
      intro cached h
      rw [← Option.some.inj h]
      exact ⟨p, rfl, rfl, rfl, rfl, hs.renamed p (Or.inl hbuilt)⟩
    renamed := by
      rintro q (hq | hq)
      · cases hq
      · rw [← Option.some.inj hq]
        exact hs.renamed p (Or.inl hbuilt)
    exclusive := fun _ => halone
    alone := hs.alone
    copies := fun i copy h => absurd ⟨copy, h⟩ (halone i)
    written := fun i copy h => absurd ⟨copy, Or.inr h⟩ (halone i)
    pending := by
      intro q h
      simp only [PollerPhase.written.injEq] at h
      rw [h]
      exact ⟨rfl, rfl⟩
    previous := by
      intro h
      obtain ⟨_, latest, _, hprevious⟩ := hs.previous_open hopen h
      show s.prevSnapshot.isSome = true
      rw [hprevious]
      rfl
    applied := by
      intro hcalm q h
      rcases h with hq | hq
      · cases hq
      · simp only [PollerPhase.written.injEq] at hq
        rw [← hq]
        exact hs.applied hcalm p (Or.inl hbuilt)
    fresh := by
      intro hcalm cached hcached
      have hp : cached = p := (Option.some.inj hcached).symm
      subst hp
      intro hfirst
      obtain ⟨hsome, latest, hlatest, hprevious⟩ := hs.previous_open hopen hfirst
      obtain ⟨old, hold⟩ := Option.isSome_iff_exists.mp hsome
      obtain ⟨⟨other, hother, hshown, hsame⟩, hawaits⟩ :=
        (fresh_open_iff hopen).mp (hs.fresh hcalm) old hold
      rw [hlatest, Option.some.injEq] at hother
      subst hother
      refine ⟨latest.data, hprevious, ?_⟩
      -- the clients show what was fetched, and the update is against what was written
      have hdata : old.data = latest.data.withOverrides lower s.overrides := by
        rw [hsame, hshown]
        rfl
      rw [hdata] at hawaits
      exact (hawaits.later _).congr rfl rfl }

/-- The poller sends its message. -/
theorem HubInv.broadcast (hs : HubInv lower s) {p : Polled} (hwritten : s.poller = .written p) :
    HubInv lower (s.broadcast p) := by
  obtain ⟨hcache, hlatest⟩ := hs.pending p hwritten
  have halone := hs.exclusive ⟨p, Or.inr hwritten⟩
  -- The message is sent or left out; either way the log ends at the poll's snapshot.
  have hsent : ∀ log, (∀ k, (s.sessions k).position ≤ log.length) →
      (s.Calm → Awaits { s with log := log } p.data p.data) →
      HubInv lower { s with
        prevSnapshot := some p.data, firstPoll := false, poller := .idle, log := log } := by
    intro log hposition hawaits
    exact {
      position := hposition
      cached := hs.cached
      renamed := fun q h => hs.renamed q (Or.inr (h.elim (fun hq => nomatch hq) id))
      exclusive := fun h => absurd h (not_publishing (Or.inl rfl))
      alone := hs.alone
      copies := fun i copy h => absurd ⟨copy, h⟩ (halone i)
      written := hs.written
      pending := fun _ h => nomatch h
      previous := fun _ => ⟨by rw [hcache]; rfl, p, hlatest, rfl⟩
      applied := fun _ q h => by
        rcases h with hq | hq
        · cases hq
        · cases hq
      fresh := by
        intro hcalm
        refine (fresh_open_iff ?_).mpr ?_
        · intro q h
          cases h
        intro cached hcached
        have hp : p = cached := Option.some.inj (hcache.symm.trans hcached)
        subst hp
        have happlied := hs.applied hcalm p (Or.inr hwritten)
        exact ⟨⟨p, hlatest, happlied.symm, by rw [← congrArg Polled.data happlied]; exact DashboardSnapshot.withOverrides_twice _⟩,
          (hawaits hcalm).congr rfl rfl⟩ }
  have hgrown : ∀ message k, (s.sessions k).position ≤ (s.log ++ [message]).length := by
    intro message k
    have hk := hs.position k
    simp only [List.length_append, List.length_singleton]
    omega
  unfold Hub.broadcast
  cases hfirst : s.firstPoll with
  | true =>
      simp only [if_true]
      refine hsent _ (hgrown _) ?_
      intro _
      exact (awaits_snapshot hs.position p.data).congr rfl rfl
  | false =>
      have hprevious := hs.previous hfirst
      simp only [hwritten] at hprevious
      obtain ⟨previous, hprevious⟩ := Option.isSome_iff_exists.mp hprevious
      simp only [hprevious, Bool.false_eq_true, if_false]
      have hfollowed : s.Calm → Awaits s (previous.withOverrides lower s.overrides) p.data := by
        intro hcalm
        have hfresh := hs.fresh hcalm p hcache
        simp only [hwritten] at hfresh
        obtain ⟨other, hother, hawaits⟩ := hfresh hfirst
        rw [hprevious, Option.some.injEq] at hother
        rw [hother]
        exact hawaits
      have hcarries : s.Calm → ∀ (α : Type) (f : Field α),
          Carries (f.given (diffSnapshots previous p.data))
            (f.get (previous.withOverrides lower s.overrides).diffed) (f.get p.data.diffed) := by
        intro hcalm α f
        apply f.carries
        have happlied := congrArg Polled.data (hs.applied hcalm p (Or.inr hwritten))
        rw [← happlied]
        exact DashboardSnapshot.withOverrides_twice _
      cases hchanges : hasChanges (diffSnapshots previous p.data) with
      | true =>
          simp only [if_true]
          refine hsent _ (hgrown _) ?_
          intro hcalm
          have hupdate : Awaits (s.send (.update (diffSnapshots previous p.data))) p.data p.data :=
            (hfollowed hcalm).send hs.position (hcarries hcalm)
          exact hupdate.congr rfl rfl
      | false =>
          simp only [Bool.false_eq_true, if_false]
          refine hsent s.log hs.position ?_
          intro hcalm
          have hsame := (hfollowed hcalm).same
            (fun α f => (hcarries hcalm α f).unchanged (f.given_noticed _ hchanges))
          exact hsame.congr rfl rfl

/-! ### Requests -/

/-- A request that does not replace the cache afterwards leaves the others replacing it. -/
theorem replacing_setRequest {i : Nat} {phase : RequestPhase}
    (hphase : ∀ copy, phase ≠ .copied copy ∧ phase ≠ .cached copy) {j : Nat}
    (h : (s.setRequest i phase).Replacing j) : s.Replacing j := by
  obtain ⟨copy, hj⟩ := h
  by_cases hji : j = i
  · subst hji
    rw [Phases.set_self] at hj
    rcases hj with hcopied | hcached
    · exact absurd hcopied (hphase copy).1
    · exact absurd hcached (hphase copy).2
  · rw [Phases.set_of_ne _ phase hji] at hj
    exact ⟨copy, hj⟩

theorem Hub.Calm.not_stored (h : s.Calm) (j : Nat) : s.requests j ≠ .stored := by
  intro hj
  rcases h j with hphase | hphase
  · rw [hj] at hphase
    cases hphase
  · rw [hj] at hphase
    cases hphase

theorem Hub.Calm.not_replacing (h : s.Calm) (j : Nat) : ¬ s.Replacing j := by
  rintro ⟨copy, hj | hj⟩
  · rcases h j with hphase | hphase
    · rw [hj] at hphase
      cases hphase
    · rw [hj] at hphase
      cases hphase
  · rcases h j with hphase | hphase
    · rw [hj] at hphase
      cases hphase
    · rw [hj] at hphase
      cases hphase

/-- A request writes the table: the copies of others may miss it, and it is to read
the cache. -/
theorem HubInv.store (hs : HubInv lower s) {i : Nat} (hi : s.requests i = .absent)
    (rows : List DeviceOverride) :
    HubInv lower ({ s with overrides := rows }.setRequest i .stored) := by
  have hback : ∀ j, ({ s with overrides := rows }.setRequest i .stored).Replacing j →
      s.Replacing j := by
    intro j h
    refine replacing_setRequest (fun copy => ⟨?_, ?_⟩) h
    · exact RequestPhase.noConfusion
    · exact RequestPhase.noConfusion
  have hstored := s.requests.set_self i .stored
  have hother : ∀ j copy, ({ s with overrides := rows }.setRequest i .stored).requests j =
      .copied copy ∨ ({ s with overrides := rows }.setRequest i .stored).requests j =
      .cached copy → s.requests j = .copied copy ∨ s.requests j = .cached copy := by
    intro j copy h
    have hji : j ≠ i := by
      rintro rfl
      rw [hstored] at h
      rcases h with h | h
      · cases h
      · cases h
    rwa [Phases.set_of_ne _ _ hji] at h
  exact {
    position := hs.position
    cached := hs.cached
    renamed := hs.renamed
    exclusive := fun h j hj => hs.exclusive h j (hback j hj)
    alone := fun j k hj hk => hs.alone j k (hback j hj) (hback k hk)
    copies := by
      intro j copy h
      obtain ⟨hcached, hcopies, _⟩ := hs.copies j copy (hother j copy h)
      exact ⟨hcached, hcopies, fun hnone => absurd hstored (hnone i)⟩
    written := by
      intro j copy h
      rcases hother j copy (Or.inr h) with hcopied | hcached
      · have hji : j ≠ i := by
          rintro rfl
          rw [hi] at hcopied
          cases hcopied
        rw [Phases.set_of_ne _ _ hji] at h
        exact hs.written j copy h
      · exact hs.written j copy hcached
    pending := hs.pending
    previous := hs.previous
    applied := fun hcalm => absurd hstored (hcalm.not_stored i)
    fresh := fun hcalm => absurd hstored (hcalm.not_stored i) }

/-- A request finds no snapshot. -/
theorem HubInv.finish (hs : HubInv lower s) (i : Nat) (hcache : s.cache = none)
    (hpublishing : ¬ s.Publishing) :
    HubInv lower (s.setRequest i .finished) := by
  have hnone : ∀ j copy, ¬ (s.requests j = .copied copy ∨ s.requests j = .cached copy) := by
    intro j copy h
    have hcached := (hs.copies j copy h).cached
    rw [hcache] at hcached
    cases hcached
  have hback : ∀ j, ¬ (s.setRequest i .finished).Replacing j := by
    intro j h
    have hreplacing : s.Replacing j := by
      refine replacing_setRequest (fun copy => ⟨?_, ?_⟩) h
      · exact RequestPhase.noConfusion
      · exact RequestPhase.noConfusion
    obtain ⟨copy, hj⟩ := hreplacing
    exact hnone j copy hj
  exact {
    position := hs.position
    cached := hs.cached
    renamed := hs.renamed
    exclusive := fun h => absurd h hpublishing
    alone := fun j _ hj => absurd hj (hback j)
    copies := fun j copy h => absurd ⟨copy, h⟩ (hback j)
    written := fun j copy h => absurd ⟨copy, Or.inr h⟩ (hback j)
    pending := hs.pending
    previous := hs.previous
    applied := fun _ p h => absurd ⟨p, h⟩ hpublishing
    fresh := by
      intro _ cached hcached
      rw [show (s.setRequest i .finished).cache = s.cache from rfl, hcache] at hcached
      cases hcached }

/-- A request reads the cache and applies the present overrides. -/
theorem HubInv.copy (hs : HubInv lower s) (i : Nat) {p : Polled}
    (hcache : s.cache = some p) (hpublishing : ¬ s.Publishing) (halone : ∀ j, ¬ s.Replacing j)
    (hadded : ∀ cached latest, s.cache = some cached → s.latest = some latest →
      KeepsAdded lower s.overrides cached.data latest.fetched ∧
        KeepsAdded lower s.overrides latest.data latest.fetched) :
    HubInv lower (s.setRequest i (.copied (p.withOverrides lower s.overrides))) := by
  obtain ⟨latest, hlatest, hcopies⟩ := hs.cached p hcache
  obtain ⟨hkeeps, hwrote⟩ := hadded p latest hcache hlatest
  have hcopy : p.withOverrides lower s.overrides = latest.shownWith lower s.overrides :=
    hcopies.withOverrides_eq hkeeps
  have hshows : ShowsLatest lower s (p.withOverrides lower s.overrides) :=
    ⟨latest, hlatest, hcopy, (hs.renamed latest (Or.inr hlatest)).withOverrides_eq hwrote⟩
  have honly : ∀ j copy,
      ((s.setRequest i (.copied (p.withOverrides lower s.overrides))).requests j = .copied copy ∨
        (s.setRequest i (.copied (p.withOverrides lower s.overrides))).requests j =
          .cached copy) →
      j = i ∧ copy = p.withOverrides lower s.overrides ∧
        (s.setRequest i (.copied (p.withOverrides lower s.overrides))).requests j ≠
          .cached copy := by
    intro j copy h
    by_cases hji : j = i
    · subst hji
      rw [Phases.set_self] at h ⊢
      rcases h with h | h
      · simp only [RequestPhase.copied.injEq] at h
        exact ⟨rfl, h.symm, fun hphase => nomatch hphase⟩
      · cases h
    · rw [Phases.set_of_ne _ _ hji] at h
      exact absurd ⟨copy, h⟩ (halone j)
  have hcopied := s.requests.set_self i (.copied (p.withOverrides lower s.overrides))
  exact {
    position := hs.position
    cached := hs.cached
    renamed := hs.renamed
    exclusive := fun h => absurd h hpublishing
    alone := by
      rintro j k ⟨copy, hj⟩ ⟨copy', hk⟩
      rw [(honly j copy hj).1, (honly k copy' hk).1]
    copies := by
      intro j copy h
      obtain ⟨_, rfl, _⟩ := honly j copy h
      exact ⟨by show s.cache.isSome = true; rw [hcache]; rfl,
        ⟨latest, hlatest, hcopies.withOverrides _⟩, fun _ => hshows⟩
    written := fun j copy h => absurd h (honly j copy (Or.inr h)).2.2
    pending := hs.pending
    previous := hs.previous
    applied := fun hcalm => absurd ⟨_, Or.inl hcopied⟩ (hcalm.not_replacing i)
    fresh := fun hcalm => absurd ⟨_, Or.inl hcopied⟩ (hcalm.not_replacing i) }

/-- A request writes its copy to the cache. -/
theorem HubInv.writeBack (hs : HubInv lower s) {i : Nat} {copy : Polled}
    (hi : s.requests i = .copied copy) :
    HubInv lower ({ s with cache := some copy }.setRequest i (.cached copy)) := by
  obtain ⟨_, hcopies, hpresent⟩ := hs.copies i copy (Or.inl hi)
  have hreplacing : s.Replacing i := ⟨copy, Or.inl hi⟩
  have hopen : ¬ s.Publishing := fun h => hs.exclusive h i hreplacing
  have hself := s.requests.set_self i (.cached copy)
  have hback : ∀ j, ({ s with cache := some copy }.setRequest i (.cached copy)).Replacing j →
      j = i := by
    rintro j ⟨other, hj⟩
    by_cases hji : j = i
    · exact hji
    · rw [Phases.set_of_ne _ _ hji] at hj
      exact hs.alone j i ⟨other, hj⟩ hreplacing
  have honly : ∀ j other,
      (({ s with cache := some copy }.setRequest i (.cached copy)).requests j = .copied other ∨
        ({ s with cache := some copy }.setRequest i (.cached copy)).requests j = .cached other) →
      other = copy := by
    intro j other h
    have hji := hback j ⟨other, h⟩
    subst hji
    rw [hself] at h
    rcases h with h | h
    · cases h
    · simp only [RequestPhase.cached.injEq] at h
      exact h.symm
  have hstored : (∀ j, ({ s with cache := some copy }.setRequest i (.cached copy)).requests j ≠
      .stored) → ∀ j, s.requests j ≠ .stored := by
    intro hnone j hj
    by_cases hji : j = i
    · subst hji
      rw [hi] at hj
      cases hj
    · exact hnone j (by rwa [Phases.set_of_ne _ _ hji])
  exact {
    position := hs.position
    cached := by
      intro cached h
      rw [show cached = copy from (Option.some.inj h).symm]
      exact hcopies
    renamed := hs.renamed
    exclusive := fun h => absurd h hopen
    alone := fun j k hj hk => (hback j hj).trans (hback k hk).symm
    copies := by
      intro j other h
      rw [honly j other h]
      exact ⟨rfl, hcopies, fun hnone => hpresent (hstored hnone)⟩
    written := by
      intro j other h
      rw [honly j other (Or.inr h)]
    pending := fun p h => absurd ⟨p, Or.inr h⟩ hopen
    previous := by
      intro hfirst
      have hprevious := hs.previous_open (fun p h => hopen ⟨p, Or.inr h⟩) hfirst
      show match s.poller with
        | .written _ => s.prevSnapshot.isSome = true
        | _ => true = true ∧
            ∃ latest, s.latest = some latest ∧ s.prevSnapshot = some latest.data
      cases hpoller : s.poller with
      | written p => exact absurd ⟨p, Or.inr hpoller⟩ hopen
      | idle => exact ⟨rfl, hprevious.2⟩
      | polling => exact ⟨rfl, hprevious.2⟩
      | built p => exact ⟨rfl, hprevious.2⟩
    applied := fun _ p h => absurd ⟨p, h⟩ hopen
    fresh := fun hcalm => absurd ⟨copy, Or.inr hself⟩ (hcalm.not_replacing i) }

/-- A request sends the snapshot that it wrote to the cache. -/
theorem HubInv.announce (hs : HubInv lower s) {i : Nat} {copy : Polled}
    (hi : s.requests i = .cached copy) :
    HubInv lower ((s.send (.snapshot copy.data)).setRequest i .finished) := by
  obtain ⟨_, _, hpresent⟩ := hs.copies i copy (Or.inr hi)
  have hcache := hs.written i copy hi
  have hreplacing : s.Replacing i := ⟨copy, Or.inr hi⟩
  have hopen : ¬ s.Publishing := fun h => hs.exclusive h i hreplacing
  have hback : ∀ j, ¬ ((s.send (.snapshot copy.data)).setRequest i .finished).Replacing j := by
    rintro j ⟨other, hj⟩
    by_cases hji : j = i
    · subst hji
      rw [Phases.set_self] at hj
      rcases hj with hj | hj
      · cases hj
      · cases hj
    · rw [Phases.set_of_ne _ _ hji] at hj
      exact hji (hs.alone j i ⟨other, hj⟩ hreplacing)
  exact {
    position := by
      intro k
      have hk := hs.position k
      simp only [Hub.send, List.length_append, List.length_singleton]
      omega
    cached := hs.cached
    renamed := hs.renamed
    exclusive := fun _ j hj => hback j hj
    alone := fun j _ hj => absurd hj (hback j)
    copies := fun j other h => absurd ⟨other, h⟩ (hback j)
    written := fun j other h => absurd ⟨other, Or.inr h⟩ (hback j)
    pending := hs.pending
    previous := hs.previous
    applied := fun _ p h => absurd ⟨p, h⟩ hopen
    fresh := by
      intro hcalm
      have hnone : ∀ j, s.requests j ≠ .stored := by
        intro j hj
        by_cases hji : j = i
        · subst hji
          rw [hi] at hj
          cases hj
        · exact hcalm.not_stored j (by rwa [Phases.set_of_ne _ _ hji])
      have hshows := hpresent hnone
      refine (fresh_open_iff ?_).mpr ?_
      · exact fun p h => hopen ⟨p, Or.inr h⟩
      intro cached hcached
      have hsame : copy = cached := Option.some.inj (hcache.symm.trans hcached)
      subst hsame
      exact ⟨hshows, (awaits_snapshot hs.position copy.data).congr rfl rfl⟩ }

/-! ### Runs -/

/-- A step that replaces the cache alone keeps the invariant. -/
theorem HubInv.step (hs : HubInv lower s) (capacity : Nat) (e : HubEvent)
    (he : ReplacesAlone lower s e) : HubInv lower (hubStep lower capacity s e) := by
  cases e with
  | skip lastPoll =>
      cases hpoller : s.poller <;> simp only [hubStep, hpoller] <;> try exact hs
      exact hs.send_status (Or.inl hpoller) _ _
  | reconnect =>
      cases hpoller : s.poller <;> simp only [hubStep, hpoller] <;> try exact hs
      have hmoved := hs.move (Or.inl hpoller) s.poller true (Or.inl hpoller) (fun h => nomatch h)
      rw [← hpoller]
      exact hmoved
  | resolve router =>
      cases hpoller : s.poller <;> simp only [hubStep, hpoller] <;> try exact hs
      have hswitched := hs.switchRouterScope (Or.inl hpoller) he
      have hopen : (s.switchRouterScope router).poller.Open := by
        rw [switchRouterScope_poller]
        exact Or.inl hpoller
      exact hswitched.move hopen .polling _ (Or.inr rfl) id
  | fail lastPoll =>
      have hfailed : s.poller.Open → HubInv lower ({ s with
          poller := .idle, firstPoll := true }.send (.connectionStatus false (some lastPoll))) := by
        intro hopen
        have hmoved := hs.move hopen .idle true (Or.inl rfl) (fun h => nomatch h)
        exact hmoved.send_status (Or.inl rfl) _ _
      cases hpoller : s.poller <;> simp only [hubStep, hpoller] <;> try exact hs
      · exact hfailed (Or.inl hpoller)
      · exact hfailed (Or.inr hpoller)
  | build fetched =>
      cases hpoller : s.poller <;> simp only [hubStep, hpoller] <;> try exact hs
      exact hs.build (Or.inr hpoller) he rfl
  | write =>
      cases hpoller : s.poller <;> simp only [hubStep, hpoller] <;> try exact hs
      exact hs.write hpoller
  | broadcast =>
      cases hpoller : s.poller <;> simp only [hubStep, hpoller] <;> try exact hs
      exact hs.broadcast hpoller
  | store i mac customName customType =>
      cases hi : s.requests i <;> simp only [hubStep, hi] <;> try exact hs
      exact hs.store hi _
  | copy i =>
      cases hi : s.requests i <;> simp only [hubStep, hi] <;> try exact hs
      obtain ⟨hpublishing, halone, hadded⟩ := he hi
      cases hcache : s.cache with
      | none => exact hs.finish i hcache hpublishing
      | some p => exact hs.copy i hcache hpublishing halone hadded
  | writeBack i =>
      cases hi : s.requests i <;> simp only [hubStep, hi] <;> try exact hs
      exact hs.writeBack hi
  | announce i =>
      cases hi : s.requests i <;> simp only [hubStep, hi] <;> try exact hs
      exact hs.announce hi
  | subscribe k =>
      cases hk : (s.sessions k).phase <;> simp only [hubStep, hk] <;> try exact hs
      exact hs.setSession (Nat.le_refl _) (fun h => nomatch h)
  | readCache k =>
      cases hk : (s.sessions k).phase <;> simp only [hubStep, hk] <;> try exact hs
      · exact hs.readCache k
      · exact hs.readCache k
  | receive k =>
      cases hk : (s.sessions k).phase <;> simp only [hubStep, hk] <;> try exact hs
      exact hs.receive capacity k hk
  | close k => exact hs.setSession (hs.position k) (fun h => nomatch h)

end

end RouterView.Ws
