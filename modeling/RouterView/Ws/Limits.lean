/-
  Ws/Limits.lean --- the limits on open connections.

  Model of `ws/limits.rs`.  The limiter counts connections in all, by session and
  by source address under one lock, so acquiring and dropping a permit are one step
  each.  The permits that callers hold are kept beside the counts: the counts are
  then a function of them in every state that any order of acquires and drops
  reaches.  Machine counters are natural numbers, since a count is only increased
  below a limit.

  Left out: the handshake, and the task that a permit is given to.  A permit is dropped
  once, when the task ends, however it ends.
-/
import RouterView.Foundation.CountMap
import RouterView.Foundation.Run

set_option autoImplicit false

namespace RouterView.Ws

open RouterView.Foundation

/-! ## Source addresses -/

/-- An address of a peer. -/
inductive IpAddr where
  | V4 (address : BitVec 32)
  | V6 (address : BitVec 128)
  deriving DecidableEq, Repr

/-- The address `::ffff:a.b.c.d`. -/
def mappedIpv4 (address : BitVec 32) : BitVec 128 := (0xffff#96 ++ address)

/-- The address that is mapped, of the form `::ffff:a.b.c.d`. -/
def toIpv4Mapped (address : BitVec 128) : Option (BitVec 32) :=
  if address.extractLsb' 32 96 = 0xffff#96 then some (address.extractLsb' 0 32) else none

def normalizeIp : IpAddr → IpAddr
  | .V6 address => ((toIpv4Mapped address).map .V4).getD (.V6 address)
  | source => source

theorem mappedIpv4_high (v4 : BitVec 32) : (mappedIpv4 v4).extractLsb' 32 96 = 0xffff#96 := by
  apply BitVec.eq_of_getLsbD_eq
  intro i hi
  simp only [mappedIpv4, BitVec.getLsbD_extractLsb', hi, decide_true, Bool.true_and,
    BitVec.getLsbD_append, show ¬ (32 + i < 32) by omega, if_false, Nat.add_sub_cancel_left]

theorem mappedIpv4_low (v4 : BitVec 32) : (mappedIpv4 v4).extractLsb' 0 32 = v4 := by
  apply BitVec.eq_of_getLsbD_eq
  intro i hi
  simp only [mappedIpv4, BitVec.getLsbD_extractLsb', hi, decide_true, Bool.true_and,
    BitVec.getLsbD_append, Nat.zero_add, if_true]

theorem high_append_low (address : BitVec 128) :
    address.extractLsb' 32 96 ++ address.extractLsb' 0 32 = address := by
  apply BitVec.eq_of_getLsbD_eq
  intro i hi
  rw [BitVec.getLsbD_append]
  by_cases hlow : i < 32
  · simp [hlow]
  · rw [if_neg hlow, BitVec.getLsbD_extractLsb', show 32 + (i - 32) = i by omega]
    simp [show i - 32 < 96 by omega]

theorem toIpv4Mapped_eq_some_iff {address : BitVec 128} {v4 : BitVec 32} :
    toIpv4Mapped address = some v4 ↔ address = mappedIpv4 v4 := by
  unfold toIpv4Mapped
  constructor
  · intro h
    split at h
    · next hhigh =>
        injection h with hlow
        rw [← high_append_low address, hhigh, hlow, mappedIpv4]
    · cases h
  · rintro rfl
    rw [if_pos (mappedIpv4_high v4), mappedIpv4_low]

/-- What an address is normalised to. -/
theorem normalizeIp_V6 (address : BitVec 128) :
    (∃ v4, address = mappedIpv4 v4 ∧ normalizeIp (.V6 address) = .V4 v4) ∨
      ((∀ v4, address ≠ mappedIpv4 v4) ∧ normalizeIp (.V6 address) = .V6 address) := by
  cases hmapped : toIpv4Mapped address with
  | some v4 =>
      refine Or.inl ⟨v4, toIpv4Mapped_eq_some_iff.mp hmapped, ?_⟩
      rw [normalizeIp, hmapped]
      rfl
  | none =>
      refine Or.inr ⟨?_, ?_⟩
      · intro v4 h
        rw [toIpv4Mapped_eq_some_iff.mpr h] at hmapped
        cases hmapped
      · rw [normalizeIp, hmapped]
        rfl

/-- Two addresses are the same source when they are equal, or one is the other one
mapped. -/
def SameSource (a b : IpAddr) : Prop :=
  a = b ∨ ∃ v4, (a = .V4 v4 ∧ b = .V6 (mappedIpv4 v4)) ∨ (a = .V6 (mappedIpv4 v4) ∧ b = .V4 v4)

theorem normalizeIp_eq_iff (a b : IpAddr) : normalizeIp a = normalizeIp b ↔ SameSource a b := by
  have hmap (v4 : BitVec 32) : normalizeIp (.V6 (mappedIpv4 v4)) = .V4 v4 := by
    rw [normalizeIp, toIpv4Mapped_eq_some_iff.mpr rfl]
    rfl
  constructor
  · intro h
    cases a with
    | V4 x =>
        cases b with
        | V4 y => exact Or.inl h
        | V6 y =>
            rcases normalizeIp_V6 y with ⟨v4, hy, hnorm⟩ | ⟨_, hnorm⟩
            · rw [hnorm] at h
              injection h with h
              exact Or.inr ⟨x, Or.inl ⟨rfl, by rw [hy, h]⟩⟩
            · rw [hnorm] at h
              cases h
    | V6 x =>
        rcases normalizeIp_V6 x with ⟨v4, hx, hnorm⟩ | ⟨_, hnorm⟩
        · rw [hnorm] at h
          cases b with
          | V4 y =>
              injection h with h
              exact Or.inr ⟨y, Or.inr ⟨by rw [hx, h], rfl⟩⟩
          | V6 y =>
              rcases normalizeIp_V6 y with ⟨w4, hy, hnormy⟩ | ⟨_, hnormy⟩
              · rw [hnormy] at h
                injection h with h
                exact Or.inl (by rw [hx, hy, h])
              · rw [hnormy] at h
                cases h
        · rw [hnorm] at h
          cases b with
          | V4 y => cases h
          | V6 y =>
              rcases normalizeIp_V6 y with ⟨w4, _, hnormy⟩ | ⟨_, hnormy⟩
              · rw [hnormy] at h
                cases h
              · rw [hnormy] at h
                exact Or.inl h
  · rintro (rfl | ⟨v4, ⟨rfl, rfl⟩ | ⟨rfl, rfl⟩⟩)
    · rfl
    · exact (hmap v4).symm
    · exact hmap v4

/-! ## The limiter -/

inductive WsConnectionLimit where
  | Global
  | Session
  | Source
  deriving DecidableEq, Repr

structure ConnectionCounts where
  total : Nat
  bySession : CountMap String
  bySource : CountMap IpAddr

def ConnectionCounts.default : ConnectionCounts := ⟨0, CountMap.empty, CountMap.empty⟩

/-- The limits of a limiter, which its constructor asserts to be positive. -/
structure WsConnectionLimiter where
  globalLimit : Nat
  sessionLimit : Nat
  sourceLimit : Nat
  positive : globalLimit > 0 ∧ sessionLimit > 0 ∧ sourceLimit > 0

def maxConnectionsGlobal : Nat := 64
def maxConnectionsPerSession : Nat := 4
def maxConnectionsPerSource : Nat := 16

/-- The limiter that the server starts with. -/
def WsConnectionLimiter.deployed : WsConnectionLimiter :=
  ⟨maxConnectionsGlobal, maxConnectionsPerSession, maxConnectionsPerSource, by decide⟩

/-- A new limiter and its counts; none is a failed assertion. -/
def WsConnectionLimiter.new (globalLimit sessionLimit sourceLimit : Nat) :
    Option (WsConnectionLimiter × ConnectionCounts) :=
  if h : globalLimit > 0 ∧ sessionLimit > 0 ∧ sourceLimit > 0 then
    some (⟨globalLimit, sessionLimit, sourceLimit, h⟩, ConnectionCounts.default)
  else none

structure WsConnectionPermit where
  sessionId : String
  source : IpAddr
  deriving DecidableEq, Repr

def WsConnectionLimiter.tryAcquire (limiter : WsConnectionLimiter) (sessionId : String)
    (source : IpAddr) (counts : ConnectionCounts) :
    Except WsConnectionLimit WsConnectionPermit × ConnectionCounts :=
  let source := normalizeIp source
  if counts.total ≥ limiter.globalLimit then
    (.error .Global, counts)
  else if counts.bySession.count sessionId ≥ limiter.sessionLimit then
    (.error .Session, counts)
  else if counts.bySource.count source ≥ limiter.sourceLimit then
    (.error .Source, counts)
  else
    (.ok ⟨sessionId, source⟩,
      { total := counts.total + 1
        bySession := counts.bySession.set sessionId (counts.bySession.count sessionId + 1)
        bySource := counts.bySource.set source (counts.bySource.count source + 1) })

section Decrement

variable {Key : Type} [DecidableEq Key]

def decrementOrRemove (counts : CountMap Key) (key : Key) : CountMap Key :=
  match counts key with
  | none => counts
  | some count => if count ≤ 1 then counts.remove key else counts.set key (count - 1)

theorem decrementOrRemove_counts {counts : CountMap Key} {key : Key} {held : List Key}
    (h : counts.Counts (key :: held)) : (decrementOrRemove counts key).Counts held := by
  have hentry : counts key = some (counts.count key) := by
    rw [h.count_eq, h key, List.count_cons_self, CountMap.entry_succ]
  unfold decrementOrRemove
  rw [hentry]
  dsimp only
  split
  · next hlast => exact h.release_last hlast
  · next hmore => exact h.release (by omega)

end Decrement

/-- What dropping a permit does to the counts. -/
def WsConnectionPermit.drop (permit : WsConnectionPermit) (counts : ConnectionCounts) :
    ConnectionCounts where
  total := counts.total - 1
  bySession := decrementOrRemove counts.bySession permit.sessionId
  bySource := decrementOrRemove counts.bySource permit.source

/-! ## Acquires and drops in any order -/

/-- An open connection: the address of its peer and its permit. -/
structure Connection where
  peer : IpAddr
  permit : WsConnectionPermit

/-- The counts, and the connections whose permits are not dropped. -/
structure Connections where
  counts : ConnectionCounts
  live : List Connection

def Connections.initial : Connections := ⟨ConnectionCounts.default, []⟩

inductive ConnectionEvent where
  | acquire (sessionId : String) (peer : IpAddr)
  /-- The permit of the connection at this place is dropped. -/
  | drop (index : Nat)

/-- What an answered acquire leaves: a permit is one more connection. -/
def Connections.answered (s : Connections) (peer : IpAddr) :
    Except WsConnectionLimit WsConnectionPermit × ConnectionCounts → Connections
  | (.ok permit, counts) => ⟨counts, ⟨peer, permit⟩ :: s.live⟩
  | (.error _, counts) => ⟨counts, s.live⟩

def Connections.dropAt (s : Connections) (index : Nat) : Connections :=
  match s.live[index]? with
  | some connection => ⟨connection.permit.drop s.counts, s.live.eraseIdx index⟩
  | none => s

def WsConnectionLimiter.step (limiter : WsConnectionLimiter) (s : Connections) :
    ConnectionEvent → Connections
  | .acquire sessionId peer => s.answered peer (limiter.tryAcquire sessionId peer s.counts)
  | .drop index => s.dropAt index

def Connections.sessions (s : Connections) : List String :=
  s.live.map (fun c => c.permit.sessionId)

def Connections.sources (s : Connections) : List IpAddr :=
  s.live.map (fun c => normalizeIp c.peer)

/-- The counts are those of the open connections, and within the limits. -/
structure Accounted (limiter : WsConnectionLimiter) (s : Connections) : Prop where
  total : s.counts.total = s.live.length
  sessions : s.counts.bySession.Counts s.sessions
  sources : s.counts.bySource.Counts s.sources
  global_le : s.live.length ≤ limiter.globalLimit
  session_le : ∀ sessionId, s.sessions.count sessionId ≤ limiter.sessionLimit
  source_le : ∀ source, s.sources.count source ≤ limiter.sourceLimit
  normalized : ∀ c ∈ s.live, c.permit.source = normalizeIp c.peer

/-- The connections that are open have used a limit up. -/
def Connections.Reached (limiter : WsConnectionLimiter) (s : Connections) (sessionId : String)
    (peer : IpAddr) : WsConnectionLimit → Prop
  | .Global => s.live.length = limiter.globalLimit
  | .Session => s.sessions.count sessionId = limiter.sessionLimit
  | .Source => s.sources.count (normalizeIp peer) = limiter.sourceLimit

variable {limiter : WsConnectionLimiter} {s : Connections}

theorem Accounted.initial (limiter : WsConnectionLimiter) :
    Accounted limiter Connections.initial where
  total := rfl
  sessions := CountMap.Counts.empty
  sources := CountMap.Counts.empty
  global_le := Nat.zero_le _
  session_le := fun _ => Nat.zero_le _
  source_le := fun _ => Nat.zero_le _
  normalized := fun _ hc => absurd hc List.not_mem_nil

/-! ## One step -/

/-- A refused acquire changes no count, and names a limit that is used up. -/
theorem tryAcquire_error (h : Accounted limiter s) {sessionId : String} {peer : IpAddr}
    {limit : WsConnectionLimit} {counts : ConnectionCounts}
    (herror : limiter.tryAcquire sessionId peer s.counts = (.error limit, counts)) :
    counts = s.counts ∧ s.Reached limiter sessionId peer limit := by
  unfold WsConnectionLimiter.tryAcquire at herror
  dsimp only at herror
  split at herror
  · next hfull =>
      cases herror
      have hle := h.global_le
      rw [h.total] at hfull
      exact ⟨rfl, Nat.le_antisymm hle hfull⟩
  · split at herror
    · next hfull =>
        cases herror
        rw [h.sessions.count_eq] at hfull
        exact ⟨rfl, Nat.le_antisymm (h.session_le sessionId) hfull⟩
    · split at herror
      · next hfull =>
          cases herror
          rw [h.sources.count_eq] at hfull
          exact ⟨rfl, Nat.le_antisymm (h.source_le _) hfull⟩
      · cases herror

/-- A granted acquire finds no limit used up. -/
theorem tryAcquire_ok (h : Accounted limiter s) {sessionId : String} {peer : IpAddr}
    {permit : WsConnectionPermit} {counts : ConnectionCounts}
    (hok : limiter.tryAcquire sessionId peer s.counts = (.ok permit, counts)) :
    permit = ⟨sessionId, normalizeIp peer⟩ ∧ s.live.length < limiter.globalLimit ∧
      s.sessions.count sessionId < limiter.sessionLimit ∧
      s.sources.count (normalizeIp peer) < limiter.sourceLimit ∧
      counts = ⟨s.counts.total + 1,
        s.counts.bySession.set sessionId (s.counts.bySession.count sessionId + 1),
        s.counts.bySource.set (normalizeIp peer)
          (s.counts.bySource.count (normalizeIp peer) + 1)⟩ := by
  unfold WsConnectionLimiter.tryAcquire at hok
  dsimp only at hok
  split at hok
  · cases hok
  · next htotal =>
      split at hok
      · cases hok
      · next hsession =>
          split at hok
          · cases hok
          · next hsource =>
              rw [h.total] at htotal
              rw [h.sessions.count_eq] at hsession
              rw [h.sources.count_eq] at hsource
              simp only [Prod.mk.injEq, Except.ok.injEq] at hok
              exact ⟨hok.1.symm, by omega, by omega, by omega, hok.2.symm⟩

/-- A list with one more holder stays within a limit that was not used up. -/
theorem count_cons_le {Key : Type} [DecidableEq Key] {held : List Key} {key : Key} {n : Nat}
    (hle : ∀ k, held.count k ≤ n) (hroom : held.count key < n) (k : Key) :
    (key :: held).count k ≤ n := by
  by_cases hkey : key = k
  · subst hkey
    rw [List.count_cons_self]
    omega
  · rw [List.count_cons_of_ne hkey]
    exact hle k

theorem Accounted.answered (h : Accounted limiter s) (sessionId : String) (peer : IpAddr) :
    Accounted limiter (s.answered peer (limiter.tryAcquire sessionId peer s.counts)) := by
  generalize hanswer : limiter.tryAcquire sessionId peer s.counts = answer
  obtain ⟨result, counts⟩ := answer
  cases result with
  | error limit =>
      rw [(tryAcquire_error h hanswer).1]
      exact h
  | ok permit =>
      obtain ⟨rfl, hglobal, hsession, hsource, rfl⟩ := tryAcquire_ok h hanswer
      exact {
        total := congrArg (· + 1) h.total
        sessions := h.sessions.take sessionId
        sources := h.sources.take (normalizeIp peer)
        global_le := hglobal
        session_le := count_cons_le h.session_le hsession
        source_le := count_cons_le h.source_le hsource
        normalized := List.forall_mem_cons.mpr ⟨rfl, h.normalized⟩ }

theorem Accounted.dropAt (h : Accounted limiter s) (index : Nat) :
    Accounted limiter (s.dropAt index) := by
  unfold Connections.dropAt
  cases hat : s.live[index]? with
  | none => exact h
  | some connection =>
      obtain ⟨hlt, hget⟩ := List.getElem?_eq_some_iff.mp hat
      -- The counts do not depend on the order, so the dropped one may as well be the first.
      have hperm : s.live.Perm (connection :: s.live.eraseIdx index) := by
        rw [← hget]
        exact (List.getElem_cons_eraseIdx_perm hlt).symm
      have hsub : (s.live.eraseIdx index).Sublist s.live := List.eraseIdx_sublist s.live index
      have hsource : connection.permit.source = normalizeIp connection.peer :=
        h.normalized connection (hget ▸ List.getElem_mem hlt)
      refine {
        total := ?_
        sessions := ?_
        sources := ?_
        global_le := hsub.length_le.trans h.global_le
        session_le := fun k => ((hsub.map _).count_le k).trans (h.session_le k)
        source_le := fun k => ((hsub.map _).count_le k).trans (h.source_le k)
        normalized := fun c hc => h.normalized c (hsub.subset hc) }
      · have hlength := hperm.length_eq
        rw [List.length_cons, ← h.total] at hlength
        dsimp only [WsConnectionPermit.drop]
        omega
      · exact decrementOrRemove_counts (h.sessions.perm (hperm.map _))
      · have hsources : s.sources.Perm
            (connection.permit.source ::
              (s.live.eraseIdx index).map (fun c => normalizeIp c.peer)) := by
          rw [hsource]
          exact hperm.map _
        exact decrementOrRemove_counts (h.sources.perm hsources)

theorem Accounted.step (h : Accounted limiter s) (event : ConnectionEvent) :
    Accounted limiter (limiter.step s event) := by
  cases event with
  | acquire sessionId peer => exact h.answered sessionId peer
  | drop index => exact h.dropAt index

/-! ## Every order of steps -/

theorem accounted_run (limiter : WsConnectionLimiter) (events : List ConnectionEvent) :
    Accounted limiter (run limiter.step Connections.initial events) := by
  have hevents : Along limiter.step (fun _ _ => True) Connections.initial events :=
    Along.of_forall (fun _ _ _ => trivial) _
  have hstep : ∀ s event, Accounted limiter s → True → Accounted limiter (limiter.step s event) :=
    fun s event h _ => h.step event
  exact run_invariant hstep (Accounted.initial limiter) hevents

/-- However acquires and drops are ordered, the counts are those of the open
connections, no limit is exceeded, and an acquire that is refused changes nothing and
found a limit used up. -/
theorem connections_accounted (limiter : WsConnectionLimiter) (events : List ConnectionEvent) :
    Accounted limiter (run limiter.step Connections.initial events) ∧
      (∀ sessionId peer limit counts,
        limiter.tryAcquire sessionId peer (run limiter.step Connections.initial events).counts =
          (.error limit, counts) →
        limiter.step (run limiter.step Connections.initial events) (.acquire sessionId peer) =
            run limiter.step Connections.initial events ∧
          (run limiter.step Connections.initial events).Reached limiter sessionId peer limit) ∧
      ∀ a b, normalizeIp a = normalizeIp b ↔ SameSource a b := by
  have hreach := accounted_run limiter events
  refine ⟨hreach, ?_, normalizeIp_eq_iff⟩
  intro sessionId peer limit counts herror
  obtain ⟨hcounts, hreached⟩ := tryAcquire_error hreach herror
  refine ⟨?_, hreached⟩
  rw [WsConnectionLimiter.step, herror, hcounts]
  rfl

/-- Four connections of one session, from two addresses. -/
def fourAcquires : List ConnectionEvent :=
  [.acquire "session-a" (.V4 1), .acquire "session-a" (.V4 1), .acquire "session-a" (.V4 2),
    .acquire "session-a" (.V4 2)]

/-- Four permits of one session used up its limit: the fifth is refused. -/
theorem connections_accounted_four :
    Accounted .deployed (run WsConnectionLimiter.deployed.step Connections.initial fourAcquires) ∧
      (run WsConnectionLimiter.deployed.step Connections.initial fourAcquires).Reached .deployed
        "session-a" (.V4 3) .Session := by
  obtain ⟨hcounts, hrefused, -⟩ := connections_accounted .deployed fourAcquires
  exact ⟨hcounts, (hrefused "session-a" (.V4 3) .Session _ rfl).2⟩

end RouterView.Ws
