/-
  Poller/EndToEnd.lean --- from the counters to the answer of a query.

  Over a range that holds the exact samples between two readings and no other
  sample, a query answers what the counters counted between the readings,
  however the rollups have cut and merged the samples.
-/
import RouterView.Poller.Accounting

set_option autoImplicit false

namespace RouterView.Poller

open RouterView.Foundation
open RouterView.Db

/-! ## The order of readings -/

section

variable {bucketSizeMs routerId interfaceId : Int}

theorem Follows.strict {observation : CounterObservation} {db db' : TrafficDb}
    {previous : CounterObservation}
    (h : Follows observation db (some previous) .exactSample db') :
    previous.observedAtMs < observation.observedAtMs := by
  rcases h.adds with ⟨hother, _⟩ | ⟨previous', _, _, _, hlast, _, _, hnew⟩
  · exact absurd rfl hother
  · rw [Option.some.injEq] at hlast
    rw [hlast]
    exact hnew.valid.increasing

/-- A reading comes no earlier than the last one, and later when a sample lies
between them. -/
theorem UpToDate.reading {s : PollerState} {last : Option CounterObservation}
    {event : HistoryEvent} {reading : Reading} (h : UpToDate routerId interfaceId s last)
    (htimely : event.TimelyOn routerId interfaceId)
    (hacknowledged : event.AcknowledgedOn interfaceId)
    (hreading : readingOf interfaceId s event = some reading) :
    ∀ previous, last = some previous →
      previous.observedAtMs ≤ reading.observation.observedAtMs ∧
        (reading.outcome = .exactSample →
          previous.observedAtMs < reading.observation.observedAtMs) := by
  match event with
  | .rollup _ _ => cases hreading
  | .poll (.dropBaselines _) => cases hreading
  | .poll (.observe outcomes observation) =>
      simp only [readingOf] at hreading
      split at hreading
      swap
      · cases hreading
      · rename_i hinterface
        obtain rfl := htimely.2 hinterface
        subst hinterface
        cases hpersist : persistCounterObservation outcomes observation s with
        | mk result s' =>
            rw [hpersist] at hreading
            rcases h.observe (hacknowledged rfl) htimely.1 hpersist with
              ⟨⟨e, he⟩, _⟩ | ⟨outcome, hok, hfollows, _⟩
            · subst he
              cases hreading
            · subst hok
              cases hreading
              intro previous hlast
              refine ⟨hfollows.later previous hlast, ?_⟩
              rintro rfl
              subst hlast
              exact hfollows.strict

/-- The readings after `last`, in order of time. -/
structure InOrder (last : Option CounterObservation) (read : List Reading) : Prop where
  later : ∀ previous, last = some previous →
    ∀ reading ∈ read, previous.observedAtMs ≤ reading.observation.observedAtMs
  ordered : read.Pairwise
    (fun a b => a.observation.observedAtMs ≤ b.observation.observedAtMs)
  proper : ∀ interval ∈ exactIntervals last read, interval.span.Proper

theorem InOrder.cons {last : Option CounterObservation} {reading : Reading} {rest : List Reading}
    (hreading : ∀ previous, last = some previous →
      previous.observedAtMs ≤ reading.observation.observedAtMs ∧
        (reading.outcome = .exactSample →
          previous.observedAtMs < reading.observation.observedAtMs))
    (h : InOrder (some reading.observation) rest) : InOrder last (reading :: rest) where
  later := by
    intro previous hlast next hnext
    rcases List.mem_cons.mp hnext with rfl | hnext
    · exact (hreading previous hlast).1
    · exact le_trans (hreading previous hlast).1 (h.later _ rfl next hnext)
  ordered := List.Pairwise.cons (h.later _ rfl) h.ordered
  proper := by
    intro interval hinterval
    cases last with
    | none => exact h.proper interval hinterval
    | some previous =>
        simp only [exactIntervals] at hinterval
        split at hinterval
        · rename_i hexact
          rcases List.mem_cons.mp hinterval with rfl | hinterval
          · exact (hreading previous rfl).2 hexact
          · exact h.proper interval hinterval
        · exact h.proper interval hinterval

theorem uncut_everywhere (db : TrafficDb) (routerId interfaceId : Int) :
    db.Uncut routerId interfaceId (fun _ => true) :=
  fun _ _ _ _ _ => rfl

/-- The readings of a history are in order. -/
theorem UpToDate.inOrder {s : PollerState} {last : Option CounterObservation}
    {events : List HistoryEvent} (hs : Stored bucketSizeMs s) (hsize : IsI64 bucketSizeMs)
    (h : UpToDate routerId interfaceId s last)
    (htimely : ∀ e ∈ events, e.TimelyOn routerId interfaceId)
    (hacknowledged : ∀ e ∈ events, e.AcknowledgedOn interfaceId) :
    InOrder last (readings bucketSizeMs interfaceId s events) := by
  induction events generalizing s last with
  | nil =>
      refine ⟨fun _ _ _ hmem => (List.not_mem_nil hmem).elim, List.Pairwise.nil, ?_⟩
      intro interval hmem
      cases last <;> cases hmem
  | cons e rest ih =>
      have he := htimely e List.mem_cons_self
      have hack := hacknowledged e List.mem_cons_self
      -- the whole time line is a window that nothing straddles
      have hstep := Stretch.step (fun _ => true) hs hsize h he hack
        (fun _ _ => coarse_everywhere _) (uncut_everywhere _ _ _) (fun _ _ _ _ _ => rfl)
      have hrest := ih (hs.step hsize he) hstep.upToDate
        (fun x hx => htimely x (List.mem_cons_of_mem _ hx))
        (fun x hx => hacknowledged x (List.mem_cons_of_mem _ hx))
      simp only [readings, emitted]
      cases hreading : readingOf interfaceId s e with
      | none =>
          rw [hreading] at hrest
          exact hrest
      | some reading =>
          rw [hreading] at hrest
          exact InOrder.cons (h.reading he hack hreading) hrest

end

/-! ## Increments -/

/-- The sum of what consecutive readings counted. -/
def increments (q : Quantity) : CounterObservation → List Reading → Int
  | _, [] => 0
  | previous, reading :: rest =>
      (Interval.mk previous reading.observation).quantity q +
        increments q reading.observation rest

theorem increments_durationMs (previous : CounterObservation) (read : List Reading)
    (final : Reading) :
    increments .durationMs previous (read ++ [final]) =
      final.observation.observedAtMs - previous.observedAtMs := by
  induction read generalizing previous with
  | nil => simp [increments, Interval.quantity]
  | cons reading rest ih =>
      simp only [List.cons_append, increments, ih, Interval.quantity]
      omega

theorem sum_exactIntervals (q : Quantity) {read : List Reading}
    (hexact : ∀ reading ∈ read, reading.outcome = .exactSample) (previous : CounterObservation) :
    ((exactIntervals (some previous) read).map (fun interval => interval.quantity q)).sum =
      increments q previous read := by
  induction read generalizing previous with
  | nil => rfl
  | cons reading rest ih =>
      have hhead := hexact reading List.mem_cons_self
      have hrest := ih (fun x hx => hexact x (List.mem_cons_of_mem _ hx)) reading.observation
      simp only [exactIntervals, hhead, if_true, List.map_cons, List.sum_cons, increments, hrest]

/-- The ends of an interval are readings. -/
theorem mem_exactIntervals {previous : CounterObservation} {read : List Reading}
    {interval : Interval} (h : interval ∈ exactIntervals (some previous) read) :
    (interval.previous = previous ∨ ∃ reading ∈ read, reading.observation = interval.previous) ∧
      ∃ reading ∈ read, reading.observation = interval.current := by
  induction read generalizing previous with
  | nil => cases h
  | cons reading rest ih =>
      have htail : interval ∈ exactIntervals (some reading.observation) rest →
          (interval.previous = previous ∨
              ∃ r ∈ reading :: rest, r.observation = interval.previous) ∧
            ∃ r ∈ reading :: rest, r.observation = interval.current := by
        intro hmem
        obtain ⟨hprevious, r, hr, hcurrent⟩ := ih hmem
        refine ⟨Or.inr ?_, r, List.mem_cons_of_mem _ hr, hcurrent⟩
        rcases hprevious with heq | ⟨r', hr', heq⟩
        · exact ⟨reading, List.mem_cons_self, heq.symm⟩
        · exact ⟨r', List.mem_cons_of_mem _ hr', heq⟩
      simp only [exactIntervals] at h
      split at h
      · rcases List.mem_cons.mp h with rfl | hmem
        · exact ⟨Or.inl rfl, reading, List.mem_cons_self, rfl⟩
        · exact htail hmem
      · exact htail h

/-! ## Inside and outside the range -/

section

variable {query : TrafficQuery} {interval : Interval}

theorem weight_inside (hproper : interval.span.Proper)
    (hfrom : query.fromMs ≤ interval.previous.observedAtMs)
    (hto : interval.current.observedAtMs ≤ query.toMs) (q : Quantity) :
    Interval.weight q query.window interval = interval.quantity q := by
  simp only [Span.Proper, Interval.span] at hproper
  have hinside : query.window interval.span.start = true :=
    decide_eq_true ⟨hfrom, lt_of_lt_of_le hproper hto⟩
  simp only [Interval.weight, hinside, if_true]

theorem weight_apart (hproper : interval.span.Proper)
    (hapart : interval.span.Apart ⟨query.fromMs, query.toMs⟩) (q : Quantity) :
    Interval.weight q query.window interval = 0 := by
  simp only [Span.Proper, Interval.span] at hproper
  simp only [Span.Apart, Span.Before, Interval.span] at hapart
  have houtside : query.window interval.span.start = false := by
    refine decide_eq_false ?_
    simp only [Interval.span]
    omega
  simp only [Interval.weight, houtside, Bool.false_eq_true, if_false]

theorem sum_weight_apart {intervals : List Interval}
    (hproper : ∀ interval ∈ intervals, interval.span.Proper)
    (hapart : ∀ interval ∈ intervals, interval.span.Apart ⟨query.fromMs, query.toMs⟩)
    (q : Quantity) : (intervals.map (Interval.weight q query.window)).sum = 0 := by
  refine List.sum_eq_zero ?_
  intro x hx
  obtain ⟨interval, hmem, rfl⟩ := List.mem_map.mp hx
  exact weight_apart (hproper interval hmem) (hapart interval hmem) q

end

/-! ## The answer -/

/-- Nothing is stored or remembered of the interface. -/
structure Unseen (routerId interfaceId : Int) (s : PollerState) : Prop where
  checkpoint : s.db.checkpointFor routerId interfaceId = none
  baseline : s.baselines interfaceId = none
  samples : s.db.samplesOn routerId interfaceId = []
  rollups : s.db.rollupsOn routerId interfaceId = []

section

variable {routerId interfaceId : Int} {s : PollerState}

theorem Unseen.contributionsOn (h : Unseen routerId interfaceId s) :
    s.db.contributionsOn routerId interfaceId = [] := by
  simp only [TrafficDb.contributionsOn, h.samples, h.rollups, List.map_nil, List.append_nil]

theorem Unseen.upToDate (h : Unseen routerId interfaceId s) :
    UpToDate routerId interfaceId s none where
  checkpoint := by rw [h.checkpoint]; rfl
  baseline := by
    intro baseline hsome
    rw [h.baseline] at hsome
    cases hsome
  ended := by
    intro c hc
    rw [h.contributionsOn] at hc
    cases hc
  disjoint := by
    simp only [TrafficDb.DisjointOn, h.contributionsOn]
    exact List.Pairwise.nil
  timestamp := by
    intro previous hlast
    cases hlast

theorem Unseen.uncut (h : Unseen routerId interfaceId s) (window : Int → Bool) :
    s.db.Uncut routerId interfaceId window := by
  intro c hc
  rw [h.contributionsOn] at hc
  cases hc

theorem Unseen.quantityIn (h : Unseen routerId interfaceId s) (q : Quantity)
    (window : Int → Bool) : s.db.quantityIn q routerId interfaceId window = 0 := by
  rw [quantityIn_eq, h.samples, h.rollups]
  rfl

end

/-- The readings of a history, split at two of them: between `first` and `final`
there is only exact samples, and every other exact sample is apart from the
range, in which the two lie. -/
structure Spanned (query : TrafficQuery) (before : List Reading) (first : Reading)
    (between : List Reading) (final : Reading) (after : List Reading) : Prop where
  exact : ∀ reading ∈ between ++ [final], reading.outcome = .exactSample
  from_le : query.fromMs ≤ first.observation.observedAtMs
  le_to : final.observation.observedAtMs ≤ query.toMs
  apart : ∀ interval ∈ exactIntervals none (before ++ [first]) ++
    exactIntervals (some final.observation) after,
    interval.span.Apart ⟨query.fromMs, query.toMs⟩

section

variable {query : TrafficQuery} {before between after : List Reading} {first final : Reading}

theorem lastReading_snoc (last : Option CounterObservation) (read : List Reading)
    (reading : Reading) : lastReading last (read ++ [reading]) = some reading.observation := by
  rw [lastReading_append]
  rfl

/-- The intervals of the readings, split at the same two. -/
theorem exactIntervals_split :
    exactIntervals none ((before ++ [first]) ++ ((between ++ [final]) ++ after)) =
      exactIntervals none (before ++ [first]) ++
        (exactIntervals (some first.observation) (between ++ [final]) ++
          exactIntervals (some final.observation) after) := by
  rw [exactIntervals_append none (before ++ [first]), lastReading_snoc,
    exactIntervals_append _ (between ++ [final]), lastReading_snoc]

/-- The intervals between the two readings lie inside the range. -/
theorem Spanned.inside (h : Spanned query before first between final after)
    (horder : InOrder none ((before ++ [first]) ++ ((between ++ [final]) ++ after)))
    {interval : Interval}
    (hmem : interval ∈ exactIntervals (some first.observation) (between ++ [final])) :
    query.fromMs ≤ interval.previous.observedAtMs ∧
      interval.current.observedAtMs ≤ query.toMs := by
  obtain ⟨_, hrest, hacross⟩ := List.pairwise_append.mp horder.ordered
  obtain ⟨hbetween, _, _⟩ := List.pairwise_append.mp hrest
  have hafter : ∀ reading ∈ between ++ [final],
      first.observation.observedAtMs ≤ reading.observation.observedAtMs := by
    intro reading hreading
    exact hacross first (List.mem_append_right _ (List.mem_singleton.mpr rfl)) reading
      (List.mem_append_left _ hreading)
  have hbefore : ∀ reading ∈ between ++ [final],
      reading.observation.observedAtMs ≤ final.observation.observedAtMs := by
    intro reading hreading
    rcases List.mem_append.mp hreading with hreading | hreading
    · exact (List.pairwise_append.mp hbetween).2.2 reading hreading final
        (List.mem_singleton.mpr rfl)
    · rw [List.mem_singleton.mp hreading]
  obtain ⟨hprevious, reading, hreading, hcurrent⟩ := mem_exactIntervals hmem
  constructor
  · rcases hprevious with heq | ⟨previous, hprevious, heq⟩
    · rw [heq]
      exact h.from_le
    · rw [← heq]
      exact le_trans h.from_le (hafter previous hprevious)
  · rw [← hcurrent]
    exact le_trans (hbefore reading hreading) h.le_to

/-- Nothing straddles the range. -/
theorem Spanned.whole (h : Spanned query before first between final after)
    (horder : InOrder none ((before ++ [first]) ++ ((between ++ [final]) ++ after))) :
    ∀ interval ∈ exactIntervals none ((before ++ [first]) ++ ((between ++ [final]) ++ after)),
      WholeOn query.window interval.span := by
  intro interval hmem
  rw [exactIntervals_split] at hmem
  rcases List.mem_append.mp hmem with hmem | hmem
  · exact wholeOn_of_apart (h.apart interval (List.mem_append_left _ hmem))
  · rcases List.mem_append.mp hmem with hmem | hmem
    · obtain ⟨hfrom, hto⟩ := h.inside horder hmem
      exact wholeOn_of_inside hfrom hto
    · exact wholeOn_of_apart (h.apart interval (List.mem_append_right _ hmem))

/-- What the readings counted inside the range. -/
theorem Spanned.sum (h : Spanned query before first between final after)
    (horder : InOrder none ((before ++ [first]) ++ ((between ++ [final]) ++ after)))
    (q : Quantity) :
    ((exactIntervals none ((before ++ [first]) ++ ((between ++ [final]) ++ after))).map
        (Interval.weight q query.window)).sum =
      increments q first.observation (between ++ [final]) := by
  have hproper := horder.proper
  rw [exactIntervals_split] at hproper ⊢
  have hbefore := sum_weight_apart
    (fun interval hmem => hproper interval (List.mem_append_left _ hmem))
    (fun interval hmem => h.apart interval (List.mem_append_left _ hmem)) q
  have hafter := sum_weight_apart
    (fun interval hmem =>
      hproper interval (List.mem_append_right _ (List.mem_append_right _ hmem)))
    (fun interval hmem => h.apart interval (List.mem_append_right _ hmem)) q
  have hbetween : (exactIntervals (some first.observation) (between ++ [final])).map
      (Interval.weight q query.window) =
        (exactIntervals (some first.observation) (between ++ [final])).map
          (fun interval => interval.quantity q) := by
    refine List.map_congr_left ?_
    intro interval hmem
    obtain ⟨hfrom, hto⟩ := h.inside horder hmem
    exact weight_inside
      (hproper interval (List.mem_append_right _ (List.mem_append_left _ hmem))) hfrom hto q
  rw [List.map_append, List.map_append, List.sum_append, List.sum_append, hbefore, hafter,
    hbetween, sum_exactIntervals q h.exact, zero_add, add_zero]

end

/-- Over a range that holds the exact samples between two readings and no other
sample, whose ends are bucket boundaries once anything was rolled up, a query
answers the sum of the counter increments between the readings and covers the
time between them. -/
theorem query_accounts (bucketSizeMs routerId interfaceId : Int) (s : PollerState)
    (events : List HistoryEvent) (query : TrafficQuery) (before between after : List Reading)
    (first final : Reading) (hsize : IsI64 bucketSizeMs) (hs : Stored bucketSizeMs s)
    (hunseen : Unseen routerId interfaceId s)
    (howned : s.db.ownsRouterInterface routerId (some interfaceId) = true)
    (htimely : ∀ e ∈ events, e.TimelyOn routerId interfaceId)
    (hacknowledged : ∀ e ∈ events, e.AcknowledgedOn interfaceId)
    (hreadings : readings bucketSizeMs interfaceId s events =
      (before ++ [first]) ++ ((between ++ [final]) ++ after))
    (hspanned : Spanned query before first between final after)
    (hgrid : (∃ e ∈ events, e.isRollup = true) →
      bucketSizeMs ∣ query.fromMs ∧ bucketSizeMs ∣ query.toMs)
    (hquery : QueriedOn routerId interfaceId query) :
    let s' := run (historyStep bucketSizeMs) s events
    (s'.db.sources query).length ≤ maxTrafficSourceRows →
      ∃ result, queryTrafficV4 s'.db query = .ok result ∧
        decimalValue result.totals.downloadBytes =
          increments .downloadBytes first.observation (between ++ [final]) ∧
        decimalValue result.totals.uploadBytes =
          increments .uploadBytes first.observation (between ++ [final]) ∧
        result.coverage.coveredDurationMs =
          final.observation.observedAtMs - first.observation.observedAtMs := by
  intro s' hrows
  have horder := hunseen.upToDate.inOrder hs hsize htimely hacknowledged
  rw [hreadings] at horder
  have hcoarse : ∀ e ∈ events, e.isRollup = true → 0 < bucketSizeMs →
      Coarse bucketSizeMs query.window := by
    intro e he hrollup hpositive
    obtain ⟨hfrom, hto⟩ := hgrid ⟨e, he, hrollup⟩
    exact TrafficQuery.window_coarse hpositive hfrom hto
  have hstretch := Stretch.runs query.window hs hsize hunseen.upToDate htimely
    hacknowledged hcoarse (hunseen.uncut _) (by
      rw [hreadings]
      exact hspanned.whole horder)
  have hupToDate := hstretch.upToDate
  have huncut := hstretch.counts.uncut
  have hstored := hs.runs hsize htimely
  have howned' := (hs.runs_owns hsize htimely).trans howned
  rcases hstored.answers hupToDate.disjoint howned' hquery with
    ⟨hlarge, _⟩ | ⟨result, size, state, hok, hanswer⟩
  · exact absurd hrows (not_le.mpr hlarge)
  · obtain ⟨hrouter, hinterface, hranged, _, _⟩ := hquery
    subst hrouter hinterface
    have htotal : ∀ q : Quantity, q.ofResult result =
        increments q first.observation (between ++ [final]) := by
      intro q
      rw [hanswer.ofResult_quantityIn huncut hstored.tidy hstored.spans hstored.bytes hranged q,
        hstretch.counts.quantityIn q, hunseen.quantityIn, hreadings, hspanned.sum horder q, zero_add]
    refine ⟨result, hok, htotal .downloadBytes, htotal .uploadBytes, ?_⟩
    rw [← increments_durationMs]
    exact htotal .durationMs

/-- Four observations, with a rollup before the last one that cuts a sample. -/
def accountedRun : List HistoryEvent :=
  [.poll (.observe .allCommitted (observationAt 1 70 500 70)),
    .poll (.observe .allCommitted (observationAt 1 90 600 80)),
    .poll (.observe .allCommitted (observationAt 1 110 900 95)),
    .rollup 100000 10,
    .poll (.observe .allCommitted (observationAt 1 130 1000 99))]

theorem query_accounts_accountedRun :
    ∃ result, queryTrafficV4
        (run (historyStep 60000) ⟨TrafficDb.withInterface, Baselines.empty⟩ accountedRun).db
          ⟨1, 1, 60000, 180000, 3⟩ = .ok result ∧
      decimalValue result.totals.downloadBytes = 500 ∧
      decimalValue result.totals.uploadBytes = 29 ∧
      result.coverage.coveredDurationMs = 60000 :=
  query_accounts 60000 1 1 ⟨TrafficDb.withInterface, Baselines.empty⟩ accountedRun
    ⟨1, 1, 60000, 180000, 3⟩ [] [⟨.exactSample, observationAt 1 90 600 80⟩,
      ⟨.exactSample, observationAt 1 110 900 95⟩] [] ⟨.initialized, observationAt 1 70 500 70⟩
    ⟨.exactSample, observationAt 1 130 1000 99⟩ (by decide) (stored_withInterface 60000)
    ⟨by decide, rfl, by decide, by decide⟩ (by decide)
    (by simp [accountedRun, HistoryEvent.TimelyOn, observationAt, IsTimestamp])
    (by simp [accountedRun, HistoryEvent.AcknowledgedOn, StorageOutcomes.Acknowledged,
      StorageOutcomes.allCommitted])
    (by decide +kernel) ⟨by decide, by decide, by decide, by decide⟩
    (fun _ => ⟨by decide, by decide⟩)
    ⟨rfl, rfl, ⟨by decide, by decide, by decide, by decide⟩, ⟨by decide, by decide⟩, by decide⟩
    (by decide +kernel)

/-- An observation at any time of the time line. -/
def farObservation (observedAtMs : Int) (uptimeSeconds : UInt64) (monotonic : Nat)
    (rxCounter : UInt64) : CounterObservation :=
  { observationAt 1 0 rxCounter 0 with
    observedAtMs := observedAtMs
    monotonic := monotonic
    uptimeSeconds := some uptimeSeconds }

/-- Two observations further apart than a 64-bit integer can say. -/
def farRun : List HistoryEvent :=
  [.poll (.observe .allCommitted (farObservation (-6000000000000000000) 0 0 500)),
    .poll (.observe .allCommitted
      (farObservation 6000000000000000000 12000000000000000 9223372036854775807000000 600))]

/-- An exact sample lies between the two observations, and a query from one to
the other fails. -/
theorem query_accounts_fails :
    (readings 60000 1 ⟨TrafficDb.withInterface, Baselines.empty⟩ farRun).map
        (fun reading => reading.outcome) = [.initialized, .exactSample] ∧
      queryTrafficV4
        (run (historyStep 60000) ⟨TrafficDb.withInterface, Baselines.empty⟩ farRun).db
          ⟨1, 1, -6000000000000000000, 6000000000000000000, 1⟩ = .error .sqlite := by
  decide +kernel

end RouterView.Poller
