/-
  Db/RollupBatch.lean --- what the loop over a rollup batch consumes.

  The outer loop consumes a prefix of the batch.  Every sample of the prefix is
  consumed up to the cutoff, except that the budget may stop the last one
  early; the samples are then deleted or cut down to what is left of them.
-/
import RouterView.Db.RollupLoop

set_option autoImplicit false

namespace RouterView.Db

open RouterView.Foundation

/-! ## Consumed samples -/

/-- The sample was consumed to its end. -/
def Consumed.complete (c : Consumed) : Bool := decide (c.consumedEnd = c.sample.endedAtMs)

/-- What is left of the sample. -/
def Consumed.remainder (c : Consumed) : RawTrafficRemainder where
  id := c.sample.id
  startedAtMs := c.consumedEnd
  endedAtMs := c.sample.endedAtMs
  downloadBytes := c.sample.downloadBytes - c.quantity .downloadBytes
  uploadBytes := c.sample.uploadBytes - c.quantity .uploadBytes

/-- The sample was consumed from its start, at most up to the cutoff. -/
structure Consumed.Proper (beforeMs : Int) (c : Consumed) : Prop where
  sound : c.sample.Sound
  started : IsTimestamp c.sample.startedAtMs
  ended : IsTimestamp c.sample.endedAtMs
  advances : c.sample.startedAtMs < c.consumedEnd
  le_ended : c.consumedEnd ≤ c.sample.endedAtMs
  le_before : c.consumedEnd ≤ beforeMs

/-- The sample was consumed as far as the cutoff allows. -/
def Consumed.Exhausted (beforeMs : Int) (c : Consumed) : Prop :=
  c.consumedEnd = min c.sample.endedAtMs beforeMs

theorem Consumed.Proper.durationMs_eq {beforeMs : Int} {c : Consumed} (h : c.Proper beforeMs) :
    c.sample.durationMs = c.sample.endedAtMs - c.sample.startedAtMs := by
  rw [h.sound.duration, h.ended.satSub_eq h.started]

theorem Consumed.Proper.duration_pos {beforeMs : Int} {c : Consumed} (h : c.Proper beforeMs) :
    0 < c.sample.durationMs := by
  have hduration := h.durationMs_eq
  have hincreasing := h.sound.increasing
  omega

theorem Consumed.Proper.ofSample_nonneg {beforeMs : Int} {c : Consumed}
    (h : c.Proper beforeMs) (q : Quantity) : 0 ≤ q.ofSample c.sample := by
  cases q with
  | downloadBytes => exact h.sound.downloadBytes
  | uploadBytes => exact h.sound.uploadBytes
  | durationMs => exact le_of_lt h.duration_pos

/-- What was consumed of a quantity is between nothing and all of it. -/
theorem Consumed.Proper.quantity_bounds {beforeMs : Int} {c : Consumed}
    (h : c.Proper beforeMs) (q : Quantity) :
    0 ≤ c.quantity q ∧ c.quantity q ≤ q.ofSample c.sample := by
  have hadvances := h.advances
  have hended := h.le_ended
  have hduration := h.durationMs_eq
  exact ⟨slice_nonneg (h.ofSample_nonneg q) h.duration_pos (by omega),
    slice_prefix_le (h.ofSample_nonneg q) h.duration_pos (by omega)⟩

/-- A sample consumed to its end was consumed whole. -/
theorem Consumed.Proper.quantity_complete {beforeMs : Int} {c : Consumed}
    (h : c.Proper beforeMs) (hcomplete : c.complete = true) (q : Quantity) :
    c.quantity q = q.ofSample c.sample := by
  have hend : c.consumedEnd = c.sample.endedAtMs := of_decide_eq_true hcomplete
  have hduration := h.durationMs_eq
  simp only [Consumed.quantity]
  rw [hend, ← hduration]
  exact slice_whole h.duration_pos

/-- The consumed duration is the consumed span. -/
theorem Consumed.Proper.quantity_duration {beforeMs : Int} {c : Consumed}
    (h : c.Proper beforeMs) :
    c.quantity .durationMs = c.consumedEnd - c.sample.startedAtMs := by
  simp only [Consumed.quantity, Quantity.ofSample]
  rw [slice_uniform h.duration_pos]
  omega

theorem remainderOf_ok {beforeMs : Int} {c : Consumed} (hc : c.Proper beforeMs)
    {remainder : RawTrafficRemainder}
    (h : remainderOf c.sample c.consumedEnd = .ok remainder) : remainder = c.remainder := by
  unfold remainderOf at h
  obtain ⟨download, hdownload, h⟩ := bind_eq_ok_iff.mp h
  obtain ⟨upload, hupload, h⟩ := bind_eq_ok_iff.mp h
  have hrelative : satSub c.consumedEnd c.sample.startedAtMs =
      c.consumedEnd - c.sample.startedAtMs := by
    have := hc.started
    have := hc.ended
    have := hc.advances
    have := hc.le_ended
    simp only [IsTimestamp] at *
    exact satSub_eq (by simp only [IsI64, i64Min, i64Max]; omega)
  rw [hrelative] at hdownload hupload
  simp only [pure_eq_ok, Except.ok.injEq] at h
  rw [← h, (proportionalSlice_ok hdownload).result_eq, (proportionalSlice_ok hupload).result_eq]
  rfl

/-! ## The outer loop -/

/-- The bucket size, the cutoff and the batch of a rollup. -/
structure RollupInput (beforeMs bucketSizeMs : Int) (batch : List TrafficSample) : Prop where
  size_pos : 0 < bucketSizeMs
  size_le : bucketSizeMs ≤ i64Max
  started : ∀ s ∈ batch, IsTimestamp s.startedAtMs
  ended : ∀ s ∈ batch, IsTimestamp s.endedAtMs
  before : ∀ s ∈ batch, s.startedAtMs < beforeMs

/-- The state of the outer loop after it consumed a prefix of the batch. -/
structure BatchProgress (beforeMs bucketSizeMs : Int) (consumed : List Consumed)
    (progress : RollupProgress) : Prop where
  covers : Covers bucketSizeMs consumed progress.buckets
  proper : ∀ c ∈ consumed, c.Proper beforeMs
  fullyConsumed : progress.fullyConsumed =
    (consumed.filter Consumed.complete).map (fun c => c.sample.id)
  remainders : progress.remainders =
    (consumed.filter (fun c => !c.complete)).map Consumed.remainder
  exhausted : consumed.Pairwise (fun c _ => c.Exhausted beforeMs)
  budget : (∀ c ∈ consumed, c.Exhausted beforeMs) ∨ progress.remainingSegments = 0

theorem BatchProgress.initial (beforeMs bucketSizeMs : Int) (budget : Nat) :
    BatchProgress beforeMs bucketSizeMs [] ⟨OrdMap.empty, [], [], budget⟩ :=
  ⟨Covers.empty bucketSizeMs, by simp, rfl, rfl, List.Pairwise.nil, Or.inl (by simp)⟩

theorem validateRawSampleForRollup_ok {s : TrafficSample} {u : Unit}
    (h : validateRawSampleForRollup s = .ok u) : s.Sound := by
  unfold validateRawSampleForRollup at h
  rw [ensure_eq_ok_iff] at h
  simp only [not_or, not_le, not_lt, not_not] at h
  exact ⟨h.1, h.2.1, h.2.2.1, h.2.2.2⟩

/-- Consuming one more sample: how far the inner loop got, and what that makes of the state. -/
theorem BatchProgress.advance {beforeMs bucketSizeMs : Int} {batch : List TrafficSample}
    (hinput : RollupInput beforeMs bucketSizeMs batch) {consumed : List Consumed}
    {progress progress' : RollupProgress}
    (h : BatchProgress beforeMs bucketSizeMs consumed progress)
    {sample : TrafficSample} (hmem : sample ∈ batch)
    (hbudget : progress.remainingSegments ≠ 0)
    (hstep : consumeSample beforeMs bucketSizeMs sample progress = .ok progress') :
    ∃ remaining consumedEnd,
      consumeSegments bucketSizeMs (min sample.endedAtMs beforeMs) sample
          progress.remainingSegments sample.startedAtMs progress.buckets =
        .ok (remaining, consumedEnd, progress'.buckets) ∧
      BatchProgress beforeMs bucketSizeMs (consumed ++ [⟨sample, consumedEnd⟩]) progress' := by
  unfold consumeSample at hstep
  obtain ⟨_, hvalid, hstep⟩ := bind_eq_ok_iff.mp hstep
  have hsound := validateRawSampleForRollup_ok hvalid
  have hincreasing := hsound.increasing
  have hbefore := hinput.before sample hmem
  have hplanned : ¬ min sample.endedAtMs beforeMs ≤ sample.startedAtMs := by omega
  rw [if_neg hplanned] at hstep
  obtain ⟨⟨remaining, consumedEnd, buckets⟩, hsegments, hstep⟩ := bind_eq_ok_iff.mp hstep
  have hc : Cuttable bucketSizeMs (min sample.endedAtMs beforeMs) sample :=
    ⟨hinput.size_pos, hinput.size_le, hsound, hinput.started sample hmem,
      hinput.ended sample hmem, min_le_left _ _⟩
  obtain ⟨hcovers, hmono, hle, hstop, hadvances⟩ := consumeSegments_invariant hc
    (fun t buckets => Covers bucketSizeMs (consumed ++ [⟨sample, t⟩]) buckets)
    (fun hstart hlt hcut hinv => hinv.cut hc hstart hlt hcut)
    (le_refl _) (by omega) (h.covers.begin sample) hsegments
  have hpositive := hadvances (by omega) (by omega)
  have hproper : Consumed.Proper beforeMs ⟨sample, consumedEnd⟩ :=
    ⟨hsound, hinput.started sample hmem, hinput.ended sample hmem, hpositive, by
      simp only
      omega, by
      simp only
      omega⟩
  have hexhausted : ∀ c ∈ consumed, c.Exhausted beforeMs := h.budget.resolve_right hbudget
  have hpropers : ∀ c ∈ consumed ++ [⟨sample, consumedEnd⟩], c.Proper beforeMs := by
    intro c hc'
    rcases List.mem_append.mp hc' with hc' | hc'
    · exact h.proper c hc'
    · rw [List.mem_singleton.mp hc']
      exact hproper
  have hpairwise : List.Pairwise (fun c (_ : Consumed) => c.Exhausted beforeMs)
      (consumed ++ [⟨sample, consumedEnd⟩]) := by
    rw [List.pairwise_append]
    exact ⟨h.exhausted, List.pairwise_singleton _ _, fun c hc' _ _ => hexhausted c hc'⟩
  have hbudget' : (∀ c ∈ consumed ++ [⟨sample, consumedEnd⟩], c.Exhausted beforeMs) ∨
      remaining = 0 := by
    rcases hstop with hstop | hstop
    · left
      intro c hc'
      rcases List.mem_append.mp hc' with hc' | hc'
      · exact hexhausted c hc'
      · rw [List.mem_singleton.mp hc']
        exact hstop
    · exact Or.inr hstop
  refine ⟨remaining, consumedEnd, ?_⟩
  by_cases hcomplete : consumedEnd = sample.endedAtMs
  · have hflag : Consumed.complete ⟨sample, consumedEnd⟩ = true := decide_eq_true hcomplete
    simp only [hcomplete, if_true, pure_eq_ok, Except.ok.injEq] at hstep
    subst hstep
    refine ⟨hsegments, hcovers, hpropers, ?_, ?_, hpairwise, hbudget'⟩
    · simp [h.fullyConsumed, hflag]
    · simp [h.remainders, hflag]
  · have hflag : Consumed.complete ⟨sample, consumedEnd⟩ = false := decide_eq_false hcomplete
    simp only [hcomplete, if_false] at hstep
    obtain ⟨remainder, hremainder, hstep⟩ := bind_eq_ok_iff.mp hstep
    have hleft := remainderOf_ok hproper hremainder
    simp only [pure_eq_ok, Except.ok.injEq] at hstep
    subst hstep
    refine ⟨hsegments, hcovers, hpropers, ?_, ?_, hpairwise, hbudget'⟩
    · simp [h.fullyConsumed, hflag]
    · simp [h.remainders, hflag, hleft]

/-- Consuming one more sample. -/
theorem BatchProgress.next {beforeMs bucketSizeMs : Int} {batch : List TrafficSample}
    (hinput : RollupInput beforeMs bucketSizeMs batch) {consumed : List Consumed}
    {progress progress' : RollupProgress}
    (h : BatchProgress beforeMs bucketSizeMs consumed progress)
    {sample : TrafficSample} (hmem : sample ∈ batch)
    (hbudget : progress.remainingSegments ≠ 0)
    (hstep : consumeSample beforeMs bucketSizeMs sample progress = .ok progress') :
    ∃ consumedEnd, BatchProgress beforeMs bucketSizeMs (consumed ++ [⟨sample, consumedEnd⟩])
      progress' := by
  obtain ⟨_, consumedEnd, _, hnext⟩ := h.advance hinput hmem hbudget hstep
  exact ⟨consumedEnd, hnext⟩

/-- The outer loop consumes a prefix of the batch. -/
theorem consumeSamples_ok {beforeMs bucketSizeMs : Int} {batch rest : List TrafficSample}
    (hinput : RollupInput beforeMs bucketSizeMs batch) (hrest : ∀ s ∈ rest, s ∈ batch)
    {consumed : List Consumed} {progress progress' : RollupProgress}
    (h : BatchProgress beforeMs bucketSizeMs consumed progress)
    (hloop : consumeSamples beforeMs bucketSizeMs rest progress = .ok progress') :
    ∃ more later, rest = more.map (fun c => c.sample) ++ later ∧
      BatchProgress beforeMs bucketSizeMs (consumed ++ more) progress' := by
  induction rest generalizing consumed progress with
  | nil =>
      simp only [consumeSamples, Except.ok.injEq] at hloop
      subst hloop
      exact ⟨[], [], rfl, by simpa using h⟩
  | cons sample rest ih =>
      simp only [consumeSamples] at hloop
      split at hloop
      · simp only [Except.ok.injEq] at hloop
        subst hloop
        exact ⟨[], sample :: rest, rfl, by simpa using h⟩
      · rename_i hbudget
        obtain ⟨next, hstep, hloop⟩ := bind_eq_ok_iff.mp hloop
        obtain ⟨consumedEnd, hnext⟩ := h.next hinput
          (hrest sample List.mem_cons_self) hbudget hstep
        obtain ⟨more, later, hsplit, hdone⟩ :=
          ih (fun s hs => hrest s (List.mem_cons_of_mem _ hs)) hnext hloop
        refine ⟨⟨sample, consumedEnd⟩ :: more, later, by simp [hsplit], ?_⟩
        simpa [List.append_assoc] using hdone

/-! ## The batch of a database -/

theorem mem_rollupSampleBatch {db : TrafficDb} {beforeMs : Int} {batchSize : Nat}
    {s : TrafficSample} (h : s ∈ db.rollupSampleBatch beforeMs batchSize) :
    s ∈ db.trafficSamples.rows ∧ s.startedAtMs < beforeMs := by
  have hmem := List.mem_of_mem_take h
  rw [List.mem_insertionSort] at hmem
  simpa using List.mem_filter.mp hmem

/-- The samples of a batch have different keys. -/
theorem rollupSampleBatch_nodup {db : TrafficDb}
    (hkeyed : db.trafficSamples.Keyed (fun s => s.id)) (beforeMs : Int) (batchSize : Nat) :
    ((db.rollupSampleBatch beforeMs batchSize).map (fun s => s.id)).Nodup := by
  have hsorted : ((db.trafficSamples.rows.filter (fun s =>
      decide (s.startedAtMs < beforeMs))).insertionSort TrafficSample.rollupLe).map
        (fun s => s.id) |>.Nodup :=
    (((List.perm_insertionSort _ _).map _).nodup_iff).mpr
      (hkeyed.nodup.sublist (List.filter_sublist.map _))
  exact hsorted.sublist ((List.take_sublist _ _).map _)

instance : Std.Total TrafficSample.rollupLe where
  total s t := by
    simp only [TrafficSample.rollupLe]
    omega

instance : IsTrans TrafficSample TrafficSample.rollupLe where
  trans s t u := by
    simp only [TrafficSample.rollupLe]
    omega

/-- A sample of the batch starts no later than any later one, and no later than
any sample before the cutoff that did not make it into the prefix. -/
theorem rollupSampleBatch_order {db : TrafficDb} {beforeMs : Int} {batchSize : Nat}
    {first later : List TrafficSample}
    (hbatch : db.rollupSampleBatch beforeMs batchSize = first ++ later) :
    first.Pairwise (fun s t => s.startedAtMs ≤ t.startedAtMs) ∧
      ∀ s ∈ first, ∀ t ∈ db.trafficSamples.rows, t ∉ first → t.startedAtMs < beforeMs →
        s.startedAtMs ≤ t.startedAtMs := by
  have hsorted := List.pairwise_insertionSort TrafficSample.rollupLe
    (db.trafficSamples.rows.filter (fun s => decide (s.startedAtMs < beforeMs)))
  have hmem : ∀ t ∈ db.trafficSamples.rows, t.startedAtMs < beforeMs →
      t ∈ (db.trafficSamples.rows.filter (fun s =>
        decide (s.startedAtMs < beforeMs))).insertionSort TrafficSample.rollupLe := by
    intro t ht hbefore
    rw [List.mem_insertionSort]
    exact List.mem_filter.mpr ⟨ht, decide_eq_true hbefore⟩
  unfold TrafficDb.rollupSampleBatch at hbatch
  rw [← List.take_append_drop batchSize (List.insertionSort _ _), hbatch, List.append_assoc,
    List.pairwise_append] at hsorted
  obtain ⟨hfirst, _, hcross⟩ := hsorted
  have hstart : ∀ {s t : TrafficSample}, s.rollupLe t → s.startedAtMs ≤ t.startedAtMs := by
    intro s t h
    simp only [TrafficSample.rollupLe] at h
    omega
  refine ⟨hfirst.imp hstart, ?_⟩
  intro s hs t ht hnot hbefore
  have hin := hmem t ht hbefore
  rw [← List.take_append_drop batchSize (List.insertionSort _ _), hbatch, List.append_assoc,
    List.mem_append] at hin
  exact hstart (hcross s hs t (hin.resolve_left hnot))

end RouterView.Db
