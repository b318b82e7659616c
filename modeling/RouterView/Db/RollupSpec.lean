/-
  Db/RollupSpec.lean --- what a successful rollup did.

  The inversion of `rollup_exact_samples_batch`, and from it the conservation of
  every quantity of an interface inside a coarse window that no sample
  straddles, and the monotonicity of its exact part.
-/
import RouterView.Db.RollupWrites

set_option autoImplicit false

namespace RouterView.Db

open RouterView.Foundation

/-! ## The inversion -/

/-- A row that a rollup with this bucket size made, or one imported over whole
buckets. -/
def TrafficRollup.Shaped (bucketSizeMs : Int) (r : TrafficRollup) : Prop :=
  bucketSizeMs ∣ r.bucketStartMs ∧
    ((r.source = "raw-rollup" ∧ r.bucketSizeMs = bucketSizeMs ∧
        r.bucketEndMs ≤ r.bucketStartMs + bucketSizeMs) ∨
      (r.source ≠ "raw-rollup" ∧ bucketSizeMs ∣ r.bucketEndMs))

/-- What holds of every stored row when the rollups use one bucket size. -/
structure TrafficDb.Tidy (bucketSizeMs : Int) (db : TrafficDb) : Prop where
  keyed : db.Keyed
  unique : UniqueRollups db.trafficRollups
  samples : ∀ s ∈ db.trafficSamples.rows, s.Sound
  started : ∀ s ∈ db.trafficSamples.rows, IsTimestamp s.startedAtMs
  ended : ∀ s ∈ db.trafficSamples.rows, IsTimestamp s.endedAtMs
  rollups : ∀ r ∈ db.trafficRollups.rows, r.Sound
  shaped : ∀ r ∈ db.trafficRollups.rows, r.Shaped bucketSizeMs

/-- A successful rollup: the samples it consumed, oldest first, the buckets it
filled, and the tables it left. -/
structure RolledUp (beforeMs bucketSizeMs : Int) (db : TrafficDb) (consumed : List Consumed)
    (buckets : OrdMap BucketKey RollupBucket) (db' : TrafficDb) : Prop where
  size_pos : 0 < bucketSizeMs
  covers : Covers bucketSizeMs consumed buckets
  proper : ∀ c ∈ consumed, c.Proper beforeMs
  exhausted : consumed.Pairwise (fun c _ => c.Exhausted beforeMs)
  stored : ∀ c ∈ consumed, c.sample ∈ db.trafficSamples.rows
  before : ∀ c ∈ consumed, c.sample.startedAtMs < beforeMs
  distinct : (consumed.map (fun c => c.sample.id)).Nodup
  ordered : consumed.Pairwise (fun c d => c.sample.startedAtMs ≤ d.sample.startedAtMs)
  oldest : ∀ c ∈ consumed, ∀ t ∈ db.trafficSamples.rows,
    (∀ d ∈ consumed, d.sample.id ≠ t.id) → t.startedAtMs < beforeMs →
    c.sample.startedAtMs ≤ t.startedAtMs
  rollups : RollupsAfter bucketSizeMs db.trafficRollups buckets.entries db'.trafficRollups
  samples : SamplesAfter db.trafficSamples
    (consumed.filter (fun c => !c.complete) ++ consumed.filter Consumed.complete)
    db'.trafficSamples
  frame : db' = { db with
    trafficSamples := db'.trafficSamples, trafficRollups := db'.trafficRollups }

/-- A loop that went through a prefix of the batch, and writes that all succeeded. -/
theorem RolledUp.of_passes {beforeMs bucketSizeMs : Int} {batchSize : Nat} {db : TrafficDb}
    {consumed : List Consumed} {later : List TrafficSample} {progress : RollupProgress}
    {rollups : Table TrafficRollup} {remained kept : Table TrafficSample}
    (hkeyed : db.Keyed) (hunique : UniqueRollups db.trafficRollups)
    (hpositive : 0 < bucketSizeMs)
    (hsplit : db.rollupSampleBatch beforeMs batchSize =
      consumed.map (fun c => c.sample) ++ later)
    (hdone : BatchProgress beforeMs bucketSizeMs consumed progress)
    (hrollups : writeAll (writeBucket bucketSizeMs) progress.buckets.entries db.trafficRollups =
      .ok rollups)
    (hremained : writeAll writeRemainder progress.remainders db.trafficSamples = .ok remained)
    (hkept : writeAll deleteConsumed progress.fullyConsumed remained = .ok kept) :
    RolledUp beforeMs bucketSizeMs db consumed progress.buckets
      { db with trafficSamples := kept, trafficRollups := rollups } := by
  have hbatch : ∀ c ∈ consumed,
      c.sample ∈ db.trafficSamples.rows ∧ c.sample.startedAtMs < beforeMs := by
    intro c hc
    apply mem_rollupSampleBatch
    rw [hsplit]
    exact List.mem_append_left _ (List.mem_map_of_mem hc)
  have hids := rollupSampleBatch_nodup hkeyed.samples beforeMs batchSize
  have hdistinct : (consumed.map (fun c => c.sample.id)).Nodup := by
    rw [hsplit, List.map_append, List.map_map] at hids
    exact (List.nodup_append.mp hids).1
  obtain ⟨hordered, holdest⟩ := rollupSampleBatch_order hsplit
  rw [List.pairwise_map] at hordered
  rw [hdone.remainders] at hremained
  rw [hdone.fullyConsumed] at hkept
  exact {
    size_pos := hpositive
    covers := hdone.covers
    proper := hdone.proper
    exhausted := hdone.exhausted
    stored := fun c hc => (hbatch c hc).1
    before := fun c hc => (hbatch c hc).2
    distinct := hdistinct
    ordered := hordered
    oldest := by
      intro c hc t ht hother hbefore
      refine holdest c.sample (List.mem_map_of_mem hc) t ht ?_ hbefore
      intro hin
      obtain ⟨d, hd, hdt⟩ := List.mem_map.mp hin
      exact hother d hd (by rw [hdt])
    rollups := writeAll_writeBucket hkeyed.rollups hunique hrollups
    samples := writeAll_samples hkeyed.samples (fun c hc => (hbatch c hc).1) hdistinct hremained
      hkept
    frame := rfl }

theorem rollupExactSamplesBatch_ok {beforeMs bucketSizeMs : Int} {batchSize n : Nat}
    {db db' : TrafficDb} (htidy : db.Tidy bucketSizeMs) (hsize : IsI64 bucketSizeMs)
    (h : rollupExactSamplesBatch beforeMs bucketSizeMs batchSize db = .ok (n, db')) :
    ∃ consumed buckets, RolledUp beforeMs bucketSizeMs db consumed buckets db' := by
  obtain ⟨progress, rollups, remained, kept, hpasses, _, rfl⟩ :=
    rollupExactSamplesBatch_eq_ok_iff.mp h
  have hbatch : ∀ s ∈ db.rollupSampleBatch beforeMs batchSize,
      s ∈ db.trafficSamples.rows ∧ s.startedAtMs < beforeMs :=
    fun s hs => mem_rollupSampleBatch hs
  have hinput : RollupInput beforeMs bucketSizeMs (db.rollupSampleBatch beforeMs batchSize) :=
    ⟨hpasses.size, hsize.2, fun s hs => htidy.started s (hbatch s hs).1,
      fun s hs => htidy.ended s (hbatch s hs).1, fun s hs => (hbatch s hs).2⟩
  obtain ⟨consumed, later, hsplit, hdone⟩ := consumeSamples_ok hinput (fun s hs => hs)
    (BatchProgress.initial beforeMs bucketSizeMs (batchSize * 2)) hpasses.loop
  rw [List.nil_append] at hdone
  exact ⟨consumed, progress.buckets, RolledUp.of_passes htidy.keyed htidy.unique hpasses.size
    hsplit hdone hpasses.buckets hpasses.remainders hpasses.deletions⟩

/-- Without a sample before the cutoff there is nothing to roll up. -/
theorem rollupExactSamplesBatch_of_none {beforeMs bucketSizeMs : Int} {batchSize : Nat}
    {db : TrafficDb} (hbucket : ¬ bucketSizeMs ≤ 0) (hbatch : IsI64 batchSize)
    (hpositive : ¬ batchSize = 0)
    (hyoung : ∀ x ∈ db.trafficSamples.rows, beforeMs ≤ x.startedAtMs) :
    rollupExactSamplesBatch beforeMs bucketSizeMs batchSize db = .ok (0, db) := by
  have hsegments : batchSize * 2 < 2 ^ 64 := by
    simp only [IsI64, i64Max] at hbatch
    omega
  have hnone : db.rollupSampleBatch beforeMs batchSize = [] := by
    have hfilter : db.trafficSamples.rows.filter
        (fun x => decide (x.startedAtMs < beforeMs)) = [] :=
      List.filter_eq_nil_iff.mpr (fun x hx hbefore =>
        absurd (of_decide_eq_true hbefore) (not_lt.mpr (hyoung x hx)))
    unfold TrafficDb.rollupSampleBatch
    rw [hfilter]
    simp
  unfold rollupExactSamplesBatch
  rw [ensure_of hbucket, ok_bind, ensure_of hsegments, ok_bind, ensure_of hbatch, ok_bind,
    ensure_of hpositive, ok_bind, hnone]
  rfl

/-! ## Conservation -/

/-- A sum over a list is the sum over the two halves that a test makes of it. -/
theorem sum_map_filter_split {α : Type} (p : α → Bool) (f : α → Int) (l : List α) :
    ((l.filter (fun a => !p a) ++ l.filter p).map f).sum = (l.map f).sum := by
  induction l with
  | nil => rfl
  | cons a rest ih =>
      rw [List.map_append, List.sum_append] at ih ⊢
      cases hp : p a <;> simp [hp] <;> omega

theorem sum_map_le_sum_map {α : Type} {f g : α → Int} {l : List α}
    (h : ∀ a ∈ l, f a ≤ g a) : (l.map f).sum ≤ (l.map g).sum :=
  List.sum_le_sum h

/-- The total of a quantity of an interface inside a window. -/
def TrafficDb.quantityIn (db : TrafficDb) (q : Quantity) (routerId interfaceId : Int)
    (window : Int → Bool) : Int :=
  db.trafficSamples.total (sampleWeight q routerId interfaceId window) +
    db.trafficRollups.total (rollupWeight q routerId interfaceId window)

/-- The exact part of the total of a quantity of an interface. -/
def TrafficDb.exactQuantity (db : TrafficDb) (q : Quantity) (routerId interfaceId : Int) : Int :=
  db.trafficSamples.total (sampleExact q routerId interfaceId) +
    db.trafficRollups.total (rollupExact q routerId interfaceId)

/-- No sample of the interface straddles the window. -/
def TrafficDb.WholeIn (db : TrafficDb) (routerId interfaceId : Int) (window : Int → Bool) : Prop :=
  ∀ s ∈ db.trafficSamples.rows, s.on routerId interfaceId = true → WholeOn window s.span

theorem Consumed.Proper.remainder_quantity {beforeMs : Int} {c : Consumed}
    (h : c.Proper beforeMs) (q : Quantity) :
    q.ofSample (c.remainder.applyTo c.sample) = q.ofSample c.sample - c.quantity q := by
  cases q with
  | downloadBytes => rfl
  | uploadBytes => rfl
  | durationMs =>
      rw [h.quantity_duration]
      have hstarted := h.started
      have hended := h.ended
      have hadvances := h.advances
      have hle := h.le_ended
      simp only [IsTimestamp] at hstarted hended
      have hleft : satSub c.sample.endedAtMs c.consumedEnd =
          c.sample.endedAtMs - c.consumedEnd :=
        satSub_eq (by simp only [IsI64, i64Min, i64Max]; omega)
      simp only [Quantity.ofSample, RawTrafficRemainder.applyTo, Consumed.remainder, hleft]
      rw [h.durationMs_eq]
      omega

/-- What is left of a sample and what was consumed of it make up the sample. -/
theorem Consumed.Proper.change_add_weight {beforeMs : Int} {c : Consumed}
    (h : c.Proper beforeMs) (q : Quantity) (routerId interfaceId : Int) {window : Int → Bool}
    (hwhole : c.sample.on routerId interfaceId = true → WholeOn window c.sample.span) :
    c.change (sampleWeight q routerId interfaceId window) +
      c.weight q routerId interfaceId window = 0 := by
  by_cases hon : c.sample.on routerId interfaceId = true
  · by_cases hcomplete : c.complete = true
    · simp only [Consumed.change, Consumed.left, hcomplete, if_true, Option.elim, sampleWeight,
        Consumed.weight, h.quantity_complete hcomplete q]
      split <;> omega
    · have hlt : c.consumedEnd < c.sample.endedAtMs := by
        have := h.le_ended
        have hne : ¬ c.consumedEnd = c.sample.endedAtMs := by
          simpa [Consumed.complete] using hcomplete
        omega
      have hwindow : window c.consumedEnd = window c.sample.startedAtMs :=
        hwhole hon c.consumedEnd (le_of_lt h.advances) hlt
      have hon' : (c.remainder.applyTo c.sample).on routerId interfaceId = true := hon
      have hstart' : (c.remainder.applyTo c.sample).startedAtMs = c.consumedEnd := rfl
      simp only [Consumed.change, Consumed.left, hcomplete, Bool.false_eq_true, if_false,
        Option.elim, sampleWeight, Consumed.weight, hon, hon', hstart', hwindow, Bool.true_and,
        h.remainder_quantity q]
      split <;> omega
  · have hleft : c.left.elim 0 (sampleWeight q routerId interfaceId window) = 0 := by
      unfold Consumed.left
      split
      · rfl
      · have hoff : c.sample.on routerId interfaceId = false := by simpa using hon
        have hon' : (c.remainder.applyTo c.sample).on routerId interfaceId = false := hoff
        simp [sampleWeight, hon']
    simp [Consumed.change, hleft, sampleWeight, Consumed.weight, hon]

/-- A rollup conserves every quantity of an interface inside a coarse window
that none of its samples straddles. -/
theorem RolledUp.quantityIn_eq {beforeMs bucketSizeMs : Int} {db db' : TrafficDb}
    {consumed : List Consumed} {buckets : OrdMap BucketKey RollupBucket}
    (h : RolledUp beforeMs bucketSizeMs db consumed buckets db') (q : Quantity)
    {routerId interfaceId : Int} {window : Int → Bool} (hcoarse : Coarse bucketSizeMs window)
    (hwhole : db.WholeIn routerId interfaceId window) :
    db'.quantityIn q routerId interfaceId window = db.quantityIn q routerId interfaceId window := by
  have hwhole' : ∀ c ∈ consumed, c.sample.on routerId interfaceId = true →
      WholeOn window c.sample.span := fun c hc => hwhole c.sample (h.stored c hc)
  have hsamples := h.samples.total (sampleWeight q routerId interfaceId window)
  rw [sum_map_filter_split] at hsamples
  have hrollups := h.rollups.total _ _
    (rollupWeight_additive bucketSizeMs q routerId interfaceId window)
  have hbuckets := h.covers.total q routerId interfaceId window hcoarse hwhole'
  have hzero : ((consumed.map (fun c =>
      c.change (sampleWeight q routerId interfaceId window) +
        c.weight q routerId interfaceId window))).sum = 0 := by
    refine List.sum_eq_zero ?_
    intro x hx
    obtain ⟨c, hc, rfl⟩ := List.mem_map.mp hx
    exact (h.proper c hc).change_add_weight q routerId interfaceId (hwhole' c hc)
  rw [List.sum_map_add] at hzero
  simp only [OrdMap.total] at hbuckets
  simp only [TrafficDb.quantityIn]
  omega

/-- A rollup never makes an estimated quantity exact. -/
theorem RolledUp.exactQuantity_le {beforeMs bucketSizeMs : Int} {db db' : TrafficDb}
    {consumed : List Consumed} {buckets : OrdMap BucketKey RollupBucket}
    (h : RolledUp beforeMs bucketSizeMs db consumed buckets db') (q : Quantity)
    (routerId interfaceId : Int) :
    db'.exactQuantity q routerId interfaceId ≤ db.exactQuantity q routerId interfaceId := by
  have hsamples := h.samples.total (sampleExact q routerId interfaceId)
  rw [sum_map_filter_split] at hsamples
  have hrollups := h.rollups.total _ _ (rollupExact_additive bucketSizeMs q routerId interfaceId)
  have hbuckets := h.covers.exact q routerId interfaceId
  have hzero : ((consumed.map (fun c =>
      c.change (sampleExact q routerId interfaceId) +
        c.exactWeight q routerId interfaceId))).sum ≤ (consumed.map (fun _ => (0 : Int))).sum := by
    refine sum_map_le_sum_map ?_
    intro c hc
    have hproper := h.proper c hc
    have hbounds := hproper.quantity_bounds q
    have hleft : c.left.elim 0 (sampleExact q routerId interfaceId) = 0 := by
      unfold Consumed.left
      split
      · rfl
      · simp [sampleExact, RawTrafficRemainder.applyTo]
    simp only [Consumed.change, hleft, sampleExact, Consumed.exactWeight]
    split <;> omega
  have hnil : (consumed.map (fun _ => (0 : Int))).sum = 0 := by simp
  rw [hnil, List.sum_map_add] at hzero
  simp only [OrdMap.total] at hbuckets
  simp only [TrafficDb.exactQuantity]
  omega

end RouterView.Db
