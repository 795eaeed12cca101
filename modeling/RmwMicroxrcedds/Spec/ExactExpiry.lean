import RmwMicroxrcedds.Proof.Receipts

/-!
# What the cleaning releases

The deadline of a message is its timestamp plus the lifespan of its owner. The cleaning compares it
with the reading in 64 bits: it is exact for the deadlines that 64 bits can hold, and takes every
other message for an expired one.
-/

namespace RmwMicroxrcedds
set_option autoImplicit false

variable {cfg : Config}

/-- The lifespan of an entity in nanoseconds; one that is not specified counts as 30 s. -/
def Entities.lifespanOf (e : Entities) (o : Owner) : Int :=
  if (e.qos o).lifespan = rmwDurationUnspecified then 30000000000
  else rmwTimeTotalNsec (e.qos o).lifespan

/-- The deadline of the message in a buffer, if an entity owns it. -/
def State.deadline (s : State) (i : Nat) : Int :=
  (s.slot i).timestamp + ((s.slot i).owner.map s.w.ent.lifespanOf).getD 0

/-- The buffer is owned by an entity in use, and says of which type. -/
def State.OwnedByLive (s : State) (i : Nat) : Prop :=
  ∃ o ∈ (s.slot i).owner, s.w.ent.Alive o ∧ (s.slot i).entityType = o.entityType

instance (s : State) (i : Nat) : Decidable (s.OwnedByLive i) :=
  inferInstanceAs (Decidable (∃ o ∈ (s.slot i).owner, _))

/-- The message comes from the future or is past its deadline. -/
def State.PastDeadline (s : State) (nowNs : Int) (i : Nat) : Prop :=
  nowNs < (s.slot i).timestamp ∨ s.deadline i < nowNs

instance (s : State) (nowNs : Int) (i : Nat) : Decidable (s.PastDeadline nowNs i) :=
  inferInstanceAs (Decidable (_ ∨ _))

/-- The deadline of a message from the past can be represented. -/
def State.DeadlineFits (s : State) (nowNs : Int) (i : Nat) : Prop :=
  (s.slot i).timestamp ≤ nowNs → s.deadline i ≤ Machine64.int64Max

instance (s : State) (nowNs : Int) (i : Nat) : Decidable (s.DeadlineFits nowNs i) :=
  inferInstanceAs (Decidable (_ → _))

/-- The buffer is labelled with an entity, its type and a reading of the clock. -/
structure Labelled (s : State) (i : Nat) : Prop where
  owner : ∃ o, (s.slot i).owner = some o ∧ (s.slot i).entityType = o.entityType
  low : -9223372036854775808 ≤ (s.slot i).timestamp
  fits : (s.slot i).timestamp ≤ Machine64.int64Max

theorem Labelled.atomic {s t : State} (labelled : ∀ i ∈ s.queue, Labelled s i) (step : Atomic cfg s t) :
    ∀ i ∈ t.queue, Labelled t i := by
  intro i mem
  rcases step.buffer_cases mem with ⟨old, slot, -⟩ | ⟨session, ev, o, -, -, -, slot⟩
  · obtain ⟨owner, low, fits⟩ := labelled i old
    rw [← slot] at owner low fits
    exact ⟨owner, low, fits⟩
  · constructor
    · rw [slot]
      exact ⟨o, rfl, rfl⟩
    · rw [slot]
      exact le_rmwUrosEpochNanos s.w
    · rw [slot]
      exact rmwUrosEpochNanos_le s.w

theorem labelled_of_run (cfg : Config) (is : List Step) :
    ∀ i ∈ (run cfg is).queue, Labelled (run cfg is) i := by
  apply (run_path cfg is).1.keeps (K := fun s => ∀ i ∈ s.queue, Labelled s i)
  · intro s t step labelled
    exact Labelled.atomic labelled step
  · intro i mem
    simp [State.zero, State.queue, Buffers.queue, Buffers.zero, Slots.zero, Slots.elements,
      Mempool.elements, Mempool.zero, Mempool.allocated, Intrusive.walk] at mem

/-- Only the zero duration counts as unspecified. -/
theorem rmwTimeEqual_unspecified (t : RmwTime) :
    rmwTimeEqual t rmwDurationUnspecified = true ↔ t = rmwDurationUnspecified := by
  cases t with
  | mk sec nsec =>
    simp only [rmwTimeEqual, rmwTimeTotalNsec, rmwDurationUnspecified, Machine64.int64Max, beq_iff_eq,
      RmwTime.mk.injEq]
    omega

/-- The lifespan a buffer is judged by is that of its owner. -/
theorem effectiveLifespan_of_owned {s : State} {i : Nat} {o : Owner} (owner : (s.slot i).owner = some o)
    (type : (s.slot i).entityType = o.entityType) :
    (s.slot i).timestamp + rmwTimeTotalNsec (effectiveLifespan s.w.ent (s.slot i)) = s.deadline i := by
  have lifespan : ownerLifespan s.w.ent (s.slot i) = (s.w.ent.qos o).lifespan := by
    rw [ownerLifespan, owner, type]
    cases o <;> rfl
  have default : rmwTimeTotalNsec rmwUxrceQosLifespanDefault = 30000000000 := by
    simp only [rmwTimeTotalNsec, rmwUxrceQosLifespanDefault, Machine64.int64Max]
    omega
  rw [State.deadline, owner, effectiveLifespan, lifespan, Option.map_some, Option.getD_some,
    Entities.lifespanOf]
  by_cases unspecified : (s.w.ent.qos o).lifespan = rmwDurationUnspecified
  · rw [if_pos ((rmwTimeEqual_unspecified _).2 unspecified), if_pos unspecified, default]
  · rw [if_neg fun h => unspecified ((rmwTimeEqual_unspecified _).1 h), if_neg unspecified]

/-- The test of the cleaning is exact for the deadlines that fit, and for no others. -/
theorem expired_exact_iff {s : State} {nowNs : Int} {i : Nat} (labelled : Labelled s i)
    (nowFits : nowNs ≤ Machine64.int64Max) :
    (expired s.w.ent nowNs (s.slot i) ↔ s.PastDeadline nowNs i) ↔ s.DeadlineFits nowNs i := by
  obtain ⟨⟨o, owner, type⟩, low, fits⟩ := labelled
  have deadline := effectiveLifespan_of_owned owner type
  have le : rmwTimeTotalNsec (effectiveLifespan s.w.ent (s.slot i)) ≤ Machine64.int64Max :=
    min_le_right _ _
  have pos := effectiveLifespan_pos s.w.ent (s.slot i)
  rw [expired, State.PastDeadline, State.DeadlineFits, deadline]
  by_cases overflow : s.deadline i ≤ Machine64.int64Max
  · rw [Machine64.wrap64_eq (by omega) overflow]
    omega
  · -- the sum comes back negative, below every reading
    rw [Machine64.wrap64_of_overflow (by omega) (by omega)]
    unfold Machine64.int64Max at *
    omega

/-- The cleaning leaves the messages that last, if their deadlines fit. -/
theorem not_expired_iff {s : State} {nowNs : Int} {i : Nat} (labelled : Labelled s i)
    (nowFits : nowNs ≤ Machine64.int64Max) :
    ¬ expired s.w.ent nowNs (s.slot i) ↔ ¬ s.PastDeadline nowNs i ∧ s.DeadlineFits nowNs i := by
  have exact := expired_exact_iff labelled nowFits
  -- a deadline that does not fit lies behind every reading
  have past : ¬ s.DeadlineFits nowNs i → ¬ s.PastDeadline nowNs i := by
    unfold State.DeadlineFits State.PastDeadline
    omega
  tauto

/-- **Expiry is exact** exactly while the deadlines fit: the cleaning of a pool whose buffers are all
owned by live entities visits each of them once and leaves their contents and order; it releases
those that come from the future or are past their deadline, and no others, if and only if no deadline
of a message from the past exceeds `INT64_MAX`. -/
theorem expired_released_exactly {s : State} {n : Nat} (ok : s.w.buf.Ok n)
    (owned : ∀ i ∈ s.queue, s.OwnedByLive i)
    (stamps : ∀ i ∈ s.queue, 0 ≤ (s.slot i).timestamp ∧ (s.slot i).timestamp ≤ Machine64.int64Max) :
    let nowNs := rmwUrosEpochNanos s.w
    let t := (rmwUxrceCleanExpiredStaticInputBuffer s).2
    (t.queue = s.queue.filter (fun i => ¬ s.PastDeadline nowNs i) ↔
        ∀ i ∈ s.queue, s.DeadlineFits nowNs i) ∧
      t.queue.Sublist s.queue ∧ t.slot = s.slot ∧ t.w.ent = s.w.ent ∧
      cleanVisits nowNs s.w.buf.staticBuffer.memory.size
        s.w.buf.staticBuffer.memory.allocateditems s = s.queue := by
  intro nowNs t
  have head : s.w.buf.staticBuffer.memory.allocateditems = s.queue.head? := Slots.Ok.head ok
  obtain ⟨-, queue, slot, ent⟩ :=
    cleanItems_rule (I := fun _ => True) (fun _ _ _ _ _ => trivial) trivial ok [] s.queue rfl
  rw [← clean_eq ok] at queue slot ent
  have exact : ∀ i ∈ s.queue,
      (expired s.w.ent nowNs (s.slot i) ↔ s.PastDeadline nowNs i) ↔ s.DeadlineFits nowNs i := by
    intro i hi
    obtain ⟨o, owner, -, type⟩ := owned i hi
    have labelled : Labelled s i :=
      ⟨⟨o, owner, type⟩, Int.le_trans (by decide) (stamps i hi).1, (stamps i hi).2⟩
    exact expired_exact_iff labelled (rmwUrosEpochNanos_le _)
  refine ⟨?_, ?_, slot, ent, ?_⟩
  · rw [show t.queue = _ from queue, List.nil_append]
    constructor
    · intro same i hi
      have mem : i ∈ s.queue.filter (fun i => ¬ expired s.w.ent nowNs (s.slot i)) ↔
          i ∈ s.queue.filter fun i => ¬ s.PastDeadline nowNs i := by rw [same]
      simp only [List.mem_filter, hi, true_and, decide_eq_true_eq] at mem
      exact (exact i hi).1 (not_iff_not.1 mem)
    · intro fits
      refine List.filter_congr fun i hi => ?_
      rw [decide_eq_decide, not_iff_not]
      exact (exact i hi).2 (fits i hi)
  · rw [show t.queue = _ from queue, List.nil_append]
    exact List.filter_sublist
  · rw [head]
    exact cleanVisits_eq nowNs _ ok [] s.queue rfl (Slots.Ok.length_le ok)

/-- A message with a lifespan of one second, two seconds after it came in, and one that has thirty. -/
theorem expired_released_exactly_late :
    let is := [Small.init 0, Small.createNode 1, Small.createSubscription 1 (Small.profile 1 ⟨1, 0⟩),
      Small.createSubscription 1 (Small.profile 1 ⟨0, 0⟩),
      Small.wait 1 [Small.sample 0 [7], Small.sample 1 [8], .time 2000000000]]
    let s := run Small.config is
    s.queue.length = 2 ∧ (rmwUxrceCleanExpiredStaticInputBuffer s).2.queue =
      s.queue.filter fun i => ¬ s.PastDeadline (rmwUrosEpochNanos s.w) i := by
  intro is s
  have exact := expired_released_exactly (run_path Small.config is).2.wf.staticBuffer (by decide)
    (by decide)
  exact ⟨by decide, exact.1.2 (by decide)⟩

/-- A message that never expires, received one nanosecond after the clock's zero, is released at
once. -/
theorem endless_message_expires :
    let is := [Small.init 0, Small.createNode 1,
      Small.createSubscription 1 (Small.profile 1 rmwDurationInfinite),
      Small.wait 1 [.time 1, Small.sample 0 [7]]]
    let s := run Small.config is
    (∀ i ∈ s.queue, s.OwnedByLive i) ∧ rmwUrosEpochNanos s.w = 1 ∧ s.queue.length = 1 ∧
      s.queue.filter (fun i => ¬ s.PastDeadline 1 i) = s.queue ∧
      (rmwUxrceCleanExpiredStaticInputBuffer s).2.queue = [] := by
  decide

end RmwMicroxrcedds
