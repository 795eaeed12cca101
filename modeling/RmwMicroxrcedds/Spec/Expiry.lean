import RmwMicroxrcedds.Proof.Numbers

/-!
# Expiry and the clock

Timestamps and the readings they are compared with come from whichever session heads the session
list at the moment. Between the two the clock may have been shifted: by a synchronisation, or
because another session has come to the front. A message that has not outlived its lifespan
survives a cleaning exactly if the shift since its reception stays within what is left of it.
-/

namespace RmwMicroxrcedds
set_option autoImplicit false

variable {cfg : Config}

/-- How far `rmw_uros_epoch_nanos` is from the monotonic clock. -/
def World.clockShift (w : World) : Int := rmwUrosEpochNanos w - w.uxrNanos

/-- The lifespan a buffer is judged by, in nanoseconds. -/
def State.lifespan (s : State) (i : Nat) : Int := rmwTimeTotalNsec (effectiveLifespan s.w.ent (s.slot i))

/-- The moment `c` is the reception of the message in the buffer `i`. -/
def ReceivedAt (s : State) (i : Nat) (c : Moment) : Prop :=
  ∃ src ∈ s.ghost.source i, c.number? = some src.rx

instance (s : State) (i : Nat) (c : Moment) : Decidable (ReceivedAt s i c) :=
  inferInstanceAs (Decidable (∃ src ∈ s.ghost.source i, _))

/-- The monotonic time since a moment. -/
def State.elapsed (s : State) (c : Moment) : Int := s.w.uxrNanos - c.world.uxrNanos

/-- More than its lifespan has passed since the message in the buffer came in. -/
def Outlived (s : State) (i : Nat) : Prop :=
  ∃ c ∈ s.trace, ReceivedAt s i c ∧ s.lifespan i < s.elapsed c

instance (s : State) (i : Nat) : Decidable (Outlived s i) :=
  inferInstanceAs (Decidable (∃ c ∈ s.trace, _))

/-- While the message has not outlived its lifespan, the clock has been shifted since its reception
by no more than what is left of the lifespan, and back by no more than the time passed. -/
def Steady (s : State) (i : Nat) : Prop :=
  ∀ c ∈ s.trace, ReceivedAt s i c → s.elapsed c ≤ s.lifespan i →
    -s.elapsed c ≤ s.w.clockShift - c.world.clockShift ∧
      s.w.clockShift - c.world.clockShift ≤ s.lifespan i - s.elapsed c

instance (s : State) (i : Nat) : Decidable (Steady s i) :=
  inferInstanceAs (Decidable (∀ c ∈ s.trace, _))

/-- No deadline overflows. -/
def Fits (s : State) : Prop :=
  ∀ i ∈ s.queue, (s.slot i).timestamp + s.lifespan i ≤ Machine64.int64Max

instance (s : State) : Decidable (Fits s) := inferInstanceAs (Decidable (∀ i ∈ s.queue, _))

/-- Two callbacks with one number are one. -/
theorem Numbered.unique {s : State} (h : Numbered s) {c d : Moment} (hc : c ∈ s.trace)
    (hd : d ∈ s.trace) {r : Nat} (nc : c.number? = some r) (nd : d.number? = some r) : c = d := by
  have nodup := h.numbers
  clear h
  generalize s.trace = l at hc hd nodup
  induction l with
  | nil => cases hc
  | cons m l ih =>
    have later : ∀ {x : Moment}, x ∈ l → x.number? = some r → r ∈ l.filterMap Moment.number? :=
      fun hx nx => List.mem_filterMap.2 ⟨_, hx, nx⟩
    rcases List.mem_cons.1 hc with rfl | hc' <;> rcases List.mem_cons.1 hd with rfl | hd'
    · rfl
    · rw [List.filterMap_cons_some nc, List.nodup_cons] at nodup
      exact absurd (later hd' nd) nodup.1
    · rw [List.filterMap_cons_some nd, List.nodup_cons] at nodup
      exact absurd (later hc' nc) nodup.1
    · refine ih hc' hd' (List.Sublist.nodup ?_ nodup)
      exact (List.sublist_cons_self m l).filterMap _

/-- What is known about the reception of a buffered message. -/
theorem Numbered.reception {s : State} (h : Numbered s) {i : Nat} (hi : i ∈ s.queue) :
    ∃ c ∈ s.trace, ReceivedAt s i c ∧ (s.slot i).timestamp = rmwUrosEpochNanos c.world ∧
      ∀ d ∈ s.trace, ReceivedAt s i d → d = c := by
  obtain ⟨src, holds⟩ := h.sourced.holds i hi
  obtain ⟨c, hc, origin⟩ := h.origin i hi src holds.source
  have number : c.number? = some src.rx := by
    simp [Moment.number?, origin.act, Act.callback?, origin.number]
  refine ⟨c, hc, ⟨src, holds.source, number⟩, origin.timestamp, ?_⟩
  rintro d hd ⟨src', hsrc, nd⟩
  have same : src' = src := Option.some.inj ((Option.mem_def.1 hsrc).symm.trans holds.source)
  exact h.unique hd hc (same ▸ nd) number

theorem lifespan_nonneg (s : State) (i : Nat) : 0 ≤ s.lifespan i := by
  unfold State.lifespan rmwTimeTotalNsec Machine64.int64Max
  omega

/-- The test of the cleaning, in terms of the time passed and of the shift of the clock. -/
theorem expired_iff {s : State} {i : Nat} {c : Moment}
    (timestamp : (s.slot i).timestamp = rmwUrosEpochNanos c.world)
    (fits : (s.slot i).timestamp + s.lifespan i ≤ Machine64.int64Max) :
    expired s.w.ent (rmwUrosEpochNanos s.w) (s.slot i) ↔
      s.lifespan i < s.elapsed c + (s.w.clockShift - c.world.clockShift) ∨
        s.elapsed c + (s.w.clockShift - c.world.clockShift) < 0 := by
  have low := le_rmwUrosEpochNanos c.world
  have nonneg := lifespan_nonneg s i
  have deadline : Machine64.wrap64 ((s.slot i).timestamp + s.lifespan i) =
      (s.slot i).timestamp + s.lifespan i := Machine64.wrap64_eq (by omega) fits
  unfold expired
  rw [show rmwTimeTotalNsec (effectiveLifespan s.w.ent (s.slot i)) = s.lifespan i from rfl, deadline,
    timestamp]
  unfold State.elapsed World.clockShift
  omega

/-- **Expiry measures elapsed time** exactly as far as the clock is steady: in every reachable
state, a cleaning releases only messages that have outlived their lifespan if and only if every
buffered message is steady. -/
theorem released_outlived_iff_steady (is : List Step) (fits : Fits (run cfg is)) :
    (∀ i ∈ (run cfg is).queue,
        i ∉ (rmwUxrceCleanExpiredStaticInputBuffer (run cfg is)).2.queue → Outlived (run cfg is) i) ↔
      ∀ i ∈ (run cfg is).queue, Steady (run cfg is) i := by
  obtain ⟨-, -, cleaned⟩ := clean_spec (run_path cfg is).2.wf
  have numbered := run_numbered cfg is
  set s := run cfg is
  refine forall₂_congr fun i hi => ?_
  obtain ⟨c, hc, received, timestamp, unique⟩ := numbered.reception hi
  have test := expired_iff timestamp (fits i hi)
  have released : i ∉ (rmwUxrceCleanExpiredStaticInputBuffer s).2.queue ↔
      expired s.w.ent (rmwUrosEpochNanos s.w) (s.slot i) := by
    rw [cleaned.queue]
    simp [hi]
  have outlived : Outlived s i ↔ s.lifespan i < s.elapsed c := by
    constructor
    · rintro ⟨d, hd, hr, late⟩
      exact unique d hd hr ▸ late
    · exact fun late => ⟨c, hc, received, late⟩
  have steady : Steady s i ↔ (s.elapsed c ≤ s.lifespan i →
      -s.elapsed c ≤ s.w.clockShift - c.world.clockShift ∧
        s.w.clockShift - c.world.clockShift ≤ s.lifespan i - s.elapsed c) := by
    constructor
    · exact fun h => h c hc received
    · intro h d hd hr
      rw [unique d hd hr]
      exact h
  rw [released, test, outlived, steady]
  omega

/-- One context and no synchronisation: five seconds are not thirty. -/
theorem released_outlived_iff_steady_single :
    let is := [Small.init 0, Small.createNode 1, Small.createSubscription 1 (Small.profile 1 ⟨0, 0⟩),
      Small.wait 1 [Small.sample 0 [7], .time 5000000000]]
    Fits (run Small.config is) ∧
      ((∀ i ∈ (run Small.config is).queue,
          i ∉ (rmwUxrceCleanExpiredStaticInputBuffer (run Small.config is)).2.queue →
            Outlived (run Small.config is) i) ↔
        ∀ i ∈ (run Small.config is).queue, Steady (run Small.config is) i) :=
  have fits := by decide
  ⟨fits, released_outlived_iff_steady _ fits⟩

/-- A synchronisation finds the agent's clock 1000 seconds ahead right after a message came in: the
next cleaning releases the message, and a take finds nothing, with no time passed at all. -/
theorem message_expires_at_once :
    let is := [Small.init 0, Small.createNode 1, Small.createSubscription 1 (Small.profile 1 ⟨0, 0⟩),
      Small.wait 1 [Small.sample 0 [7]], ⟨.syncSession 1000000000000, [⟨[], true⟩]⟩]
    Fits (run Small.config is) ∧
      (¬ ∀ i ∈ (run Small.config is).queue,
        i ∉ (rmwUxrceCleanExpiredStaticInputBuffer (run Small.config is)).2.queue →
          Outlived (run Small.config is) i) ∧
      (call Small.config (run Small.config is) (Small.take 1)).1 =
        .took { ret := .error, taken := false, payload := none, header := .untouched } := by
  decide

end RmwMicroxrcedds
