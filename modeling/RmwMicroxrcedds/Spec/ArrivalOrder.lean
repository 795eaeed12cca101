import RmwMicroxrcedds.Proof.Arrivals

/-!
# Messages are taken in the order of their arrival

For a clock that never runs backwards between receptions, takes and evictions follow the order of
arrival in every run in which samples with one reading land behind each other in the list of
buffers. A free slot becomes the head of the list, so two samples received at one reading are handed
out in the wrong order.
-/

namespace RmwMicroxrcedds
set_option autoImplicit false

variable {cfg : Config}

/-- The number of the message that a take removes from the queue of an entity. -/
def Moment.takenFrom? (o : Owner) (m : Moment) : Option Nat :=
  match m.act with
  | .take p i _ => if p = some o then some (m.ghost.number i) else none
  | _ => none

/-- The message that a reception overwrites or drops is the earliest one of its entity. -/
def EvictsEarliest (cfg : Config) (m : Moment) : Prop :=
  ∀ c ∈ m.act.callback?,
    let r := callback cfg c.1 c.2 m.world
    let b := m.world.buf
    ∀ i ∈ b.queue, (r.2 = some i ∨ i ∉ r.1.buf.queue) →
      ∀ j ∈ b.queue, (b.slot j).owner = (b.slot i).owner → m.ghost.number i ≤ m.ghost.number j

instance (cfg : Config) (m : Moment) : Decidable (EvictsEarliest cfg m) :=
  inferInstanceAs (Decidable (∀ c ∈ m.act.callback?, ∀ i ∈ _, _ → ∀ j ∈ _, _ → _))

/-! ## Takes -/

/-- The messages taken so far came in the order of their takes, and before everything queued for the
same entity. A trace begins with the latest moment. -/
structure InOrder (cfg : Config) (s : State) : Prop where
  arranged : Arranged cfg s
  taken : ∀ o, (s.trace.filterMap (Moment.takenFrom? o)).Pairwise (· > ·)
  ahead : ∀ o, ∀ r ∈ s.trace.filterMap (Moment.takenFrom? o), ∀ i ∈ s.queue,
    (s.slot i).owner = some o → r < s.ghost.number i
  past : ∀ o, ∀ r ∈ s.trace.filterMap (Moment.takenFrom? o), r < s.ghost.rx

/-- A take removes the earliest message of its entity. -/
theorem InOrder.take {s t : State} (wf : Wf cfg s) (h : InOrder cfg s) (arranged : Arranged cfg t)
    {o : Option Owner} {i : Nat} {deserialized : Bool}
    (step : t = (s.record (.take o i deserialized)).mapBuf (·.putMemory i))
    (found : rmwUxrceFindStaticInputBufferByOwner s.w.buf o = some i) : InOrder cfg t := by
  obtain ⟨queued, owner⟩ := Buffers.Ok.find_mem wf.staticBuffer found
  have queue : t.queue = s.queue.erase i := by
    rw [step]
    exact queue_putMemory wf queued
  have trace : t.trace = ⟨s.call, .take o i deserialized, s.w, s.ghost⟩ :: s.trace := by rw [step]; rfl
  have ghost : t.ghost = s.ghost := by rw [step]; rfl
  have slot : t.slot = s.slot := by rw [step]; rfl
  have list : ∀ p, t.trace.filterMap (Moment.takenFrom? p) =
      if o = some p then s.ghost.number i :: s.trace.filterMap (Moment.takenFrom? p)
      else s.trace.filterMap (Moment.takenFrom? p) := by
    intro p
    rw [trace, List.filterMap_cons]
    by_cases e : o = some p <;> simp [Moment.takenFrom?, e]
  have members : ∀ p, ∀ r ∈ t.trace.filterMap (Moment.takenFrom? p),
      r ∈ s.trace.filterMap (Moment.takenFrom? p) ∨ o = some p ∧ r = s.ghost.number i := by
    intro p r hr
    rw [list] at hr
    split at hr
    · rcases List.mem_cons.1 hr with rfl | hr
      · exact .inr ⟨‹_›, rfl⟩
      · exact .inl hr
    · exact .inl hr
  obtain ⟨src, holds⟩ := h.arranged.numbered.sourced.holds i queued
  constructor
  · exact arranged
  · intro p
    rw [list]
    split
    · rename_i e
      rw [List.pairwise_cons]
      exact ⟨fun r hr => h.ahead p r hr i queued (owner.trans e), h.taken p⟩
    · exact h.taken p
  · intro p r hr j hj own
    have nodup : s.queue.Nodup := Slots.Ok.nodup wf.staticBuffer
    rw [queue, nodup.mem_erase_iff] at hj
    rw [slot] at own
    rw [ghost]
    rcases members p r hr with old | ⟨rfl, rfl⟩
    · exact h.ahead p r old j hj.2 own
    · obtain ⟨front, back, oldest, -⟩ := Buffers.Ok.find_some wf.staticBuffer found
      exact h.arranged.first oldest (Buffers.mem_ofOwner.2 ⟨hj.2, own⟩) hj.1
  · intro p r hr
    rw [ghost]
    rcases members p r hr with old | ⟨-, rfl⟩
    · exact h.past p r old
    · rw [holds.number]
      exact holds.earlier

theorem InOrder.atomic {s t : State} (h : InOrder cfg s) (step : Atomic cfg s t)
    (monotone : NonDecreasing cfg t.trace) (front : ∀ m ∈ t.trace, TiesInFront cfg m) :
    InOrder cfg t := by
  have arranged := h.arranged.atomic step monotone fun m e _ => front m (e ▸ List.mem_cons_self)
  rcases step.2.2.take_cases with ⟨o, i, deserialized, e, found⟩ | silent
  · exact h.take step.1 arranged e found
  · have same : ∀ o, t.trace.filterMap (Moment.takenFrom? o) =
        s.trace.filterMap (Moment.takenFrom? o) := fun o => silent _ fun m hm => by
      rw [Moment.takenFrom?]
      cases act : m.act <;> simp_all [Act.take?]
    constructor
    · exact arranged
    · intro o
      rw [same]
      exact h.taken o
    · intro o r hr i hi own
      rw [same] at hr
      rcases step.buffer_cases hi with ⟨old, slot, source⟩ | ⟨session, ev, p, -, -, source, -⟩
      · rw [slot] at own
        rw [Ghost.number, source]
        exact h.ahead o r hr i old own
      · have number : t.ghost.number i = s.ghost.rx := by simp [Ghost.number, source]
        rw [number]
        exact h.past o r hr
    · intro o r hr
      rw [same] at hr
      exact (h.past o r hr).trans_le step.rx_le

/-! ## Evictions -/

/-- What a callback displaces in a state that is arranged. -/
theorem evictsEarliest_of_arranged {s : State} (wf : Wf cfg s) (h : Arranged cfg s)
    (session : Nat) (ev : SessionEvent) :
    EvictsEarliest cfg ⟨s.call, .callback session ev, s.w, s.ghost⟩ := by
  intro c hc r b i hi gone j hj same
  obtain rfl := Option.some.inj hc
  obtain ⟨-, -, -, delivery⟩ := callback_spec (w := s.w) cfg session ev wf.staticBuffer
  have granted : ∀ {o k}, b.Grant o (s.w.ent.qos o) k → i = k → s.ghost.number i ≤ s.ghost.number j := by
    rintro o k grant rfl
    cases grant with
    | fresh room free => exact absurd hi free
    | evict full history oldest =>
      obtain ⟨front, back, first⟩ := oldest
      have owner : (b.slot i).owner = some o := first.relevant
      by_cases ne : j = i
      · rw [ne]
      · exact (h.first first (Buffers.mem_ofOwner.2 ⟨hj, same.trans owner⟩) ne).le
  have gone' : r.2 = some i ∨ i ∉ r.1.buf.queue := gone
  have delivery' : Delivery cfg session s.w ev r.1.buf r.2 := delivery
  generalize r.2 = filled at gone' delivery'
  cases delivery' with
  | ignored nobody unchanged =>
    have stays : i ∈ r.1.buf.queue := by
      rw [Buffers.queue, unchanged]
      exact hi
    simp [stays] at gone'
  | routed o meant reception =>
    cases reception with
    | refused why unchanged =>
      rw [unchanged] at gone'
      exact absurd hi (gone'.resolve_left (by simp))
    | unread k grant short queue slot =>
      refine granted grant ?_
      by_contra ne
      refine gone'.resolve_left (by simp) ?_
      rw [queue]
      exact (List.mem_erase_of_ne ne).2 hi
    | stored k grant read queue slot =>
      refine granted grant ?_
      rcases gone' with e | out
      · exact (Option.some.inj e).symm
      · refine absurd ?_ out
        rw [queue]
        split
        · exact hi
        · exact List.mem_cons_of_mem _ hi

/-! ## Runs -/

/-- What the runs considered satisfy at every moment. -/
def TiesBehind (cfg : Config) (trace : List Moment) : Prop :=
  NonDecreasing cfg trace ∧ ∀ m ∈ trace, TiesInFront cfg m

theorem TiesBehind.suffix {l l' : List Moment} (h : l <:+ l') (all : TiesBehind cfg l') :
    TiesBehind cfg l :=
  ⟨all.1.sublist (h.sublist.filterMap _), forall_mem_of_suffix h all.2⟩

/-- **Messages are taken and evicted in the order of their arrival** in every run with a clock that
never decreases at receptions and in which no sample lands in front of one of its entity with the
same reading. -/
theorem taken_in_order (is : List Step) (monotone : NonDecreasing cfg (run cfg is).trace)
    (front : ∀ m ∈ (run cfg is).trace, TiesInFront cfg m) :
    (∀ o, ((run cfg is).trace.filterMap (Moment.takenFrom? o)).Pairwise (· > ·)) ∧
      ∀ m ∈ (run cfg is).trace, EvictsEarliest cfg m := by
  have pres : ∀ s t, Atomic cfg s t → TiesBehind cfg t.trace → InOrder cfg s → InOrder cfg t :=
    fun s t step all h => h.atomic step all.1 all.2
  have start : InOrder cfg State.zero :=
    ⟨arranged_zero cfg, fun _ => List.Pairwise.nil, by simp [State.zero], by simp [State.zero]⟩
  constructor
  · exact (trace_rule TiesBehind.suffix pres start ⟨monotone, front⟩).taken
  · refine trace_moment_rule TiesBehind.suffix pres start ?_ ⟨monotone, front⟩
    rintro s t m ⟨wf, -, micro⟩ trace - h
    cases hm : m.act with
    | callback session ev =>
      have moment := (micro.recorded trace).2 (by simp [hm])
      rw [moment, hm]
      exact evictsEarliest_of_arranged wf h.arranged session ev
    | _ => exact fun c hc => by simp [hm, Act.callback?] at hc

/-- A subscription of depth 2 receives three samples, the last two at one reading: the third replaces
the first, which stands behind the second, and the takes hand out the second and then the third. -/
theorem taken_in_order_replaced :
    let is := [Small.init 0, Small.createNode 1, Small.createSubscription 1 (Small.profile 2 ⟨0, 0⟩),
      Small.wait 1 [Small.sample 0 [7], .time 1, Small.sample 0 [8], Small.sample 0 [9]],
      Small.take 1, Small.take 1]
    NonDecreasing Small.config (run Small.config is).trace ∧
      (∀ m ∈ (run Small.config is).trace, TiesInFront Small.config m) ∧
      (∀ o, ((run Small.config is).trace.filterMap (Moment.takenFrom? o)).Pairwise (· > ·)) ∧
      ∀ m ∈ (run Small.config is).trace, EvictsEarliest Small.config m :=
  have monotone := by decide
  have front := by decide
  ⟨monotone, front, taken_in_order _ monotone front⟩

/-- Two samples of one session run, received at one reading, are handed out in reverse. -/
theorem second_taken_first :
    let is := [Small.init 0, Small.createNode 1, Small.createSubscription 1 (Small.profile 2 ⟨0, 0⟩),
      Small.wait 1 [Small.sample 0 [7], Small.sample 0 [8]]]
    let js := is ++ [Small.take 1, Small.take 1]
    (call Small.config (run Small.config is) (Small.take 1)).1 =
        .took { ret := .ok, taken := true, payload := some [8], header := .untouched } ∧
      NonDecreasing Small.config (run Small.config js).trace ∧
      ¬ ∀ o, ((run Small.config js).trace.filterMap (Moment.takenFrom? o)).Pairwise (· > ·) := by
  refine ⟨by decide, by decide, fun ordered => ?_⟩
  have reversed := ordered (.subscription 1)
  revert reversed
  decide

end RmwMicroxrcedds
